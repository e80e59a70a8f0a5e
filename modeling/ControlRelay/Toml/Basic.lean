/-!
# TOML values

A `Toml` value is what a configuration file holds under a key.  Dates and times are kept
without their parts, since nothing in this library reads them.
-/

namespace ControlRelay

/-- A TOML value. -/
inductive Toml where
  | string (value : String)
  | integer (value : Int)
  | float (value : Float)
  | bool (value : Bool)
  | datetime
  | array (items : List Toml)
  | table (entries : List (String × Toml))

namespace Toml

instance : Inhabited Toml := ⟨table []⟩

/-- The value under a key of a table. -/
def lookup (key : String) (entries : List (String × Toml)) : Option Toml :=
  (entries.find? (·.1 = key)).map (·.2)

/-- The readers of typed values; a value of another type is refused. -/
abbrev Shape (α : Type) := Toml → Option α

namespace Shape

/-- A text. -/
def string : Shape String
  | .string s => some s
  | _ => none

/-- A boolean. -/
def bool : Shape Bool
  | .bool b => some b
  | _ => none

/-- An integer from `least` to `greatest`. -/
def integer (least greatest : Int) : Shape Int
  | .integer i => if least ≤ i ∧ i ≤ greatest then some i else none
  | _ => none

/-- A float; an integer is read as one. -/
def float : Shape Float
  | .float x => some x
  | .integer i => some (Float.ofInt i)
  | _ => none

/-- An array of such values. -/
def list {α : Type} (shape : Shape α) : Shape (List α)
  | .array items => items.mapM shape
  | _ => none

/-- The values of a record's fields, `none` for those that are absent.  A record is a table, or
an array of its fields in the order of their declaration, of which the last may be missing and
further ones are ignored.  A date counts as a table without any of the fields. -/
def record (names : List String) : Shape (List (Option Toml))
  | .table entries => some (names.map (lookup · entries))
  | .array items => some (names.zipIdx.map fun (_, i) => items[i]?)
  | .datetime => some (names.map fun _ => none)
  | _ => none

/-- A field that has a default. -/
def field {α : Type} (shape : Shape α) (default : α) : Option Toml → Option α
  | none => some default
  | some v => shape v

/-- A field that may be absent. -/
def optionalField {α : Type} (shape : Shape α) : Option Toml → Option (Option α)
  | none => some none
  | some v => (shape v).map some

end Shape

end Toml

end ControlRelay
