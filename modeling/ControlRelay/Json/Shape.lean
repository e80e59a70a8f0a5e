import ControlRelay.Json.Writer
import ControlRelay.Text.Quoted

/-!
# Reading typed data from JSON

The readers of this module take a JSON value apart that should have a certain shape: a string,
a number of some width, a choice among names, or a record.  A record is read from an object, or
from an array of its members in the order of their declaration.  A value of another shape is
refused with a `ShapeError`, the first one in the order in which the value is gone through.
-/

namespace ControlRelay.Json

/-- Why a value does not have the shape asked for. -/
inductive ShapeError where
  /-- A value of another kind. -/
  | invalidType (found : Json) (expected : String)
  /-- A value of the right kind that is not among those allowed. -/
  | invalidValue (found : Json) (expected : String)
  /-- An array with another number of items. -/
  | invalidLength (length : Nat) (expected : String)
  | missingField (name : String)
  | unknownVariant (name : String) (variants : List String)
  /-- A text that is not in the format of its type; the type says so in its own words. -/
  | malformed (message : String)

/-- A found value, as messages name it. -/
def describe : Json → String
  | null => "null"
  | bool true => "boolean `true`"
  | bool false => "boolean `false`"
  | number (.integer i) => "integer `" ++ toString i ++ "`"
  | number (.float x) => "floating point `" ++ floatLayout.write x ++ "`"
  | string s => "string " ++ Text.quoted s
  | array _ => "sequence"
  | object _ => "map"

/-- Names in backquotes, separated by commas. -/
def backquotedList (names : List String) : String :=
  ", ".intercalate (names.map fun n => "`" ++ n ++ "`")

/-- What the error says. -/
def ShapeError.message : ShapeError → String
  | invalidType found expected => "invalid type: " ++ found.describe ++ ", expected " ++ expected
  | invalidValue found expected => "invalid value: " ++ found.describe ++ ", expected " ++ expected
  | invalidLength n expected => "invalid length " ++ toString n ++ ", expected " ++ expected
  | missingField name => "missing field `" ++ name ++ "`"
  | unknownVariant name variants =>
    "unknown variant `" ++ name ++ "`, expected "
      ++ (match variants with
        | [] => "nothing"
        | [a] => "`" ++ a ++ "`"
        | [a, b] => "`" ++ a ++ "` or `" ++ b ++ "`"
        | _ => "one of " ++ backquotedList variants)
  | malformed message => message

/-- The readers of typed values. -/
abbrev Shape (α : Type) := Json → Except ShapeError α

namespace Shape

/-- Any value at all. -/
def any : Shape Json := .ok

/-- A text. -/
def string : Shape String
  | .string s => .ok s
  | v => .error (.invalidType v "a string")

/-- A boolean. -/
def bool : Shape Bool
  | .bool b => .ok b
  | v => .error (.invalidType v "a boolean")

/-- Any number, as a float. -/
def float : Shape Float
  | .number (.integer i) => .ok (Float.ofInt i)
  | .number (.float x) => .ok x
  | v => .error (.invalidType v "f64")

/-- An integer from `least` to `greatest`, which is called `name`. -/
def integer (name : String) (least greatest : Int) : Shape Int
  | .number (.integer i) =>
    if least ≤ i ∧ i ≤ greatest then .ok i
    else .error (.invalidValue (.number (.integer i)) name)
  | v => .error (.invalidType v name)

/-- Nothing for `null`, otherwise what `shape` reads. -/
def option {α : Type} (shape : Shape α) : Shape (Option α)
  | .null => .ok none
  | v => (shape v).map some

/-- An array of such values. -/
def list {α : Type} (shape : Shape α) : Shape (List α)
  | .array items => items.mapM shape
  | v => .error (.invalidType v "a sequence")

/-- One of the names `variants`, as a string or as the only key of an object that holds
`null`. -/
def variant (variants : List String) : Shape String := fun v =>
  let known (name : String) : Except ShapeError String :=
    if name ∈ variants then .ok name else .error (.unknownVariant name variants)
  match v with
  | .string name => known name
  | .object [(name, .null)] => known name
  | .object [(name, content)] => known name >>= fun _ => .error (.invalidType content "unit")
  | .object _ => .error (.invalidValue v "map with a single key")
  | _ => .error (.invalidType v "string or map")

/-- What becomes of a member that is not there. -/
inductive Absence where
  /-- It has to be there. -/
  | refused
  /-- It may be left out of an object, and the array form has to hold it. -/
  | optional
  /-- It may be left out, of the array form too. -/
  | defaulted
  deriving DecidableEq, Repr

/-- A member of a record: its name, what its value has to be, and whether it may be absent. -/
structure Member where
  name : String
  check : Json → Except ShapeError Unit
  absence : Absence

/-- The member `name` whose value `shape` reads. -/
def Member.of {α : Type} (name : String) (shape : Shape α) (absence : Absence) : Member :=
  ⟨name, fun v => (shape v).map fun _ => (), absence⟩

/-- The values of an array, given to the members in turn; `index` counts those given so
far. -/
def recordItems (expected : String) : List Member → Nat → List Json →
    Except ShapeError (List (Option Json) × List Json)
  | [], _, rest => .ok ([], rest)
  | m :: members, index, [] =>
    if m.absence = .defaulted then
      (recordItems expected members index []).map fun (vs, rest) => (none :: vs, rest)
    else .error (.invalidLength index expected)
  | m :: members, index, v :: items =>
    match m.check v with
    | .error e => .error e
    | .ok () =>
      (recordItems expected members (index + 1) items).map fun (vs, rest) => (some v :: vs, rest)

/-- The values of a record's members in the order of their declaration.  The members of an
object are checked in key order, and those that are missing are looked for afterwards. -/
def record (name : String) (members : List Member) : Shape (List (Option Json)) := fun v =>
  match v with
  | .object entries => do
    for (key, value) in entries do
      match members.find? (·.name = key) with
      | some m => m.check value
      | none => pure ()
    members.mapM fun m =>
      match Entries.get? m.name entries with
      | some value => .ok (some value)
      | none => if m.absence = .refused then .error (.missingField m.name) else .ok none
  | .array items =>
    let count := members.length
    let expected := "struct " ++ name ++ " with " ++ toString count
      ++ (if count = 1 then " element" else " elements")
    match recordItems expected members 0 items with
    | .error e => .error e
    | .ok (values, []) => .ok values
    | .ok (_, _ :: _) => .error (.invalidLength items.length "fewer elements in array")
  | _ => .error (.invalidType v ("struct " ++ name))

end Shape

end ControlRelay.Json
