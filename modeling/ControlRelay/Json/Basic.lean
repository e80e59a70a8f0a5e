import ControlRelay.SortedMap

/-!
# JSON values

A `Json` value keeps integers and floats apart: `1` and `1.0` are different values.  An object
is the list of its members; every reader and every operation of this library keeps it in
increasing key order without repetition, the order `Json.Canonical` asks for at every level.
`Fields` is such an object seen as a map.
-/

namespace ControlRelay

/-- A JSON number, an integer or a binary float. -/
inductive Json.Number where
  | integer (value : Int)
  | float (value : Float)
  deriving DecidableEq

/-- A JSON value. -/
inductive Json where
  | null
  | bool (value : Bool)
  | number (value : Json.Number)
  | string (value : String)
  | array (items : List Json)
  | object (members : List (String × Json))

/-- The members of an object, as a map. -/
abbrev Fields := SortedMap String Json

namespace Json

instance : Inhabited Json := ⟨null⟩

/-- An object of given members; of two with one name the later one stays. -/
def ofMembers (members : List (String × Json)) : Json :=
  object (SortedMap.ofList members).entries

/-- The object of some members. -/
def ofFields (fields : Fields) : Json := object fields.entries

/-- A natural number. -/
def ofNat (n : Nat) : Json := number (.integer n)

/-- An integer. -/
def ofInt (i : Int) : Json := number (.integer i)

/-- A float as a JSON number; JSON has no infinities and no NaN, they become `null`. -/
def ofFloat (x : Float) : Json :=
  if x.isFinite then number (.float x) else null

/-- An array of texts. -/
def ofStrings (names : List String) : Json := array (names.map string)

/-- The value, if it is a string. -/
def string? : Json → Option String
  | string s => some s
  | _ => none

theorem bind_string?_eq_some_iff {v : Option Json} {text : String} :
    v.bind string? = some text ↔ v = some (.string text)
  := by
  constructor
  · intro found
    obtain ⟨value, rfl, is_text⟩ := Option.bind_eq_some_iff.1 found
    cases value with
    | string => rw [Option.some.inj is_text]
    | _ => cases is_text
  · rintro rfl
    rfl

/-- The value, if it is a boolean. -/
def bool? : Json → Option Bool
  | bool b => some b
  | _ => none

/-- The items, if the value is an array. -/
def items? : Json → Option (List Json)
  | array items => some items
  | _ => none

/-- The members, if the value is an object. -/
def fields? : Json → Option Fields
  | object members => some (SortedMap.ofList members)
  | _ => none

theorem fields?_ofFields (fields : Fields) :
    (ofFields fields).fields? = some fields
  := by
  have ordered : Entries.Ordered fields.entries := fields.ordered
  exact congrArg some (dif_pos ordered)

/-- The value, if it is an integer from 0 to `2^64 - 1`; a float never is. -/
def nat? : Json → Option UInt64
  | number (.integer i) => if 0 ≤ i ∧ i < UInt64.size then some (UInt64.ofNat i.toNat) else none
  | _ => none

theorem bind_nat?_eq_some_iff {v : Option Json} {n : UInt64} :
    v.bind nat? = some n ↔ v = some (.number (.integer n.toNat))
  := by
  constructor
  · intro found
    obtain ⟨value, rfl, read⟩ := Option.bind_eq_some_iff.1 found
    match value with
    | .number (.integer i) =>
      obtain ⟨⟨nonneg, small⟩, same⟩ := Option.ite_none_right_eq_some.1 read
      have fits : i.toNat < UInt64.size := (Int.toNat_lt nonneg).2 small
      rw [← Option.some.inj same, UInt64.toNat_ofNat_of_lt' fits, Int.toNat_of_nonneg nonneg]
  · rintro rfl
    have small : (n.toNat : Int) < UInt64.size := Int.ofNat_lt.2 n.toNat_lt
    rw [Option.bind_some, nat?, if_pos ⟨Int.natCast_nonneg _, small⟩, Int.toNat_natCast,
      UInt64.ofNat_toNat]

/-- The value as a float, if it is a number. -/
def float? : Json → Option Float
  | number (.integer i) => some (Float.ofInt i)
  | number (.float x) => some x
  | _ => none

/-- The member `name`, if the value is an object that has it. -/
def get? (v : Json) (name : String) : Option Json :=
  match v with
  | object members => Entries.get? name members
  | _ => none

/-- The text of the member `name`, if it is a string. -/
def getString? (v : Json) (name : String) : Option String :=
  (v.get? name).bind string?

mutual

/-- Objects at every level have their keys in increasing order, none twice. -/
def Canonical : Json → Prop
  | array items => CanonicalItems items
  | object members => Entries.Ordered members ∧ CanonicalMembers members
  | _ => True

/-- `Canonical` for each item. -/
def CanonicalItems : List Json → Prop
  | [] => True
  | v :: rest => Canonical v ∧ CanonicalItems rest

/-- `Canonical` for each member's value. -/
def CanonicalMembers : List (String × Json) → Prop
  | [] => True
  | (_, v) :: rest => Canonical v ∧ CanonicalMembers rest

end

end Json

end ControlRelay
