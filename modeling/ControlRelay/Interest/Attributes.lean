import ControlRelay.Json.Basic

/-!
# Attribute sets and interests

The objects of the control process have attributes.  An `AttributeSet` is what a party wants to
know of one object, all attributes or those it names, and an `Interest` gives such a set for
each object.  The union of two sets contains an attribute exactly when one of them does.
-/

namespace ControlRelay

/-- The attributes of one object that a party is interested in. -/
inductive AttributeSet where
  /-- Every attribute the object has. -/
  | all
  /-- The attributes with these names. -/
  | only (names : NameSet)
  deriving DecidableEq

namespace AttributeSet

instance : Inhabited AttributeSet := ⟨all⟩

/-- The set of the named attributes. -/
def ofNames (names : List String) : AttributeSet := only (NameSet.ofNames names)

/-- Whether the set has no names; the set of all never is empty. -/
def isEmpty : AttributeSet → Bool
  | all => false
  | only names => names.isEmpty

/-- Whether an attribute belongs to the set. -/
def contains (s : AttributeSet) (name : String) : Bool :=
  match s with
  | all => true
  | only names => names.contains name

instance : Membership String AttributeSet := ⟨fun s name => s.contains name = true⟩

instance (name : String) (s : AttributeSet) : Decidable (name ∈ s) :=
  inferInstanceAs (Decidable (s.contains name = true))

/-- The attributes of both sets. -/
def union : AttributeSet → AttributeSet → AttributeSet
  | all, _ => all
  | only _, all => all
  | only a, only b => only (a.union b)

/-- Whether every attribute of `b` is in `a`. -/
def covers : AttributeSet → AttributeSet → Bool
  | all, _ => true
  | only _, all => false
  | only a, only b => b.isSubset a

/-- The fields that the set names. -/
def filter (s : AttributeSet) (fields : Fields) : Fields :=
  match s with
  | all => fields
  | only names => fields.filter fun name _ => names.contains name

/-- The set as the control process reads it: `null` for all attributes, else their names. -/
def toJson : AttributeSet → Json
  | all => .null
  | only names => .ofStrings names.keys

end AttributeSet

/-- What a party wants to know of each object. -/
abbrev Interest := SortedMap String AttributeSet

namespace Interest

/-- Whether every object and attribute of `inner` is in `outer`. -/
def covers (outer inner : Interest) : Bool :=
  inner.entries.all fun (object, wanted) =>
    match outer.get? object with
    | some held => held.covers wanted
    | none => false

/-- The interest as the control process reads it. -/
def toJson (i : Interest) : Json :=
  .object (i.mapValues fun _ set => set.toJson).entries

end Interest

/-- A change of interest for each object it names: a new set, or nothing to cancel it. -/
abbrev InterestChanges := SortedMap String (Option AttributeSet)

/-- The objects that the changes select, with their new sets. -/
def InterestChanges.selected (changes : InterestChanges) : Interest :=
  changes.filterMap fun _ change => change

end ControlRelay
