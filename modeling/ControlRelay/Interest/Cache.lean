import ControlRelay.Interest.Attributes

/-!
# The status cache

The cache holds the latest known value of every attribute and the time of the newest data.  A
push overwrites what it carries.  The result of a subscription may be older than pushes already
applied, but only for attributes that were subscribed before, so it overwrites the others only.
-/

namespace ControlRelay

/-- The latest known attribute values of each object. -/
structure StatusCache where
  objects : SortedMap String Fields := ∅
  eventtime : Float := 0.0

namespace StatusCache

instance : Inhabited StatusCache := ⟨{}⟩

/-- The later of two times; a time that is not a number is not later. -/
def laterTime (known new : Float) : Float := if known < new then new else known

/-- The values of an object, none if it was never seen. -/
def fieldsOf (c : StatusCache) (object : String) : Fields := (c.objects.get? object).getD ∅

/-- Goes through the object-valued entries of a status and updates each object's fields. -/
def update (f : String → Fields → Fields → Fields) (c : StatusCache) (status : Fields)
    (eventtime : Float) : StatusCache where
  objects := status.entries.foldl (fun objects (name, value) =>
    match value.fields? with
    | some fields => objects.insert name (f name ((objects.get? name).getD ∅) fields)
    | none => objects) c.objects
  eventtime := laterTime c.eventtime eventtime

/-- Applies a push: each of its attributes overwrites the cache. -/
def merge : StatusCache → Fields → Float → StatusCache :=
  update fun _ known fields =>
    fields.entries.foldl (fun known (field, value) => known.insert field value) known

/-- Applies the result of a subscription made while `previous` was subscribed: attributes that
`previous` covers keep the value they have. -/
def absorb (c : StatusCache) (status : Fields) (eventtime : Float) (previous : Interest) :
    StatusCache :=
  update (fun name known fields =>
    let wasCovered (field : String) : Bool :=
      match previous.get? name with
      | some set => set.contains field
      | none => false
    fields.entries.foldl (fun known (field, value) =>
      if wasCovered field && known.contains field then known
      else known.insert field value) known) c status eventtime

/-- The cached values that `request` asks for; objects never seen are left out. -/
def snapshot (c : StatusCache) (request : Interest) : Fields :=
  request.filterMap fun object set =>
    (c.objects.get? object).map fun fields => .ofFields (set.filter fields)

/-- Whether any value of an object is known. -/
def contains (c : StatusCache) (object : String) : Bool := c.objects.contains object

/-- Forgets all values and the time. -/
def clear (_ : StatusCache) : StatusCache := {}

end StatusCache

end ControlRelay
