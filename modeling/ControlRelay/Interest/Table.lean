import ControlRelay.Interest.Attributes

/-!
# The subscription table

The control process accepts one subscription, so the relay subscribes to the composite, the
union of what every subscriber wants, and hands each subscriber its own part of what comes.  A
`SubscriptionTable` holds the interest of each subscriber and the composite.  Every change says
whether the composite is another one after it.
-/

namespace ControlRelay

universe u

variable {κ : Type u} [LE κ] [LT κ] [DecidableLT κ] [Std.LawfulOrderLT κ] [Std.IsLinearOrder κ]

/-- The interest of each subscriber and their union. -/
structure SubscriptionTable (κ : Type u) [LT κ] where
  clients : SortedMap κ Interest := ∅
  composite : Interest := ∅

namespace SubscriptionTable

instance : Inhabited (SubscriptionTable κ) := ⟨{}⟩

/-- The interest registered for `client`. -/
def interest? (t : SubscriptionTable κ) (client : κ) : Option Interest := t.clients.get? client

/-- The number of clients that have an interest. -/
def clientCount (t : SubscriptionTable κ) : Nat := t.clients.size

/-- The union of what all subscribers want of `object`, if any wants it. -/
def wanted (t : SubscriptionTable κ) (object : String) : Option AttributeSet :=
  t.clients.values.foldl (fun acc interest =>
    match interest.get? object, acc with
    | none, acc => acc
    | some set, none => some set
    | some set, some union => some (union.union set)) none

/-- Brings the composite up to date for `object`; also says whether that changed it. -/
def recompute (t : SubscriptionTable κ) (object : String) : Bool × SubscriptionTable κ :=
  let union := t.wanted object
  if t.composite.get? object = union then (false, t)
  else
    match union with
    | some set => (true, { t with composite := t.composite.insert object set })
    | none => (true, { t with composite := t.composite.erase object })

/-- Brings the composite up to date for each of `objects`. -/
def recomputeAll (t : SubscriptionTable κ) (objects : List String) :
    Bool × SubscriptionTable κ :=
  objects.foldl (fun (changed, t) object =>
    let (changedHere, t) := t.recompute object
    (changed || changedHere, t)) (false, t)

/-- One interest with the changes made. -/
def change (interest : Interest) (changes : InterestChanges) : Interest :=
  changes.entries.foldl (fun interest (object, change) =>
    match change with
    | some set => if set.isEmpty then interest.erase object else interest.insert object set
    | none => interest.erase object) interest

/-- Replaces the interest of `client` in the objects that `changes` names; it keeps its
interest in all others.  Also says whether the composite changed. -/
def apply (t : SubscriptionTable κ) (client : κ) (changes : InterestChanges) :
    Bool × SubscriptionTable κ :=
  let interest := change ((t.clients.get? client).getD ∅) changes
  let clients :=
    if interest.isEmpty then t.clients.erase client else t.clients.insert client interest
  recomputeAll { t with clients } changes.keys

/-- Drops every interest of `client`.  Also says whether the composite changed. -/
def removeClient (t : SubscriptionTable κ) (client : κ) : Bool × SubscriptionTable κ :=
  match t.clients.get? client with
  | none => (false, t)
  | some interest => recomputeAll { t with clients := t.clients.erase client } interest.keys

/-- The part of `status` that an interest asks for, objects without such a part left out. -/
def slice (interest : Interest) (status : Fields) : Fields :=
  status.filterMap fun object value =>
    match interest.get? object, value.fields? with
    | some wanted, some fields =>
      let kept := wanted.filter fields
      if kept.isEmpty then none else some (.ofFields kept)
    | _, _ => none

/-- Splits a status into the parts of the subscribers, in their order; those without a part
are left out. -/
def route (t : SubscriptionTable κ) (status : Fields) : List (κ × Fields) :=
  t.clients.entries.filterMap fun (client, interest) =>
    let part := slice interest status
    if part.isEmpty then none else some (client, part)

end SubscriptionTable

end ControlRelay
