import ControlRelay.Proofs.Interest.Cache
import ControlRelay.Proofs.Interest.Update

/-!
# The parts of a status

A slice of a status has the values of the attributes of an interest and no other.  When a status is
split among the clients, each has one part at most, the slice by its interest.
-/

namespace ControlRelay

universe u

variable {κ : Type u} [LE κ] [LT κ] [DecidableLT κ] [Std.LawfulOrderLT κ] [Std.IsLinearOrder κ]

namespace SubscriptionTable

/-- A slice has the values of what the interest asks for. -/
theorem valueOf?_slice (interest : Interest) (status : Fields) (object field : String) :
    (slice interest status).valueOf? object field =
      (interest.get? object).bind fun set =>
        if field ∈ set then status.valueOf? object field else none
  := by
  unfold Fields.valueOf? Fields.fieldsOf? slice
  rw [SortedMap.get?_filterMap]
  cases interest.get? object with
  | none => cases status.get? object <;> rfl
  | some set =>
    cases status.get? object with
    | none => simp
    | some value =>
      dsimp only [Option.bind_some]
      cases value.fields? with
      | none => simp
      | some fields =>
        dsimp only [Option.bind_some]
        rw [← AttributeSet.get?_filter]
        split
        next empty =>
          rw [SortedMap.isEmpty_iff.1 empty]
          rfl
        next => rw [Option.bind_some, Json.fields?_ofFields, Option.bind_some]

/-- The part of a status that a client gets, if it is not empty. -/
def partOf? (t : SubscriptionTable κ) (client : κ) (status : Fields) : Option Fields :=
  (t.interest? client).bind fun interest =>
    let part := slice interest status
    if part.isEmpty then none else some part

/-- The parts for a client. -/
def partsOf [DecidableEq κ] (client : κ) (parts : List (κ × Fields)) : List Fields :=
  parts.filterMap fun part => if part.1 = client then some part.2 else none

/-- A status is split so that every client gets its part once. -/
theorem partsOf_route [DecidableEq κ] (t : SubscriptionTable κ) (client : κ) (status : Fields) :
    partsOf client (t.route status) = (t.partOf? client status).toList
  := by
  unfold partsOf route partOf? interest?
  rw [List.filterMap_filterMap, ← SortedMap.filterMap_entries]
  congr 1
  funext ⟨other, interest⟩
  dsimp only
  split
  next => simp
  next => rfl

end SubscriptionTable

end ControlRelay
