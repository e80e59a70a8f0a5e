import ControlRelay.Proofs.Interest.Composite
import ControlRelay.Proofs.Interest.Slice

/-!
# Who gets which part of a status

A status is split among the clients in the order of their keys.  A client has a part when the status
carries a value that it wants, and its part has these values and nothing else.  As the composite
wants what some client wants, a value reaches a client exactly when the composite wants it.
-/

namespace ControlRelay

universe u

variable {κ : Type u} [LT κ]

namespace SubscriptionTable

/-! ### Slices -/

/-- Every object in a slice has a field. -/
theorem filled_of_slice {interest : Interest} {status : Fields} {object : String} {value : Json}
    (found : (slice interest status).get? object = some value) :
    ∃ fields : Fields, value = .ofFields fields ∧ fields ≠ ∅
  := by
  rw [slice, SortedMap.get?_filterMap] at found
  obtain ⟨carried, -, made⟩ := Option.bind_eq_some_iff.1 found
  split at made
  next wanted fields _ _ =>
    obtain ⟨filled, same⟩ := Option.ite_none_left_eq_some.1 made
    use wanted.filter fields, (Option.some.inj same).symm
    exact mt SortedMap.isEmpty_iff.2 filled
  next => cases made

/-- A slice is empty when it has no value at all. -/
theorem slice_eq_empty_iff {interest : Interest} {status : Fields} :
    slice interest status = ∅ ↔
      ∀ object field, (slice interest status).valueOf? object field = none
  := by
  constructor
  · intro empty object field
    rw [empty]
    rfl
  · intro nothing
    apply SortedMap.eq_empty_iff.2
    intro object
    apply Option.eq_none_iff_forall_ne_some.2
    intro value found
    obtain ⟨fields, rfl, filled⟩ := filled_of_slice found
    apply filled
    apply SortedMap.eq_empty_iff.2
    intro field
    rw [← nothing object field, Fields.valueOf?, Fields.fieldsOf?, found, Option.bind_some,
      Json.fields?_ofFields, Option.bind_some]

/-! ### Parts -/

/-- The parts come in the order of the clients, one for a client at most. -/
theorem pairwise_route (t : SubscriptionTable κ) (status : Fields) :
    (t.route status).Pairwise fun a b => a.1 < b.1
  := by
  unfold route
  rw [List.pairwise_filterMap]
  apply t.clients.ordered.imp
  rintro ⟨a, interest⟩ ⟨b, interest'⟩ less part made part' made'
  obtain ⟨-, same⟩ := Option.ite_none_left_eq_some.1 made
  obtain ⟨-, same'⟩ := Option.ite_none_left_eq_some.1 made'
  rw [← Option.some.inj same, ← Option.some.inj same']
  exact less

/-- A client wants an attribute of an object. -/
def Wants [DecidableLT κ] (t : SubscriptionTable κ) (client : κ) (object field : String) : Prop :=
  ∃ set, t.asks client object = some set ∧ field ∈ set

section

variable [DecidableLT κ] [LE κ] [Std.LawfulOrderLT κ] [Std.IsLinearOrder κ]
  {t : SubscriptionTable κ} {client : κ} {interest : Interest} {status part : Fields}
  {object field : String} {value : Json}

/-- The part of a client is the slice by its interest, if that is not empty. -/
theorem mem_route_iff :
    (client, part) ∈ t.route status ↔
      ∃ interest, t.interest? client = some interest ∧ part = slice interest status ∧ part ≠ ∅
  := by
  unfold route interest?
  rw [List.mem_filterMap]
  constructor
  · rintro ⟨⟨other, interest⟩, mem, made⟩
    obtain ⟨filled, same⟩ := Option.ite_none_left_eq_some.1 made
    obtain ⟨rfl, rfl⟩ := Prod.mk.inj (Option.some.inj same)
    use interest, SortedMap.get?_eq_some_iff.2 mem, rfl
    exact mt SortedMap.isEmpty_iff.2 filled
  · rintro ⟨interest, stored, rfl, filled⟩
    use (client, interest), SortedMap.get?_eq_some_iff.1 stored
    exact if_neg (mt SortedMap.isEmpty_iff.1 filled)

omit [LE κ] [Std.LawfulOrderLT κ] [Std.IsLinearOrder κ] in
/-- What the slice by an interest has of a status. -/
theorem valueOf?_slice_eq_some_iff (stored : t.interest? client = some interest) :
    (slice interest status).valueOf? object field = some value ↔
      status.valueOf? object field = some value ∧ t.Wants client object field
  := by
  rw [valueOf?_slice, ← asks_of_interest? stored, Option.bind_eq_some_iff]
  constructor
  · rintro ⟨set, asked, kept⟩
    obtain ⟨mem, carried⟩ := Option.ite_none_right_eq_some.1 kept
    use carried, set, asked, mem
  · rintro ⟨carried, set, asked, mem⟩
    use set, asked
    rw [if_pos mem, carried]

/-- The part of a client has the values that it wants and no other. -/
theorem valueOf?_part_iff (given : (client, part) ∈ t.route status) :
    part.valueOf? object field = some value ↔
      status.valueOf? object field = some value ∧ t.Wants client object field
  := by
  obtain ⟨interest, stored, rfl, -⟩ := mem_route_iff.1 given
  exact valueOf?_slice_eq_some_iff stored

/-- A client has a part when the status carries a value that it wants. -/
theorem exists_mem_route_iff :
    (∃ part, (client, part) ∈ t.route status) ↔
      ∃ object field value, status.valueOf? object field = some value ∧
        t.Wants client object field
  := by
  constructor
  · rintro ⟨part, given⟩
    obtain ⟨interest, stored, rfl, filled⟩ := mem_route_iff.1 given
    rw [Ne, slice_eq_empty_iff] at filled
    push Not at filled
    obtain ⟨object, field, some⟩ := filled
    obtain ⟨value, found⟩ := Option.ne_none_iff_exists'.1 some
    use object, field, value
    exact (valueOf?_slice_eq_some_iff stored).1 found
  · rintro ⟨object, field, value, carried, wanted⟩
    obtain ⟨set, asked, -⟩ := id wanted
    obtain ⟨interest, stored, -⟩ := Option.bind_eq_some_iff.1 asked
    have found := (valueOf?_slice_eq_some_iff stored).2 ⟨carried, wanted⟩
    use slice interest status
    apply mem_route_iff.2
    use interest, stored, rfl
    intro empty
    rw [slice_eq_empty_iff.1 empty] at found
    cases found

/-! ### The composite -/

/-- The composite of a sound table wants what some client wants. -/
theorem Sound.exists_wants_iff (h : t.Sound) :
    (∃ client, t.Wants client object field) ↔
      ∃ union, t.composite.get? object = some union ∧ field ∈ union
  := by
  have total := h.union_composite object
  constructor
  · rintro ⟨client, set, asked, mem⟩
    cases held : t.composite.get? object with
    | none =>
      rw [held] at total
      exact absurd ⟨client, asked⟩ (total set)
    | some union =>
      rw [held] at total
      obtain ⟨-, names, -⟩ := total
      use union, rfl
      exact (names field).2 ⟨set, ⟨client, asked⟩, mem⟩
  · rintro ⟨union, held, mem⟩
    rw [held] at total
    obtain ⟨-, names, -⟩ := total
    obtain ⟨set, ⟨client, asked⟩, mem⟩ := (names field).1 mem
    use client, set, asked, mem

end

variable [DecidableLT κ] [LE κ] [Std.LawfulOrderLT κ] [Std.IsLinearOrder κ]

/-- Of every table that comes about by updates: a status is split among the clients in the order of
their keys, with one part for each at most.  The part of a client has those values of the status
whose attributes it wants, and every object in it has a value; a client has no part when the status
carries nothing that it wants.  A value of the status is in a part exactly when the composite wants
its attribute. -/
theorem route_after (updates : List (Update κ)) (status : Fields) :
    let t : SubscriptionTable κ := after updates
    (t.route status).Pairwise (fun a b => a.1 < b.1) ∧
    (∀ client part, (client, part) ∈ t.route status →
      (∀ object field value, part.valueOf? object field = some value ↔
        status.valueOf? object field = some value ∧ t.Wants client object field) ∧
      ∀ object value, part.get? object = some value →
        ∃ fields : Fields, value = .ofFields fields ∧ fields ≠ ∅) ∧
    (∀ client, (∃ part, (client, part) ∈ t.route status) ↔
      ∃ object field value, status.valueOf? object field = some value ∧
        t.Wants client object field) ∧
    ∀ object field value, status.valueOf? object field = some value →
      ((∃ client part, (client, part) ∈ t.route status ∧
          part.valueOf? object field = some value) ↔
        ∃ union, t.composite.get? object = some union ∧ field ∈ union)
  := by
  intro t
  have sound : t.Sound := sound_after updates
  and_intros
  · apply pairwise_route
  · intro client part given
    constructor
    · intro object field value
      exact valueOf?_part_iff given
    · intro object value found
      obtain ⟨interest, -, rfl, -⟩ := mem_route_iff.1 given
      exact filled_of_slice found
  · intro client
    exact exists_mem_route_iff
  · intro object field value carried
    rw [← sound.exists_wants_iff]
    constructor
    · rintro ⟨client, part, given, found⟩
      use client
      exact ((valueOf?_part_iff given).1 found).2
    · rintro ⟨client, wanted⟩
      obtain ⟨part, given⟩ := exists_mem_route_iff.2 ⟨object, field, value, carried, wanted⟩
      use client, part, given
      exact (valueOf?_part_iff given).2 ⟨carried, wanted⟩

/-- A status with a value that nobody wants and with an object that has no values. -/
def mixedStatus : Fields :=
  .ofList [("fan", .ofMembers [("rpm", .ofNat 900), ("speed", .ofNat 1)]), ("toolhead", .null)]

/-- The client that wants the speed of the fan gets it, and nobody gets what the composite does not
want. -/
theorem route_after_passingWish :
    let t : SubscriptionTable Nat := after passingWish
    (∃ part, (2, part) ∈ t.route mixedStatus ∧
      part.valueOf? "fan" "speed" = some (.ofNat 1)) ∧
    ¬∃ client part, (client, part) ∈ t.route mixedStatus ∧
      part.valueOf? "fan" "rpm" = some (.ofNat 900)
  := by
  intro t
  obtain ⟨-, parts, given, reaches⟩ := route_after passingWish mixedStatus
  constructor
  · have wanted : t.Wants 2 "fan" "speed" := ⟨.ofNames ["speed"], by decide, by decide⟩
    have carried : mixedStatus.valueOf? "fan" "speed" = some (.ofNat 1) := rfl
    obtain ⟨part, mem⟩ := (given 2).2 ⟨"fan", "speed", _, carried, wanted⟩
    use part, mem
    apply ((parts 2 part mem).1 "fan" "speed" _).2 ⟨carried, wanted⟩
  · rw [reaches "fan" "rpm" _ rfl]
    rintro ⟨union, held, mem⟩
    have fan : t.composite.get? "fan" = some (.ofNames ["speed"]) := by decide
    rw [fan] at held
    rw [← Option.some.inj held] at mem
    revert mem
    decide

end SubscriptionTable

end ControlRelay
