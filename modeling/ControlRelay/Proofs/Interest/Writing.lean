import ControlRelay.Proofs.Interest.Cache
import Mathlib.Data.List.Basic
import Mathlib.Data.List.Induction

/-!
# What a history of writes leaves in a cache

Pushes, results of subscriptions and clearings come to a cache in any order.  Every attribute is
settled on its own: what a change says of other attributes, of the same object or of another one,
does not matter to it.  Its value is the one that was written last since the cache was cleared,
where a push writes all that it carries, and the result of a subscription writes what it carries
unless the attribute was subscribed before and its value is known.
-/

namespace ControlRelay.StatusCache

/-- What can happen to a cache. -/
inductive Change where
  | merge (status : Fields) (eventtime : Float)
  /-- The result of a subscription that was made while `previous` was subscribed. -/
  | absorb (status : Fields) (eventtime : Float) (previous : Interest)
  | clear

/-- The cache after a change. -/
def perform (c : StatusCache) : Change → StatusCache
  | .merge status eventtime => c.merge status eventtime
  | .absorb status eventtime previous => c.absorb status eventtime previous
  | .clear => c.clear

/-- The cache that a history of changes leaves. -/
def after (changes : List Change) : StatusCache := changes.foldl perform {}

theorem after_concat (changes : List Change) (change : Change) :
    after (changes ++ [change]) = (after changes).perform change
  := List.foldl_append

namespace Change

/-- The status that a change brings. -/
def status : Change → Fields
  | merge status _ => status
  | absorb status _ _ => status
  | clear => ∅

/-- Whether an attribute was subscribed before the change, which then leaves a known value. -/
def covers (object field : String) : Change → Bool
  | absorb _ _ previous => (previous.get? object).any (·.contains field)
  | _ => false

/-- What a change has to do with one attribute. -/
structure Share where
  clears : Bool
  value : Option Json
  covered : Bool

/-- What a change has to do with one attribute. -/
def share (object field : String) (change : Change) : Share where
  clears := change matches clear
  value := change.status.valueOf? object field
  covered := change.covers object field

/-- The value of an attribute after a change. -/
def Share.settle (known : Option Json) (s : Share) : Option Json :=
  if s.clears then none else if s.covered && known.isSome then known else s.value.or known

theorem clears_share_iff {object field : String} {change : Change} :
    (change.share object field).clears = true ↔ change = clear
  := by
  cases change <;> simp [share]

/-- To clear the cache brings no value. -/
theorem value_of_clears {object field : String} {change : Change}
    (clears : (change.share object field).clears = true) :
    (change.share object field).value = none
  := by
  rw [clears_share_iff.1 clears]
  rfl

theorem Share.isSome_settle_iff {s : Share} {known : Option Json}
    (bare : s.clears = true → s.value = none) :
    (s.settle known).isSome = true ↔
      s.value.isSome = true ∨ known.isSome = true ∧ s.clears ≠ true
  := by
  obtain ⟨clears, carried, covered⟩ := s
  cases clears with
  | true =>
    obtain rfl : carried = none := bare rfl
    simp [settle]
  | false => cases carried <;> cases covered <;> cases known <;> simp [settle]

/-- A value is there after a change if it was written, or was known and nothing was written. -/
theorem Share.settle_eq_some_iff {s : Share} {known : Option Json} {value : Json}
    (bare : s.clears = true → s.value = none) :
    s.settle known = some value ↔
      (s.value = some value ∧ ¬(s.covered = true ∧ known.isSome = true)) ∨
        known = some value ∧ s.clears ≠ true ∧
          ∀ other, ¬(s.value = some other ∧ ¬(s.covered = true ∧ known.isSome = true))
  := by
  obtain ⟨clears, carried, covered⟩ := s
  cases clears with
  | true =>
    obtain rfl : carried = none := bare rfl
    simp [settle]
  | false => cases carried <;> cases covered <;> cases known <;> simp [settle]

end Change

section

variable {changes : List Change} {change : Change} {object field : String} {value : Json}

/-! ### Attributes on their own -/

theorem valueOf?_perform (c : StatusCache) (change : Change) (object field : String) :
    (c.perform change).valueOf? object field =
      (change.share object field).settle (c.valueOf? object field)
  := by
  cases change with
  | merge status eventtime => apply valueOf?_merge
  | absorb status eventtime previous => apply valueOf?_absorb_eq_ite
  | clear => rfl

/-- Every attribute is settled by what the changes say of it. -/
theorem valueOf?_after (changes : List Change) (object field : String) :
    (after changes).valueOf? object field =
      (changes.map (Change.share object field)).foldl (fun known share => share.settle known) none
  := by
  induction changes using List.reverseRecOn with
  | nil => rfl
  | append_singleton changes change ih =>
    rw [after_concat, valueOf?_perform, ih, List.map_append, List.foldl_append]
    rfl

/-! ### What came since the cache was cleared -/

/-- A change of some kind came, and the cache was not cleared since. -/
def Since (kind : Change → Prop) (changes : List Change) : Prop :=
  ∃ earlier change later, changes = earlier ++ change :: later ∧ kind change ∧ .clear ∉ later

theorem since_concat {kind : Change → Prop} :
    Since kind (changes ++ [change]) ↔ kind change ∨ Since kind changes ∧ change ≠ .clear
  := by
  constructor
  · rintro ⟨earlier, came, later, same, holds, uncleared⟩
    obtain rfl | ⟨later, last, rfl⟩ := List.eq_nil_or_concat' later
    · obtain ⟨-, ⟨⟩⟩ := List.append_inj' same rfl
      exact .inl holds
    · rw [← List.cons_append, ← List.append_assoc] at same
      obtain ⟨rfl, ⟨⟩⟩ := List.append_inj' same rfl
      rw [List.mem_append, List.mem_singleton, not_or] at uncleared
      exact .inr ⟨⟨earlier, came, later, rfl, holds, uncleared.1⟩, Ne.symm uncleared.2⟩
  · rintro (holds | ⟨⟨earlier, came, later, rfl, holds, uncleared⟩, other⟩)
    · use changes, change, [], rfl, holds, List.not_mem_nil
    · use earlier, came, later ++ [change], by simp, holds
      simp [uncleared, Ne.symm other]

theorem not_since_nil {kind : Change → Prop} :
    ¬Since kind []
  := by
  rintro ⟨earlier, came, later, same, -⟩
  simp at same

/-- A value of the attribute has come since the cache was cleared. -/
def Held (object field : String) : List Change → Prop :=
  Since fun change => (change.status.valueOf? object field).isSome = true

/-- The object has come since the cache was cleared, be it without values. -/
def Seen (object : String) : List Change → Prop :=
  Since fun change => (change.status.fieldsOf? object).isSome = true

/-- The cache knows the attributes whose values have come. -/
theorem isSome_valueOf?_after_iff (changes : List Change) (object field : String) :
    ((after changes).valueOf? object field).isSome = true ↔ Held object field changes
  := by
  induction changes using List.reverseRecOn with
  | nil => exact iff_of_false Bool.false_ne_true not_since_nil
  | append_singleton changes change ih =>
    rw [after_concat, valueOf?_perform, Change.Share.isSome_settle_iff Change.value_of_clears, ih,
      Ne, Change.clears_share_iff]
    unfold Held
    rw [since_concat]
    rfl

/-- An object is there after an update if the status has it or it was there before. -/
theorem isSome_get?_objects_update_iff (f : String → Fields → Fields → Fields) (c : StatusCache)
    (status : Fields) (eventtime : Float) (object : String) :
    ((update f c status eventtime).objects.get? object).isSome = true ↔
      (status.fieldsOf? object).isSome = true ∨ (c.objects.get? object).isSome = true
  := by
  rw [get?_objects_update]
  cases status.fieldsOf? object <;> simp

/-- The cache has the objects that have come. -/
theorem isSome_get?_objects_after_iff (changes : List Change) (object : String) :
    ((after changes).objects.get? object).isSome = true ↔ Seen object changes
  := by
  induction changes using List.reverseRecOn with
  | nil => exact iff_of_false Bool.false_ne_true not_since_nil
  | append_singleton changes change ih =>
    unfold Seen at ih ⊢
    rw [after_concat, since_concat, ← ih]
    cases change with
    | merge status eventtime =>
      apply (isSome_get?_objects_update_iff _ _ status eventtime object).trans
      simp [Change.status]
    | absorb status eventtime previous =>
      apply (isSome_get?_objects_update_iff _ _ status eventtime object).trans
      simp [Change.status]
    | clear => simp [perform, StatusCache.clear, Change.status, Fields.fieldsOf?]

/-! ### The value written last -/

/-- After some changes another one writes a value: it carries the value, and it does not leave the
attribute to a value that has come before. -/
def Writes (object field : String) (earlier : List Change) (change : Change) (value : Json) :
    Prop :=
  change.status.valueOf? object field = some value ∧
    ¬(change.covers object field = true ∧ Held object field earlier)

/-- The value was written since the cache was cleared, and none was written after it. -/
def LastWritten (object field : String) (changes : List Change) (value : Json) : Prop :=
  ∃ earlier change later, changes = earlier ++ change :: later ∧
    Writes object field earlier change value ∧ .clear ∉ later ∧
      ∀ between next rest, later = between ++ next :: rest →
        ∀ other, ¬Writes object field (earlier ++ change :: between) next other

theorem lastWritten_concat :
    LastWritten object field (changes ++ [change]) value ↔
      Writes object field changes change value ∨
        LastWritten object field changes value ∧ change ≠ .clear ∧
          ∀ other, ¬Writes object field changes change other
  := by
  constructor
  · rintro ⟨earlier, wrote, later, same, writes, uncleared, unwritten⟩
    obtain rfl | ⟨later, last, rfl⟩ := List.eq_nil_or_concat' later
    · obtain ⟨rfl, ⟨⟩⟩ := List.append_inj' same rfl
      exact .inl writes
    · rw [← List.cons_append, ← List.append_assoc] at same
      obtain ⟨rfl, ⟨⟩⟩ := List.append_inj' same rfl
      rw [List.mem_append, List.mem_singleton, not_or] at uncleared
      refine .inr ⟨⟨earlier, wrote, later, rfl, writes, uncleared.1, ?_⟩, Ne.symm uncleared.2, ?_⟩
      · rintro between next rest rfl
        exact unwritten between next (rest ++ [change]) (by simp)
      · exact unwritten later change [] rfl
  · rintro (writes | ⟨⟨earlier, wrote, later, rfl, writes, uncleared, unwritten⟩, other, silent⟩)
    · use changes, change, [], rfl, writes, List.not_mem_nil
      intro between next rest same
      simp at same
    · use earlier, wrote, later ++ [change], by simp, writes
      constructor
      · simp [uncleared, Ne.symm other]
      · intro between next rest same
        obtain rfl | ⟨rest, last, rfl⟩ := List.eq_nil_or_concat' rest
        · obtain ⟨rfl, ⟨⟩⟩ := List.append_inj' same rfl
          exact silent
        · rw [← List.cons_append, ← List.append_assoc] at same
          obtain ⟨rfl, ⟨⟩⟩ := List.append_inj' same rfl
          exact unwritten between next rest rfl

theorem not_lastWritten_nil :
    ¬LastWritten object field [] value
  := by
  rintro ⟨earlier, wrote, later, same, -⟩
  simp at same

/-- The cache has the values that were written last. -/
theorem valueOf?_after_eq_some_iff (changes : List Change) (object field : String)
    (value : Json) :
    (after changes).valueOf? object field = some value ↔ LastWritten object field changes value
  := by
  induction changes using List.reverseRecOn with
  | nil => exact iff_of_false nofun not_lastWritten_nil
  | append_singleton changes change ih =>
    rw [after_concat, valueOf?_perform, Change.Share.settle_eq_some_iff Change.value_of_clears, ih,
      isSome_valueOf?_after_iff, Ne, Change.clears_share_iff]
    exact lastWritten_concat.symm

end

/-! ### Snapshots -/

/-- A snapshot has the objects that are asked for and have come. -/
theorem exists_get?_snapshot_iff {changes : List Change} {request : Interest} {object : String} :
    (∃ value, ((after changes).snapshot request).get? object = some value) ↔
      (∃ set, request.get? object = some set) ∧ Seen object changes
  := by
  rw [snapshot, SortedMap.get?_filterMap, ← isSome_get?_objects_after_iff]
  cases request.get? object <;> cases (after changes).objects.get? object <;> simp

/-- All that a snapshot has of an object are values of its attributes. -/
theorem exists_fields_of_snapshot {c : StatusCache} {request : Interest} {object : String}
    {value : Json} (found : (c.snapshot request).get? object = some value) :
    ∃ fields, value = .ofFields fields
  := by
  rw [snapshot, SortedMap.get?_filterMap] at found
  obtain ⟨set, -, made⟩ := Option.bind_eq_some_iff.1 found
  obtain ⟨fields, -, rfl⟩ := Option.map_eq_some_iff.1 made
  use set.filter fields

/-- Of every history of pushes, results of subscriptions and clearings, and of every request: the
snapshot has a value of an attribute exactly when the request asks for the attribute and the value
was written last since the cache was cleared.  It has the objects that are asked for and have come
since then, each with its attributes and nothing else, and the attributes that a result finds known
are those whose values have come.  What the changes say of other attributes makes no difference to
the value of one. -/
theorem snapshot_after (changes : List Change) (request : Interest) :
    let snapshot := (after changes).snapshot request
    (∀ object field value, snapshot.valueOf? object field = some value ↔
      (∃ set, request.get? object = some set ∧ field ∈ set) ∧
        LastWritten object field changes value) ∧
    (∀ object, (∃ value, snapshot.get? object = some value) ↔
      (∃ set, request.get? object = some set) ∧ Seen object changes) ∧
    (∀ object value, snapshot.get? object = some value → ∃ fields, value = .ofFields fields) ∧
    (∀ object field, ((after changes).valueOf? object field).isSome = true ↔
      Held object field changes) ∧
    ∀ object field others,
      changes.map (Change.share object field) = others.map (Change.share object field) →
        snapshot.valueOf? object field = ((after others).snapshot request).valueOf? object field
  := by
  intro snapshot
  and_intros
  · intro object field value
    rw [valueOf?_snapshot, ← valueOf?_after_eq_some_iff, Option.bind_eq_some_iff]
    constructor
    · rintro ⟨set, asked, found⟩
      obtain ⟨mem, known⟩ := Option.ite_none_right_eq_some.1 found
      exact ⟨⟨set, asked, mem⟩, known⟩
    · rintro ⟨⟨set, asked, mem⟩, known⟩
      use set, asked
      rw [if_pos mem, known]
  · intro object
    exact exists_get?_snapshot_iff
  · intro object value found
    exact exists_fields_of_snapshot found
  · apply isSome_valueOf?_after_iff
  · intro object field others alike
    rw [valueOf?_snapshot, valueOf?_snapshot, valueOf?_after, valueOf?_after, alike]

/-- A push of two values of the fan, and of an object without values. -/
def fanPush : Change :=
  .merge (.ofList [("fan", .ofMembers [("rpm", .ofNat 900), ("speed", .ofNat 1)]),
    ("toolhead", .null)]) 5.0

/-- The result of a subscription of both, of which one had been subscribed before. -/
def fanResult : Change :=
  .absorb (.ofList [("fan", .ofMembers [("rpm", .ofNat 1200), ("speed", .ofNat 0)])]) 4.0
    (.ofList [("fan", .ofNames ["speed"])])

/-- The value that was subscribed before is kept, the other one is replaced, and the object that came
without values is left out. -/
theorem snapshot_after_fanResult :
    let request : Interest := .ofList [("fan", .all), ("toolhead", .ofNames ["position"])]
    let snapshot := (after [fanPush, fanResult]).snapshot request
    snapshot.valueOf? "fan" "speed" = some (.ofNat 1) ∧
      snapshot.valueOf? "fan" "rpm" = some (.ofNat 1200) ∧
      ¬∃ value, snapshot.get? "toolhead" = some value
  := by
  intro request snapshot
  obtain ⟨values, objects, -⟩ := snapshot_after [fanPush, fanResult] request
  have fan (field : String) : ∃ set, request.get? "fan" = some set ∧ field ∈ set :=
    ⟨.all, rfl, AttributeSet.mem_all field⟩
  have free : fanPush.covers "fan" "speed" = false := rfl
  have free' : fanResult.covers "fan" "rpm" = false := rfl
  and_intros
  · apply (values "fan" "speed" _).2
    use fan "speed", [], fanPush, [fanResult], rfl, ⟨rfl, by simp [free]⟩, by simp [fanResult]
    intro between next rest same other writes
    obtain rfl : between = [] := by cases between <;> simp_all
    obtain ⟨rfl, -⟩ := List.cons.inj same
    exact writes.2 ⟨rfl, [], fanPush, [], rfl, rfl, List.not_mem_nil⟩
  · apply (values "fan" "rpm" _).2
    use fan "rpm", [fanPush], fanResult, [], rfl, ⟨rfl, by simp [free']⟩, List.not_mem_nil
    intro between next rest same
    simp at same
  · rw [objects "toolhead"]
    rintro ⟨-, earlier, change, later, same, carries, -⟩
    have mem : change ∈ [fanPush, fanResult] := by simp [same]
    obtain rfl | rfl : change = fanPush ∨ change = fanResult := by simpa using mem
    · cases carries
    · cases carries

end ControlRelay.StatusCache
