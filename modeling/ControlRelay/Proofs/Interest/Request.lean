import ControlRelay.Interest.Request
import ControlRelay.Proofs.SortedMap
import Mathlib.Tactic.Common

/-!
# What requests ask for

What holds of every value that is read holds of all objects that a payload names.  So a subscription
selects no object without attributes.
-/

namespace ControlRelay

/-- What every step of a fold keeps, a fold that comes to an end keeps. -/
theorem holds_of_foldlM {α β ε : Type} {f : β → α → Except ε β} {P : β → Prop}
    (keeps : ∀ b a b', P b → f b a = .ok b' → P b') {items : List α} {b b' : β} (holds : P b)
    (given : items.foldlM f b = .ok b') :
    P b'
  := by
  induction items generalizing b with
  | nil =>
    cases given
    apply holds
  | cons item rest ih =>
    rw [List.foldlM_cons] at given
    cases step : f b item with
    | error e =>
      rw [step] at given
      cases given
    | ok next =>
      rw [step] at given
      apply ih (keeps b item next holds step) given

/-- What holds of every value that is read holds of all that a payload asks for. -/
theorem holds_of_readObjects {α : Type} {P : α → Prop} {read : Json → Option α}
    (reads : ∀ value a, read value = some a → P a) {payload : Json} {objects : SortedMap String α}
    (given : readObjects read payload = .ok objects) {object : String} {a : α}
    (asked : objects.get? object = some a) :
    P a
  := by
  unfold readObjects at given
  split at given
  next => cases given
  next =>
    let Holds (objects : SortedMap String α) : Prop :=
      ∀ object a, objects.get? object = some a → P a
    have keeps : Holds objects := by
      apply holds_of_foldlM _ _ given
      · rintro acc ⟨name, value⟩ acc' holds step
        dsimp only at step
        split at step
        next a found =>
          cases step
          intro object b known
          rw [SortedMap.get?_insert] at known
          split at known
          next =>
            obtain rfl := Option.some.inj known
            apply reads value a found
          next => apply holds object b known
        next => cases step
      · rintro object a ⟨⟩
    apply keeps object a asked

/-- A fold with an item that is refused at any rate fails. -/
theorem exists_error_of_foldlM {α β ε : Type} {f : β → α → Except ε β} {items : List α} {item : α}
    (mem : item ∈ items) (refused : ∀ b, ∃ e, f b item = .error e) (b : β) :
    ∃ e, items.foldlM f b = .error e
  := by
  induction items generalizing b with
  | nil => cases mem
  | cons first rest ih =>
    rw [List.foldlM_cons]
    cases step : f b first with
    | error e => exact ⟨e, rfl⟩
    | ok next =>
      cases mem with
      | head =>
        obtain ⟨e, failed⟩ := refused b
        cases failed.symm.trans step
      | tail _ mem => exact ih mem next

/-- One value that is refused makes the whole payload be refused. -/
theorem exists_error_of_readObjects {α : Type} {read : Json → Option α} {payload value : Json}
    {objects : Fields} {object : String} (given : payload.fields? = some objects)
    (named : objects.get? object = some value) (refused : read value = none) :
    ∃ e, readObjects read payload = .error e
  := by
  unfold readObjects
  rw [given]
  apply exists_error_of_foldlM (SortedMap.get?_eq_some_iff.1 named)
  intro acc
  dsimp only
  rw [refused]
  exact ⟨_, rfl⟩

/-- A subscription selects no object without attributes. -/
theorem isEmpty_of_parseSubscription {payload : Json} {changes : InterestChanges}
    (parsed : parseSubscription payload = .ok changes) {object : String} {set : AttributeSet}
    (selected : changes.get? object = some (some set)) :
    set.isEmpty = false
  := by
  let Filled (change : Option AttributeSet) : Prop := ∀ set, change = some set → set.isEmpty = false
  have filled : Filled (some set) := by
    apply holds_of_readObjects _ parsed selected
    intro value change read set selects
    split at read
    next =>
      obtain rfl := Option.some.inj read
      cases selects
    next =>
      obtain ⟨asked, -, made⟩ := Option.map_eq_some_iff.1 read
      rw [← made] at selects
      obtain ⟨filled, same⟩ := Option.ite_none_left_eq_some.1 selects
      rw [← Option.some.inj same]
      apply Bool.eq_false_iff.2 filled
  apply filled set rfl

end ControlRelay
