import ControlRelay.Proofs.Interest.Cache
import Mathlib.Algebra.Order.BigOperators.Group.List
import Mathlib.Algebra.Order.Group.Nat
import Mathlib.Order.Lattice

/-!
# The order in which sets cover one another

A set of names leaves some name out, so what a set covers is told by the members alone: a set lies
below those that have all its members, and the union of two sets is the least one above both.  An
interest covers another one when it has its objects and what that asks for.
-/

namespace ControlRelay

/-- A set of names leaves out a name that is longer than all of them. -/
theorem NameSet.exists_not_contains (names : NameSet) :
    ∃ name, names.contains name = false
  := by
  let total := (names.keys.map String.length).sum
  let long := String.ofList (List.replicate (total + 1) 'x')
  use long
  by_contra found
  have mem : long ∈ names.keys := SortedMap.mem_keys_iff_contains.2 (Bool.not_eq_false _ ▸ found)
  have short : long.length ≤ total := List.le_sum_of_mem (List.mem_map_of_mem mem)
  rw [String.length_ofList, List.length_replicate] at short
  omega

namespace AttributeSet

/-- A set covers another one exactly when it has all its members. -/
theorem covers_iff {a b : AttributeSet} :
    a.covers b = true ↔ ∀ name, name ∈ b → name ∈ a
  := by
  cases a with
  | all => simp [covers]
  | only a =>
    cases b with
    | all =>
      obtain ⟨name, absent⟩ := a.exists_not_contains
      simp only [covers, Bool.false_eq_true, false_iff, not_forall]
      use name, mem_all name
      rw [mem_only_iff, absent]
      exact Bool.false_ne_true
    | only b => apply NameSet.isSubset_iff

theorem covers_all_iff {s : AttributeSet} :
    s.covers all = true ↔ s = all
  := by
  cases s <;> simp [covers]

/-- Sets that cover each other are the same. -/
theorem eq_of_covers {a b : AttributeSet} (ab : a.covers b = true) (ba : b.covers a = true) :
    a = b
  := by
  apply ext_mem
  · intro name
    exact ⟨covers_iff.1 ba name, covers_iff.1 ab name⟩
  · constructor
    · rintro rfl
      exact covers_all_iff.1 ba
    · rintro rfl
      exact covers_all_iff.1 ab

/-- A set lies below those that cover it. -/
instance : SemilatticeSup AttributeSet where
  le a b := b.covers a = true
  le_refl _ := covers_iff.2 fun _ mem => mem
  le_trans _ _ _ ab bc := covers_iff.2 fun name mem =>
    covers_iff.1 bc name (covers_iff.1 ab name mem)
  le_antisymm _ _ ab ba := eq_of_covers ba ab
  sup := union
  le_sup_left _ _ := covers_iff.2 fun _ mem => mem_union_iff.2 (.inl mem)
  le_sup_right _ _ := covers_iff.2 fun _ mem => mem_union_iff.2 (.inr mem)
  sup_le _ _ _ ac bc := covers_iff.2 fun name mem =>
    (mem_union_iff.1 mem).elim (covers_iff.1 ac name) (covers_iff.1 bc name)

instance : OrderTop AttributeSet where
  top := all
  le_top _ := rfl

/-- The fields that a union keeps are those that one of the sets keeps. -/
theorem get?_filter_union_eq_some {a b : AttributeSet} {fields : Fields} {field : String}
    {value : Json} :
    ((a.union b).filter fields).get? field = some value ↔
      (a.filter fields).get? field = some value ∨ (b.filter fields).get? field = some value
  := by
  simp only [get?_filter, mem_union_iff, Option.ite_none_right_eq_some, or_and_right]

end AttributeSet

namespace Interest

/-- Whether an attribute of an object is asked for. -/
def AsksFor (i : Interest) (object field : String) : Prop :=
  ∃ set, i.get? object = some set ∧ field ∈ set

theorem covers_iff_sets {outer inner : Interest} :
    outer.covers inner = true ↔ ∀ object wanted, inner.get? object = some wanted →
      ∃ held, outer.get? object = some held ∧ held.covers wanted = true
  := by
  unfold covers
  simp only [List.all_eq_true, Prod.forall, SortedMap.get?_eq_some_iff (m := inner)]
  apply forall₃_congr
  intro object wanted _
  cases outer.get? object <;> simp

/-- An interest covers those whose objects it has and that ask for nothing more. -/
theorem covers_iff {outer inner : Interest} :
    outer.covers inner = true ↔ (∀ object ∈ inner.keys, object ∈ outer.keys) ∧
      ∀ object field, inner.AsksFor object field → outer.AsksFor object field
  := by
  rw [covers_iff_sets]
  simp only [SortedMap.mem_keys_iff]
  constructor
  · intro covers
    constructor
    · rintro object ⟨wanted, asked⟩
      obtain ⟨held, found, -⟩ := covers object wanted asked
      exact ⟨held, found⟩
    · rintro object field ⟨wanted, asked, mem⟩
      obtain ⟨held, found, above⟩ := covers object wanted asked
      exact ⟨held, found, AttributeSet.covers_iff.1 above field mem⟩
  · rintro ⟨objects, fields⟩ object wanted asked
    obtain ⟨held, found⟩ := objects object ⟨wanted, asked⟩
    refine ⟨held, found, AttributeSet.covers_iff.2 fun field mem => ?_⟩
    obtain ⟨held', found', mem'⟩ := fields object field ⟨wanted, asked, mem⟩
    obtain rfl := Option.some.inj (found.symm.trans found')
    exact mem'

/-- Where no set is empty, the objects are told by what is asked for of them. -/
theorem covers_iff_of_filled {outer inner : Interest}
    (filled : ∀ object set, inner.get? object = some set → set.isEmpty = false) :
    outer.covers inner = true ↔
      ∀ object field, inner.AsksFor object field → outer.AsksFor object field
  := by
  rw [covers_iff]
  apply and_iff_right_of_imp
  intro fields object mem
  obtain ⟨wanted, asked⟩ := SortedMap.mem_keys_iff.1 mem
  have nonempty := mt AttributeSet.isEmpty_iff.2 (Bool.eq_false_iff.1 (filled object wanted asked))
  obtain ⟨field, mem⟩ := not_forall_not.1 nonempty
  obtain ⟨held, found, -⟩ := fields object field ⟨wanted, asked, mem⟩
  exact SortedMap.mem_keys_iff.2 ⟨held, found⟩

/-- What a set covers are the sets with no other members, which is a partial order, and the union of
two sets is the least set that covers both; the fields it keeps are those that one of them keeps.
An interest covers those whose objects it has and that ask for nothing more, and where no set is
empty it is enough that they ask for nothing more. -/
theorem covering_order :
    (∀ a b : AttributeSet,
      a.covers b = true ↔ ∀ name, b.contains name = true → a.contains name = true) ∧
    (∀ names, (AttributeSet.only names).covers .all = false) ∧
    IsPartialOrder AttributeSet (fun a b => b.covers a = true) ∧
    (∀ (a b : AttributeSet) (name : String),
      (a.union b).contains name = true ↔ a.contains name = true ∨ b.contains name = true) ∧
    (∀ a b : AttributeSet, (a.union b).covers a = true ∧ (a.union b).covers b = true ∧
      ∀ c : AttributeSet, c.covers a = true → c.covers b = true → c.covers (a.union b) = true) ∧
    (∀ a b : AttributeSet, a.union b = b.union a) ∧
    (∀ a b c : AttributeSet, (a.union b).union c = a.union (b.union c)) ∧
    (∀ a : AttributeSet, a.union a = a ∧ AttributeSet.all.union a = .all ∧ a.union .all = .all) ∧
    (∀ (a b : AttributeSet) (fields : Fields) (field : String) (value : Json),
      ((a.union b).filter fields).get? field = some value ↔
        (a.filter fields).get? field = some value ∨ (b.filter fields).get? field = some value) ∧
    ∀ outer inner : Interest,
      (outer.covers inner = true ↔ (∀ object ∈ inner.keys, object ∈ outer.keys) ∧
        ∀ object field, inner.AsksFor object field → outer.AsksFor object field) ∧
      ((∀ object set, inner.get? object = some set → set.isEmpty = false) →
        (outer.covers inner = true ↔
          ∀ object field, inner.AsksFor object field → outer.AsksFor object field))
  := by
  and_intros
  · intro a b
    apply AttributeSet.covers_iff
  · intro names
    rfl
  · exact inferInstanceAs (IsPartialOrder AttributeSet (· ≤ ·))
  · intro a b name
    apply AttributeSet.mem_union_iff
  · intro a b
    exact ⟨le_sup_left (a := a) (b := b), le_sup_right (a := a) (b := b), fun c => sup_le (c := c)⟩
  · apply sup_comm (α := AttributeSet)
  · apply sup_assoc (α := AttributeSet)
  · intro a
    exact ⟨sup_idem a, top_sup_eq a, sup_top_eq a⟩
  · intro a b fields field value
    apply AttributeSet.get?_filter_union_eq_some
  · intro outer inner
    exact ⟨covers_iff, covers_iff_of_filled⟩

/-- All attributes of the fan and the position of the tool cover the speed of the fan. -/
theorem covering_order_fan :
    let outer : Interest := .ofList [("fan", .all), ("toolhead", .ofNames ["position"])]
    let inner : Interest := .ofList [("fan", .ofNames ["speed"])]
    (∀ object set, inner.get? object = some set → set.isEmpty = false) ∧
    outer.covers inner = true ∧ outer.AsksFor "fan" "speed"
  := by
  intro outer inner
  have filled : ∀ object set, inner.get? object = some set → set.isEmpty = false := by
    intro object set asked
    have mem := SortedMap.get?_eq_some_iff.1 asked
    obtain ⟨-, rfl⟩ := Prod.mk.inj (List.mem_singleton.1 mem)
    rfl
  have covers : outer.covers inner = true := by decide
  obtain ⟨-, -, -, -, -, -, -, -, -, interests⟩ := covering_order
  have asked : inner.AsksFor "fan" "speed" := ⟨.ofNames ["speed"], rfl, by decide⟩
  exact ⟨filled, covers, ((interests outer inner).2 filled).1 covers "fan" "speed" asked⟩

end Interest

end ControlRelay
