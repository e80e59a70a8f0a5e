import ControlRelay.Interest.Attributes
import ControlRelay.Proofs.SortedMap

/-!
# Attribute sets by their members

An attribute set is determined by its members and by whether it is the set of all attributes.
The union has the members of both sets, and is the set of all if one of them is.  What is
written for the control process tells sets and interests apart.
-/

namespace ControlRelay

namespace NameSet

/-- A set of names is determined by its members. -/
theorem ext_contains {a b : NameSet} (h : ∀ name, a.contains name = b.contains name) :
    a = b
  := by
  apply SortedMap.ext_get?
  intro name
  have same := h name
  unfold SortedMap.contains at same
  match ha : a.get? name, hb : b.get? name with
  | none, none => rfl
  | some (), some () => rfl
  | none, some () => simp [ha, hb] at same
  | some (), none => simp [ha, hb] at same

theorem contains_insert (a : NameSet) (name new : String) :
    (a.insert new ()).contains name = true ↔ name = new ∨ a.contains name = true
  := by
  unfold SortedMap.contains
  by_cases same : name = new
  · subst same
    simp
  · rw [SortedMap.get?_insert_of_ne a same]
    simp [same]

theorem contains_foldl_insert (names : List String) (a : NameSet) (name : String) :
    (names.foldl (fun acc new => acc.insert new ()) a).contains name = true
      ↔ a.contains name = true ∨ name ∈ names
  := by
  induction names generalizing a with
  | nil => simp
  | cons new names ih =>
    rw [List.foldl_cons, ih, contains_insert, List.mem_cons]
    grind

theorem contains_union (a b : NameSet) (name : String) :
    (a.union b).contains name = true ↔ a.contains name = true ∨ b.contains name = true
  := by
  unfold union
  rw [contains_foldl_insert, SortedMap.mem_keys_iff, SortedMap.contains_iff (m := b)]

theorem isSubset_iff {a b : NameSet} :
    a.isSubset b = true ↔ ∀ name, a.contains name = true → b.contains name = true
  := by
  unfold isSubset
  simp only [List.all_eq_true, SortedMap.mem_keys_iff, SortedMap.contains_iff (m := a)]

end NameSet

namespace AttributeSet

@[simp]
theorem mem_all (name : String) :
    name ∈ all
  := rfl

@[simp]
theorem mem_only_iff {name : String} {names : NameSet} :
    name ∈ only names ↔ names.contains name = true
  := Iff.rfl

/-- A set is determined by its members and by whether it is the set of all attributes. -/
theorem ext_mem {a b : AttributeSet} (mem : ∀ name, name ∈ a ↔ name ∈ b)
    (whole : a = all ↔ b = all) :
    a = b
  := by
  cases a with
  | all =>
    symm
    apply whole.1 rfl
  | only a =>
    cases b with
    | all => apply whole.2 rfl
    | only b =>
      congr 1
      apply NameSet.ext_contains
      intro name
      apply Bool.eq_iff_iff.2 (mem name)

theorem mem_union_iff {name : String} {a b : AttributeSet} :
    name ∈ a.union b ↔ name ∈ a ∨ name ∈ b
  := by
  cases a with
  | all => simp [union]
  | only a =>
    cases b with
    | all => simp [union]
    | only b => apply NameSet.contains_union

theorem union_eq_all_iff {a b : AttributeSet} :
    a.union b = all ↔ a = all ∨ b = all
  := by
  cases a <;> cases b <;> simp [union]

/-- A set covers those with no other members, all attributes being covered by all only. -/
theorem covers_of_subset {a b : AttributeSet} (mem : ∀ name, name ∈ b → name ∈ a)
    (whole : b = all → a = all) :
    a.covers b = true
  := by
  cases b with
  | all =>
    rw [whole rfl]
    rfl
  | only b =>
    cases a with
    | all => rfl
    | only a => apply NameSet.isSubset_iff.2 mem

/-- A set without members has none of the names. -/
theorem isEmpty_iff {s : AttributeSet} :
    s.isEmpty = true ↔ ∀ name, name ∉ s
  := by
  cases s with
  | all => simp [isEmpty]
  | only names =>
    unfold isEmpty
    rw [SortedMap.isEmpty_iff, SortedMap.eq_empty_iff]
    simp [SortedMap.contains]

/-- Different sets are written differently. -/
theorem toJson_inj {a b : AttributeSet} :
    a.toJson = b.toJson ↔ a = b
  := by
  constructor
  · intro same
    cases a with
    | all =>
      cases b with
      | all => rfl
      | only b => cases same
    | only a =>
      cases b with
      | all => cases same
      | only b =>
        have texts := Json.array.inj same
        rw [List.map_inj_right fun _ _ => Json.string.inj] at texts
        have entries := (List.map_inj_right fun _ _ name => Prod.ext name rfl).1 texts
        rw [SortedMap.ext_entries entries]
  · apply congrArg

end AttributeSet

/-- Different interests are written differently. -/
theorem Interest.toJson_inj {a b : Interest} :
    a.toJson = b.toJson ↔ a = b
  := by
  constructor
  · intro same
    have entries := Json.object.inj same
    apply SortedMap.ext_entries
    apply (List.map_inj_right _).1 entries
    intro entry entry' written
    obtain ⟨objects, sets⟩ := Prod.mk.inj written
    apply Prod.ext objects (AttributeSet.toJson_inj.1 sets)
  · apply congrArg

end ControlRelay
