import ControlRelay.SortedMap

/-!
# Look-ups in sorted maps

The keys and the values of a sorted map, its emptiness and the look-ups in an ordered list of
entries, each told by the look-ups of the map.
-/

namespace ControlRelay

universe u v w

variable {κ : Type u} {ν : Type v} {μ : Type w} [LT κ] [DecidableLT κ] [LE κ]
  [Std.LawfulOrderLT κ] [Std.IsLinearOrder κ]

namespace Entries

omit [Std.IsLinearOrder κ] in
theorem get?_cons_self (k : κ) (v : ν) (l : List (κ × ν)) :
    get? k ((k, v) :: l) = some v
  := by
  have irrefl : ¬ k < k := Std.lt_irrefl
  simp only [get?, if_neg irrefl]

/-- The first key of an ordered list is not a key of the rest. -/
theorem get?_eq_none_of_ordered {k : κ} {v : ν} {l : List (κ × ν)}
    (h : Ordered ((k, v) :: l)) :
    get? k l = none
  := by
  obtain ⟨first, rest⟩ := List.pairwise_cons.1 h
  apply Option.eq_none_iff_forall_ne_some.2
  intro w found
  have irrefl : ¬ k < k := Std.lt_irrefl
  apply irrefl
  apply first (k, w)
  apply (get?_eq_some_iff rest).1 found

theorem get?_cons_of_ne {k k' : κ} {v : ν} {l : List (κ × ν)} (h : Ordered ((k, v) :: l))
    (ne : k' ≠ k) :
    get? k' ((k, v) :: l) = get? k' l
  := by
  obtain ⟨-, rest⟩ := List.pairwise_cons.1 h
  apply Option.ext
  intro w
  rw [get?_eq_some_iff h, get?_eq_some_iff rest, List.mem_cons]
  constructor
  · rintro (same | found)
    · apply absurd (congrArg Prod.fst same) ne
    · apply found
  · apply Or.inr

/-- A key above all others gets the last place. -/
theorem insert_of_forall_lt {k : κ} {l : List (κ × ν)} (above : ∀ e ∈ l, e.1 < k) (v : ν) :
    insert k v l = l ++ [(k, v)]
  := by
  induction l with
  | nil => rfl
  | cons e l ih =>
    obtain ⟨less, above⟩ := List.forall_mem_cons.1 above
    have not_less : ¬ k < e.1 := fun greater => Std.lt_irrefl (Std.lt_trans less greater)
    rw [insert, if_neg not_less, if_pos less, ih above]
    rfl

theorem perm_insert {k : κ} {l : List (κ × ν)} (fresh : ∀ e ∈ l, e.1 ≠ k) (v : ν) :
    (insert k v l).Perm ((k, v) :: l)
  := by
  induction l with
  | nil => rfl
  | cons e l ih =>
    obtain ⟨differs, fresh⟩ := List.forall_mem_cons.1 fresh
    rw [insert]
    split
    next => rfl
    next =>
      split
      next => exact ((ih fresh).cons e).trans (List.Perm.swap (k, v) e l)
      next => exact absurd (by grind) differs

end Entries

namespace SortedMap

theorem mem_keys_iff {m : SortedMap κ ν} {k : κ} :
    k ∈ m.keys ↔ ∃ v, m.get? k = some v
  := by
  simp only [get?_eq_some_iff, keys, List.mem_map, Prod.exists, exists_and_right, exists_eq_right]

theorem mem_values_iff {m : SortedMap κ ν} {v : ν} :
    v ∈ m.values ↔ ∃ k, m.get? k = some v
  := by
  simp only [get?_eq_some_iff, values, List.mem_map, Prod.exists, exists_eq_right]

theorem get?_erase [DecidableEq κ] (m : SortedMap κ ν) (k k' : κ) :
    (m.erase k).get? k' = if k' = k then none else m.get? k'
  := by
  split
  next same => rw [same, get?_erase_self]
  next differ => apply get?_erase_of_ne _ differ

theorem get?_insert [DecidableEq κ] (m : SortedMap κ ν) (k k' : κ) (v : ν) :
    (m.insert k v).get? k' = if k' = k then some v else m.get? k'
  := by
  split
  next same => rw [same, get?_insert_self]
  next differ => apply get?_insert_of_ne _ differ

theorem get?_eq_none_iff {m : SortedMap κ ν} {k : κ} :
    m.get? k = none ↔ k ∉ m.keys
  := by
  rw [mem_keys_iff, Option.eq_none_iff_forall_ne_some]
  exact not_exists.symm

omit [LE κ] [Std.LawfulOrderLT κ] [Std.IsLinearOrder κ] in
theorem contains_iff {m : SortedMap κ ν} {k : κ} :
    m.contains k = true ↔ ∃ v, m.get? k = some v
  := Option.isSome_iff_exists

omit [DecidableLT κ] [LE κ] [Std.LawfulOrderLT κ] [Std.IsLinearOrder κ] in
theorem isEmpty_iff {m : SortedMap κ ν} :
    m.isEmpty = true ↔ m = ∅
  := by
  obtain ⟨l, h⟩ := m
  constructor
  · intro empty
    obtain rfl := List.isEmpty_iff.1 empty
    rfl
  · intro empty
    rw [empty]
    rfl

/-- A map without keys is empty. -/
theorem eq_empty_iff {m : SortedMap κ ν} :
    m = ∅ ↔ ∀ k, m.get? k = none
  := by
  constructor
  · rintro rfl
    apply get?_empty
  · intro h
    apply ext_get? h

omit [DecidableLT κ] [LE κ] [Std.LawfulOrderLT κ] [Std.IsLinearOrder κ] in
/-- Maps with the same entries are equal. -/
theorem ext_entries {m n : SortedMap κ ν} (h : m.entries = n.entries) :
    m = n
  := by
  obtain ⟨l, hl⟩ := m
  obtain ⟨l', hl'⟩ := n
  obtain rfl : l = l' := h
  rfl

theorem entries_ofList_of_ordered {l : List (κ × ν)} (h : Entries.Ordered l) :
    (ofList l).entries = l
  := by
  unfold ofList
  rw [dif_pos h]

/-- A map of entries with different keys has just these entries. -/
theorem perm_ofList {l : List (κ × ν)} (distinct : (l.map Prod.fst).Nodup) :
    (ofList l).entries.Perm l
  := by
  -- entries that are still to come have other keys than those that are in place
  have further (acc : List (κ × ν)) (fresh : ∀ e ∈ acc, e.1 ∉ l.map Prod.fst) :
      (l.foldl (fun acc e => Entries.insert e.1 e.2 acc) acc).Perm (l ++ acc)
    := by
    induction l generalizing acc with
    | nil => rfl
    | cons e l ih =>
      obtain ⟨other, distinct⟩ := List.nodup_cons.1 distinct
      have differs : ∀ e' ∈ acc, e'.1 ≠ e.1 := by
        intro e' mem same
        exact fresh e' mem (same ▸ List.mem_cons_self)
      have fresh' : ∀ e' ∈ Entries.insert e.1 e.2 acc, e'.1 ∉ l.map Prod.fst := by
        intro e' mem
        rcases Entries.mem_insert mem with rfl | mem
        · exact other
        · exact fun mem' => fresh e' mem (List.mem_cons_of_mem _ mem')
      apply (ih distinct _ fresh').trans
      apply ((Entries.perm_insert differs e.2).append_left l).trans List.perm_middle
  unfold ofList
  split
  next => rfl
  next => exact (further [] nofun).trans (List.Perm.of_eq (List.append_nil l))

theorem get?_filterMap (f : κ → ν → Option μ) (m : SortedMap κ ν) (k : κ) :
    (m.filterMap f).get? k = (m.get? k).bind (f k)
  := by
  apply Option.ext
  intro w
  rw [get?_eq_some_iff, filterMap, List.mem_filterMap, Option.bind_eq_some_iff]
  constructor
  · rintro ⟨⟨k', v⟩, mem, made⟩
    obtain ⟨w', found, same⟩ := Option.map_eq_some_iff.1 made
    obtain ⟨rfl, rfl⟩ := Prod.mk.inj same
    exact ⟨v, get?_eq_some_iff.2 mem, found⟩
  · rintro ⟨v, found, made⟩
    exact ⟨(k, v), get?_eq_some_iff.1 found, congrArg (Option.map (k, ·)) made⟩

theorem get?_filter (p : κ → ν → Bool) (m : SortedMap κ ν) (k : κ) :
    (m.filter p).get? k = (m.get? k).filter (p k)
  := by
  apply Option.ext
  intro v
  rw [get?_eq_some_iff, filter, List.mem_filter, Option.filter_eq_some_iff, get?_eq_some_iff]

omit [DecidableLT κ] [LE κ] [Std.LawfulOrderLT κ] [Std.IsLinearOrder κ] in
/-- A filter that keeps every entry changes nothing, and its opposite leaves nothing. -/
theorem filter_of_all {m : SortedMap κ ν} {p : κ → ν → Bool}
    (all : ∀ entry ∈ m.entries, p entry.1 entry.2 = true) :
    m.filter p = m ∧ (m.filter fun k v => !p k v) = ∅
  := by
  constructor
  · apply ext_entries
    apply List.filter_eq_self.2 all
  · apply ext_entries
    apply List.filter_eq_nil_iff.2
    intro entry mem
    simp [all entry mem]

/-- When the entries of a map are gone through and each changes what is found at its own key, the
entry of a key alone decides what is found there in the end. -/
theorem get?_foldl_entries (m : SortedMap κ ν) {step : SortedMap κ μ → κ × ν → SortedMap κ μ}
    (change : κ → ν → Option μ → Option μ)
    (own : ∀ acc k v, (step acc (k, v)).get? k = change k v (acc.get? k))
    (others : ∀ acc k v k', k' ≠ k → (step acc (k, v)).get? k' = acc.get? k')
    (acc : SortedMap κ μ) (k : κ) :
    (m.entries.foldl step acc).get? k =
      match m.get? k with
      | some v => change k v (acc.get? k)
      | none => acc.get? k
  := by
  obtain ⟨entries, ordered⟩ := m
  unfold get?
  dsimp only
  induction entries generalizing acc with
  | nil => rfl
  | cons entry rest ih =>
    obtain ⟨k', v⟩ := entry
    have rest_ordered := (List.pairwise_cons.1 ordered).2
    rw [List.foldl_cons, ih _ rest_ordered]
    by_cases same : k = k'
    · subst same
      rw [Entries.get?_cons_self, Entries.get?_eq_none_of_ordered ordered]
      apply own
    · rw [Entries.get?_cons_of_ne ordered same]
      have kept := others acc k' v k same
      unfold get? at kept
      rw [kept]

/-- What is made of the entries with one key is made of the value that is found there. -/
theorem filterMap_entries [DecidableEq κ] (m : SortedMap κ ν) (k : κ) (f : ν → Option μ) :
    (m.entries.filterMap fun e => if e.1 = k then f e.2 else none) = ((m.get? k).bind f).toList
  := by
  obtain ⟨entries, ordered⟩ := m
  unfold get?
  dsimp only
  induction entries with
  | nil => rfl
  | cons entry rest ih =>
    obtain ⟨k', v⟩ := entry
    have rest_ordered := (List.pairwise_cons.1 ordered).2
    rw [List.filterMap_cons, ih rest_ordered]
    by_cases same : k' = k
    · subst same
      rw [Entries.get?_cons_self, Entries.get?_eq_none_of_ordered ordered, if_pos rfl]
      cases found : f v <;> simp [found]
    · rw [Entries.get?_cons_of_ne ordered (Ne.symm same), if_neg same]

/-! ### The keys as a set -/

omit [DecidableLT κ] [Std.IsLinearOrder κ] in
theorem nodup_keys (m : SortedMap κ ν) :
    m.keys.Nodup
  := by
  apply List.pairwise_map.2
  apply m.ordered.imp
  intro a b less same
  rw [same] at less
  exact Std.lt_irrefl less

theorem mem_keys_iff_contains {m : SortedMap κ ν} {k : κ} :
    k ∈ m.keys ↔ m.contains k = true
  := by
  rw [mem_keys_iff, contains_iff]

/-- A value for a new key adds the key. -/
theorem perm_keys_insert [DecidableEq κ] {m : SortedMap κ ν} {k : κ} (absent : k ∉ m.keys)
    (v : ν) :
    (m.insert k v).keys.Perm (k :: m.keys)
  := by
  rw [List.perm_ext_iff_of_nodup (nodup_keys _) (List.nodup_cons.2 ⟨absent, nodup_keys _⟩)]
  intro k'
  rw [List.mem_cons, mem_keys_iff, mem_keys_iff, get?_insert]
  split
  next same => simp [same]
  next differ => simp [differ]

/-- Another value for a key leaves the keys as they are. -/
theorem perm_keys_replace [DecidableEq κ] {m : SortedMap κ ν} {k : κ} (present : k ∈ m.keys)
    (v : ν) :
    (m.insert k v).keys.Perm m.keys
  := by
  rw [List.perm_ext_iff_of_nodup (nodup_keys _) (nodup_keys _)]
  intro k'
  rw [mem_keys_iff, get?_insert]
  split
  next same => simp [same, present]
  next => exact mem_keys_iff.symm

theorem perm_keys_erase [DecidableEq κ] {m : SortedMap κ ν} {k : κ} (present : k ∈ m.keys) :
    m.keys.Perm (k :: (m.erase k).keys)
  := by
  have absent : k ∉ (m.erase k).keys := by
    rw [← get?_eq_none_iff, get?_erase_self]
  rw [List.perm_ext_iff_of_nodup (nodup_keys _) (List.nodup_cons.2 ⟨absent, nodup_keys _⟩)]
  intro k'
  rw [List.mem_cons, mem_keys_iff (m := m.erase k), get?_erase]
  split
  next same => simp [same, present]
  next differ => simp [differ, mem_keys_iff]

end SortedMap

end ControlRelay
