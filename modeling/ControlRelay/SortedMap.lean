/-!
# Sorted maps

A `SortedMap κ ν` is a finite map kept as the list of its entries in strictly increasing
key order, so two maps with the same look-ups are the same map (`SortedMap.ext_get?`).
The functions of namespace `Entries` work on bare lists of entries; on an ordered list
they keep the order, and they are what `insert`, `erase` and `get?` of a map do.  A set
of names, `NameSet`, is a sorted map that carries nothing.
-/

namespace ControlRelay

universe u v w

namespace Entries

variable {κ : Type u} {ν : Type v} [LT κ] [DecidableLT κ]

/-- Entries in strictly increasing key order. -/
def Ordered (l : List (κ × ν)) : Prop :=
  l.Pairwise fun a b => a.1 < b.1

instance (l : List (κ × ν)) : Decidable (Ordered l) :=
  inferInstanceAs (Decidable (l.Pairwise fun a b => a.1 < b.1))

/-- The value at key `k` of an ordered list. -/
def get? (k : κ) : List (κ × ν) → Option ν
  | [] => none
  | (k', v) :: rest =>
    if k < k' then none
    else if k' < k then get? k rest
    else some v

/-- Puts `v` at key `k`, in place of the value that was there. -/
def insert (k : κ) (v : ν) : List (κ × ν) → List (κ × ν)
  | [] => [(k, v)]
  | (k', v') :: rest =>
    if k < k' then (k, v) :: (k', v') :: rest
    else if k' < k then (k', v') :: insert k v rest
    else (k, v) :: rest

/-- Removes key `k`. -/
def erase (k : κ) : List (κ × ν) → List (κ × ν)
  | [] => []
  | (k', v') :: rest =>
    if k < k' then (k', v') :: rest
    else if k' < k then (k', v') :: erase k rest
    else rest

/-- Entries in any order, inserted one after the other: of two with one key the later
one stays. -/
def ofList (l : List (κ × ν)) : List (κ × ν) :=
  l.foldl (fun acc e => insert e.1 e.2 acc) []

/-- Every key of `insert k v l` is `k` or a key of `l`. -/
theorem mem_insert {k : κ} {v : ν} {l : List (κ × ν)} {e : κ × ν} (h : e ∈ insert k v l) :
    e = (k, v) ∨ e ∈ l
  := by
  induction l with
  | nil => simpa [insert] using h
  | cons head rest ih =>
    simp only [insert] at h
    split at h
    · grind
    · split at h <;> grind

theorem mem_of_mem_erase {k : κ} {l : List (κ × ν)} {e : κ × ν} (h : e ∈ erase k l) :
    e ∈ l
  := by
  induction l with
  | nil => simp [erase] at h
  | cons head rest ih =>
    simp only [erase] at h
    split at h
    · grind
    · split at h <;> grind

theorem ordered_erase {l : List (κ × ν)} (h : Ordered l) (k : κ) :
    Ordered (erase k l)
  := by
  induction l with
  | nil => simp [erase, Ordered]
  | cons head rest ih =>
    obtain ⟨hd, tl⟩ := List.pairwise_cons.1 h
    simp only [erase]
    split
    · exact h
    · split
      · exact List.pairwise_cons.2 ⟨fun e he => hd e (mem_of_mem_erase he), ih tl⟩
      · exact tl

variable [LE κ] [Std.LawfulOrderLT κ] [Std.IsLinearOrder κ]

theorem ordered_insert {l : List (κ × ν)} (h : Ordered l) (k : κ) (v : ν) :
    Ordered (insert k v l)
  := by
  induction l with
  | nil => simp [insert, Ordered]
  | cons head rest ih =>
    obtain ⟨hd, tl⟩ := List.pairwise_cons.1 h
    simp only [insert]
    split
    · refine List.pairwise_cons.2 ⟨fun e he => ?_, h⟩
      cases List.mem_cons.1 he with
      | inl eq => grind
      | inr mem => have := hd e mem; grind
    · split
      · refine List.pairwise_cons.2 ⟨fun e he => ?_, ih tl⟩
        cases mem_insert he with
        | inl eq => grind
        | inr mem => exact hd e mem
      · refine List.pairwise_cons.2 ⟨fun e he => ?_, tl⟩
        have := hd e he
        grind

theorem ordered_ofList (l : List (κ × ν)) :
    Ordered (ofList l)
  := by
  suffices ∀ acc : List (κ × ν), Ordered acc →
      Ordered (l.foldl (fun acc e => insert e.1 e.2 acc) acc) from
    this [] List.Pairwise.nil
  induction l with
  | nil => exact fun _ h => h
  | cons e rest ih => exact fun acc h => ih _ (ordered_insert h e.1 e.2)

/-- Look-up finds exactly the entries of an ordered list. -/
theorem get?_eq_some_iff {l : List (κ × ν)} (h : Ordered l) {k : κ} {v : ν} :
    get? k l = some v ↔ (k, v) ∈ l
  := by
  induction l with
  | nil => simp [get?]
  | cons head rest ih =>
    obtain ⟨hd, tl⟩ := List.pairwise_cons.1 h
    have ih := ih tl
    simp only [get?, List.mem_cons]
    split
    · refine ⟨by simp, fun he => ?_⟩
      cases he with
      | inl eq => grind
      | inr mem => have := hd _ mem; grind
    · split
      · rw [ih]
        grind
      · refine ⟨by grind, fun he => ?_⟩
        cases he with
        | inl eq => grind
        | inr mem => have := hd _ mem; grind

omit [Std.IsLinearOrder κ] in
theorem get?_insert_self {l : List (κ × ν)} (k : κ) (v : ν) :
    get? k (insert k v l) = some v
  := by
  have irrefl : ¬ k < k := Std.lt_irrefl
  induction l with
  | nil => grind [insert, get?]
  | cons head rest ih => grind [insert, get?]

theorem get?_insert_of_ne {l : List (κ × ν)} (h : Ordered l) {k k' : κ} (ne : k' ≠ k) (v : ν) :
    get? k' (insert k v l) = get? k' l
  := by
  apply Option.ext
  intro w
  rw [get?_eq_some_iff (ordered_insert h k v), get?_eq_some_iff h]
  constructor
  · intro he
    cases mem_insert he with
    | inl eq => grind
    | inr mem => exact mem
  · intro he
    clear h
    induction l with
    | nil => simp at he
    | cons head rest ih =>
      simp only [insert]
      split
      · grind
      · split <;> grind

theorem get?_erase_self {l : List (κ × ν)} (h : Ordered l) (k : κ) :
    get? k (erase k l) = none
  := by
  induction l with
  | nil => simp [erase, get?]
  | cons head rest ih =>
    obtain ⟨hd, tl⟩ := List.pairwise_cons.1 h
    have ih := ih tl
    simp only [erase]
    split
    · simp only [get?]
      grind
    · split
      · simp only [get?]
        grind
      · match hr : get? k rest with
        | none => rfl
        | some v =>
          have := hd _ ((get?_eq_some_iff tl).1 hr)
          grind

theorem get?_erase_of_ne {l : List (κ × ν)} (h : Ordered l) {k k' : κ} (ne : k' ≠ k) :
    get? k' (erase k l) = get? k' l
  := by
  apply Option.ext
  intro w
  rw [get?_eq_some_iff (ordered_erase h k), get?_eq_some_iff h]
  refine ⟨mem_of_mem_erase, fun he => ?_⟩
  clear h
  induction l with
  | nil => simp at he
  | cons head rest ih =>
    simp only [erase]
    split
    · exact he
    · split <;> grind

/-- Ordered lists with the same look-ups are equal. -/
theorem ordered_ext {l m : List (κ × ν)} (hl : Ordered l) (hm : Ordered m)
    (h : ∀ k, get? k l = get? k m) :
    l = m
  := by
  induction l generalizing m with
  | nil =>
    cases m with
    | nil => rfl
    | cons e m =>
      have := (get?_eq_some_iff hm).2 (List.mem_cons_self (a := (e.1, e.2)) (l := m))
      rw [← h] at this
      simp [get?] at this
  | cons e l ih =>
    cases m with
    | nil =>
      have := (get?_eq_some_iff hl).2 (List.mem_cons_self (a := (e.1, e.2)) (l := l))
      rw [h] at this
      simp [get?] at this
    | cons f m =>
      obtain ⟨he, tl⟩ := List.pairwise_cons.1 hl
      obtain ⟨hf, tm⟩ := List.pairwise_cons.1 hm
      have e_in : (e.1, e.2) ∈ f :: m :=
        (get?_eq_some_iff hm).1 ((h e.1) ▸ (get?_eq_some_iff hl).2 List.mem_cons_self)
      have f_in : (f.1, f.2) ∈ e :: l :=
        (get?_eq_some_iff hl).1 ((h f.1) ▸ (get?_eq_some_iff hm).2 List.mem_cons_self)
      have eq : e = f := by
        rcases List.mem_cons.1 e_in with eq | em
        · exact eq
        · rcases List.mem_cons.1 f_in with eq | fl
          · exact eq.symm
          · have := hf _ em
            have := he _ fl
            grind
      subst eq
      congr 1
      apply ih tl tm
      intro k
      apply Option.ext
      intro v
      rw [get?_eq_some_iff tl, get?_eq_some_iff tm]
      have := congrArg (· = some v) (h k)
      simp only [get?_eq_some_iff hl, get?_eq_some_iff hm, List.mem_cons, eq_iff_iff] at this
      constructor
      · intro mem
        rcases this.1 (Or.inr mem) with eq | r
        · have := he _ mem
          grind
        · exact r
      · intro mem
        rcases this.2 (Or.inr mem) with eq | r
        · have := hf _ mem
          grind
        · exact r

end Entries

/-- A finite map, kept as its entries in strictly increasing key order. -/
structure SortedMap (κ : Type u) (ν : Type v) [LT κ] where
  entries : List (κ × ν)
  ordered : entries.Pairwise fun a b => a.1 < b.1

namespace SortedMap

variable {κ : Type u} {ν : Type v} {μ : Type w} [LT κ]

instance [DecidableEq κ] [DecidableEq ν] : DecidableEq (SortedMap κ ν) := fun a b =>
  decidable_of_iff (a.entries = b.entries) <| by
    cases a
    cases b
    simp

/-- The map without entries. -/
def empty : SortedMap κ ν := ⟨[], List.Pairwise.nil⟩

instance : EmptyCollection (SortedMap κ ν) := ⟨empty⟩

instance : Inhabited (SortedMap κ ν) := ⟨empty⟩

/-- Whether the map has no keys. -/
def isEmpty (m : SortedMap κ ν) : Bool := m.entries.isEmpty

/-- The number of keys. -/
def size (m : SortedMap κ ν) : Nat := m.entries.length

/-- The keys, in increasing order. -/
def keys (m : SortedMap κ ν) : List κ := m.entries.map (·.1)

/-- The values, in the order of their keys. -/
def values (m : SortedMap κ ν) : List ν := m.entries.map (·.2)

/-- The same keys with other values. -/
def mapValues (f : κ → ν → μ) (m : SortedMap κ ν) : SortedMap κ μ :=
  ⟨m.entries.map fun e => (e.1, f e.1 e.2), by
    rw [List.pairwise_map]
    exact m.ordered⟩

/-- Keeps the entries for which `f` has a value, with that value. -/
def filterMap (f : κ → ν → Option μ) (m : SortedMap κ ν) : SortedMap κ μ :=
  ⟨m.entries.filterMap fun e => (f e.1 e.2).map (e.1, ·), by
    rw [List.pairwise_filterMap]
    refine m.ordered.imp fun {a b} h x hx y hy => ?_
    obtain ⟨_, _, rfl⟩ := Option.map_eq_some_iff.1 hx
    obtain ⟨_, _, rfl⟩ := Option.map_eq_some_iff.1 hy
    exact h⟩

/-- Keeps the entries that satisfy `p`. -/
def filter (p : κ → ν → Bool) (m : SortedMap κ ν) : SortedMap κ ν :=
  ⟨m.entries.filter fun e => p e.1 e.2, m.ordered.filter _⟩

variable [DecidableLT κ]

/-- The value at `k`. -/
def get? (m : SortedMap κ ν) (k : κ) : Option ν := Entries.get? k m.entries

/-- Whether the map has a key. -/
def contains (m : SortedMap κ ν) (k : κ) : Bool := (m.get? k).isSome

@[simp]
theorem get?_empty (k : κ) :
    (∅ : SortedMap κ ν).get? k = none
  := rfl

/-- Removes `k`. -/
def erase (m : SortedMap κ ν) (k : κ) : SortedMap κ ν :=
  ⟨Entries.erase k m.entries, Entries.ordered_erase m.ordered k⟩

variable [LE κ] [Std.LawfulOrderLT κ] [Std.IsLinearOrder κ]

/-- Puts `v` at `k`, in place of the value that was there. -/
def insert (m : SortedMap κ ν) (k : κ) (v : ν) : SortedMap κ ν :=
  ⟨Entries.insert k v m.entries, Entries.ordered_insert m.ordered k v⟩

/-- The map of entries given in any order; of two with one key the later one stays. -/
def ofList (l : List (κ × ν)) : SortedMap κ ν :=
  if h : Entries.Ordered l then ⟨l, h⟩ else ⟨Entries.ofList l, Entries.ordered_ofList l⟩

theorem get?_eq_some_iff {m : SortedMap κ ν} {k : κ} {v : ν} :
    m.get? k = some v ↔ (k, v) ∈ m.entries
  := Entries.get?_eq_some_iff m.ordered

@[simp]
theorem get?_insert_self (m : SortedMap κ ν) (k : κ) (v : ν) :
    (m.insert k v).get? k = some v
  := Entries.get?_insert_self k v

theorem get?_insert_of_ne (m : SortedMap κ ν) {k k' : κ} (h : k' ≠ k) (v : ν) :
    (m.insert k v).get? k' = m.get? k'
  := Entries.get?_insert_of_ne m.ordered h v

@[simp]
theorem get?_erase_self (m : SortedMap κ ν) (k : κ) :
    (m.erase k).get? k = none
  := Entries.get?_erase_self m.ordered k

theorem get?_erase_of_ne (m : SortedMap κ ν) {k k' : κ} (h : k' ≠ k) :
    (m.erase k).get? k' = m.get? k'
  := Entries.get?_erase_of_ne m.ordered h

/-- A map is determined by its look-ups. -/
theorem ext_get? {m n : SortedMap κ ν} (h : ∀ k, m.get? k = n.get? k) :
    m = n
  := by
  obtain ⟨l, hl⟩ := m
  obtain ⟨l', hl'⟩ := n
  have := Entries.ordered_ext hl hl' h
  subst this
  rfl

end SortedMap

/-- A finite set of names, kept in increasing order. -/
abbrev NameSet := SortedMap String Unit

namespace NameSet

/-- The set of the names in a list. -/
def ofNames (names : List String) : NameSet :=
  SortedMap.ofList (names.map (·, ()))

/-- The names of both sets. -/
def union (a b : NameSet) : NameSet :=
  b.keys.foldl (fun acc name => acc.insert name ()) a

/-- Whether every name of `a` is in `b`. -/
def isSubset (a b : NameSet) : Bool :=
  a.keys.all b.contains

end NameSet

end ControlRelay
