import ControlRelay.Proofs.Interest.AttributeSet
import ControlRelay.Proofs.Interest.Update

/-!
# The composite is the union of all interests

An `IsUnion` of a family of attribute sets has their members, and is the set of all attributes
exactly when one of them is.  What a table wants of an object is the union of what its clients
ask for.  A table is `Sound` when its composite holds that of every object and it stores nothing
empty.  Updates keep it so, hence the composite of every table that comes about by updates
covers every client and holds nothing that nobody asked for.
-/

namespace ControlRelay

universe u

namespace AttributeSet

/-- The union of a family of sets; there is none if the family has no set. -/
def IsUnion (family : AttributeSet → Prop) : Option AttributeSet → Prop
  | none => ∀ set, ¬ family set
  | some union =>
    (∃ set, family set) ∧ (∀ name, name ∈ union ↔ ∃ set, family set ∧ name ∈ set) ∧
      (union = all ↔ family all)

theorem IsUnion.congr {family family' : AttributeSet → Prop} {union : Option AttributeSet}
    (h : IsUnion family union) (same : ∀ set, family set ↔ family' set) :
    IsUnion family' union
  := by
  obtain rfl : family = family' := funext fun set => propext (same set)
  apply h

theorem IsUnion.unique {family : AttributeSet → Prop} {a b : Option AttributeSet}
    (ha : IsUnion family a) (hb : IsUnion family b) :
    a = b
  := by
  cases a with
  | none =>
    cases b with
    | none => rfl
    | some b =>
      obtain ⟨⟨set, mem⟩, -⟩ := hb
      apply absurd mem (ha set)
  | some a =>
    obtain ⟨⟨set, mem⟩, names, whole⟩ := ha
    cases b with
    | none => apply absurd mem (hb set)
    | some b =>
      obtain ⟨-, names', whole'⟩ := hb
      congr 1
      apply ext_mem
      · intro name
        rw [names, names']
      · rw [whole, whole']

/-- Every set of the family is covered by the union. -/
theorem IsUnion.covers {family : AttributeSet → Prop} {union set : AttributeSet}
    (h : IsUnion family (some union)) (mem : family set) :
    union.covers set = true
  := by
  obtain ⟨-, names, whole⟩ := h
  apply covers_of_subset
  · intro name in_set
    apply (names name).2 ⟨set, mem, in_set⟩
  · rintro rfl
    apply whole.2 mem

theorem IsUnion.not_isEmpty {family : AttributeSet → Prop} {union : AttributeSet}
    (h : IsUnion family (some union)) (filled : ∀ set, family set → set.isEmpty = false) :
    union.isEmpty = false
  := by
  obtain ⟨⟨set, mem⟩, names, -⟩ := h
  apply Bool.eq_false_iff.2
  intro empty
  have in_union := isEmpty_iff.1 empty
  apply Bool.eq_false_iff.1 (filled set mem)
  apply isEmpty_iff.2
  intro name in_set
  apply in_union name ((names name).2 ⟨set, mem, in_set⟩)

/-- The union with one more set, if there is one. -/
def unionMore (union more : Option AttributeSet) : Option AttributeSet :=
  match more, union with
  | none, union => union
  | some set, none => some set
  | some set, some union => some (union.union set)

theorem IsUnion.more {family : AttributeSet → Prop} {union : Option AttributeSet}
    (h : IsUnion family union) (more : Option AttributeSet) :
    IsUnion (fun set => family set ∨ more = some set) (unionMore union more)
  := by
  cases more with
  | none =>
    apply h.congr
    simp
  | some set =>
    cases union with
    | none =>
      and_intros
      · use set, Or.inr rfl
      · intro name
        constructor
        · intro mem
          use set, Or.inr rfl
        · rintro ⟨other, asked | same, mem⟩
          · apply absurd asked (h other)
          · obtain rfl := Option.some.inj same
            apply mem
      · constructor
        · rintro rfl
          apply Or.inr rfl
        · rintro (asked | same)
          · apply absurd asked (h all)
          · apply Option.some.inj same
    | some union =>
      obtain ⟨-, names, whole⟩ := h
      and_intros
      · use set, Or.inr rfl
      · intro name
        rw [mem_union_iff, names]
        constructor
        · rintro (⟨other, asked, mem⟩ | mem)
          · use other, Or.inl asked
          · use set, Or.inr rfl
        · rintro ⟨other, asked | same, mem⟩
          · left
            use other
          · obtain rfl := Option.some.inj same
            apply Or.inr mem
      · rw [union_eq_all_iff, whole]
        simp

end AttributeSet

variable {κ : Type u} [LT κ] [DecidableLT κ] [LE κ] [Std.LawfulOrderLT κ] [Std.IsLinearOrder κ]

namespace SubscriptionTable

open AttributeSet

/-! ### What is wanted -/

theorem union_foldl (interests : List Interest) (object : String)
    {family : AttributeSet → Prop} {union : Option AttributeSet} (h : IsUnion family union) :
    IsUnion (fun set => family set ∨ ∃ interest ∈ interests, interest.get? object = some set)
      (interests.foldl (fun acc interest => unionMore acc (interest.get? object)) union)
  := by
  induction interests generalizing family union with
  | nil =>
    apply h.congr
    simp
  | cons interest rest ih =>
    apply (ih (h.more (interest.get? object))).congr
    simp [or_assoc]

/-- What a table wants of an object is the union of what its clients ask for. -/
theorem union_wanted (t : SubscriptionTable κ) (object : String) :
    IsUnion (fun set => ∃ client, t.asks client object = some set) (t.wanted object)
  := by
  have none_yet : IsUnion (fun _ => False) none := fun _ => id
  have total := union_foldl t.clients.values object none_yet
  apply total.congr
  intro set
  simp only [false_or, SortedMap.mem_values_iff]
  constructor
  · rintro ⟨interest, ⟨client, stored⟩, asked⟩
    use client
    rw [asks_of_interest? stored, asked]
  · rintro ⟨client, asked⟩
    obtain ⟨interest, stored, asked⟩ := Option.bind_eq_some_iff.1 asked
    use interest, ⟨client, stored⟩, asked

/-- Tables whose clients ask for the same of an object want the same of it. -/
theorem wanted_eq_of_asks {t t' : SubscriptionTable κ} {object : String}
    (h : ∀ client, t.asks client object = t'.asks client object) :
    t.wanted object = t'.wanted object
  := by
  apply (union_wanted t object).unique
  apply (union_wanted t' object).congr
  intro set
  simp only [h]

/-! ### Soundness -/

/-- The composite holds what is wanted of every object, and nothing empty is stored. -/
structure Sound (t : SubscriptionTable κ) : Prop where
  composite_eq : ∀ object, t.composite.get? object = t.wanted object
  interest_ne : ∀ client interest, t.interest? client = some interest → interest ≠ ∅
  set_ne : ∀ client object set, t.asks client object = some set → set.isEmpty = false

omit [LE κ] [Std.LawfulOrderLT κ] [Std.IsLinearOrder κ] in
theorem sound_empty :
    Sound ({} : SubscriptionTable κ)
  where
  composite_eq _ := rfl
  interest_ne _ _ h := nomatch h
  set_ne _ _ _ h := nomatch h

theorem Sound.composite_perform {t : SubscriptionTable κ} (h : t.Sound) (update : Update κ)
    (object : String) :
    (t.perform update).2.composite.get? object = (t.perform update).2.wanted object
  := by
  obtain fresh | ⟨kept, same⟩ := perform_object t update object
  · apply fresh
  · rw [kept, wanted_eq_of_asks same]
    apply h.composite_eq

theorem Sound.interest_ne_perform {t : SubscriptionTable κ} (h : t.Sound) (update : Update κ)
    (client : κ) (interest : Interest)
    (stored : (t.perform update).2.interest? client = some interest) :
    interest ≠ ∅
  := by
  cases update with
  | apply changed changes =>
    dsimp only [perform] at stored
    by_cases same : client = changed
    · rw [same, interest?_apply_self] at stored
      obtain ⟨filled, kept⟩ := Option.ite_none_left_eq_some.1 stored
      rintro rfl
      apply filled
      rw [Option.some.inj kept]
      rfl
    · rw [interest?_apply_of_ne t changes same] at stored
      apply h.interest_ne client interest stored
  | removeClient removed =>
    dsimp only [perform] at stored
    by_cases same : client = removed
    · rw [same, interest?_removeClient_self] at stored
      nomatch stored
    · rw [interest?_removeClient_of_ne t same] at stored
      apply h.interest_ne client interest stored

theorem Sound.set_ne_perform {t : SubscriptionTable κ} (h : t.Sound) (update : Update κ)
    (client : κ) (object : String) (set : AttributeSet)
    (asked : (t.perform update).2.asks client object = some set) :
    set.isEmpty = false
  := by
  cases update with
  | apply changed changes =>
    dsimp only [perform] at asked
    by_cases same : client = changed
    · rw [same, asks_apply_self] at asked
      split at asked
      next change _ =>
        have filled := (Option.filter_eq_some_iff.1 asked).2
        simpa using filled
      next => apply h.set_ne changed object set asked
    · rw [asks_apply_of_ne t changes same] at asked
      apply h.set_ne client object set asked
  | removeClient removed =>
    dsimp only [perform] at asked
    unfold asks at asked
    by_cases same : client = removed
    · rw [same, interest?_removeClient_self] at asked
      nomatch asked
    · rw [interest?_removeClient_of_ne t same] at asked
      apply h.set_ne client object set asked

theorem Sound.perform {t : SubscriptionTable κ} (h : t.Sound) (update : Update κ) :
    (t.perform update).2.Sound
  where
  composite_eq := h.composite_perform update
  interest_ne := h.interest_ne_perform update
  set_ne := h.set_ne_perform update

/-- Every table that comes about by updates is sound. -/
theorem sound_after (updates : List (Update κ)) :
    (after updates).Sound
  := by
  suffices ∀ t : SubscriptionTable κ, t.Sound →
      (updates.foldl (fun t update => (t.perform update).2) t).Sound from
    this {} sound_empty
  induction updates with
  | nil => exact fun _ h => h
  | cons update rest ih =>
    intro t h
    apply ih _ (h.perform update)

/-! ### The composite -/

theorem Sound.union_composite {t : SubscriptionTable κ} (h : t.Sound) (object : String) :
    IsUnion (fun set => ∃ client, t.asks client object = some set) (t.composite.get? object)
  := by
  rw [h.composite_eq]
  apply union_wanted

/-- The composite covers the interest of every client. -/
theorem Sound.covers {t : SubscriptionTable κ} (h : t.Sound) {client : κ} {interest : Interest}
    (stored : t.interest? client = some interest) :
    t.composite.covers interest = true
  := by
  apply List.all_eq_true.2
  rintro ⟨object, set⟩ mem
  have asked : t.asks client object = some set := by
    rw [asks_of_interest? stored]
    apply SortedMap.get?_eq_some_iff.2 mem
  have total := h.union_composite object
  dsimp only
  split
  next union held =>
    rw [held] at total
    apply total.covers ⟨client, asked⟩
  next missing =>
    rw [missing] at total
    apply absurd ⟨client, asked⟩ (total set)

/-- After any updates the composite has an entry for an object exactly when a client asks for
it, the union of what the clients ask for: it covers every client and has nothing else.  No
client is stored without an interest, no set is stored without a name, and every further update
says exactly whether the composite changed. -/
theorem composite_after (updates : List (Update κ)) :
    let t : SubscriptionTable κ := after updates
    (∀ object, (∃ union, t.composite.get? object = some union)
      ↔ ∃ client set, t.asks client object = some set) ∧
    (∀ object union, t.composite.get? object = some union →
      (∀ name, name ∈ union ↔ ∃ client set, t.asks client object = some set ∧ name ∈ set) ∧
      (union = all ↔ ∃ client, t.asks client object = some all) ∧ union.isEmpty = false) ∧
    (∀ client interest, t.interest? client = some interest →
      t.composite.covers interest = true ∧ interest ≠ ∅ ∧
      ∀ object set, interest.get? object = some set → set.isEmpty = false) ∧
    ∀ update, (t.perform update).1 = true ↔ (t.perform update).2.composite ≠ t.composite
  := by
  intro t
  have sound : t.Sound := sound_after updates
  and_intros
  · intro object
    have total := sound.union_composite object
    constructor
    · rintro ⟨union, held⟩
      rw [held] at total
      obtain ⟨⟨set, client, asked⟩, -⟩ := total
      use client, set
    · rintro ⟨client, set, asked⟩
      apply Option.ne_none_iff_exists'.1
      intro missing
      rw [missing] at total
      apply total set ⟨client, asked⟩
  · intro object union held
    have total := sound.union_composite object
    rw [held] at total
    have filled := total.not_isEmpty fun set ⟨client, asked⟩ => sound.set_ne client object set asked
    obtain ⟨-, names, whole⟩ := total
    use fun name => ?_, whole, filled
    rw [names]
    constructor
    · rintro ⟨set, ⟨client, asked⟩, mem⟩
      use client, set
    · rintro ⟨client, set, asked, mem⟩
      use set, ⟨client, asked⟩
  · intro client interest stored
    use sound.covers stored, sound.interest_ne client interest stored
    intro object set asked
    apply sound.set_ne client object set
    rw [asks_of_interest? stored, asked]
  · apply perform_fst_iff t

/-- Two clients, of which the second wants all attributes of an object for a while. -/
def passingWish : List (Update Nat) :=
  [.apply 1 (.ofList [("toolhead", some (.ofNames ["position"]))]),
    .apply 2 (.ofList [("fan", some (.ofNames ["speed"])), ("toolhead", some .all)]),
    .apply 2 (.ofList [("toolhead", none)])]

/-- What is left of the object is what the first client wants, and it goes with that client. -/
theorem composite_after_passingWish :
    let t : SubscriptionTable Nat := after passingWish
    t.composite.get? "toolhead" = some (.ofNames ["position"]) ∧
    (∀ name, name ∈ AttributeSet.ofNames ["position"]
      ↔ ∃ client set, t.asks client "toolhead" = some set ∧ name ∈ set) ∧
    (t.perform (.removeClient 1)).1 = true
  := by
  intro t
  obtain ⟨-, union, -, flag⟩ := composite_after passingWish
  have held : t.composite.get? "toolhead" = some (.ofNames ["position"]) := by decide
  use held, (union "toolhead" _ held).1
  apply (flag (.removeClient 1)).2
  decide

end SubscriptionTable

end ControlRelay
