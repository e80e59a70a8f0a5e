import ControlRelay.Interest.Table
import ControlRelay.Proofs.SortedMap
import Mathlib.Tactic.Common

/-!
# Updates of a subscription table

What `SubscriptionTable.apply` and `SubscriptionTable.removeClient` do, told by `asks`, the set
that a client wants of an object.  An update changes `asks` for the client and the objects it
names and for nothing else; it brings the composite up to date for these objects, and its flag
says exactly whether the composite is another one after it.
-/

namespace ControlRelay

universe u

variable {κ : Type u} [LT κ]

namespace SubscriptionTable

/-! ### Changing an interest -/

/-- One interest with one change made. -/
def changeOne (interest : Interest) (object : String) (change : Option AttributeSet) : Interest :=
  match change with
  | some set => if set.isEmpty then interest.erase object else interest.insert object set
  | none => interest.erase object

theorem get?_changeOne_self (interest : Interest) (object : String)
    (change : Option AttributeSet) :
    (changeOne interest object change).get? object = change.filter fun set => !set.isEmpty
  := by
  cases change with
  | none => apply SortedMap.get?_erase_self
  | some set =>
    unfold changeOne
    cases empty : set.isEmpty with
    | true => simp [Option.filter, empty]
    | false => simp [Option.filter, empty]

theorem get?_changeOne_of_ne (interest : Interest) {object other : String}
    (change : Option AttributeSet) (ne : other ≠ object) :
    (changeOne interest object change).get? other = interest.get? other
  := by
  unfold changeOne
  cases change with
  | none => apply SortedMap.get?_erase_of_ne interest ne
  | some set =>
    dsimp only
    split
    · apply SortedMap.get?_erase_of_ne interest ne
    · apply SortedMap.get?_insert_of_ne interest ne

/-- After the changes the interest holds what they say of the objects they name, a set without
names cancelling like none at all, and what it held before of the others. -/
theorem get?_change (interest : Interest) (changes : InterestChanges) (object : String) :
    (change interest changes).get? object =
      match changes.get? object with
      | some change => change.filter fun set => !set.isEmpty
      | none => interest.get? object
  := by
  obtain ⟨entries, ordered⟩ := changes
  induction entries generalizing interest with
  | nil => rfl
  | cons entry rest ih =>
    obtain ⟨name, set⟩ := entry
    have rest_ordered := (List.pairwise_cons.1 ordered).2
    have step : change interest ⟨(name, set) :: rest, ordered⟩
        = change (changeOne interest name set) ⟨rest, rest_ordered⟩ := rfl
    rw [step, ih _ rest_ordered]
    unfold SortedMap.get?
    by_cases same : object = name
    · subst same
      rw [Entries.get?_cons_self, Entries.get?_eq_none_of_ordered ordered]
      apply get?_changeOne_self
    · rw [Entries.get?_cons_of_ne ordered same]
      cases Entries.get? object rest with
      | none => apply get?_changeOne_of_ne interest set same
      | some _ => rfl

/-! ### Recomputing the composite -/

/-- Tables with the same clients want the same of an object. -/
theorem wanted_congr {t t' : SubscriptionTable κ} (h : t.clients = t'.clients) (object : String) :
    t.wanted object = t'.wanted object
  := by
  unfold wanted
  rw [h]

theorem clients_recompute (t : SubscriptionTable κ) (object : String) :
    (t.recompute object).2.clients = t.clients
  := by
  unfold recompute
  dsimp only
  split
  · rfl
  · split <;> rfl

theorem get?_recompute_self (t : SubscriptionTable κ) (object : String) :
    (t.recompute object).2.composite.get? object = t.wanted object
  := by
  unfold recompute
  dsimp only
  split
  next same => apply same
  next =>
    cases t.wanted object with
    | none => apply SortedMap.get?_erase_self
    | some set => apply SortedMap.get?_insert_self

theorem get?_recompute_of_ne (t : SubscriptionTable κ) {object other : String}
    (ne : other ≠ object) :
    (t.recompute object).2.composite.get? other = t.composite.get? other
  := by
  unfold recompute
  dsimp only
  split
  · rfl
  · split
    · apply SortedMap.get?_insert_of_ne _ ne
    · apply SortedMap.get?_erase_of_ne _ ne

theorem recompute_fst_iff (t : SubscriptionTable κ) (object : String) :
    (t.recompute object).1 = true ↔ t.composite.get? object ≠ t.wanted object
  := by
  unfold recompute
  dsimp only
  split
  next same => simp [same]
  next other => split <;> simpa using other

/-- The flag gathers over the objects. -/
theorem recomputeAll_cons (t : SubscriptionTable κ) (object : String) (objects : List String) :
    t.recomputeAll (object :: objects) =
      ((t.recompute object).1 || ((t.recompute object).2.recomputeAll objects).1,
        ((t.recompute object).2.recomputeAll objects).2)
  := by
  let step : Bool × SubscriptionTable κ → String → Bool × SubscriptionTable κ :=
    fun acc object => (acc.1 || (acc.2.recompute object).1, (acc.2.recompute object).2)
  have gather : ∀ (objects : List String) (acc : Bool × SubscriptionTable κ),
      objects.foldl step acc =
        (acc.1 || (objects.foldl step (false, acc.2)).1, (objects.foldl step (false, acc.2)).2)
    := by
    intro objects
    induction objects with
    | nil => simp
    | cons head rest ih =>
      intro acc
      rw [List.foldl_cons, List.foldl_cons, ih (step acc head), ih (step (false, acc.2) head)]
      simp [step, Bool.or_assoc]
  have unfolded : ∀ t : SubscriptionTable κ, ∀ objects,
      t.recomputeAll objects = objects.foldl step (false, t) := fun _ _ => rfl
  rw [unfolded, List.foldl_cons, gather, unfolded]
  simp [step]

theorem clients_recomputeAll (t : SubscriptionTable κ) (objects : List String) :
    (t.recomputeAll objects).2.clients = t.clients
  := by
  induction objects generalizing t with
  | nil => rfl
  | cons object rest ih => rw [recomputeAll_cons, ih, clients_recompute]

/-- The composite is up to date afterwards for the objects, and the same as before for the
others. -/
theorem get?_recomputeAll (t : SubscriptionTable κ) (objects : List String) (object : String) :
    (t.recomputeAll objects).2.composite.get? object =
      if object ∈ objects then t.wanted object else t.composite.get? object
  := by
  induction objects generalizing t with
  | nil => rfl
  | cons head rest ih =>
    rw [recomputeAll_cons, ih, wanted_congr (clients_recompute t head)]
    by_cases same : object = head
    · subst same
      simp [get?_recompute_self]
    · simp [get?_recompute_of_ne t same, same]

theorem recomputeAll_fst_iff_exists (t : SubscriptionTable κ) (objects : List String) :
    (t.recomputeAll objects).1 = true
      ↔ ∃ object ∈ objects, t.composite.get? object ≠ t.wanted object
  := by
  induction objects generalizing t with
  | nil => simp [recomputeAll]
  | cons head rest ih =>
    rw [recomputeAll_cons, Bool.or_eq_true, recompute_fst_iff, ih]
    -- An object that stands in the list again is up to date by then.
    constructor
    · rintro (stale | ⟨object, mem, stale⟩)
      · use head, List.mem_cons_self
      · rw [wanted_congr (clients_recompute t head)] at stale
        use object, List.mem_cons_of_mem head mem
        by_cases same : object = head
        · subst same
          apply absurd (get?_recompute_self t object) stale
        · rwa [get?_recompute_of_ne t same] at stale
    · rintro ⟨object, mem, stale⟩
      by_cases same : object = head
      · subst same
        apply Or.inl stale
      · right
        use object, (List.mem_cons.1 mem).resolve_left same
        rwa [wanted_congr (clients_recompute t head), get?_recompute_of_ne t same]

/-- The flag says exactly whether the composite changed. -/
theorem recomputeAll_fst_iff (t : SubscriptionTable κ) (objects : List String) :
    (t.recomputeAll objects).1 = true ↔ (t.recomputeAll objects).2.composite ≠ t.composite
  := by
  rw [recomputeAll_fst_iff_exists]
  constructor
  · rintro ⟨object, mem, stale⟩ same
    apply stale
    rw [← same, get?_recomputeAll, if_pos mem]
  · intro ne
    by_contra fresh
    push Not at fresh
    apply ne
    apply SortedMap.ext_get?
    intro object
    rw [get?_recomputeAll]
    split
    next mem =>
      symm
      apply fresh object mem
    next => rfl

/-! ### What a client asks for -/

variable [DecidableLT κ]

/-- What `client` wants of `object`. -/
def asks (t : SubscriptionTable κ) (client : κ) (object : String) : Option AttributeSet :=
  (t.interest? client).bind fun interest => interest.get? object

theorem asks_of_interest? {t : SubscriptionTable κ} {client : κ} {interest : Interest}
    (h : t.interest? client = some interest) (object : String) :
    t.asks client object = interest.get? object
  := by
  unfold asks
  rw [h]
  rfl

theorem asks_eq_get? (t : SubscriptionTable κ) (client : κ) (object : String) :
    t.asks client object = ((t.interest? client).getD ∅).get? object
  := by
  unfold asks
  cases t.interest? client with
  | none => rfl
  | some interest => rfl

/-- Tables with the same clients have the same interests. -/
theorem interest?_congr {t t' : SubscriptionTable κ} (h : t.clients = t'.clients) (client : κ) :
    t.interest? client = t'.interest? client
  := by
  unfold interest?
  rw [h]

/-! ### Removing a client -/

theorem removeClient_of_none {t : SubscriptionTable κ} {client : κ}
    (h : t.interest? client = none) :
    t.removeClient client = (false, t)
  := by
  have absent : t.clients.get? client = none := h
  unfold removeClient
  rw [absent]

theorem removeClient_of_some {t : SubscriptionTable κ} {client : κ} {interest : Interest}
    (h : t.interest? client = some interest) :
    t.removeClient client =
      recomputeAll { t with clients := t.clients.erase client } interest.keys
  := by
  have stored : t.clients.get? client = some interest := h
  unfold removeClient
  rw [stored]

/-- The composite is brought up to date for the objects that the client asked for. -/
theorem get?_composite_removeClient (t : SubscriptionTable κ) (client : κ) (object : String) :
    (t.removeClient client).2.composite.get? object =
      if (t.asks client object).isSome then (t.removeClient client).2.wanted object
      else t.composite.get? object
  := by
  cases h : t.interest? client with
  | none =>
    have nothing : t.asks client object = none := by
      unfold asks
      rw [h]
      rfl
    rw [removeClient_of_none h, nothing]
    rfl
  | some interest =>
    rw [removeClient_of_some h, get?_recomputeAll, wanted_congr (clients_recomputeAll _ _),
      asks_of_interest? h]
    apply if_congr _ rfl rfl
    rw [SortedMap.mem_keys_iff, Option.isSome_iff_exists]

theorem removeClient_fst_iff (t : SubscriptionTable κ) (client : κ) :
    (t.removeClient client).1 = true ↔ (t.removeClient client).2.composite ≠ t.composite
  := by
  cases h : t.interest? client with
  | none => simp [removeClient_of_none h]
  | some interest =>
    rw [removeClient_of_some h]
    apply recomputeAll_fst_iff

variable [LE κ] [Std.LawfulOrderLT κ] [Std.IsLinearOrder κ]

theorem interest?_removeClient_self (t : SubscriptionTable κ) (client : κ) :
    (t.removeClient client).2.interest? client = none
  := by
  cases h : t.interest? client with
  | none =>
    rw [removeClient_of_none h]
    apply h
  | some interest =>
    rw [removeClient_of_some h, interest?_congr (clients_recomputeAll _ _)]
    apply SortedMap.get?_erase_self

theorem interest?_removeClient_of_ne (t : SubscriptionTable κ) {client other : κ}
    (ne : other ≠ client) :
    (t.removeClient client).2.interest? other = t.interest? other
  := by
  cases h : t.interest? client with
  | none => rw [removeClient_of_none h]
  | some interest =>
    rw [removeClient_of_some h, interest?_congr (clients_recomputeAll _ _)]
    apply SortedMap.get?_erase_of_ne t.clients ne

/-! ### Replacing an interest -/

theorem clients_apply (t : SubscriptionTable κ) (client : κ) (changes : InterestChanges) :
    (t.apply client changes).2.clients =
      let interest := change ((t.interest? client).getD ∅) changes
      if interest.isEmpty then t.clients.erase client else t.clients.insert client interest
  := clients_recomputeAll _ _

/-- A client that asks for nothing any more is not stored. -/
theorem interest?_apply_self (t : SubscriptionTable κ) (client : κ) (changes : InterestChanges) :
    (t.apply client changes).2.interest? client =
      let interest := change ((t.interest? client).getD ∅) changes
      if interest.isEmpty then none else some interest
  := by
  apply Eq.trans (congrArg (SortedMap.get? · client) (clients_apply t client changes))
  dsimp only
  split
  · apply SortedMap.get?_erase_self
  · apply SortedMap.get?_insert_self

theorem interest?_apply_of_ne (t : SubscriptionTable κ) {client other : κ}
    (changes : InterestChanges) (ne : other ≠ client) :
    (t.apply client changes).2.interest? other = t.interest? other
  := by
  apply Eq.trans (congrArg (SortedMap.get? · other) (clients_apply t client changes))
  dsimp only
  split
  · apply SortedMap.get?_erase_of_ne t.clients ne
  · apply SortedMap.get?_insert_of_ne t.clients ne

/-- The changes are made for the client, which keeps its interest in the other objects. -/
theorem asks_apply_self (t : SubscriptionTable κ) (client : κ) (changes : InterestChanges)
    (object : String) :
    (t.apply client changes).2.asks client object =
      match changes.get? object with
      | some change => change.filter fun set => !set.isEmpty
      | none => t.asks client object
  := by
  rw [asks_eq_get? t, ← get?_change, asks_eq_get?, interest?_apply_self]
  dsimp only
  split
  next empty =>
    rw [SortedMap.isEmpty_iff.1 empty]
    rfl
  next => rfl

theorem asks_apply_of_ne (t : SubscriptionTable κ) {client other : κ} (changes : InterestChanges)
    (ne : other ≠ client) (object : String) :
    (t.apply client changes).2.asks other object = t.asks other object
  := by
  unfold asks
  rw [interest?_apply_of_ne t changes ne]

/-- The composite is brought up to date for the objects that the changes name. -/
theorem get?_composite_apply (t : SubscriptionTable κ) (client : κ) (changes : InterestChanges)
    (object : String) :
    (t.apply client changes).2.composite.get? object =
      if object ∈ changes.keys then (t.apply client changes).2.wanted object
      else t.composite.get? object
  := by
  apply Eq.trans (get?_recomputeAll _ _ object)
  rw [wanted_congr (clients_recomputeAll _ _).symm]
  rfl

theorem apply_fst_iff (t : SubscriptionTable κ) (client : κ) (changes : InterestChanges) :
    (t.apply client changes).1 = true ↔ (t.apply client changes).2.composite ≠ t.composite
  := recomputeAll_fst_iff _ _

/-! ### Updates -/

/-- A call that changes a table. -/
inductive Update (κ : Type u) where
  | apply (client : κ) (changes : InterestChanges)
  | removeClient (client : κ)

/-- Makes an update; also says whether the composite changed. -/
def perform (t : SubscriptionTable κ) : Update κ → Bool × SubscriptionTable κ
  | .apply client changes => t.apply client changes
  | .removeClient client => t.removeClient client

/-- The table after a sequence of updates of the empty one. -/
def after (updates : List (Update κ)) : SubscriptionTable κ :=
  updates.foldl (fun t update => (t.perform update).2) {}

/-- Of an object, an update either brings the composite up to date or leaves everything. -/
theorem perform_object (t : SubscriptionTable κ) (update : Update κ) (object : String) :
    (t.perform update).2.composite.get? object = (t.perform update).2.wanted object ∨
      (t.perform update).2.composite.get? object = t.composite.get? object ∧
        ∀ client, (t.perform update).2.asks client object = t.asks client object
  := by
  cases update with
  | apply client changes =>
    dsimp only [perform]
    rw [get?_composite_apply]
    split
    next => apply Or.inl rfl
    next unnamed =>
      right
      use rfl
      intro other
      by_cases same : other = client
      · rw [same, asks_apply_self, SortedMap.get?_eq_none_iff.2 unnamed]
      · apply asks_apply_of_ne t changes same
  | removeClient client =>
    dsimp only [perform]
    rw [get?_composite_removeClient]
    split
    next => apply Or.inl rfl
    next unwanted =>
      right
      use rfl
      intro other
      by_cases same : other = client
      · rw [same, Option.not_isSome_iff_eq_none.1 unwanted]
        unfold asks
        rw [interest?_removeClient_self]
        rfl
      · unfold asks
        rw [interest?_removeClient_of_ne t same]

/-- The flag of an update says exactly whether the composite changed. -/
theorem perform_fst_iff (t : SubscriptionTable κ) (update : Update κ) :
    (t.perform update).1 = true ↔ (t.perform update).2.composite ≠ t.composite
  := by
  cases update with
  | apply client changes => apply apply_fst_iff
  | removeClient client => apply removeClient_fst_iff

end SubscriptionTable

end ControlRelay
