import ControlRelay.Proofs.Interest.Composite
import Mathlib.Data.List.Induction

/-!
# What a history of updates leaves

A sound table is known by what its clients ask for.  Of a client and an object, the last update that
touches them decides: a call of the client that names the object gives the set anew, and a removal
of the client takes it away.  So the updates of one client do not depend on those of others, and the
table after a history is told by the updates of each client.
-/

namespace ControlRelay

universe u

variable {κ : Type u} [LT κ] [DecidableLT κ] [LE κ] [Std.LawfulOrderLT κ] [Std.IsLinearOrder κ]

namespace SubscriptionTable

/-! ### Tables whose clients ask for the same -/

omit [LE κ] [Std.LawfulOrderLT κ] [Std.IsLinearOrder κ] in
/-- The interest that a sound table stores is the one that the client asks for, if it is not
empty. -/
theorem Sound.interest?_eq_some_iff {t : SubscriptionTable κ} (h : t.Sound) {client : κ}
    {interest : Interest} :
    t.interest? client = some interest ↔
      interest ≠ ∅ ∧ ∀ object, t.asks client object = interest.get? object
  := by
  constructor
  · intro stored
    use h.interest_ne client interest stored
    apply asks_of_interest? stored
  · rintro ⟨filled, asks⟩
    cases stored : t.interest? client with
    | none =>
      apply absurd (SortedMap.eq_empty_iff.2 _) filled
      intro object
      rw [← asks, SubscriptionTable.asks, stored]
      rfl
    | some other =>
      congr 1
      apply SortedMap.ext_get?
      intro object
      rw [← asks, asks_of_interest? stored]

/-- Sound tables whose clients ask for the same are equal, composite included. -/
theorem Sound.ext_asks {t t' : SubscriptionTable κ} (h : t.Sound) (h' : t'.Sound)
    (same : ∀ client object, t.asks client object = t'.asks client object) :
    t = t'
  := by
  have clients : t.clients = t'.clients := by
    apply SortedMap.ext_get?
    intro client
    apply Option.ext
    intro interest
    apply h.interest?_eq_some_iff.trans
    simp only [same]
    apply h'.interest?_eq_some_iff.symm
  have composite : t.composite = t'.composite := by
    apply SortedMap.ext_get?
    intro object
    rw [h.composite_eq, h'.composite_eq]
    apply wanted_eq_of_asks
    intro client
    apply same
  obtain ⟨_, _⟩ := t
  obtain rfl := clients
  obtain rfl := composite
  rfl

/-! ### Updates that touch an interest -/

/-- Whose interest an update is about. -/
def Update.client : Update κ → κ
  | apply client _ => client
  | removeClient client => client

/-- Whether an update is about the interest of a client in an object: it is made for the client and
names the object, or removes the client. -/
def Update.Touches (client : κ) (object : String) : Update κ → Prop
  | apply other changes => other = client ∧ ∃ change, changes.get? object = some change
  | removeClient other => other = client

omit [LT κ] [DecidableLT κ] [LE κ] [Std.LawfulOrderLT κ] [Std.IsLinearOrder κ] in
theorem Update.not_touches_of_client {update : Update κ} {client : κ} (ne : update.client ≠ client)
    (object : String) :
    ¬ update.Touches client object
  := by
  cases update with
  | apply other changes => exact fun touches => ne touches.1
  | removeClient other => exact ne

theorem asks_removeClient_self (t : SubscriptionTable κ) (client : κ) (object : String) :
    (t.removeClient client).2.asks client object = none
  := by
  unfold asks
  rw [interest?_removeClient_self]
  rfl

theorem asks_removeClient_of_ne (t : SubscriptionTable κ) {client other : κ} (ne : other ≠ client)
    (object : String) :
    (t.removeClient client).2.asks other object = t.asks other object
  := by
  unfold asks
  rw [interest?_removeClient_of_ne t ne]

/-- An update that names the object sets the interest in it anew; a set without names cancels it,
like none at all. -/
theorem asks_apply_of_named (t : SubscriptionTable κ) {client : κ} {changes : InterestChanges}
    {object : String} {change : Option AttributeSet} (named : changes.get? object = some change) :
    (t.apply client changes).2.asks client object = change.filter fun set => !set.isEmpty
  := by
  rw [asks_apply_self, named]

/-- Updates of other clients, and those that name other objects, leave an interest alone. -/
theorem asks_perform_of_untouched (t : SubscriptionTable κ) {update : Update κ} {client : κ}
    {object : String} (untouched : ¬ update.Touches client object) :
    (t.perform update).2.asks client object = t.asks client object
  := by
  cases update with
  | apply other changes =>
    by_cases same : client = other
    · subst same
      apply (asks_apply_self t client changes object).trans
      split
      next change named => exact absurd ⟨rfl, change, named⟩ untouched
      next => rfl
    · apply asks_apply_of_ne t changes same
  | removeClient other => exact asks_removeClient_of_ne t (Ne.symm untouched) object

/-- What a client asks for after an update depends on what it has asked for and on nothing else. -/
theorem asks_perform_congr {t t' : SubscriptionTable κ} {client : κ}
    (same : ∀ object, t.asks client object = t'.asks client object) (update : Update κ)
    (object : String) :
    (t.perform update).2.asks client object = (t'.perform update).2.asks client object
  := by
  by_cases touched : update.Touches client object
  · cases update with
    | apply other changes =>
      obtain ⟨rfl, change, named⟩ := touched
      exact (asks_apply_of_named t named).trans (asks_apply_of_named t' named).symm
    | removeClient other =>
      obtain rfl : other = client := touched
      exact (asks_removeClient_self t other object).trans (asks_removeClient_self t' other object).symm
  · rw [asks_perform_of_untouched t touched, asks_perform_of_untouched t' touched, same]

/-! ### Histories -/

theorem after_concat (updates : List (Update κ)) (update : Update κ) :
    after (updates ++ [update]) = ((after updates).perform update).2
  := by
  unfold after
  rw [List.foldl_append]
  rfl

/-- What comes later without touching the interest leaves it as it was. -/
theorem asks_after_append (earlier : List (Update κ)) {later : List (Update κ)} {client : κ}
    {object : String} (untouched : ∀ update ∈ later, ¬ update.Touches client object) :
    (after (earlier ++ later)).asks client object = (after earlier).asks client object
  := by
  induction later using List.reverseRecOn with
  | nil => rw [List.append_nil]
  | append_singleton later update ih =>
    rw [← List.append_assoc, after_concat, asks_perform_of_untouched]
    · apply ih
      intro other mem
      exact untouched other (List.mem_append_left _ mem)
    · exact untouched update (List.mem_append_right _ (List.mem_singleton_self update))

/-- The interest in an object is the set that the last update that touches it has given. -/
theorem asks_after_eq_some_iff (updates : List (Update κ)) (client : κ) (object : String)
    (set : AttributeSet) :
    (after updates).asks client object = some set ↔
      ∃ earlier changes later, updates = earlier ++ .apply client changes :: later ∧
        changes.get? object = some (some set) ∧ set.isEmpty = false ∧
          ∀ update ∈ later, ¬ update.Touches client object
  := by
  constructor
  · intro asked
    induction updates using List.reverseRecOn with
    | nil => cases asked
    | append_singleton updates update ih =>
      rw [after_concat] at asked
      by_cases touched : update.Touches client object
      · cases update with
        | apply other changes =>
          obtain ⟨rfl, change, named⟩ := touched
          rw [perform, asks_apply_of_named _ named] at asked
          obtain ⟨rfl, filled⟩ := Option.filter_eq_some_iff.1 asked
          use updates, changes, [], rfl, named, by simpa using filled
          rintro _ ⟨⟩
        | removeClient other =>
          obtain rfl : other = client := touched
          rw [perform, asks_removeClient_self] at asked
          cases asked
      · rw [asks_perform_of_untouched _ touched] at asked
        obtain ⟨earlier, changes, later, rfl, named, filled, untouched⟩ := ih asked
        use earlier, changes, later ++ [update], List.append_assoc .., named, filled
        intro other mem
        obtain mem | mem := List.mem_append.1 mem
        · exact untouched other mem
        · obtain rfl := List.mem_singleton.1 mem
          exact touched
  · rintro ⟨earlier, changes, later, rfl, named, filled, untouched⟩
    rw [List.append_cons, asks_after_append _ untouched, after_concat, perform,
      asks_apply_of_named _ named]
    simp [Option.filter, filled]

/-- Updates of others may be left out of a history: a client asks for the same after it. -/
theorem asks_after_filter {updates : List (Update κ)} {client : κ} {keep : Update κ → Bool}
    (own : ∀ update, update.client = client → keep update = true) (object : String) :
    (after (updates.filter keep)).asks client object = (after updates).asks client object
  := by
  induction updates using List.reverseRecOn generalizing object with
  | nil => rfl
  | append_singleton updates update ih =>
    rw [List.filter_append, after_concat]
    by_cases kept : keep update = true
    · rw [List.filter_cons_of_pos kept, List.filter_nil, after_concat]
      exact asks_perform_congr ih update object
    · have other : update.client ≠ client := mt (own update) kept
      rw [List.filter_cons_of_neg kept, List.filter_nil, List.append_nil, ih,
        asks_perform_of_untouched _ (Update.not_touches_of_client other object)]

/-- Histories in which every client makes the same updates leave the same table. -/
theorem after_eq_of_clients [DecidableEq κ] {updates others : List (Update κ)}
    (same : ∀ client, updates.filter (·.client = client) = others.filter (·.client = client)) :
    after updates = after others
  := by
  apply (sound_after updates).ext_asks (sound_after others)
  intro client object
  have own : ∀ update : Update κ, update.client = client → decide (update.client = client) = true :=
    fun _ => decide_eq_true
  rw [← asks_after_filter own, same, asks_after_filter own]

/-- To remove a client leaves the table as if it had never made an update. -/
theorem removeClient_after [DecidableEq κ] (updates : List (Update κ)) (client : κ) :
    ((after updates).removeClient client).2 = after (updates.filter (·.client ≠ client))
  := by
  apply ((sound_after updates).perform (.removeClient client)).ext_asks (sound_after _)
  intro other object
  by_cases same : other = client
  · subst same
    apply (asks_removeClient_self _ _ _).trans
    -- none of the updates that are left is about the client
    have untouched : ∀ update ∈ updates.filter (·.client ≠ other), ¬ update.Touches other object
      := by
      intro update mem
      apply Update.not_touches_of_client
      simpa using (List.mem_filter.1 mem).2
    symm
    exact asks_after_append [] untouched
  · apply (asks_removeClient_of_ne _ same _).trans
    symm
    apply asks_after_filter
    intro update own
    rw [own]
    exact decide_eq_true same

/-- After any history a client asks of an object for the set that the last of its updates naming the
object has given, unless the set is without names or the client was removed since, and for nothing
otherwise.  An update that does not touch an interest leaves it as it is.  So histories in which
every client makes the same updates in the same order leave the same table, and to remove a client
leaves the table as if it had never made an update. -/
theorem interests_after [DecidableEq κ] (updates : List (Update κ)) :
    (∀ client object set, (after updates).asks client object = some set ↔
      ∃ earlier changes later, updates = earlier ++ .apply client changes :: later ∧
        changes.get? object = some (some set) ∧ set.isEmpty = false ∧
          ∀ update ∈ later, ¬ update.Touches client object) ∧
    (∀ update client object, ¬ update.Touches client object →
      ((after updates).perform update).2.asks client object =
        (after updates).asks client object) ∧
    (∀ others : List (Update κ),
      (∀ client, updates.filter (·.client = client) = others.filter (·.client = client)) →
        after updates = after others) ∧
    ∀ client, ((after updates).perform (.removeClient client)).2 =
      after (updates.filter (·.client ≠ client))
  := by
  and_intros
  · apply asks_after_eq_some_iff
  · intro update client object untouched
    exact asks_perform_of_untouched _ untouched
  · intro others same
    exact after_eq_of_clients same
  · apply removeClient_after

/-- Two clients whose updates come in turns: the first asks for something else of an object, and the
second is removed and comes back. -/
def inTurns : List (Update Nat) :=
  [.apply 1 (.ofList [("toolhead", some (.ofNames ["position"]))]),
    .apply 2 (.ofList [("fan", some .all), ("toolhead", some .all)]),
    .apply 1 (.ofList [("toolhead", some (.ofNames ["homed_axes"]))]),
    .removeClient 2,
    .apply 2 (.ofList [("fan", some (.ofNames ["speed"])), ("heater", some (.ofNames []))])]

/-- The same updates, those of the second client first. -/
def oneByOne : List (Update Nat) :=
  inTurns.filter (·.client = 2) ++ inTurns.filter (·.client = 1)

/-- The first client asks for what it named last and the second for what it named after its removal,
the updates may come one client after the other, and without the second client the first one is
left alone. -/
theorem interests_after_inTurns :
    (after inTurns).asks 1 "toolhead" = some (.ofNames ["homed_axes"]) ∧
      (after inTurns).asks 2 "toolhead" = none ∧
      after inTurns = after oneByOne ∧
      ((after inTurns).perform (.removeClient 2)).2 = after (inTurns.filter (·.client ≠ 2))
  := by
  obtain ⟨asks, -, sameTable, removed⟩ := interests_after inTurns
  and_intros
  · apply (asks 1 "toolhead" _).2
    use inTurns.take 2, .ofList [("toolhead", some (.ofNames ["homed_axes"]))], inTurns.drop 3
    and_intros
    · rfl
    · rfl
    · rfl
    · simp [inTurns, Update.Touches]
  · decide
  · apply sameTable
    intro client
    by_cases first : client = 1
    · subst first
      rfl
    · by_cases second : client = 2
      · subst second
        rfl
      · simp [oneByOne, inTurns, Update.client, Ne.symm first, Ne.symm second]
  · apply removed

end SubscriptionTable

end ControlRelay
