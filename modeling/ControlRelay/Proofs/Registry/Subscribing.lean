import ControlRelay.Proofs.Registry.Held
import ControlRelay.Proofs.Registry.Viewing

/-!
# What a subscription asks for and gives

To subscribe makes changes in the table and then needs one call at most, which subscribes to the
composite as a whole.  It is spared while the control process is not ready and when the composite is
the one acknowledged.  Once this is settled the cache answers for all that the subscription selects,
so a subscription never queries.
-/

namespace ControlRelay.Registry

open Control (Dialogue Exchange)

/-- What the cache has of a request. -/
def known (r : Registry) (request : Interest) : Snapshot :=
  ⟨r.cache.eventtime, r.cache.snapshot request⟩

/-- No call is needed to bring the subscription up to date. -/
def Settled (r : Registry) : Prop :=
  r.controlReady = false ∨ r.Current

/-- How a subscription ends that selects `request`, where `wanting` is the registry with the changes
made. -/
inductive SubscribeEnds (wanting : Registry) (request : Interest) :
    List Exchange → Registry × Except RelayError Snapshot → Prop where
  | spared (settled : wanting.Settled) (dirty : Bool) :
      SubscribeEnds wanting request [] ({ wanting with dirty }, .ok (wanting.known request))
  | acknowledged (unsettled : ¬wanting.Settled) (result : Json) :
      SubscribeEnds wanting request [⟨subscribeCall wanting.composite, .ok result⟩]
        (wanting.acknowledged wanting.composite result,
          .ok ((wanting.acknowledged wanting.composite result).known request))
  | failed (unsettled : ¬wanting.Settled) (e : RelayError) :
      SubscribeEnds wanting request [⟨subscribeCall wanting.composite, .error e⟩]
        ({ wanting with dirty := true }, .error e)

/-- The cache after the reply to a subscription is taken in. -/
def takeIn (r : Registry) (cache : StatusCache) (exchange : Exchange) : StatusCache :=
  match exchange.reply with
  | .ok result =>
    let (status, eventtime) := splitStatus result
    cache.absorb status eventtime (r.synced.getD ∅)
  | .error _ => cache

section

variable {r r' : Registry} {who : Subscriber} {changes : InterestChanges} {request : Interest}
  {exchanges : List Exchange}

theorem not_settled_iff :
    ¬r.Settled ↔ r.controlReady = true ∧ r.synced.getD ∅ ≠ r.composite
  := by
  unfold Settled Current
  rw [not_or, Bool.not_eq_false]

/-- Once the subscription is settled, the cache answers for everything that is asked for. -/
theorem cachedPart_of_settled (settled : r.Settled) (sound : r.table.Sound)
    (asked : ∀ object set, request.get? object = some set →
      r.table.asks who object = some set) :
    r.cachedPart request = ⟨r.known request, ∅⟩
  := by
  cases ready : r.controlReady with
  | false =>
    unfold cachedPart
    rw [ready]
    rfl
  | true =>
    have current : r.Current := settled.resolve_left (by simp [ready])
    apply cachedPart_of_covered ready
    intro object set selected
    obtain ⟨held, found, covers, -⟩ :=
      exists_covers_of_current sound current (asked object set selected)
    use held, found, covers

/-- Once the subscription is settled, the answer is at hand. -/
theorem subscribeEnds_of_settled {wanting : Registry} {dirty : Bool} {queries : List Exchange}
    {result : Registry × Except RelayError Snapshot} (settled : wanting.Settled)
    (sound : wanting.table.Sound)
    (asked : ∀ object set, request.get? object = some set →
      wanting.table.asks who object = some set)
    (answered : Dialogue.Ends
      (do
        let answer ← (Registry.cachedPart { wanting with dirty } request).complete
        pure ({ wanting with dirty }, answer))
      queries result) :
    SubscribeEnds wanting request queries result
  := by
  have settled' : Settled { wanting with dirty } := settled
  rw [cachedPart_of_settled settled' sound asked] at answered
  obtain ⟨rfl, rfl⟩ := Dialogue.ends_pure_iff.1 answered
  exact .spared settled dirty

/-- Once the changes are made, bringing the subscription up to date decides how it ends. -/
theorem subscribeEnds_of_synced {wanting synced : Registry} {calls queries : List Exchange}
    {outcome : Except RelayError Unit} {result : Registry × Except RelayError Snapshot}
    (sound : wanting.table.Sound)
    (asked : ∀ object set, request.get? object = some set →
      wanting.table.asks who object = some set)
    (ends : SyncEnds wanting calls (synced, outcome))
    (answered : Dialogue.Ends
      (match outcome with
      | .error e => pure (synced, .error e)
      | .ok () => do
        let answer ← (synced.cachedPart request).complete
        pure (synced, answer))
      queries result) :
    SubscribeEnds wanting request (calls ++ queries) result
  := by
  cases ends with
  | deferred unready => exact subscribeEnds_of_settled (.inl unready) sound asked answered
  | current ready current => exact subscribeEnds_of_settled (.inr current) sound asked answered
  | acknowledged ready stale reply =>
    have settled : (wanting.acknowledged wanting.composite reply).Settled := .inr rfl
    dsimp only at answered
    rw [cachedPart_of_settled settled sound asked] at answered
    obtain ⟨rfl, rfl⟩ := Dialogue.ends_pure_iff.1 answered
    exact .acknowledged (not_settled_iff.2 ⟨ready, stale⟩) reply
  | failed ready stale e =>
    obtain ⟨rfl, rfl⟩ := Dialogue.ends_pure_iff.1 answered
    exact .failed (not_settled_iff.2 ⟨ready, stale⟩) e

/-- Every subscription to a registry in step ends in one of these ways. -/
theorem subscribeEnds_of_ends {objects : Json} {result : Registry × Except RelayError Snapshot}
    (inStep : r.InStep) (sound : r.table.Sound) (parsed : parseSubscription objects = .ok changes)
    (ends : (r.subscribe who changes).Ends exchanges result) :
    SubscribeEnds { r with table := (r.table.apply who changes).2 } changes.selected exchanges
      result
  := by
  have sound' : (r.table.apply who changes).2.Sound := sound.perform (.apply who changes)
  have asked (object : String) (set : AttributeSet)
      (selected : changes.selected.get? object = some set) :
      (r.table.apply who changes).2.asks who object = some set
    := asks_of_selected (r := { r with table := (r.table.apply who changes).2 }) parsed rfl selected
  unfold subscribe at ends
  dsimp only at ends
  split at ends
  next changed =>
    obtain ⟨⟨r₁, outcome⟩, calls, queries, rfl, synced, answered⟩ := Dialogue.ends_bind_iff.1 ends
    exact subscribeEnds_of_synced sound' asked (syncEnds_of_ends synced) answered
  next unchanged =>
    obtain ⟨⟨r₁, outcome⟩, calls, queries, rfl, unsynced, answered⟩ :=
      Dialogue.ends_bind_iff.1 ends
    obtain ⟨rfl, same⟩ := Dialogue.ends_pure_iff.1 unsynced
    obtain ⟨rfl, rfl⟩ := Prod.mk.inj same
    rw [Bool.or_eq_true, not_or, SubscriptionTable.apply_fst_iff, not_not, Bool.not_eq_true]
      at unchanged
    have current : Current { r with table := (r.table.apply who changes).2 } :=
      (inStep.clean_iff.1 unchanged.2).trans unchanged.1.symm
    exact subscribeEnds_of_settled (.inr current) sound' asked answered

/-! ### What comes of a subscription -/

variable {wanting : Registry} {result : Except RelayError Snapshot}

theorem SubscribeEnds.kept (ends : SubscribeEnds wanting request exchanges (r', result)) :
    r'.table = wanting.table ∧ r'.cache = exchanges.foldl wanting.takeIn wanting.cache
  := by
  cases ends with
  | spared => exact ⟨rfl, rfl⟩
  | acknowledged => exact ⟨rfl, rfl⟩
  | failed => exact ⟨rfl, rfl⟩

/-- There is a call exactly if one is needed, and it is for everything that is wanted. -/
theorem SubscribeEnds.calls (ends : SubscribeEnds wanting request exchanges (r', result)) :
    exchanges.length ≤ 1 ∧
      (∀ exchange ∈ exchanges, exchange.call = subscribeCall wanting.composite) ∧
      (exchanges ≠ [] ↔ ¬wanting.Settled)
  := by
  cases ends with
  | spared settled =>
    use Nat.zero_le 1, List.forall_mem_nil _
    exact iff_of_false (· rfl) (· settled)
  | acknowledged unsettled =>
    use Nat.le_refl 1, List.forall_mem_singleton.2 rfl
    exact iff_of_true (List.cons_ne_nil _ _) unsettled
  | failed unsettled =>
    use Nat.le_refl 1, List.forall_mem_singleton.2 rfl
    exact iff_of_true (List.cons_ne_nil _ _) unsettled

/-- A subscription fails exactly if its call does. -/
theorem SubscribeEnds.error_iff (ends : SubscribeEnds wanting request exchanges (r', result))
    (e : RelayError) :
    result = .error e ↔ ∃ call, exchanges = [⟨call, .error e⟩]
  := by
  cases ends with
  | spared => simp
  | acknowledged => simp
  | failed => simp

/-- What a subscription gives is known when it ends. -/
theorem SubscribeEnds.ok {snapshot : Snapshot}
    (ends : SubscribeEnds wanting request exchanges (r', .ok snapshot)) :
    snapshot = r'.known request
  := by
  cases ends with
  | spared => rfl
  | acknowledged => rfl

end

/-- The interest in the power of the fan. -/
def fanPower : Interest := SortedMap.ofList [("fan", AttributeSet.ofNames ["power"])]

/-- The registry with the subscription of a second client, to the power. -/
def powered : Registry :=
  Registry.acknowledged
    { waiting.acknowledged fanSpeed (.object []) with
      table :=
        ⟨SortedMap.ofList [(.connection 1, fanSpeed), (.connection 2, fanPower)],
          fanPowerAndSpeed⟩ }
    fanPowerAndSpeed (fanAnswer [("power", .ofNat 7), ("speed", .ofNat 1)])

end ControlRelay.Registry
