import ControlRelay.Proofs.Interest.Update
import ControlRelay.Proofs.Registry.Run

/-!
# What a turn does to the subscription

`SyncEnds` lists the ends of `Registry.sync` and `Moves` those of a turn: it leaves the
subscription alone, brings it up to date, or hears that the control process stopped or became
ready.  Every operation makes one of these moves, whatever the control process replies.
-/

namespace ControlRelay.Registry

open Control (Call Dialogue Exchange)

/-- None of the calls subscribes. -/
def Quiet (exchanges : List Exchange) : Prop :=
  ∀ exchange ∈ exchanges, exchange.call.method ≠ Control.subscribeMethod

theorem quiet_nil :
    Quiet []
  := by
  rintro _ ⟨⟩

/-- A single call that does not subscribe. -/
theorem quiet_of_ask {α : Type} {call : Call} {next : Reply → Dialogue α}
    {exchanges : List Exchange} {result : α} (method : call.method ≠ Control.subscribeMethod)
    (last : ∀ reply, ∃ a, next reply = .done a)
    (ends : (Dialogue.ask call next).Ends exchanges result) :
    Quiet exchanges
  := by
  obtain ⟨reply, rest, rfl, answered⟩ := Dialogue.ends_ask_iff.1 ends
  obtain ⟨a, done⟩ := last reply
  rw [done] at answered
  obtain ⟨rfl, -⟩ := Dialogue.ends_pure_iff.1 answered
  intro exchange mem
  obtain rfl := List.mem_singleton.1 mem
  apply method

/-! ### The ends of `sync` -/

/-- The acknowledged subscription is the one wanted. -/
def Current (r : Registry) : Prop := r.synced.getD ∅ = r.composite

/-- How bringing the subscription of `r` up to date ends. -/
inductive SyncEnds (r : Registry) :
    List Exchange → Registry × Except RelayError Unit → Prop where
  /-- It waits for the control process to be ready. -/
  | deferred (unready : r.controlReady = false) :
      SyncEnds r [] ({ r with dirty := !r.composite.isEmpty || r.synced.isSome }, .ok ())
  | current (ready : r.controlReady = true) (current : r.Current) :
      SyncEnds r [] ({ r with dirty := false }, .ok ())
  | acknowledged (ready : r.controlReady = true) (stale : ¬r.Current) (result : Json) :
      SyncEnds r [⟨subscribeCall r.composite, .ok result⟩]
        (r.acknowledged r.composite result, .ok ())
  | failed (ready : r.controlReady = true) (stale : ¬r.Current) (e : RelayError) :
      SyncEnds r [⟨subscribeCall r.composite, .error e⟩] ({ r with dirty := true }, .error e)

/-- Where nothing was acknowledged, nothing must be wanted. -/
theorem current_iff_isEmpty {r : Registry} (nothing : r.synced = none) :
    r.Current ↔ r.composite.isEmpty = true
  := by
  rw [Current, nothing]
  apply eq_comm.trans SortedMap.isEmpty_iff.symm

/-- The test by which `sync` spares the call. -/
theorem current_iff (r : Registry) :
    (r.synced = some r.composite || r.synced.isNone && r.composite.isEmpty) = true ↔ r.Current
  := by
  cases synced : r.synced with
  | none =>
    rw [current_iff_isEmpty synced]
    simp
  | some interest =>
    rw [Current, synced]
    simp

theorem syncEnds_of_ends {r : Registry} {exchanges : List Exchange}
    {result : Registry × Except RelayError Unit} (ends : r.sync.Ends exchanges result) :
    SyncEnds r exchanges result
  := by
  unfold sync at ends
  split at ends
  next unready =>
    obtain ⟨rfl, rfl⟩ := Dialogue.ends_pure_iff.1 ends
    apply SyncEnds.deferred
    simpa using unready
  next ready =>
    replace ready : r.controlReady = true := by simpa using ready
    split at ends
    next current =>
      obtain ⟨rfl, rfl⟩ := Dialogue.ends_pure_iff.1 ends
      apply SyncEnds.current ready (r.current_iff.1 current)
    next stale =>
      replace stale := mt r.current_iff.2 stale
      obtain ⟨reply, rest, rfl, answered⟩ := Dialogue.ends_ask_iff.1 ends
      cases reply with
      | ok result =>
        obtain ⟨rfl, rfl⟩ := Dialogue.ends_pure_iff.1 answered
        apply SyncEnds.acknowledged ready stale
      | error e =>
        obtain ⟨rfl, rfl⟩ := Dialogue.ends_pure_iff.1 answered
        apply SyncEnds.failed ready stale

/-! ### What a turn does -/

/-- Whether the registry is told that the control process is not ready. -/
def Operation.stopsControl : Operation → Bool
  | .controlChanged status => !status.isReady
  | _ => false

/-- The subscription is the same, as it is wanted and as it was acknowledged. -/
structure Alike (r r' : Registry) : Prop where
  composite : r'.composite = r.composite
  synced : r'.synced = r.synced
  dirty : r'.dirty = r.dirty
  controlReady : r'.controlReady = r.controlReady

theorem Alike.refl (r : Registry) :
    Alike r r
  := ⟨rfl, rfl, rfl, rfl⟩

/-- A table with the same composite makes no difference. -/
theorem alike_of_composite {r : Registry} {table : SubscriptionTable Subscriber}
    (same : table.composite = r.composite) :
    Alike r { r with table }
  := ⟨same, rfl, rfl, rfl⟩

/-- What the performance of an operation does to the subscription of `r`. -/
inductive Moves (r : Registry) : Operation → List Exchange → Registry → Prop where
  | kept {operation : Operation} {exchanges : List Exchange} {r' : Registry}
      (alike : Alike r r') (quiet : Quiet exchanges)
      (heard : operation.stopsControl = true → r.controlReady = false) :
      Moves r operation exchanges r'
  /-- The registry, with other interests or with the control process just ready, brings the
  subscription up to date; queries may follow. -/
  | synced {operation : Operation} {calls queries : List Exchange} {wanting r' : Registry}
      {outcome : Except RelayError Unit} (same : wanting.synced = r.synced)
      (ready : wanting.controlReady = false → r.controlReady = false)
      (ends : SyncEnds wanting calls (r', outcome)) (quiet : Quiet queries)
      (runs : operation.stopsControl = false) :
      Moves r operation (calls ++ queries) r'
  | stopped {operation : Operation} (stops : operation.stopsControl = true) :
      Moves r operation []
        { r with
          controlReady := false
          cache := r.cache.clear
          synced := none
          dirty := !r.composite.isEmpty }
  /-- The control process became ready, and nothing is wanted of it. -/
  | readied {operation : Operation} (unready : r.controlReady = false)
      (clean : r.dirty = false) (empty : r.composite = ∅)
      (runs : operation.stopsControl = false) :
      Moves r operation [] { r with controlReady := true }

theorem moves_of_alike {r r' : Registry} {operation : Operation} {exchanges : List Exchange}
    (alike : Alike r r') (quiet : Quiet exchanges) (runs : operation.stopsControl = false) :
    Moves r operation exchanges r'
  := by
  apply Moves.kept alike quiet
  rw [runs]
  rintro ⟨⟩

/-- Completing a snapshot only queries. -/
theorem quiet_of_complete {p : PartialSnapshot} {exchanges : List Exchange}
    {result : Except RelayError Snapshot} (ends : p.complete.Ends exchanges result) :
    Quiet exchanges
  := by
  unfold PartialSnapshot.complete at ends
  split at ends
  · obtain ⟨rfl, -⟩ := Dialogue.ends_pure_iff.1 ends
    apply quiet_nil
  · apply quiet_of_ask _ _ ends
    · dsimp only
      decide
    · rintro (e | result)
      · use .error e
      · use .ok (p.fill result)

theorem quiet_of_listObjects {exchanges : List Exchange} {reply : Reply}
    (ends : listObjects.Ends exchanges reply) :
    Quiet exchanges
  := by
  apply quiet_of_ask _ _ ends
  · decide
  · rintro (e | result)
    · use .error e
    · use .ok ((result.get? "objects").getD result)

/-- Once the subscription is settled, `subscribe` only queries. -/
theorem quiet_of_answered {r r' : Registry} {outcome : Except RelayError Unit}
    {request : Interest} {queries : List Exchange} {snapshot : Except RelayError Snapshot}
    (ends : Dialogue.Ends
      (match outcome with
      | .error e => pure (r, .error e)
      | .ok () => do
        let answer ← (r.cachedPart request).complete
        pure (r, answer))
      queries (r', snapshot)) :
    Quiet queries ∧ r' = r
  := by
  cases outcome with
  | error e =>
    obtain ⟨rfl, same⟩ := Dialogue.ends_pure_iff.1 ends
    use quiet_nil, congrArg Prod.fst same
  | ok =>
    obtain ⟨answer, completed, same⟩ := Dialogue.ends_of_last (fun _ => ⟨_, rfl⟩) ends
    obtain ⟨rfl, -⟩ := Prod.mk.inj (Dialogue.done.inj same)
    use quiet_of_complete completed

theorem moves_of_subscribe {r r' : Registry} {operation : Operation} {who : Subscriber}
    {changes : InterestChanges} {exchanges : List Exchange}
    {snapshot : Except RelayError Snapshot} (runs : operation.stopsControl = false)
    (ends : (r.subscribe who changes).Ends exchanges (r', snapshot)) :
    Moves r operation exchanges r'
  := by
  unfold subscribe at ends
  dsimp only at ends
  split at ends
  next changed =>
    obtain ⟨⟨r₁, outcome⟩, calls, queries, rfl, synced, answered⟩ :=
      Dialogue.ends_bind_iff.1 ends
    obtain ⟨quiet, rfl⟩ := quiet_of_answered answered
    apply Moves.synced _ _ (syncEnds_of_ends synced) quiet runs
    · rfl
    · apply id
  next unchanged =>
    obtain ⟨⟨r₁, outcome⟩, calls, queries, rfl, unsynced, answered⟩ :=
      Dialogue.ends_bind_iff.1 ends
    obtain ⟨quiet, rfl⟩ := quiet_of_answered answered
    obtain ⟨rfl, same⟩ := Dialogue.ends_pure_iff.1 unsynced
    obtain ⟨rfl, rfl⟩ := Prod.mk.inj same
    rw [Bool.or_eq_true, not_or, SubscriptionTable.apply_fst_iff, not_not] at unchanged
    apply moves_of_alike (alike_of_composite unchanged.1) quiet runs

theorem moves_of_remove {r r' : Registry} {operation : Operation} {who : Subscriber}
    {exchanges : List Exchange} {hadInterest : Bool} (runs : operation.stopsControl = false)
    (ends : (r.remove who).Ends exchanges (r', hadInterest)) :
    Moves r operation exchanges r'
  := by
  unfold remove at ends
  dsimp only at ends
  split at ends
  next changed =>
    obtain ⟨⟨r₁, outcome⟩, synced, same⟩ := Dialogue.ends_of_last (fun _ => ⟨_, rfl⟩) ends
    obtain ⟨rfl, -⟩ := Prod.mk.inj (Dialogue.done.inj same)
    rw [← List.append_nil exchanges]
    apply Moves.synced _ _ (syncEnds_of_ends synced) quiet_nil runs
    · rfl
    · apply id
  next unchanged =>
    obtain ⟨rfl, same⟩ := Dialogue.ends_pure_iff.1 ends
    obtain ⟨rfl, -⟩ := Prod.mk.inj same
    rw [SubscriptionTable.removeClient_fst_iff, not_not] at unchanged
    apply moves_of_alike (alike_of_composite unchanged) quiet_nil runs

theorem moves_of_controlChanged {r r' : Registry} {status : ControlStatus}
    {exchanges : List Exchange} (ends : (r.controlChanged status).Ends exchanges r') :
    Moves r (.controlChanged status) exchanges r'
  := by
  unfold controlChanged at ends
  split at ends
  next same =>
    obtain ⟨rfl, rfl⟩ := Dialogue.ends_pure_iff.1 ends
    apply Moves.kept (.refl r') quiet_nil
    intro stops
    rw [← same]
    simpa [Operation.stopsControl] using stops
  next other =>
    split at ends
    next stops =>
      obtain ⟨rfl, rfl⟩ := Dialogue.ends_pure_iff.1 ends
      apply Moves.stopped
      apply stops
    next runs =>
      rw [Bool.not_eq_true, Bool.not_eq_false'] at runs
      rw [runs, eq_comm, Bool.not_eq_true] at other
      replace runs : (Operation.controlChanged status).stopsControl = false :=
        congrArg Bool.not runs
      dsimp only at ends
      split at ends
      next wanted =>
        obtain ⟨⟨r₁, outcome⟩, synced, same⟩ := Dialogue.ends_of_last (fun _ => ⟨_, rfl⟩) ends
        obtain rfl := Dialogue.done.inj same
        rw [← List.append_nil exchanges]
        apply Moves.synced _ _ (syncEnds_of_ends synced) quiet_nil runs
        · rfl
        · rintro ⟨⟩
      next unwanted =>
        obtain ⟨rfl, rfl⟩ := Dialogue.ends_pure_iff.1 ends
        rw [Bool.or_eq_true, not_or, Bool.not_eq_true, Bool.not_eq_true, Bool.not_eq_false']
          at unwanted
        apply Moves.readied other unwanted.1 (SortedMap.isEmpty_iff.1 unwanted.2) runs

theorem moves_of_resync {r r' : Registry} {operation : Operation} {exchanges : List Exchange}
    {clean : Bool} (runs : operation.stopsControl = false)
    (ends : r.resync.Ends exchanges (r', clean)) :
    Moves r operation exchanges r'
  := by
  unfold resync at ends
  split at ends
  next =>
    obtain ⟨rfl, same⟩ := Dialogue.ends_pure_iff.1 ends
    obtain ⟨rfl, -⟩ := Prod.mk.inj same
    apply moves_of_alike (.refl r') quiet_nil runs
  next =>
    obtain ⟨⟨r₁, outcome⟩, synced, same⟩ :=
      Dialogue.ends_of_last (by rintro ⟨r₁, e | _⟩ <;> exact ⟨_, rfl⟩) ends
    have unchanged : r₁ = r' := by
      cases outcome with
      | error e => apply congrArg Prod.fst (Dialogue.done.inj same)
      | ok => apply congrArg Prod.fst (Dialogue.done.inj same)
    obtain rfl := unchanged
    rw [← List.append_nil exchanges]
    apply Moves.synced _ _ (syncEnds_of_ends synced) quiet_nil runs
    · rfl
    · apply id

theorem moves_of_answerQuery {r r' : Registry} {operation : Operation}
    {request : Except InterestError Interest} {exchanges : List Exchange} {answer : Answer}
    (runs : operation.stopsControl = false)
    (ends : (r.answerQuery request).Ends exchanges (r', answer)) :
    Moves r operation exchanges r'
  := by
  cases request with
  | error e =>
    obtain ⟨rfl, same⟩ := Dialogue.ends_pure_iff.1 ends
    obtain ⟨rfl, -⟩ := Prod.mk.inj same
    apply moves_of_alike (.refl r') quiet_nil runs
  | ok request =>
    obtain ⟨snapshot, completed, same⟩ := Dialogue.ends_of_last (fun _ => ⟨_, rfl⟩) ends
    obtain ⟨rfl, -⟩ := Prod.mk.inj (Dialogue.done.inj same)
    apply moves_of_alike (.refl r) (quiet_of_complete completed) runs

/-- Every turn makes one of the moves. -/
theorem moves_of_perform {r r' : Registry} {operation : Operation} {exchanges : List Exchange}
    {answer : Answer} (ends : (r.perform operation).Ends exchanges (r', answer)) :
    Moves r operation exchanges r'
  := by
  cases operation with
  | subscribe who objects =>
    dsimp only [perform] at ends
    split at ends
    next =>
      obtain ⟨rfl, same⟩ := Dialogue.ends_pure_iff.1 ends
      obtain ⟨rfl, -⟩ := Prod.mk.inj same
      apply moves_of_alike (.refl r') quiet_nil rfl
    next =>
      obtain ⟨⟨r₁, snapshot⟩, performed, same⟩ := Dialogue.ends_of_last (fun _ => ⟨_, rfl⟩) ends
      obtain ⟨rfl, -⟩ := Prod.mk.inj (Dialogue.done.inj same)
      apply moves_of_subscribe rfl performed
  | remove who =>
    obtain ⟨⟨r₁, hadInterest⟩, performed, same⟩ := Dialogue.ends_of_last (fun _ => ⟨_, rfl⟩) ends
    obtain ⟨rfl, -⟩ := Prod.mk.inj (Dialogue.done.inj same)
    apply moves_of_remove rfl performed
  | push status eventtime =>
    obtain ⟨rfl, same⟩ := Dialogue.ends_pure_iff.1 ends
    obtain ⟨rfl, -⟩ := Prod.mk.inj same
    apply moves_of_alike _ quiet_nil rfl
    constructor <;> rfl
  | controlChanged status =>
    obtain ⟨r₁, performed, same⟩ := Dialogue.ends_of_last (fun _ => ⟨_, rfl⟩) ends
    obtain ⟨rfl, -⟩ := Prod.mk.inj (Dialogue.done.inj same)
    apply moves_of_controlChanged performed
  | resync =>
    obtain ⟨⟨r₁, clean⟩, performed, same⟩ := Dialogue.ends_of_last (fun _ => ⟨_, rfl⟩) ends
    obtain ⟨rfl, -⟩ := Prod.mk.inj (Dialogue.done.inj same)
    apply moves_of_resync rfl performed
  | query objects => apply moves_of_answerQuery rfl ends
  | peek objects => apply moves_of_answerQuery rfl ends
  | listObjects =>
    obtain ⟨reply, asked, same⟩ := Dialogue.ends_of_last (fun _ => ⟨_, rfl⟩) ends
    obtain ⟨rfl, -⟩ := Prod.mk.inj (Dialogue.done.inj same)
    apply moves_of_alike (.refl r) (quiet_of_listObjects asked) rfl

end ControlRelay.Registry
