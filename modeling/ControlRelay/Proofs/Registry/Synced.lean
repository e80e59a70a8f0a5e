import ControlRelay.Proofs.Registry.Moves

/-!
# The acknowledged subscription

Along every run, whatever the control process replies, the registry is clean exactly when the
subscription acknowledged last is the composite, and counts none as acknowledged while the
control process is not ready.  What it takes for acknowledged is what the history of the run
shows to be so.
-/

namespace ControlRelay.Registry

open Control (Call Exchange)

/-- Cleanness and the acknowledged subscription go together. -/
structure InStep (r : Registry) : Prop where
  clean_iff : r.dirty = false ↔ r.Current
  unready : r.controlReady = false → r.synced = none

theorem inStep_empty :
    InStep {}
  := by
  constructor
  · apply iff_of_true rfl
    rfl
  · intro
    rfl

/-- Bringing the subscription up to date puts the registry in step, clean or not. -/
theorem SyncEnds.inStep {r r' : Registry} {calls : List Exchange}
    {outcome : Except RelayError Unit} (unready : r.controlReady = false → r.synced = none)
    (ends : SyncEnds r calls (r', outcome)) :
    InStep r'
  := by
  cases ends with
  | deferred deferred =>
    constructor
    · have nothing := unready deferred
      apply Iff.trans _ (current_iff_isEmpty nothing).symm
      change (!r.composite.isEmpty || r.synced.isSome) = false ↔ r.composite.isEmpty = true
      simp [nothing]
    · apply unready
  | current ready current =>
    constructor
    · apply iff_of_true rfl current
    · apply unready
  | acknowledged ready stale result =>
    constructor
    · apply iff_of_true rfl
      rfl
    · intro stopped
      apply absurd ready
      apply ne_true_of_eq_false stopped
  | failed ready stale e =>
    constructor
    · apply iff_of_false _ stale
      rintro ⟨⟩
    · apply unready

theorem Moves.inStep {r r' : Registry} {operation : Operation} {exchanges : List Exchange}
    (inStep : InStep r) (moves : Moves r operation exchanges r') :
    InStep r'
  := by
  cases moves with
  | kept alike quiet heard =>
    constructor
    · rw [Current, alike.dirty, alike.synced, alike.composite]
      apply inStep.clean_iff
    · rw [alike.controlReady, alike.synced]
      apply inStep.unready
  | synced same ready ends quiet runs =>
    apply SyncEnds.inStep _ ends
    intro stopped
    rw [same]
    apply inStep.unready (ready stopped)
  | stopped stops =>
    constructor
    · rw [current_iff_isEmpty rfl]
      apply iff_of_eq (Bool.not_eq_false' r.composite.isEmpty)
    · intro
      rfl
  | readied unready clean empty runs =>
    constructor
    · apply inStep.clean_iff
    · rintro ⟨⟩

theorem Run.inStep {history : List Turn} {r : Registry} (run : Run history r) :
    InStep r
  := by
  induction run with
  | start => apply inStep_empty
  | turn run ends ih => apply (moves_of_perform ends).inStep ih

/-! ### What the history shows -/

/-- The subscription that was acknowledged last, after one more exchange. -/
def acknowledgedBy (last : Option Call) (exchange : Exchange) : Option Call :=
  match exchange.reply with
  | .ok _ => if exchange.call.method = Control.subscribeMethod then some exchange.call else last
  | .error _ => last

/-- The subscription that was acknowledged last in a history, none since the control process was
said not to be ready. -/
def lastAcknowledged : List Turn → Option Call
  | [] => none
  | turn :: earlier =>
    turn.exchanges.foldl acknowledgedBy
      (if turn.operation.stopsControl then none else lastAcknowledged earlier)

theorem foldl_acknowledgedBy_of_quiet {exchanges : List Exchange} (quiet : Quiet exchanges)
    (last : Option Call) :
    exchanges.foldl acknowledgedBy last = last
  := by
  induction exchanges with
  | nil => rfl
  | cons exchange rest ih =>
    obtain ⟨first, rest_quiet⟩ := List.forall_mem_cons.1 quiet
    have unchanged : acknowledgedBy last exchange = last := by
      unfold acknowledgedBy
      cases exchange.reply with
      | ok => apply if_neg first
      | error e => rfl
    rw [List.foldl_cons, unchanged, ih rest_quiet]

theorem SyncEnds.synced_eq {r r' : Registry} {calls : List Exchange}
    {outcome : Except RelayError Unit} (ends : SyncEnds r calls (r', outcome)) :
    r'.synced.map subscribeCall = calls.foldl acknowledgedBy (r.synced.map subscribeCall)
  := by
  cases ends with
  | deferred => rfl
  | current => rfl
  | acknowledged => rfl
  | failed => rfl

theorem Moves.synced_eq {r r' : Registry} {operation : Operation} {exchanges : List Exchange}
    (inStep : InStep r) (moves : Moves r operation exchanges r') :
    r'.synced.map subscribeCall =
      exchanges.foldl acknowledgedBy
        (if operation.stopsControl then none else r.synced.map subscribeCall)
  := by
  cases moves with
  | kept alike quiet heard =>
    rw [foldl_acknowledgedBy_of_quiet quiet, alike.synced]
    split
    next stops => rw [inStep.unready (heard stops), Option.map_none]
    next => rfl
  | synced same ready ends quiet runs =>
    rw [List.foldl_append, foldl_acknowledgedBy_of_quiet quiet, runs, ends.synced_eq, same]
    rfl
  | stopped stops =>
    rw [stops]
    rfl
  | readied unready clean empty runs =>
    rw [runs]
    rfl

/-- What the registry takes for acknowledged is what was acknowledged last. -/
theorem Run.synced_eq {history : List Turn} {r : Registry} (run : Run history r) :
    r.synced.map subscribeCall = lastAcknowledged history
  := by
  induction run with
  | start => rfl
  | turn run ends ih =>
    rw [(moves_of_perform ends).synced_eq run.inStep, ih]
    rfl

/-- Between the turns of a run the registry is clean exactly when the subscription acknowledged
last is the composite, and while the control process is not ready none counts as acknowledged.
Once it is ready, the composite was acknowledged since, or nothing is wanted or held, or the
registry is dirty. -/
theorem Run.clean_iff_acknowledged {history : List Turn} {r : Registry} (run : Run history r) :
    (r.dirty = false ↔ r.synced.getD ∅ = r.composite) ∧
      (r.controlReady = false → r.synced = none) ∧
      r.synced.map subscribeCall = lastAcknowledged history ∧
      (r.controlReady = true →
        lastAcknowledged history = some (subscribeCall r.composite) ∨
          lastAcknowledged history = none ∧ r.composite = ∅ ∨ r.dirty = true)
  := by
  and_intros
  · apply run.inStep.clean_iff
  · apply run.inStep.unready
  · apply run.synced_eq
  · intro ready
    cases dirty : r.dirty with
    | true => simp
    | false =>
      have current := run.inStep.clean_iff.1 dirty
      rw [← run.synced_eq]
      cases synced : r.synced with
      | none =>
        rw [Current, synced] at current
        right
        left
        use rfl, current.symm
      | some interest =>
        rw [Current, synced] at current
        left
        rw [← current]
        rfl

/-! ### A subscription that is tried again -/

/-- The interest in the speed of the fan. -/
def fanSpeed : Interest := SortedMap.ofList [("fan", AttributeSet.ofNames ["speed"])]

/-- The control process becomes ready. -/
def becomingReady : Turn where
  operation := .controlChanged ⟨.ready, ""⟩
  exchanges := []
  answer := .noted

/-- A subscription to the speed of the fan times out. -/
def timingOut : Turn where
  operation := .subscribe (.connection 1) (.object [("fan", .array [.string "speed"])])
  exchanges := [⟨subscribeCall fanSpeed, .error (.callTimeout Control.subscribeMethod)⟩]
  answer := .snapshot (.error (.callTimeout Control.subscribeMethod))

/-- The subscription is tried again and acknowledged. -/
def retrying : Turn where
  operation := .resync
  exchanges := [⟨subscribeCall fanSpeed, .ok (.object [])⟩]
  answer := .resynced true

/-- The registry after the time-out. -/
def waiting : Registry where
  table := ⟨SortedMap.ofList [(.connection 1, fanSpeed)], fanSpeed⟩
  dirty := true
  controlReady := true

theorem run_waiting :
    Run [timingOut, becomingReady] waiting
  := by
  have ready : Run [becomingReady] { controlReady := true } := .turn .start rfl
  apply Run.turn ready
  rfl

theorem run_retrying :
    Run [retrying, timingOut, becomingReady] (waiting.acknowledged fanSpeed (.object []))
  := by
  apply Run.turn run_waiting
  rfl

/-- Trying again makes the registry clean, and shows in the history. -/
theorem clean_iff_acknowledged_retrying :
    Run [retrying, timingOut, becomingReady] (waiting.acknowledged fanSpeed (.object [])) ∧
      (waiting.acknowledged fanSpeed (.object [])).dirty = false ∧
      lastAcknowledged [retrying, timingOut, becomingReady] = some (subscribeCall fanSpeed)
  := by
  obtain ⟨clean, -, acknowledged, -⟩ := run_retrying.clean_iff_acknowledged
  and_intros
  · apply run_retrying
  · apply clean.2 rfl
  · apply acknowledged.symm

end ControlRelay.Registry
