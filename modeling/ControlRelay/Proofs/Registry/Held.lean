import ControlRelay.Proofs.Interest.AttributeSet
import ControlRelay.Proofs.Registry.Synced

/-!
# The subscription that the control process holds

The control process holds the objects of the last subscription that it processed.  It processed
one that it acknowledged and none that it refused; of one that failed in another way, say by a
time-out, the relay cannot know.  While the registry is clean, what is held is the composite
exactly if the last subscription processed was acknowledged.
-/

namespace ControlRelay.Registry

open Control (Exchange)

/-- The call names the objects of the composite, and no others. -/
theorem get?_objects_subscribeCall (composite : Interest) :
    (subscribeCall composite).params.get? "objects" = some composite.toJson
  := by
  have ordered (a b : Json) : Entries.Ordered [("objects", a), ("response_template", b)] := by
    simp only [Entries.Ordered, List.pairwise_pair]
    decide
  unfold subscribeCall Json.ofMembers
  rw [Json.get?, SortedMap.entries_ofList_of_ordered (ordered _ _), Entries.get?_cons_self]

/-- Calls that subscribe to different interests are different. -/
theorem subscribeCall_inj {a b : Interest} :
    subscribeCall a = subscribeCall b ↔ a = b
  := by
  constructor
  · intro same
    apply Interest.toJson_inj.1
    apply Option.some.inj
    rw [← get?_objects_subscribeCall, same, get?_objects_subscribeCall]
  · apply congrArg

/-- What the control process holds. -/
structure Held where
  objects : Interest := ∅
  /-- Whether the relay was told that these are held. -/
  acknowledged : Bool := true

namespace Held

/-- What an exchange can make of what is held. -/
inductive Takes (held : Held) (exchange : Exchange) : Held → Prop where
  | other (method : exchange.call.method ≠ Control.subscribeMethod) : Takes held exchange held
  | acknowledged {objects : Interest} {result : Json}
      (call : exchange.call = subscribeCall objects) (reply : exchange.reply = .ok result) :
      Takes held exchange ⟨objects, true⟩
  /-- A call that failed before the control process came to it, or because it was refused. -/
  | unprocessed {e : RelayError} (reply : exchange.reply = .error e) : Takes held exchange held
  /-- A call that failed although the control process had come to it. -/
  | processed {objects : Interest} {e : RelayError}
      (call : exchange.call = subscribeCall objects) (reply : exchange.reply = .error e)
      (unrefused : ∀ fault, e ≠ .controlFault fault) :
      Takes held exchange ⟨objects, false⟩

/-- What exchanges can make of what is held, one after the other. -/
def TakesAll (held : Held) : List Exchange → Held → Prop
  | [], after => after = held
  | exchange :: rest, after => ∃ between, held.Takes exchange between ∧ between.TakesAll rest after

/-- What is held when an operation begins.  A control process that is not ready any more may
forget its subscription, as the relay takes it to do, or keep it; then the relay is right about
an empty one only. -/
inductive Enters (held : Held) (operation : Operation) : Held → Prop where
  | runs (runs : operation.stopsControl = false) : Enters held operation held
  | forgets (stops : operation.stopsControl = true) : Enters held operation {}
  | keeps (stops : operation.stopsControl = true) :
      Enters held operation ⟨held.objects, held.objects.isEmpty⟩

/-- What can be held after the turns of a history. -/
inductive After : List Turn → Held → Prop where
  | start : After [] {}
  | turn {history : List Turn} {turn : Turn} {held entered after : Held}
      (before : After history held) (enters : held.Enters turn.operation entered)
      (takes : entered.TakesAll turn.exchanges after) : After (turn :: history) after

/-! ### What is known of it -/

/-- What is held is what counts as acknowledged exactly if the relay was told. -/
def Tracks (held : Held) (synced : Option Interest) : Prop :=
  held.acknowledged = true ↔ held.objects = synced.getD ∅

/-- When the control process stops being ready, nothing counts as acknowledged. -/
theorem Enters.tracks {held entered : Held} {operation : Operation} {synced : Option Interest}
    (tracks : held.Tracks synced) (enters : held.Enters operation entered) :
    entered.Tracks (if operation.stopsControl then none else synced)
  := by
  cases enters with
  | runs runs =>
    rw [runs]
    apply tracks
  | forgets stops =>
    rw [stops]
    apply iff_of_true rfl rfl
  | keeps stops =>
    rw [stops]
    apply SortedMap.isEmpty_iff

theorem takesAll_singleton {held after : Held} {exchange : Exchange} :
    held.TakesAll [exchange] after ↔ held.Takes exchange after
  := by
  constructor
  · rintro ⟨between, takes, rfl⟩
    apply takes
  · intro takes
    use after, takes
    rfl

theorem takesAll_append {held after : Held} {first rest : List Exchange} :
    held.TakesAll (first ++ rest) after ↔
      ∃ between, held.TakesAll first between ∧ between.TakesAll rest after
  := by
  induction first generalizing held with
  | nil => simp [TakesAll]
  | cons exchange first ih =>
    constructor
    · rintro ⟨between, takes, rest_takes⟩
      obtain ⟨middle, first_takes, rest_takes⟩ := ih.1 rest_takes
      use middle, ⟨between, takes, first_takes⟩
    · rintro ⟨middle, ⟨between, takes, first_takes⟩, rest_takes⟩
      use between, takes
      apply ih.2
      use middle

/-- Calls that do not subscribe change nothing. -/
theorem takesAll_of_quiet {held after : Held} {exchanges : List Exchange}
    (quiet : Quiet exchanges) :
    held.TakesAll exchanges after ↔ after = held
  := by
  induction exchanges with
  | nil => rfl
  | cons exchange rest ih =>
    obtain ⟨method, rest_quiet⟩ := List.forall_mem_cons.1 quiet
    constructor
    · rintro ⟨between, takes, rest_takes⟩
      have unchanged : between = held := by
        cases takes with
        | other => rfl
        | acknowledged call => apply absurd (congrArg Control.Call.method call) method
        | unprocessed => rfl
        | processed call => apply absurd (congrArg Control.Call.method call) method
      rw [unchanged] at rest_takes
      apply (ih rest_quiet).1 rest_takes
    · intro same
      use held, .other method, (ih rest_quiet).2 same

end Held

/-! ### Along a run -/

theorem SyncEnds.exists_takesAll {r r' : Registry} {calls : List Exchange}
    {outcome : Except RelayError Unit} (ends : SyncEnds r calls (r', outcome)) (held : Held) :
    ∃ after, held.TakesAll calls after
  := by
  cases ends with
  | deferred =>
    use held
    rfl
  | current =>
    use held
    rfl
  | acknowledged =>
    use ⟨r.composite, true⟩
    apply Held.takesAll_singleton.2 (.acknowledged rfl rfl)
  | failed =>
    use held
    apply Held.takesAll_singleton.2 (.unprocessed rfl)

theorem Moves.exists_takesAll {r r' : Registry} {operation : Operation}
    {exchanges : List Exchange} (moves : Moves r operation exchanges r') (held : Held) :
    ∃ after, held.TakesAll exchanges after
  := by
  cases moves with
  | kept alike quiet =>
    use held
    apply (Held.takesAll_of_quiet quiet).2 rfl
  | synced same ready ends quiet =>
    obtain ⟨between, called⟩ := ends.exists_takesAll held
    use between
    apply Held.takesAll_append.2
    use between, called
    apply (Held.takesAll_of_quiet quiet).2 rfl
  | stopped =>
    use held
    rfl
  | readied =>
    use held
    rfl

/-- Along every run the control process holds something. -/
theorem Run.exists_held {history : List Turn} {r : Registry} (run : Run history r) :
    ∃ held, Held.After history held
  := by
  induction run with
  | start => use {}, .start
  | @turn history r r' turn run ends ih =>
    obtain ⟨held, before⟩ := ih
    have enters : ∃ entered, held.Enters turn.operation entered := by
      cases stops : turn.operation.stopsControl with
      | true => use {}, .forgets stops
      | false => use held, .runs stops
    obtain ⟨entered, enters⟩ := enters
    obtain ⟨after, takes⟩ := (moves_of_perform ends).exists_takesAll entered
    use after, .turn before enters takes

/-- Bringing the subscription up to date keeps track of what is held. -/
theorem SyncEnds.tracks {r r' : Registry} {held after : Held} {calls : List Exchange}
    {outcome : Except RelayError Unit} (tracks : held.Tracks r.synced)
    (ends : SyncEnds r calls (r', outcome)) (takes : held.TakesAll calls after) :
    after.Tracks r'.synced
  := by
  cases ends with
  | deferred =>
    obtain rfl := takes
    apply tracks
  | current =>
    obtain rfl := takes
    apply tracks
  | acknowledged ready stale result =>
    cases Held.takesAll_singleton.1 takes with
    | other method => apply absurd rfl method
    | acknowledged call =>
      obtain rfl := subscribeCall_inj.1 call
      apply iff_of_true rfl rfl
    | unprocessed reply => cases reply
    | processed call reply => cases reply
  | failed ready stale e =>
    cases Held.takesAll_singleton.1 takes with
    | other method => apply absurd rfl method
    | acknowledged call reply => cases reply
    | unprocessed => apply tracks
    | processed call =>
      obtain rfl := subscribeCall_inj.1 call
      apply iff_of_false
      · rintro ⟨⟩
      · intro same
        apply stale same.symm

theorem Moves.tracks {r r' : Registry} {held entered after : Held} {operation : Operation}
    {exchanges : List Exchange} (inStep : InStep r) (tracks : held.Tracks r.synced)
    (moves : Moves r operation exchanges r') (enters : held.Enters operation entered)
    (takes : entered.TakesAll exchanges after) :
    after.Tracks r'.synced
  := by
  replace tracks := enters.tracks tracks
  cases moves with
  | kept alike quiet heard =>
    obtain rfl := (Held.takesAll_of_quiet quiet).1 takes
    rw [alike.synced]
    split at tracks
    next stops =>
      rw [inStep.unready (heard stops)]
      apply tracks
    next => apply tracks
  | synced same ready ends quiet runs =>
    obtain ⟨between, called, queried⟩ := Held.takesAll_append.1 takes
    obtain rfl := (Held.takesAll_of_quiet quiet).1 queried
    rw [runs, ← same] at tracks
    apply ends.tracks tracks called
  | stopped stops =>
    obtain rfl := takes
    rw [stops] at tracks
    apply tracks
  | readied unready clean empty runs =>
    obtain rfl := takes
    rw [runs] at tracks
    apply tracks

theorem Run.tracks {history : List Turn} {r : Registry} {held : Held} (run : Run history r)
    (after : Held.After history held) :
    held.Tracks r.synced
  := by
  induction run generalizing held with
  | start =>
    cases after
    apply iff_of_true rfl rfl
  | turn run ends ih =>
    cases after with
    | turn before enters takes =>
      apply (moves_of_perform ends).tracks run.inStep (ih before) enters takes

/-- While the registry is clean, the control process holds the composite exactly if the last
subscription that it processed was acknowledged. -/
theorem Run.held_eq_composite_iff {history : List Turn} {r : Registry} {held : Held}
    (run : Run history r) (after : Held.After history held) (clean : r.dirty = false) :
    held.objects = r.composite ↔ held.acknowledged = true
  := by
  rw [← run.inStep.clean_iff.1 clean]
  apply (run.tracks after).symm

/-- A subscription that timed out may have been processed. -/
theorem after_timingOut :
    Held.After [timingOut, becomingReady] ⟨fanSpeed, false⟩
  := by
  have ready : Held.After [becomingReady] {} := .turn .start (.runs rfl) rfl
  apply Held.After.turn ready (.runs rfl)
  apply Held.takesAll_singleton.2
  apply Held.Takes.processed rfl rfl
  rintro _ ⟨⟩

/-- The subscription that was tried again is the one held. -/
theorem held_eq_composite_retrying :
    Run [retrying, timingOut, becomingReady] (waiting.acknowledged fanSpeed (.object [])) ∧
      Held.After [retrying, timingOut, becomingReady] ⟨fanSpeed, true⟩ ∧
      fanSpeed = (waiting.acknowledged fanSpeed (.object [])).composite
  := by
  have after : Held.After [retrying, timingOut, becomingReady] ⟨fanSpeed, true⟩ := by
    apply Held.After.turn after_timingOut (.runs rfl)
    apply Held.takesAll_singleton.2
    apply Held.Takes.acknowledged rfl rfl
  and_intros
  · apply run_retrying
  · apply after
  · apply (run_retrying.held_eq_composite_iff after rfl).2 rfl

/-- The subscriber leaves. -/
def removing : Turn where
  operation := .remove (.connection 1)
  exchanges := []
  answer := .removed true

/-- When the subscriber leaves after a time-out, the registry is clean without any call, although
the control process may hold the subscription that timed out. -/
theorem held_ne_composite_removing :
    ∃ r held, Run [removing, timingOut, becomingReady] r ∧
      Held.After [removing, timingOut, becomingReady] held ∧
      r.controlReady = true ∧ r.dirty = false ∧ held.objects ≠ r.composite
  := by
  use { controlReady := true }, ⟨fanSpeed, false⟩
  and_intros
  · apply Run.turn run_waiting
    rfl
  · apply Held.After.turn after_timingOut (.runs rfl)
    rfl
  · rfl
  · rfl
  · decide

end ControlRelay.Registry
