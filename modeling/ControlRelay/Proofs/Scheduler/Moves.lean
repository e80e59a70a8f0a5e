import ControlRelay.Proofs.Scheduler.System

/-!
# What an event does to a system

The steps of a scheduler are made of a few `Moves`: the queue is edited, a report is noted, the
active job is given up, a load chain is launched.  A chain that has taken no job is superseded,
goes on, or brings loading to its end, as `Prepares` lists.  Every event of a system comes down
to these, which is what `Goes` says.
-/

namespace ControlRelay.Scheduler

/-- What an operation makes of the queue, and how the clients are told. -/
inductive Edits (q : JobQueue) : Operation → String → JobQueue → Prop where
  | added {filenames : List String} {reset : Bool} {now : Float}
      (proper : properNames filenames ≠ []) :
      Edits q (.enqueue filenames reset now) "jobs_added"
        (q.enqueue (properNames filenames) reset now).2
  | cleared : Edits q (.remove none) "jobs_removed" q.clear.2
  | removed (ids : List JobId) : Edits q (.remove (some ids)) "jobs_removed" (q.remove ids).2
  | jumped {id : JobId} {queue : JobQueue} (jumped : q.jump? id = some queue) :
      Edits q (.jump id) "job_jumped" queue

/-- The scheduler without an active job. -/
def idle (s : Scheduler) (state : QueueState) : Scheduler :=
  { s.untracked with active := none, state }

/-- The moves of which the steps of a scheduler are made, by the event in which they occur. -/
inductive Moves (s : Scheduler) : Event → Step → Prop where
  | edited {operation : Operation} {action : String} {queue : JobQueue}
      (edits : Edits s.queue operation action queue) :
      Moves s (.performed operation)
        ({ s with queue }, [storing { s with queue }, announcing { s with queue } action true])
  | paused : Moves s (.performed .pause) s.pause
  /-- Loading goes on. -/
  | rearmed (unused : s.active = none) (paused : s.state = .paused) :
      Moves s (.performed .start)
        ({ s with state := .ready }, [announcingState { s with state := .ready }])
  | forgotten {event : Event} {job : Job} (active : s.active = some job)
      (rests : s.state = .ready ∨ s.state = .paused) : Moves s event (s.idle s.state, [])
  | printed (printState : String) :
      Moves s (.performed (.printStateChanged printState))
        ({ s with printState := some printState }, [])
  | seen (active : s.active.isSome = true) :
      Moves s (.performed (.printStateChanged "printing")) ({ s with seenPrinting := true }, [])
  | acknowledged {index : Nat} {reply : Reply} (active : s.active.isSome = true) :
      Moves s (.resumed index reply) ({ s with acknowledgedIn := some s.printState }, [])
  /-- The active job is over or lost, and loading pauses. -/
  | stopped {event : Event} {job : Job} (active : s.active = some job)
      (running : s.state ≠ .paused) (reason : Option String) :
      Moves s event (s.idle .paused, [(s.idle .paused).announcingState reason])
  /-- The active job is over, and no other waits. -/
  | finished {event : Event} {job : Job} (active : s.active = some job)
      (running : s.state ≠ .paused) (empty : s.queue.isEmpty = true) :
      Moves s event (s.idle .ready, [(s.idle .ready).announcingState])
  /-- The active job is over, and the next one is to follow. -/
  | followed {event : Event} {job : Job} (active : s.active = some job)
      (running : s.state ≠ .paused) (waiting : s.queue.isEmpty = false)
      (automatic : s.automatic = true) : Moves s event (s.idle .ready, [])
  /-- The active job goes back to the head of the queue. -/
  | returned {index : Nat} {reply : Reply} {job : Job} (active : s.isActive job = true)
      (error : RelayError) :
      Moves s (.resumed index reply) (s.failLoad s.epoch (some job) error)
  | launched {event : Event} (ready : s.state = .ready) (control : s.controlReady = true)
      (unused : s.active = none) (waiting : s.queue.isEmpty = false) :
      Moves s event
        ({ s with state := .loading, epoch := s.epoch + 1 },
          [announcingState { s with state := .loading, epoch := s.epoch + 1 },
            .launch (s.epoch + 1)])

/-- Some moves in an event lead from a scheduler to the end of a step. -/
inductive Leads (event : Event) (s : Scheduler) : Step → Prop where
  | stay : Leads event s (s, [])
  | move {between after : Scheduler} {effects more : List SchedulerEffect}
      (leads : Leads event s (between, effects)) (moves : Moves between event (after, more)) :
      Leads event s (after, effects ++ more)

/-! ### The steps of operations -/

section

variable {s between after : Scheduler} {event : Event} {effects more : List SchedulerEffect}

theorem Leads.trans (first : Leads event s (between, effects))
    (rest : Leads event between (after, more)) :
    Leads event s (after, effects ++ more)
  := by
  generalize ends : (after, more) = step at rest
  induction rest generalizing after more with
  | stay =>
    obtain ⟨rfl, rfl⟩ := Prod.mk.inj ends
    rw [List.append_nil]
    apply first
  | move leads moves ih =>
    obtain ⟨rfl, rfl⟩ := Prod.mk.inj ends
    rw [← List.append_assoc]
    apply Leads.move (ih rfl) moves

theorem Moves.leads {step : Step} (moves : Moves s event step) :
    Leads event s step
  := Leads.move .stay moves

theorem leads_tryLoad :
    Leads event s s.tryLoad
  := by
  unfold tryLoad
  split
  next permitted =>
    simp only [Bool.and_eq_true, decide_eq_true_eq, Option.isNone_iff_eq_none,
      Bool.not_eq_true'] at permitted
    obtain ⟨⟨⟨ready, control⟩, unused⟩, waiting⟩ := permitted
    apply (Moves.launched ready control unused waiting).leads
  next => apply Leads.stay

theorem Leads.thenTryLoad (leads : Leads event s (between, effects)) :
    Leads event s (between.thenTryLoad effects)
  := leads.trans leads_tryLoad

theorem leads_finishJob (printState : String) :
    Leads event s (s.finishJob printState)
  := by
  unfold finishJob
  split
  next => apply Leads.stay
  next job active =>
    dsimp only
    split
    next paused => apply (Moves.forgotten active (.inr paused)).leads
    next running =>
      have stopped (reason : Option String) :
          Leads event s (s.idle .paused, [(s.idle .paused).announcingState reason])
        := (Moves.stopped active running reason).leads
      split
      next => apply stopped
      next =>
        split
        next empty => apply (Moves.finished active running empty).leads
        next waiting =>
          split
          next automatic =>
            replace waiting := eq_false_of_ne_true waiting
            apply (Moves.followed active running waiting automatic).leads.thenTryLoad
          next => apply stopped

theorem leads_enqueue (filenames : List String) (reset : Bool) (now : Float) :
    Leads (.performed (.enqueue filenames reset now)) s (s.perform (.enqueue filenames reset now))
  := by
  dsimp only [perform, enqueue]
  split
  next => apply Leads.stay
  next proper =>
    have edited : Leads (.performed (.enqueue filenames reset now)) s _ :=
      (Moves.edited (.added proper)).leads
    apply edited.thenTryLoad

theorem leads_remove (selection : Selection) :
    Leads (.performed (.remove selection)) s (s.perform (.remove selection))
  := by
  cases selection with
  | none => apply (Moves.edited .cleared).leads
  | some ids => apply (Moves.edited (.removed ids)).leads

theorem leads_jump (id : JobId) :
    Leads (.performed (.jump id)) s (s.perform (.jump id))
  := by
  dsimp only [perform, jump]
  split
  next => apply Leads.stay
  next queue jumped => apply (Moves.edited (.jumped jumped)).leads

theorem leads_start :
    Leads (.performed .start) s (s.perform .start)
  := by
  dsimp only [perform, start]
  split
  next => apply Leads.stay
  next rests =>
    have rests : s.state = .ready ∨ s.state = .paused := by
      cases state : s.state <;> simp [state] at rests ⊢
    have forgets : Leads (.performed .start) s
          (if s.active.isSome = true then { s.untracked with active := none } else s, []) ∧
        (if s.active.isSome = true then { s.untracked with active := none } else s).active = none
      := by
      split
      next active =>
        obtain ⟨job, active⟩ := Option.isSome_iff_exists.1 active
        use (Moves.forgotten active rests).leads
      next inactive => use Leads.stay, by simpa using inactive
    generalize (if s.active.isSome = true then { s.untracked with active := none } else s) =
      between at forgets ⊢
    obtain ⟨forgets, unused⟩ := forgets
    split
    next paused => apply (forgets.move (.rearmed unused paused)).thenTryLoad
    next => apply forgets.thenTryLoad

theorem leads_printStateChanged (printState : String) :
    Leads (.performed (.printStateChanged printState)) s
      (s.perform (.printStateChanged printState))
  := by
  have printed := (Moves.printed (s := s) printState).leads
  dsimp only [perform, printStateChanged]
  split
  next printing =>
    subst printing
    split
    next active => apply printed.move (.seen active)
    next => apply printed
  next =>
    split
    next => apply printed
    next =>
      split
      next => apply printed.trans (leads_finishJob printState)
      next =>
        split
        next => apply printed.trans leads_tryLoad
        next => apply printed

/-- The scheduler that has heard a report about the control process. -/
def heard (s : Scheduler) : Operation → Scheduler
  | .controlChanged status => { s with controlReady := status.isReady }
  | _ => s

theorem leads_controlChanged (status : ControlStatus) :
    Leads (.performed (.controlChanged status)) (s.heard (.controlChanged status))
      (s.perform (.controlChanged status))
  := by
  dsimp only [perform, controlChanged, heard]
  split
  next same =>
    rw [same]
    apply Leads.stay
  next =>
    split
    next => apply leads_tryLoad
    next =>
      split
      next => apply Leads.stay
      next job active =>
        split
        next paused =>
          apply (Moves.forgotten (s := s.heard (.controlChanged status)) active (.inr paused)).leads
        next running =>
          apply (Moves.stopped (s := s.heard (.controlChanged status)) active running _).leads

theorem leads_perform (operation : Operation) :
    Leads (.performed operation) (s.heard operation) (s.perform operation)
  := by
  cases operation with
  | enqueue filenames reset now => apply leads_enqueue
  | remove selection => apply leads_remove
  | jump id => apply leads_jump
  | pause => apply Moves.paused.leads
  | start => apply leads_start
  | controlChanged status => apply leads_controlChanged
  | printStateChanged printState => apply leads_printStateChanged

end

/-! ### The steps of chains -/

/-- What a step of a chain that has not taken a job does, and the stage after it. -/
inductive Prepares (settings : Config.JobSettings) (s : Scheduler) (epoch : Nat)
    (stage : LoadStage) : Step → LoadStage → Prop where
  | superseded (stale : s.isCurrent epoch = false) : Prepares settings s epoch stage (s, []) .ended
  | continued {next : LoadStage} (current : s.isCurrent epoch = true) (printState : Option String)
      (phase : next.phase = .preparing) (closer : next.rank < stage.rank) :
      Prepares settings s epoch stage ({ s with printState }, []) next
  /-- The delay cannot be represented. -/
  | stuck (current : s.isCurrent epoch = true) (printState : Option String)
      (delay : settings.delayNanos? = none) :
      Prepares settings s epoch stage ({ s with printState }, []) .ended
  /-- The printer is busy, or no job is left. -/
  | deferred (current : s.isCurrent epoch = true) (printState : Option String) :
      Prepares settings s epoch stage
        ({ s with printState, state := .ready },
          [announcingState { s with printState, state := .ready }]) .ended
  | taken {job : Job} {queue : JobQueue} (current : s.isCurrent epoch = true)
      (popped : s.queue.popFront? = some (job, queue)) :
      Prepares settings s epoch stage (s.takeJob epoch).1 (.starting job)
  | failed (current : s.isCurrent epoch = true) (error : RelayError) :
      Prepares settings s epoch stage (s.failLoad epoch none error) .ended

section

variable {settings : Config.JobSettings} {s : Scheduler} {epoch : Nat} {stage : LoadStage}

/-- A print state is noted unless it is empty. -/
theorem noted_eq (s : Scheduler) (printState : String) :
    (if printState.isEmpty = true then s else { s with printState := some printState }) =
      { s with printState := if printState.isEmpty = true then s.printState else some printState }
  := by
  split <;> rfl

theorem prepares_checkPrinter (printState : String) :
    Prepares settings s epoch (.checking printState) (s.checkPrinter settings epoch printState).1
      (s.checkPrinter settings epoch printState).2
  := by
  unfold checkPrinter
  split
  next stale =>
    apply Prepares.superseded
    simpa using stale
  next current =>
    replace current : s.isCurrent epoch = true := by simpa using current
    dsimp only
    rw [noted_eq]
    split
    next =>
      split
      next delay => apply Prepares.stuck current _ delay
      next => apply Prepares.continued current _ rfl (by simp [LoadStage.rank])
      next => apply Prepares.continued current _ rfl (by simp [LoadStage.rank])
    next => apply Prepares.deferred current

theorem prepares_takeJob :
    Prepares settings s epoch stage (s.takeJob epoch).1 (s.takeJob epoch).2
  := by
  cases current : s.isCurrent epoch with
  | false =>
    simp only [takeJob, current]
    apply Prepares.superseded current
  | true =>
    cases popped : s.queue.popFront? with
    | none =>
      simp only [takeJob, current, popped]
      apply Prepares.deferred current s.printState
    | some taken =>
      obtain ⟨job, queue⟩ := taken
      have next : (s.takeJob epoch).2 = .starting job := by
        simp [takeJob, current, popped]
      rw [next]
      apply Prepares.taken current popped

theorem prepares_failLoad (error : RelayError) :
    Prepares settings s epoch stage (s.failLoad epoch none error) .ended
  := by
  cases current : s.isCurrent epoch with
  | false =>
    simp only [failLoad, current]
    apply Prepares.superseded current
  | true => apply Prepares.failed current

/-- Where a chain only looks whether it is current. -/
theorem prepares_of_looking (next : LoadStage) (phase : next.phase = .preparing)
    (closer : next.rank < stage.rank) :
    Prepares settings s epoch stage (s, []) (if s.isCurrent epoch = true then next else .ended)
  := by
  split
  next current => apply Prepares.continued current s.printState phase closer
  next stale =>
    apply Prepares.superseded
    simpa using stale

theorem prepares_chainStep (preparing : stage.phase = .preparing)
    (acts : stage.action settings = .step) :
    Prepares settings s epoch stage (s.chainStep settings epoch stage).1
      (s.chainStep settings epoch stage).2
  := by
  cases stage with
  | asking => cases acts
  | checking printState => apply prepares_checkPrinter
  | waiting nanos => cases acts
  | waited => apply prepares_of_looking .scripting rfl (by decide)
  | scripting =>
    dsimp only [LoadStage.action] at acts
    split at acts <;> cases acts
  | scripted => apply prepares_of_looking .taking rfl (by decide)
  | taking => apply prepares_takeJob
  | starting job => cases preparing
  | started job => cases preparing
  | failed job error =>
    cases job with
    | none => apply prepares_failLoad
    | some job => cases preparing
  | ended => cases preparing

/-- The step of a chain whose start call was answered is made of moves, and is its last. -/
theorem leads_chainStep (index : Nat) (reply : Reply) (starting : stage.phase = .starting)
    (acts : stage.action settings = .step) :
    Leads (.resumed index reply) s (s.chainStep settings epoch stage).1 ∧
      (s.chainStep settings epoch stage).2 = .ended
  := by
  cases stage with
  | starting job => cases acts
  | started job =>
    refine ⟨?_, rfl⟩
    dsimp only [chainStep, acknowledge]
    split
    next active =>
      have active : s.active.isSome = true := by
        cases found : s.active with
        | none => simp [isActive, found] at active
        | some job => rfl
      have acknowledged : Leads (.resumed index reply) s _ := (Moves.acknowledged active).leads
      split
      next => apply acknowledged.trans (leads_finishJob _)
      next => apply acknowledged
    next => apply Leads.stay
  | failed job error =>
    cases job with
    | none => cases starting
    | some job =>
      refine ⟨?_, rfl⟩
      cases active : s.isActive job with
      | false =>
        simp only [chainStep, failLoad, active]
        apply Leads.stay
      | true => apply (Moves.returned active error).leads
  | _ => cases starting

end

/-! ### The events of a system -/

namespace System

/-- What an event does to a system. -/
inductive Goes (settings : Config.JobSettings) (sys : System) :
    Event → System × List SchedulerEffect → Prop where
  | performed {operation : Operation} {step : Step}
      (leads : Leads (.performed operation) (sys.scheduler.heard operation) step) :
      Goes settings sys (.performed operation) (sys.stepped step, step.2)
  /-- The chain is over, or was never launched. -/
  | unmoved {index : Nat} {reply : Reply}
      (ended : ∀ chain, sys.chains[index]? = some chain → chain.stage = .ended) :
      Goes settings sys (.resumed index reply) (sys, [])
  /-- A chain goes on without a step of the scheduler. -/
  | moved {index : Nat} {reply : Reply} {chain : Chain} {stage : LoadStage}
      (launched : sys.chains[index]? = some chain) (phase : stage.phase = chain.stage.phase)
      (closer : stage.rank < chain.stage.rank) :
      Goes settings sys (.resumed index reply) (sys.moved index ⟨chain.epoch, stage⟩, [])
  | prepared {index : Nat} {reply : Reply} {chain : Chain} {step : Step} {stage : LoadStage}
      (launched : sys.chains[index]? = some chain) (preparing : chain.stage.phase = .preparing)
      (prepares : Prepares settings sys.scheduler chain.epoch chain.stage step stage) :
      Goes settings sys (.resumed index reply)
        ((sys.moved index ⟨chain.epoch, stage⟩).stepped step, step.2)
  | settled {index : Nat} {reply : Reply} {chain : Chain} {step : Step}
      (launched : sys.chains[index]? = some chain) (starting : chain.stage.phase = .starting)
      (leads : Leads (.resumed index reply) sys.scheduler step) :
      Goes settings sys (.resumed index reply)
        ((sys.moved index ⟨chain.epoch, .ended⟩).stepped step, step.2)

/-- Every event goes one of these ways. -/
theorem goes_next (settings : Config.JobSettings) (sys : System) (event : Event) :
    Goes settings sys event (sys.next settings event)
  := by
  cases event with
  | performed operation => apply Goes.performed (leads_perform operation)
  | resumed index reply =>
    dsimp only [next]
    split
    next chain launched =>
      unfold resume
      split
      next stops =>
        apply Goes.unmoved
        intro other found
        obtain rfl := Option.some.inj (launched.symm.trans found)
        apply LoadStage.ended_of_stop stops
      next proceeds =>
        obtain ⟨phase, closer⟩ := LoadStage.phase_and_rank_of_proceed proceeds
        apply Goes.moved launched phase closer
      next calls =>
        obtain ⟨phase, closer⟩ := LoadStage.phase_and_rank_answered calls reply
        apply Goes.moved launched phase closer
      next waits =>
        obtain ⟨phase, closer⟩ := LoadStage.phase_and_rank_elapsed waits
        apply Goes.moved launched phase closer
      next acts =>
        cases phase : chain.stage.phase with
        | preparing => apply Goes.prepared launched phase (prepares_chainStep phase acts)
        | starting =>
          obtain ⟨leads, ended⟩ := leads_chainStep index reply phase acts
          dsimp only
          rw [ended]
          apply Goes.settled launched phase leads
        | ended => apply absurd phase (LoadStage.ne_ended_of_step acts)
    next unlaunched =>
      apply Goes.unmoved
      rw [unlaunched]
      rintro _ ⟨⟩

end System

end ControlRelay.Scheduler
