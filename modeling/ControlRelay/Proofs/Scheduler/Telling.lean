import ControlRelay.Proofs.Scheduler.Holding
import ControlRelay.Proofs.Scheduler.Readiness

/-!
# What clients are told

Every event that clients are told of carries the state of the scheduler, and those about the queue
carry the jobs that wait.  A client that goes by the last event knows the state, and one that goes
by the last jobs told knows which wait.  There is one exception: when a job has ended well while
the control process is not ready, the scheduler is ready again without telling anybody, since the
next load, which would be told, is put off.
-/

namespace ControlRelay

/-- The event that clients are told of, if any. -/
def SchedulerEffect.event? : SchedulerEffect → Option QueueEvent
  | announce event => some event
  | _ => none

namespace Scheduler

/-- The events that clients are told of, in order. -/
def told (effects : List SchedulerEffect) : List QueueEvent :=
  effects.filterMap SchedulerEffect.event?

/-- The state that clients were told last. -/
def lastState? (effects : List SchedulerEffect) : Option QueueState :=
  (told effects).getLast?.map QueueEvent.state

/-- The jobs that clients were told last. -/
def lastJobs? (effects : List SchedulerEffect) : Option (List Job) :=
  ((told effects).filterMap QueueEvent.queue).getLast?

theorem lastState?_append (effects more : List SchedulerEffect) :
    lastState? (effects ++ more) = (lastState? more).or (lastState? effects)
  := by
  simp [lastState?, told, List.getLast?_append, Option.map_or]

theorem lastJobs?_append (effects more : List SchedulerEffect) :
    lastJobs? (effects ++ more) = (lastJobs? more).or (lastJobs? effects)
  := by
  simp [lastJobs?, told, List.getLast?_append]

theorem lastState?_eq_none_iff {effects : List SchedulerEffect} :
    lastState? effects = none ↔ told effects = []
  := by
  simp [lastState?]

/-! ### Steps that tell what they change -/

/-- After a step the state and the jobs are as told last, or as before if nothing was told of
them. -/
structure Tells (s : Scheduler) (step : Step) : Prop where
  state : (lastState? step.2).getD s.state = step.1.state
  jobs : (lastJobs? step.2).getD s.queue.jobs = step.1.queue.jobs

section

variable {s between after : Scheduler} {effects more : List SchedulerEffect}

theorem Tells.refl (s : Scheduler) :
    Tells s (s, [])
  := by
  constructor <;> rfl

theorem Tells.trans (first : Tells s (between, effects)) (rest : Tells between (after, more)) :
    Tells s (after, effects ++ more)
  := by
  constructor
  · rw [lastState?_append, Option.getD_or, first.state, rest.state]
  · rw [lastJobs?_append, Option.getD_or, first.jobs, rest.jobs]

theorem tells_tryLoad (s : Scheduler) :
    Tells s s.tryLoad
  := by
  unfold tryLoad
  split
  next => constructor <;> rfl
  next => apply Tells.refl

theorem Tells.thenTryLoad (tells : Tells s (between, effects)) :
    Tells s (between.thenTryLoad effects)
  := tells.trans (tells_tryLoad between)

/-- Loading goes on by itself, but has to wait for the control process. -/
structure Strands (s : Scheduler) : Prop where
  running : s.state ≠ .paused
  waiting : s.queue.isEmpty = false
  automatic : s.automatic = true
  unready : s.controlReady = false

/-- Whatever the print state is, and was when the start of a job was acknowledged. -/
theorem strands_noted_iff {printState : Option String} {acknowledgedIn : Option (Option String)} :
    Strands { s with printState, acknowledgedIn } ↔ Strands s
  := by
  constructor
  · intro strands
    use strands.running, strands.waiting, strands.automatic, strands.unready
  · intro strands
    use strands.running, strands.waiting, strands.automatic, strands.unready

theorem tells_finishJob {printState : String} (proceeds : printState = "complete" → ¬Strands s) :
    Tells s (s.finishJob printState)
  := by
  unfold finishJob
  split
  next => apply Tells.refl
  next job active =>
    dsimp only
    split
    next => constructor <;> rfl
    next running =>
      split
      next => constructor <;> rfl
      next complete =>
        split
        next => constructor <;> rfl
        next waiting =>
          replace waiting := eq_false_of_ne_true waiting
          split
          next automatic =>
            -- Only the next load tells that this one is over, so it must not be put off.
            have control : s.controlReady = true := by
              by_contra unready
              apply proceeds (not_not.1 complete)
              use running, waiting, automatic, eq_false_of_ne_true unready
            simp only [tryLoad, untracked, control, show s.queue.isEmpty = false from waiting]
            constructor <;> rfl
          next => constructor <;> rfl

theorem tells_enqueue (filenames : List String) (reset : Bool) (now : Float) :
    Tells s (s.perform (.enqueue filenames reset now))
  := by
  dsimp only [perform, enqueue]
  split
  next => apply Tells.refl
  next =>
    apply Tells.thenTryLoad
    constructor <;> rfl

theorem tells_jump (id : JobId) :
    Tells s (s.perform (.jump id))
  := by
  dsimp only [perform, jump]
  split
  next => apply Tells.refl
  next => constructor <;> rfl

theorem tells_start (s : Scheduler) :
    Tells s (s.perform .start)
  := by
  dsimp only [perform, start]
  split
  next => apply Tells.refl
  next =>
    have forgets : Tells s
        (if s.active.isSome = true then { s.untracked with active := none } else s, [])
      := by
      split
      next => constructor <;> rfl
      next => apply Tells.refl
    generalize (if s.active.isSome = true then { s.untracked with active := none } else s) =
      forgot at forgets ⊢
    split
    next =>
      have rearmed : Tells forgot
          ({ forgot with state := .ready }, [announcingState { forgot with state := .ready }])
        := by
        constructor <;> rfl
      apply (forgets.trans rearmed).thenTryLoad
    next => apply forgets.thenTryLoad

theorem tells_controlChanged (status : ControlStatus) :
    Tells s (s.controlChanged status)
  := by
  have noted : Tells s ({ s with controlReady := status.isReady }, []) := by
    constructor <;> rfl
  dsimp only [controlChanged]
  split
  next => apply Tells.refl
  next =>
    split
    next => apply noted.trans (tells_tryLoad _)
    next =>
      split
      next => apply noted
      next => split <;> constructor <;> rfl

/-- When a job has ended well and the next load is put off, nothing is told. -/
theorem Strands.finishJob (strands : Strands s) {job : Job} (active : s.active = some job) :
    s.finishJob "complete" = (s.idle .ready, [])
  := by
  have running : s.state ≠ .paused := strands.running
  have waiting : s.queue.isEmpty = false := strands.waiting
  simp [Scheduler.finishJob, active, untracked, running, waiting, strands.automatic, tryLoad,
    strands.unready, idle]

end

namespace System

/-- The events in which a job ends well and the next load is put off. -/
inductive Silences (sys : System) : Event → Prop where
  /-- The printer reports that it has completed the job. -/
  | reported (strands : Strands sys.scheduler)
      (ended : jobEnded { sys.scheduler with printState := some "complete" } = true) :
      Silences sys (.performed (.printStateChanged "complete"))
  /-- The start is acknowledged, and the printer has completed the job before. -/
  | acknowledged {index : Nat} {reply : Reply} {job : Job} (strands : Strands sys.scheduler)
      (started : sys.stage? index = some (.started job))
      (active : sys.scheduler.isActive job = true)
      (complete : sys.scheduler.printState = some "complete")
      (ended : jobEnded
        { sys.scheduler with acknowledgedIn := some sys.scheduler.printState } = true) :
      Silences sys (.resumed index reply)

section

variable {settings : Config.JobSettings} {sys : System} {event : Event}

/-! ### The steps of operations and chains -/

theorem tells_printStateChanged {printState : String}
    (told : ¬Silences sys (.performed (.printStateChanged printState))) :
    Tells sys.scheduler (sys.scheduler.printStateChanged printState)
  := by
  have noted : Tells sys.scheduler ({ sys.scheduler with printState := some printState }, []) := by
    constructor <;> rfl
  dsimp only [printStateChanged]
  split
  next =>
    split
    next => constructor <;> rfl
    next => apply noted
  next =>
    split
    next => apply noted
    next =>
      split
      next ended =>
        apply noted.trans (tells_finishJob _)
        rintro rfl strands
        apply told (.reported (strands_noted_iff.1 strands) ended)
      next =>
        split
        next => apply noted.trans (tells_tryLoad _)
        next => apply noted

theorem tells_perform {operation : Operation} (told : ¬Silences sys (.performed operation)) :
    Tells sys.scheduler (sys.scheduler.perform operation)
  := by
  cases operation with
  | enqueue filenames reset now => apply tells_enqueue
  | remove selection => constructor <;> rfl
  | jump id => apply tells_jump
  | pause => constructor <;> rfl
  | start => apply tells_start
  | controlChanged status => apply tells_controlChanged
  | printStateChanged printState => apply tells_printStateChanged told

theorem tells_acknowledge {index : Nat} {reply : Reply} {job : Job}
    (started : sys.stage? index = some (.started job))
    (told : ¬Silences sys (.resumed index reply)) :
    Tells sys.scheduler (sys.scheduler.acknowledge job)
  := by
  have noted : Tells sys.scheduler
      ({ sys.scheduler with acknowledgedIn := some sys.scheduler.printState }, [])
    := by
    constructor <;> rfl
  dsimp only [acknowledge]
  split
  next active =>
    split
    next ended =>
      apply noted.trans (tells_finishJob _)
      intro complete strands
      apply told (.acknowledged (strands_noted_iff.1 strands) started active _ ended)
      cases reported : sys.scheduler.printState with
      | none => simp [reported] at complete
      | some printState => simpa [reported] using complete
    next => apply noted
  next => apply Tells.refl

/-- Where a chain that has taken no job is concerned, all that it changes is told. -/
theorem tells_of_prepares {s : Scheduler} {epoch : Nat} {stage next : LoadStage} {step : Step}
    (prepares : Prepares settings s epoch stage step next) :
    Tells s step
  := by
  cases prepares with
  | superseded => apply Tells.refl
  | taken current popped =>
    simp only [takeJob, current, popped]
    constructor <;> rfl
  | failed current error =>
    simp only [failLoad, current]
    constructor <;> rfl
  | _ => constructor <;> rfl

theorem tells_chainStep {index epoch : Nat} {reply : Reply} {stage : LoadStage}
    (launched : sys.chains[index]? = some ⟨epoch, stage⟩)
    (told : ¬Silences sys (.resumed index reply)) :
    Tells sys.scheduler (sys.scheduler.chainStep settings epoch stage).1
  := by
  cases stage with
  | checking printState => apply tells_of_prepares (prepares_checkPrinter printState)
  | taking =>
    have prepares : Prepares settings sys.scheduler epoch .taking _ _ := prepares_takeJob
    apply tells_of_prepares prepares
  | started job =>
    apply tells_acknowledge _ told
    simp [stage?, launched]
  | failed job error =>
    cases job with
    | none =>
      have prepares : Prepares settings sys.scheduler epoch (.failed none error) _ _ :=
        prepares_failLoad error
      apply tells_of_prepares prepares
    | some job =>
      dsimp only [chainStep, failLoad]
      split <;> constructor <;> rfl
  | _ => apply Tells.refl

/-- What an event changes is told, unless it silences a job's end. -/
theorem tells_next (settings : Config.JobSettings) (told : ¬Silences sys event) :
    Tells sys.scheduler ((sys.next settings event).1.scheduler, (sys.next settings event).2)
  := by
  cases event with
  | performed operation => apply tells_perform told
  | resumed index reply =>
    dsimp only [next]
    split
    next chain launched =>
      rw [scheduler_resume, effects_resume]
      apply tells_chainStep launched told
    next => apply Tells.refl

/-- A job that has ended well and is followed by none leaves the scheduler ready, untold. -/
theorem Silences.next_eq (silences : Silences sys event) (consistent : Consistent sys.scheduler)
    (settings : Config.JobSettings) :
    sys.scheduler.state = .starting ∧ told (sys.next settings event).2 = [] ∧
      (sys.next settings event).1.scheduler.state = .ready ∧
      (sys.next settings event).1.scheduler.queue = sys.scheduler.queue
  := by
  have starting {job : Job} (strands : Strands sys.scheduler)
      (active : sys.scheduler.active = some job) : sys.scheduler.state = .starting
    := (consistent.active (Option.isSome_of_mem active)).resolve_right strands.running
  cases silences with
  | reported strands ended =>
    obtain ⟨job, active⟩ := Option.isSome_iff_exists.1 (isIdle_of_jobEnded ended).2
    have strands' : Strands { sys.scheduler with printState := some "complete" } :=
      strands_noted_iff.2 strands
    have step : sys.scheduler.printStateChanged "complete" =
        (idle { sys.scheduler with printState := some "complete" } .ready, [])
      := by
      rw [← strands'.finishJob active]
      simp [printStateChanged, ended, isIdle, idlePrintStates]
    use starting strands active
    simp [next, perform, step, told, stepped, idle, untracked]
  | @acknowledged index reply job strands started active complete ended =>
    obtain ⟨⟨epoch, stage⟩, launched, rfl⟩ := Option.map_eq_some_iff.1 started
    obtain ⟨job', active', -⟩ := exists_active active
    have strands' :
        Strands { sys.scheduler with acknowledgedIn := some sys.scheduler.printState } :=
      strands_noted_iff.2 strands
    have step : sys.scheduler.acknowledge job =
        (idle { sys.scheduler with acknowledgedIn := some sys.scheduler.printState } .ready, [])
      := by
      rw [← strands'.finishJob active']
      dsimp only [acknowledge]
      rw [if_pos active, if_pos ended, complete]
      rfl
    use starting strands active'
    simp only [next, launched]
    rw [scheduler_resume, effects_resume]
    simp [chainStep, step, told, idle, untracked]

/-- The jobs that wait are told whenever they change. -/
theorem jobs_next (consistent : Consistent sys.scheduler) (settings : Config.JobSettings)
    (event : Event) :
    (lastJobs? (sys.next settings event).2).getD sys.scheduler.queue.jobs =
      (sys.next settings event).1.scheduler.queue.jobs
  := by
  by_cases silences : Silences sys event
  · obtain ⟨-, quiet, -, queue⟩ := silences.next_eq consistent settings
    simp [lastJobs?, quiet, queue]
  · apply (tells_next settings silences).jobs

/-! ### Runs -/

/-- Nothing was told since a job ended well and the next load was put off. -/
def Slipped (settings : Config.JobSettings) (queue : JobQueue) (events : List Event) : Prop :=
  ∃ earlier event since, events = earlier ++ event :: since ∧
    Silences (after settings queue earlier) event ∧
    told ((after settings queue (earlier ++ [event])).effects settings since) = []

section

variable {queue : JobQueue} {events : List Event}

theorem told_effects_concat (earlier since : List Event) (event last : Event) :
    told ((after settings queue (earlier ++ [event])).effects settings (since ++ [last])) =
      told ((after settings queue (earlier ++ [event])).effects settings since) ++
        told ((after settings queue (earlier ++ event :: since)).next settings last).2
  := by
  rw [effects_append, ← after_append, effects_cons, effects, List.append_nil, List.append_assoc]
  apply List.filterMap_append

theorem slipped_concat_iff :
    Slipped settings queue (events ++ [event]) ↔
      Silences (after settings queue events) event ∨ Slipped settings queue events ∧
        told ((after settings queue events).next settings event).2 = []
  := by
  constructor
  · rintro ⟨earlier, first, since, same, silences, quiet⟩
    obtain rfl | ⟨since, last, rfl⟩ := List.eq_nil_or_concat' since
    · left
      obtain ⟨rfl, last⟩ := List.append_inj' same rfl
      obtain rfl := List.head_eq_of_cons_eq last
      apply silences
    · right
      rw [← List.cons_append, ← List.append_assoc] at same
      obtain ⟨rfl, last⟩ := List.append_inj' same rfl
      obtain rfl := List.head_eq_of_cons_eq last
      rw [told_effects_concat] at quiet
      obtain ⟨quiet, silent⟩ := List.append_eq_nil_iff.1 quiet
      use ⟨earlier, first, since, rfl, silences, quiet⟩
  · rintro (silences | ⟨⟨earlier, first, since, rfl, silences, quiet⟩, silent⟩)
    · use events, event, [], rfl, silences
      rfl
    · use earlier, first, since ++ [event], by simp, silences
      rw [told_effects_concat, quiet, silent]
      rfl

/-- What the clients were told by the end of a run. -/
abbrev saidAfter (settings : Config.JobSettings) (queue : JobQueue) (events : List Event) :
    List SchedulerEffect :=
  (after settings queue []).effects settings events

theorem saidAfter_concat (settings : Config.JobSettings) (queue : JobQueue) (events : List Event)
    (event : Event) :
    saidAfter settings queue (events ++ [event]) =
      saidAfter settings queue events ++ ((after settings queue events).next settings event).2
  := by
  rw [saidAfter, effects_append, effects_cons, effects, List.append_nil]
  rfl

/-- Whoever goes by the last jobs told knows which wait. -/
theorem jobs_of_lastJobs? {jobs : List Job}
    (last : lastJobs? (saidAfter settings queue events) = some jobs) :
    jobs = (after settings queue events).scheduler.queue.jobs
  := by
  induction events using List.reverseRecOn generalizing jobs with
  | nil => cases last
  | append_singleton events event ih =>
    have consistent := (sound_after settings queue events).consistent
    rw [saidAfter_concat, lastJobs?_append] at last
    rw [after_concat, ← jobs_next consistent settings event]
    cases now : lastJobs? ((after settings queue events).next settings event).2 with
    | none =>
      rw [now] at last
      apply ih last
    | some later =>
      rw [now] at last
      apply (Option.some.inj last).symm

/-- Whoever goes by the last event told knows the state, unless that slipped. -/
theorem state_of_lastState? {state : QueueState}
    (last : lastState? (saidAfter settings queue events) = some state) :
    (¬Slipped settings queue events → state = (after settings queue events).scheduler.state) ∧
      (Slipped settings queue events →
        state = .starting ∧ (after settings queue events).scheduler.state = .ready)
  := by
  induction events using List.reverseRecOn generalizing state with
  | nil => cases last
  | append_singleton events event ih =>
    have consistent := (sound_after settings queue events).consistent
    rw [saidAfter_concat, lastState?_append] at last
    rw [after_concat, slipped_concat_iff]
    by_cases silences : Silences (after settings queue events) event
    · obtain ⟨starting, quiet, ready, -⟩ := silences.next_eq consistent settings
      rw [lastState?_eq_none_iff.2 quiet] at last
      obtain ⟨known, unknown⟩ := ih last
      have kept : ¬Slipped settings queue events := by
        intro slipped
        cases starting.symm.trans (unknown slipped).2
      use fun told => absurd (Or.inl silences) told
      intro
      use (known kept).trans starting
    · have tells := (tells_next settings silences).state
      cases now : lastState? ((after settings queue events).next settings event).2 with
      | none =>
        rw [now] at last tells
        obtain ⟨known, unknown⟩ := ih last
        rw [← show _ = _ from tells]
        simpa [silences, lastState?_eq_none_iff.1 now] using And.intro known unknown
      | some later =>
        rw [now] at last tells
        obtain rfl := Option.some.inj last
        use fun _ => tells
        rintro (silences' | ⟨-, quiet⟩)
        · apply absurd silences' silences
        · cases now.symm.trans (lastState?_eq_none_iff.2 quiet)

end

/-- In every run the jobs that were told last are those that wait, and the state that was told
last is that of the scheduler, unless a job has ended well since, the next load was put off, and
nothing was told after that.  Nothing but such an end is ever passed over: an event that tells
nothing leaves the jobs alone, and the state as well. -/
theorem last_told_iff (settings : Config.JobSettings) (queue : JobQueue) (events : List Event) :
    let sys := after settings queue events
    let said := saidAfter settings queue events
    (∀ jobs, lastJobs? said = some jobs → jobs = sys.scheduler.queue.jobs) ∧
    (∀ state, lastState? said = some state →
      (state = sys.scheduler.state ↔ ¬Slipped settings queue events)) ∧
    ∀ event, told (sys.next settings event).2 = [] →
      let after := (sys.next settings event).1.scheduler
      after.queue.jobs = sys.scheduler.queue.jobs ∧
        (after.state = sys.scheduler.state ↔ ¬Silences sys event)
  := by
  intro sys said
  have consistent : Consistent sys.scheduler := (sound_after settings queue events).consistent
  and_intros
  · intro jobs last
    apply jobs_of_lastJobs? last
  · intro state last
    obtain ⟨known, unknown⟩ := state_of_lastState? last
    constructor
    · rintro same slipped
      obtain ⟨starting, ready⟩ := unknown slipped
      cases starting.symm.trans (same.trans ready)
    · apply known
  · intro event quiet after
    constructor
    · have jobs := jobs_next consistent settings event
      simpa [lastJobs?, quiet] using jobs.symm
    · constructor
      · intro same silences
        obtain ⟨starting, -, ready, -⟩ := silences.next_eq consistent settings
        cases starting.symm.trans (same.symm.trans ready)
      · intro unsilenced
        have state := (tells_next settings unsilenced).state
        rw [lastState?_eq_none_iff.2 quiet] at state
        apply state.symm

end

/-- While a job is being started clients know that, and that no other waits. -/
theorem last_told_iff_goesOn :
    let events := becomesReady :: goesOn 0
    lastState? (saidAfter eager oneJob events) = some .starting ∧
      lastJobs? (saidAfter eager oneJob events) = some [] ∧
      (after eager oneJob events).scheduler.queue.jobs = [] ∧
      ¬Slipped eager oneJob events
  := by
  intro events
  obtain ⟨jobs, state, -⟩ := last_told_iff eager oneJob events
  have lastState : lastState? (saidAfter eager oneJob events) = some .starting := by decide
  have lastJobs : lastJobs? (saidAfter eager oneJob events) = some [] := by decide
  and_intros
  · apply lastState
  · apply lastJobs
  · apply (jobs [] lastJobs).symm
  · apply (state .starting lastState).1 rfl

/-- Jobs follow one another, a while apart. -/
def following : Config.JobSettings := { delayed with automaticTransition := true }

/-- The queue in which two jobs wait. -/
def twoJobs : JobQueue := ⟨[job, ⟨⟨1⟩, "lid.gcode", 0.0⟩], 2⟩

/-- The control process shuts down while a chain waits, and still the job that the chain starts
is printed. -/
def completes : List Event :=
  [becomesReady, .resumed 0 standsBy, .resumed 0 standsBy,
    .performed (.controlChanged ⟨.shutdown, ""⟩)] ++ goesOn 0 ++
  [.resumed 0 standsBy, .resumed 0 standsBy, .performed (.printStateChanged "printing"),
    .performed (.printStateChanged "complete")]

/-- The clients were told last that a job is being started, though the scheduler is ready. -/
theorem last_told_starting_completes :
    lastState? (saidAfter following twoJobs completes) = some .starting ∧
      (after following twoJobs completes).scheduler.state = .ready
  := by
  and_intros <;> rfl

end System

end Scheduler

end ControlRelay
