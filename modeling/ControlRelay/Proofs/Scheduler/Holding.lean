import ControlRelay.Proofs.Queue.Jobs
import ControlRelay.Proofs.Scheduler.Loading

/-!
# The jobs a scheduler holds

A scheduler holds the active job and those that wait.  An event adds new jobs behind them,
deletes jobs that wait, brings one of these to the front, takes the first one to be started,
gives up the active job, or puts it back.  `Holds` says so, and nothing else can happen to them.
-/

namespace ControlRelay.Scheduler

/-- The jobs that the scheduler holds, the active one first. -/
def held (s : Scheduler) : List Job := s.active.toList ++ s.queue.jobs

section

variable {s : Scheduler}

theorem held_of_active {job : Job} (active : s.active = some job) :
    s.held = job :: s.queue.jobs
  := by
  simp [held, active]

theorem held_of_unused (unused : s.active = none) :
    s.held = s.queue.jobs
  := by
  simp [held, unused]

theorem exists_active {job : Job} (active : s.isActive job = true) :
    ∃ job', s.active = some job' ∧ job'.id = job.id
  := Option.map_eq_some_iff.1 (of_decide_eq_true active)

/-! ### Steps that hold the same jobs -/

/-- To launch a chain concerns neither the active job nor the queue. -/
@[simp]
theorem active_tryLoad (s : Scheduler) :
    s.tryLoad.1.active = s.active
  := by
  unfold tryLoad
  split <;> rfl

@[simp]
theorem queue_tryLoad (s : Scheduler) :
    s.tryLoad.1.queue = s.queue
  := by
  unfold tryLoad
  split <;> rfl

@[simp]
theorem active_thenTryLoad (s : Scheduler) (before : List SchedulerEffect) :
    (s.thenTryLoad before).1.active = s.active
  := active_tryLoad s

@[simp]
theorem queue_thenTryLoad (s : Scheduler) (before : List SchedulerEffect) :
    (s.thenTryLoad before).1.queue = s.queue
  := queue_tryLoad s

/-- A job that is over is not held, and the others wait as before. -/
theorem unused_finishJob (s : Scheduler) (printState : String) :
    (s.finishJob printState).1.active = none ∧ (s.finishJob printState).1.queue = s.queue
  := by
  unfold finishJob
  split
  next unused => use unused
  next =>
    dsimp only
    split
    next => constructor <;> rfl
    next =>
      split
      next => constructor <;> rfl
      next =>
        split
        next => constructor <;> rfl
        next =>
          split
          next => use active_tryLoad _, queue_tryLoad _
          next => constructor <;> rfl

theorem isIdle_of_jobEnded {printState : String}
    (ended : jobEnded { s with printState := some printState } = true) :
    isIdle printState = true ∧ s.active.isSome = true
  := by
  unfold jobEnded at ended
  split at ended
  next startedIn current acknowledged reported =>
    obtain rfl := Option.some.inj reported
    simp only [Bool.and_eq_true] at ended
    use ended.1.2, ended.1.1
  next => cases ended

end

namespace System

/-! ### What an event does to the jobs held -/

/-- The events that give up the active job. -/
inductive Releases (sys : System) : Event → Prop where
  /-- The printer reports a state in which the job is over. -/
  | ended {printState : String}
      (ended : jobEnded { sys.scheduler with printState := some printState } = true) :
      Releases sys (.performed (.printStateChanged printState))
  /-- The start is acknowledged, and the job is over already. -/
  | endedBefore {index : Nat} {reply : Reply} {job : Job}
      (started : sys.stage? index = some (.started job))
      (active : sys.scheduler.isActive job = true)
      (ended : jobEnded
        { sys.scheduler with acknowledgedIn := some sys.scheduler.printState } = true) :
      Releases sys (.resumed index reply)
  /-- A client asks for loading, and the job is forgotten. -/
  | forgotten (rests : sys.scheduler.state = .ready ∨ sys.scheduler.state = .paused) :
      Releases sys (.performed .start)
  /-- The control process stops being ready. -/
  | lost {status : ControlStatus} (ready : sys.scheduler.controlReady = true)
      (unready : status.isReady = false) : Releases sys (.performed (.controlChanged status))

/-- The start call of the job has failed while it is active, and the chain takes that to the
scheduler. -/
inductive Returns (sys : System) (job : Job) : Event → Prop where
  | failed {index : Nat} {reply : Reply} {error : RelayError}
      (failed : sys.stage? index = some (.failed (some job) error))
      (active : sys.scheduler.isActive job = true) : Returns sys job (.resumed index reply)

/-- A chain that may go on takes the first job that waits, and leaves the rest of the queue. -/
inductive Draws (sys : System) (job : Job) (rest : JobQueue) : Event → Prop where
  | popped {index epoch : Nat} {reply : Reply}
      (launched : sys.chains[index]? = some ⟨epoch, .taking⟩)
      (current : sys.scheduler.isCurrent epoch = true) (unused : sys.scheduler.active = none)
      (popped : sys.scheduler.queue.popFront? = some (job, rest)) :
      Draws sys job rest (.resumed index reply)

/-- The jobs that come with an event. -/
def arrives (sys : System) : Event → List Job
  | .performed (.enqueue filenames _ now) =>
    JobQueue.newJobs sys.scheduler.queue.nextId now (properNames filenames)
  | _ => []

/-- The active job and the queue after an event. -/
inductive Holds (sys : System) : Event → Option Job → JobQueue → Prop where
  | kept {event : Event} (quiet : sys.arrives event = []) :
      Holds sys event sys.scheduler.active sys.scheduler.queue
  | taken {event : Event} {job : Job} {rest : JobQueue} (draws : Draws sys job rest event) :
      Holds sys event (some job) rest
  | added {filenames : List String} {now : Float} (reset : Bool)
      (proper : properNames filenames ≠ []) :
      Holds sys (.performed (.enqueue filenames reset now)) sys.scheduler.active
        (sys.scheduler.queue.enqueue (properNames filenames) reset now).2
  | cleared : Holds sys (.performed (.remove none)) sys.scheduler.active sys.scheduler.queue.clear.2
  | removed (ids : List JobId) :
      Holds sys (.performed (.remove (some ids))) sys.scheduler.active
        (sys.scheduler.queue.remove ids).2
  | jumped {id : JobId} {job : Job} {others : List Job}
      (taken : JobQueue.takeOut? id sys.scheduler.queue.jobs = some (job, others)) :
      Holds sys (.performed (.jump id)) sys.scheduler.active
        { sys.scheduler.queue with jobs := job :: others }
  | released {event : Event} {job : Job} (active : sys.scheduler.active = some job)
      (releases : Releases sys event) : Holds sys event none sys.scheduler.queue
  | returned {event : Event} {job : Job} (returns : Returns sys job event) :
      Holds sys event none (sys.scheduler.queue.pushFront job)

section

variable {settings : Config.JobSettings} {sys : System} {event : Event} {after : Scheduler}
  {index : Nat} {reply : Reply}

theorem holds_of_same (active : after.active = sys.scheduler.active)
    (queue : after.queue = sys.scheduler.queue) (quiet : sys.arrives event = []) :
    Holds sys event after.active after.queue
  := by
  rw [active, queue]
  apply Holds.kept quiet

theorem holds_of_released {job : Job} (active : sys.scheduler.active = some job)
    (releases : Releases sys event) (unused : after.active = none)
    (queue : after.queue = sys.scheduler.queue) :
    Holds sys event after.active after.queue
  := by
  rw [unused, queue]
  apply Holds.released active releases

/-! ### The steps of operations -/

theorem holds_enqueue (filenames : List String) (reset : Bool) (now : Float) :
    let after := (sys.scheduler.perform (.enqueue filenames reset now)).1
    Holds sys (.performed (.enqueue filenames reset now)) after.active after.queue
  := by
  dsimp only [perform, enqueue]
  split
  next none =>
    apply Holds.kept
    rw [arrives, none]
    rfl
  next proper =>
    simp only [Except.toOption, Option.getD_some, active_thenTryLoad, queue_thenTryLoad]
    apply Holds.added reset proper

theorem holds_remove (selection : Selection) :
    let after := (sys.scheduler.perform (.remove selection)).1
    Holds sys (.performed (.remove selection)) after.active after.queue
  := by
  cases selection with
  | none => apply Holds.cleared
  | some ids => apply Holds.removed

theorem holds_jump (id : JobId) :
    let after := (sys.scheduler.perform (.jump id)).1
    Holds sys (.performed (.jump id)) after.active after.queue
  := by
  dsimp only [perform, jump]
  split
  next => apply Holds.kept rfl
  next queue jumped =>
    obtain ⟨⟨job, others⟩, taken, rfl⟩ := Option.map_eq_some_iff.1 jumped
    apply Holds.jumped taken

theorem holds_start :
    let after := (sys.scheduler.perform .start).1
    Holds sys (.performed .start) after.active after.queue
  := by
  dsimp only [perform, start]
  split
  next => apply Holds.kept rfl
  next rests =>
    have rests : sys.scheduler.state = .ready ∨ sys.scheduler.state = .paused := by
      cases state : sys.scheduler.state <;> simp [state] at rests ⊢
    cases active : sys.scheduler.active with
    | none =>
      apply holds_of_same _ _ rfl
      · rw [active]
        simp only [Option.isSome_none, Bool.false_eq_true, if_false]
        split <;> simp [Except.toOption, active]
      · simp only [Option.isSome_none, Bool.false_eq_true, if_false]
        split <;> simp [Except.toOption]
    | some job =>
      apply holds_of_released active (.forgotten rests)
      · simp only [Option.isSome_some, if_true]
        split <;> simp [Except.toOption]
      · simp only [Option.isSome_some, if_true]
        split <;> simp [Except.toOption, untracked]

theorem holds_controlChanged (status : ControlStatus) :
    let after := (sys.scheduler.perform (.controlChanged status)).1
    Holds sys (.performed (.controlChanged status)) after.active after.queue
  := by
  dsimp only [perform, controlChanged]
  split
  next => apply Holds.kept rfl
  next changed =>
    split
    next =>
      apply holds_of_same _ _ rfl
      · apply active_tryLoad
      · apply queue_tryLoad
    next unready =>
      split
      next => apply holds_of_same <;> rfl
      next job active =>
        have ready : sys.scheduler.controlReady = true := by
          cases control : sys.scheduler.controlReady <;> simp [control, unready] at changed ⊢
        have releases := Releases.lost ready (eq_false_of_ne_true unready)
        split <;> apply holds_of_released active releases <;> rfl

theorem holds_printStateChanged (printState : String) :
    let after := (sys.scheduler.perform (.printStateChanged printState)).1
    Holds sys (.performed (.printStateChanged printState)) after.active after.queue
  := by
  dsimp only [perform, printStateChanged]
  split
  next =>
    split <;> apply holds_of_same <;> rfl
  next =>
    split
    next => apply holds_of_same <;> rfl
    next =>
      split
      next ended =>
        obtain ⟨job, active⟩ := Option.isSome_iff_exists.1 (isIdle_of_jobEnded ended).2
        apply holds_of_released active (.ended ended)
        · apply (unused_finishJob _ _).1
        · apply (unused_finishJob _ _).2
      next =>
        split
        next =>
          apply holds_of_same _ _ rfl
          · apply active_tryLoad
          · apply queue_tryLoad
        next => apply holds_of_same <;> rfl

theorem holds_perform (operation : Operation) :
    let after := (sys.scheduler.perform operation).1
    Holds sys (.performed operation) after.active after.queue
  := by
  cases operation with
  | enqueue filenames reset now => apply holds_enqueue
  | remove selection => apply holds_remove
  | jump id => apply holds_jump
  | pause => apply holds_of_same <;> rfl
  | start => apply holds_start
  | controlChanged status => apply holds_controlChanged
  | printStateChanged printState => apply holds_printStateChanged

/-! ### The steps of chains -/

theorem holds_checkPrinter (epoch : Nat) (printState : String) :
    let after := (sys.scheduler.checkPrinter settings epoch printState).1.1
    Holds sys (.resumed index reply) after.active after.queue
  := by
  have noted : ∃ seen, (if printState.isEmpty = true then sys.scheduler
      else { sys.scheduler with printState := some printState }) =
        { sys.scheduler with printState := seen }
    := by
    split
    next => use sys.scheduler.printState
    next => use some printState
  obtain ⟨seen, noted⟩ := noted
  unfold checkPrinter
  split
  next => apply Holds.kept rfl
  next =>
    dsimp only
    rw [noted]
    split
    next => split <;> apply holds_of_same <;> rfl
    next => apply holds_of_same <;> rfl

theorem holds_takeJob {epoch : Nat} (consistent : Consistent sys.scheduler)
    (launched : sys.chains[index]? = some ⟨epoch, .taking⟩) :
    let after := (sys.scheduler.takeJob epoch).1.1
    Holds sys (.resumed index reply) after.active after.queue
  := by
  cases current : sys.scheduler.isCurrent epoch with
  | false =>
    simp only [takeJob, current]
    apply Holds.kept rfl
  | true =>
    cases popped : sys.scheduler.queue.popFront? with
    | none =>
      simp only [takeJob, current, popped]
      apply holds_of_same <;> rfl
    | some taken =>
      simp only [takeJob, current, popped]
      apply Holds.taken (.popped launched current (consistent.unused current) popped)

theorem holds_acknowledge {job : Job} (started : sys.stage? index = some (.started job)) :
    let after := (sys.scheduler.acknowledge job).1
    Holds sys (.resumed index reply) after.active after.queue
  := by
  dsimp only [acknowledge]
  split
  next active =>
    split
    next ended =>
      obtain ⟨job', active', -⟩ := exists_active active
      apply holds_of_released active' (.endedBefore started active ended)
      · apply (unused_finishJob _ _).1
      · apply (unused_finishJob _ _).2
    next => apply holds_of_same <;> rfl
  next => apply Holds.kept rfl

theorem holds_failLoad {epoch : Nat} {job : Option Job} {error : RelayError}
    (failed : sys.stage? index = some (.failed job error)) :
    let after := (sys.scheduler.failLoad epoch job error).1
    Holds sys (.resumed index reply) after.active after.queue
  := by
  cases job with
  | none =>
    dsimp only [failLoad]
    split
    next => apply holds_of_same <;> rfl
    next => apply Holds.kept rfl
  | some job =>
    dsimp only [failLoad]
    split
    next active => apply Holds.returned (.failed failed active)
    next => apply Holds.kept rfl

theorem holds_chainStep {epoch : Nat} {stage : LoadStage} (consistent : Consistent sys.scheduler)
    (launched : sys.chains[index]? = some ⟨epoch, stage⟩) :
    let after := (sys.scheduler.chainStep settings epoch stage).1.1
    Holds sys (.resumed index reply) after.active after.queue
  := by
  have found : sys.stage? index = some stage := by simp [stage?, launched]
  cases stage with
  | checking printState => apply holds_checkPrinter
  | taking => apply holds_takeJob consistent launched
  | started job => apply holds_acknowledge found
  | failed job error => apply holds_failLoad found
  | _ => apply Holds.kept rfl

/-- A chain that goes on changes the scheduler by its step alone. -/
theorem scheduler_resume (settings : Config.JobSettings) (sys : System) (index : Nat)
    (chain : Chain) (reply : Reply) :
    (sys.resume settings index chain reply).1.scheduler =
      (sys.scheduler.chainStep settings chain.epoch chain.stage).1.1
  := by
  obtain ⟨epoch, stage⟩ := chain
  cases stage with
  | scripting =>
    simp only [resume, LoadStage.action]
    split <;> rfl
  | _ => rfl

/-- A chain that goes on asks for what its step asks for. -/
theorem effects_resume (settings : Config.JobSettings) (sys : System) (index : Nat)
    (chain : Chain) (reply : Reply) :
    (sys.resume settings index chain reply).2 =
      (sys.scheduler.chainStep settings chain.epoch chain.stage).1.2
  := by
  obtain ⟨epoch, stage⟩ := chain
  cases stage with
  | scripting =>
    simp only [resume, LoadStage.action]
    split <;> rfl
  | _ => rfl

/-- Every event changes the active job and the queue in one of these ways. -/
theorem holds_next (settings : Config.JobSettings) (consistent : Consistent sys.scheduler)
    (event : Event) :
    let after := (sys.next settings event).1.scheduler
    Holds sys event after.active after.queue
  := by
  cases event with
  | performed operation => apply holds_perform
  | resumed index reply =>
    dsimp only [next]
    split
    next chain launched =>
      rw [scheduler_resume]
      apply holds_chainStep consistent launched
    next => apply Holds.kept rfl

end

end System

end ControlRelay.Scheduler
