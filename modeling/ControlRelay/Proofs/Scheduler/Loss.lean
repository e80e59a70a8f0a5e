import ControlRelay.Proofs.Scheduler.Readiness
import ControlRelay.Proofs.Scheduler.Routine

/-!
# The loss of the control process

When the connection is lost while a job is being started, two things happen: the start call
fails, and a report comes that there is no connection.  If the failed call is handled first, the
job goes back to the head of the queue.  If the report is, the job is given up, and the failed
call finds it no longer active: the job is then neither in the queue nor stored.
-/

namespace ControlRelay

namespace Relay

/-- What is stored once a relay has carried out what its scheduler asked for. -/
def stored (r : Relay) (effects : List SchedulerEffect) : QueueStore :=
  (effects.foldl carryOut r).store

end Relay

namespace Scheduler

/-! ### A failed call and a lost connection -/

section

variable {s : Scheduler} {job : Job} {status : ControlStatus}

/-- The scheduler after the start of its active job has failed. -/
def returning (s : Scheduler) (job : Job) : Scheduler :=
  { s.idle .paused with queue := s.queue.pushFront job }

/-- The job goes back to the head of the queue, which is stored. -/
theorem failLoad_of_active (active : s.isActive job = true) (epoch : Nat) (error : RelayError) :
    s.failLoad epoch (some job) error =
      (s.returning job, [(s.returning job).storing,
        (s.returning job).announcing "state_changed" true (some error.message)])
  := by
  simp only [failLoad, active, if_true]
  rfl

/-- A job that is no longer active does not go back. -/
theorem failLoad_of_unused (unused : s.active = none) (epoch : Nat) (job : Job)
    (error : RelayError) :
    s.failLoad epoch (some job) error = (s, [])
  := by
  simp [failLoad, isActive, unused]

/-- When the control process stops being ready, the active job is given up, and nothing is
stored. -/
theorem controlChanged_of_active (active : s.active = some job) (ready : s.controlReady = true)
    (unready : status.isReady = false) :
    (s.controlChanged status).1 = { s.idle .paused with controlReady := false } ∧
      ∀ r : Relay, r.stored (s.controlChanged status).2 = r.store
  := by
  simp only [controlChanged, unready, ready, active]
  by_cases paused : s.state = .paused
  · simp [paused, idle, untracked, Relay.stored]
  · simp [paused, idle, untracked, Relay.stored, announcingState, announcing, Relay.store_carryOut]

end

namespace System

/-- The chain learns that the connection was lost, or takes that to the scheduler. -/
def fails (index : Nat) : Event := .resumed index (.error .linkDisconnected)

/-- The loss is reported. -/
def lost : Event := .performed (.controlChanged .disconnected)

/-- The failed call is handled before the report. -/
def callFirst (index : Nat) : List Event := [fails index, fails index, lost]

/-- The report is handled before the failed call. -/
def reportFirst (index : Nat) : List (List Event) :=
  [[fails index, lost, fails index], [lost, fails index, fails index]]

section

variable {settings : Config.JobSettings} {queue : JobQueue} {sys : System} {index epoch : Nat}
  {job : Job} {error : RelayError}

theorem next_starting (found : sys.chains[index]? = some ⟨epoch, .starting job⟩) :
    sys.next settings (fails index) =
      (sys.moved index ⟨epoch, .failed (some job) .linkDisconnected⟩, [])
  := by
  simp only [fails, next, found]
  rfl

theorem next_failed (found : sys.chains[index]? = some ⟨epoch, .failed (some job) error⟩) :
    sys.next settings (fails index) =
      ((sys.moved index ⟨epoch, .ended⟩).stepped (sys.scheduler.failLoad epoch (some job) error),
        (sys.scheduler.failLoad epoch (some job) error).2)
  := by
  simp only [fails, next, found]
  rfl

/-- The two steps of the scheduler, the one of the failed call first. -/
theorem run_callFirst (settings : Config.JobSettings)
    (found : sys.chains[index]? = some ⟨epoch, .starting job⟩) :
    let failed := sys.scheduler.failLoad epoch (some job) .linkDisconnected
    let lost := failed.1.controlChanged .disconnected
    (sys.run settings (callFirst index)).scheduler = lost.1 ∧
      sys.effects settings (callFirst index) = failed.2 ++ lost.2
  := by
  have failing := getElem?_moved found ⟨epoch, .failed (some job) .linkDisconnected⟩
  simp only [callFirst, run, effects, List.foldl_cons, List.foldl_nil, next_starting found,
    next_failed failing, List.nil_append, List.append_nil]
  use rfl
  rfl

/-- The two steps of the scheduler, the one of the report first. -/
theorem run_of_mem_reportFirst (settings : Config.JobSettings)
    (found : sys.chains[index]? = some ⟨epoch, .starting job⟩) {order : List Event}
    (reported : order ∈ reportFirst index) :
    let lost := sys.scheduler.controlChanged .disconnected
    let failed := lost.1.failLoad epoch (some job) .linkDisconnected
    (sys.run settings order).scheduler = failed.1 ∧
      sys.effects settings order = lost.2 ++ failed.2
  := by
  have report (sys : System) : sys.next settings lost =
      (sys.stepped (sys.scheduler.controlChanged .disconnected),
        (sys.scheduler.controlChanged .disconnected).2)
    := rfl
  cases reported with
  | head =>
    have failing := getElem?_moved found ⟨epoch, .failed (some job) .linkDisconnected⟩
    have failing' (step : Step) := getElem?_stepped failing step
    simp only [run, effects, List.foldl_cons, List.foldl_nil, next_starting found, report,
      next_failed (failing' _), List.nil_append, List.append_nil]
    use rfl
    rfl
  | tail _ last =>
    obtain rfl := List.mem_singleton.1 last
    have found' := getElem?_stepped found (sys.scheduler.controlChanged .disconnected)
    have failing := getElem?_moved found' ⟨epoch, .failed (some job) .linkDisconnected⟩
    simp only [run, effects, List.foldl_cons, List.foldl_nil, report, next_starting found',
      next_failed failing, List.nil_append, List.append_nil]
    use rfl
    rfl

theorem stored_returning (r : Relay) (s : Scheduler) (job : Job) (reason : Option String) :
    r.stored [(s.returning job).storing, (s.returning job).announcing "state_changed" true reason] =
      (r.store.save (s.queue.pushFront job).toStored).2
  := by
  simp only [Relay.stored, storing, announcing, List.foldl_cons, List.foldl_nil,
    Relay.store_carryOut]
  rfl

theorem ends_callFirst (settings : Config.JobSettings)
    (found : sys.chains[index]? = some ⟨epoch, .starting job⟩)
    (active : sys.scheduler.isActive job = true) :
    (sys.run settings (callFirst index)).scheduler =
        { sys.scheduler.returning job with controlReady := false } ∧
      ∀ r : Relay, r.stored (sys.effects settings (callFirst index)) =
        (r.store.save (sys.scheduler.queue.pushFront job).toStored).2
  := by
  obtain ⟨ends, asked⟩ := run_callFirst settings found
  rw [failLoad_of_active active, controlChanged_of_unused rfl rfl] at ends asked
  use ends
  intro r
  rw [asked, List.append_nil]
  apply stored_returning

/-- A job that was given up before its start call failed is nowhere. -/
theorem ends_reportFirst (settings : Config.JobSettings)
    (found : sys.chains[index]? = some ⟨epoch, .starting job⟩)
    (active : sys.scheduler.isActive job = true) {order : List Event}
    (reported : order ∈ reportFirst index) (ready : sys.scheduler.controlReady = true) :
    (sys.run settings order).scheduler = { sys.scheduler.idle .paused with controlReady := false } ∧
      ∀ r : Relay, r.stored (sys.effects settings order) = r.store
  := by
  obtain ⟨ends, asked⟩ := run_of_mem_reportFirst settings found reported
  obtain ⟨job', found', -⟩ := Option.map_eq_some_iff.1 (of_decide_eq_true active)
  have unready : ControlStatus.disconnected.isReady = false := rfl
  obtain ⟨noted, unstored⟩ := controlChanged_of_active found' ready unready
  rw [noted, failLoad_of_unused rfl] at ends asked
  use ends
  intro r
  rw [asked, List.append_nil]
  apply unstored

/-- A report that was heard before changes nothing. -/
theorem ends_of_unready (settings : Config.JobSettings)
    (found : sys.chains[index]? = some ⟨epoch, .starting job⟩)
    (active : sys.scheduler.isActive job = true) {order : List Event}
    (reported : order ∈ reportFirst index) (unready : sys.scheduler.controlReady = false) :
    (sys.run settings order).scheduler = sys.scheduler.returning job ∧
      ∀ r : Relay, r.stored (sys.effects settings order) =
        (r.store.save (sys.scheduler.queue.pushFront job).toStored).2
  := by
  obtain ⟨ends, asked⟩ := run_of_mem_reportFirst settings found reported
  have unheard : sys.scheduler.controlChanged .disconnected = (sys.scheduler, []) := by
    simp [controlChanged, unready, ControlStatus.isReady, ControlStatus.disconnected]
  rw [unheard, failLoad_of_active active] at ends asked
  use ends
  intro r
  rw [asked, List.nil_append]
  apply stored_returning

/-- When the connection is lost while a job is being started, loading pauses.  If the failed call
is handled first, the job is back at the head of the queue.  Otherwise it is so exactly if the
control process already counted as not ready; if it counted as ready, the job is neither in the
queue nor stored. -/
theorem lost_agree_iff {events : List Event} {order : List Event}
    (starting : (after settings queue events).stage? index = some (.starting job))
    (active : (after settings queue events).scheduler.isActive job = true)
    (reported : order ∈ reportFirst index) :
    let sys := after settings queue events
    let first := sys.run settings (callFirst index)
    let last := sys.run settings order
    let returned := sys.scheduler.queue.pushFront job
    (first.scheduler.state = .paused ∧ last.scheduler.state = .paused) ∧
    (first.scheduler.queue = returned ∧
      ∀ r : Relay, r.stored (sys.effects settings (callFirst index)) =
        (r.store.save returned.toStored).2) ∧
    (sys.scheduler.controlReady = true →
      last.scheduler.queue = sys.scheduler.queue ∧
        ∀ r : Relay, r.stored (sys.effects settings order) = r.store) ∧
    (last.scheduler.queue = first.scheduler.queue ∧
        (∀ r : Relay, r.stored (sys.effects settings order) =
          r.stored (sys.effects settings (callFirst index))) ∧
        last.scheduler.state = first.scheduler.state ↔
      sys.scheduler.controlReady = false)
  := by
  intro sys first last returned
  obtain ⟨⟨epoch, stage⟩, found, rfl⟩ := Option.map_eq_some_iff.1 starting
  obtain ⟨callEnds, callStores⟩ := ends_callFirst settings found active
  cases control : sys.scheduler.controlReady with
  | false =>
    obtain ⟨ends, stores⟩ := ends_of_unready settings found active reported control
    simp only [first, last]
    rw [callEnds, ends]
    and_intros
    · rfl
    · rfl
    · rfl
    · apply callStores
    · rintro ⟨⟩
    · apply iff_of_true
      · and_intros
        · rfl
        · intro r
          apply (stores r).trans (callStores r).symm
        · rfl
      · trivial
  | true =>
    obtain ⟨ends, stores⟩ := ends_reportFirst settings found active reported control
    simp only [first, last]
    rw [callEnds, ends]
    and_intros
    · rfl
    · rfl
    · rfl
    · apply callStores
    · intro
      use rfl
    · apply iff_of_false
      · rintro ⟨same, -⟩
        apply List.cons_ne_self job sys.scheduler.queue.jobs
        apply (congrArg JobQueue.jobs same).symm
      · rintro ⟨⟩

end

/-- The control process shuts down while a chain waits, and the chain takes its job. -/
def shutsDown : List Event :=
  [becomesReady, .resumed 0 standsBy, .resumed 0 standsBy,
    .performed (.controlChanged ⟨.shutdown, ""⟩)] ++ goesOn 0

/-- In both orders the job is back when the control process was known not to be ready. -/
theorem lost_agree_iff_shutsDown :
    let sys := after delayed oneJob shutsDown
    (sys.stage? 0 = some (.starting job) ∧ sys.scheduler.isActive job = true) ∧
      (sys.run delayed [lost, fails 0, fails 0]).scheduler.queue =
        (sys.run delayed (callFirst 0)).scheduler.queue
  := by
  intro sys
  have starting : sys.stage? 0 = some (.starting job) := rfl
  have active : sys.scheduler.isActive job = true := rfl
  have reported : [lost, fails 0, fails 0] ∈ reportFirst 0 := by simp [reportFirst]
  obtain ⟨-, -, -, agree⟩ := lost_agree_iff starting active reported
  and_intros
  · apply starting
  · apply active
  · apply (agree.2 rfl).1

/-- A job whose start call fails as the connection is lost is back in the queue if the call is
handled first, and gone if the report is. -/
theorem lost_disagree_goesOn :
    let sys := after eager oneJob (becomesReady :: goesOn 0)
    sys.stage? 0 = some (.starting job) ∧ sys.scheduler.isActive job = true ∧
      (sys.run eager (callFirst 0)).scheduler.queue.jobs = [job] ∧
      (sys.run eager [lost, fails 0, fails 0]).scheduler.queue.jobs = []
  := by
  and_intros <;> rfl

end System

end Scheduler

end ControlRelay
