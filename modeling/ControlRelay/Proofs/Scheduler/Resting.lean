import ControlRelay.Proofs.Scheduler.Holding

/-!
# Schedulers at rest

A scheduler without an active job is at rest when loading would change nothing: it is not ready,
or the control process is not, or no job waits.  It comes to rest whenever it has tried to load
and whenever a job has ended.  What is not at rest and not loading stands: a job waits, nothing
is in the way, and still the scheduler does not load it.
-/

namespace ControlRelay.Scheduler

/-- Without an active job, and with nothing to be loaded. -/
structure AtRest (s : Scheduler) : Prop where
  unused : s.active = none
  blocked : s.state = .ready → s.controlReady = true → s.queue.isEmpty = true

/-- A job waits, and nothing is in the way of loading it, but the scheduler does not. -/
structure Stands (s : Scheduler) : Prop where
  ready : s.state = .ready
  control : s.controlReady = true
  unused : s.active = none
  waiting : s.queue.isEmpty = false

section

variable {s : Scheduler} {job : Job}

theorem AtRest.not_stands (atRest : AtRest s) :
    ¬Stands s
  := by
  intro stands
  cases (atRest.blocked stands.ready stands.control).symm.trans stands.waiting

/-! ### Loading -/

theorem tryLoad_of_blocked
    (blocked : s.state = .ready → s.controlReady = true → s.queue.isEmpty = true) :
    s.tryLoad = (s, [])
  := by
  unfold tryLoad
  split
  next permitted =>
    simp only [Bool.and_eq_true, decide_eq_true_eq, Bool.not_eq_true'] at permitted
    obtain ⟨⟨⟨ready, control⟩, -⟩, waiting⟩ := permitted
    cases (blocked ready control).symm.trans waiting
  next => rfl

theorem atRest_tryLoad (unused : s.active = none) :
    AtRest s.tryLoad.1
  := by
  unfold tryLoad
  split
  next =>
    use unused
    rintro ⟨⟩
  next refused =>
    use unused
    simpa [unused] using refused

theorem not_stands_tryLoad (s : Scheduler) :
    ¬Stands s.tryLoad.1
  := by
  intro stands
  apply (atRest_tryLoad _).not_stands stands
  rw [← active_tryLoad]
  apply stands.unused

theorem not_stands_thenTryLoad (s : Scheduler) (before : List SchedulerEffect) :
    ¬Stands (s.thenTryLoad before).1
  := not_stands_tryLoad s

/-! ### The end of a job -/

theorem atRest_finishJob (active : s.active = some job) (printState : String) :
    AtRest (s.finishJob printState).1
  := by
  rw [finishJob, active]
  dsimp only
  split
  next paused =>
    use rfl
    intro ready
    cases paused.symm.trans ready
  next =>
    split
    next =>
      use rfl
      rintro ⟨⟩
    next =>
      split
      next empty =>
        use rfl
        intro _ _
        apply empty
      next =>
        split
        next => apply atRest_tryLoad rfl
        next =>
          use rfl
          rintro ⟨⟩

end

end ControlRelay.Scheduler
