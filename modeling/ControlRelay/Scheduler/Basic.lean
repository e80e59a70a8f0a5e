import ControlRelay.Config.Settings
import ControlRelay.Control.Status
import ControlRelay.Queue.Basic
import ControlRelay.Text.Blank
import ControlRelay.Control.Dialogue

/-!
# The scheduler of the job queue

The scheduler hands the jobs of the queue to the control process, one after another.  Whenever
it is ready to load and nothing is in the way, it launches a load chain, which makes sure that
the control process is idle, waits for a while, runs a script and then starts the job at the
head of the queue.  Chains are told apart by their epoch; only the chain of the current epoch
may go on, and only while the scheduler is loading.

Every operation is one step: it takes the scheduler to its next state and says what is to be
done about it, in order.
-/

namespace ControlRelay

/-- The states of the printer in which a job can be started. -/
def idlePrintStates : List String := ["standby", "complete", "cancelled", "error"]

/-- Whether the printer can take a job. -/
def isIdle (printState : String) : Bool := idlePrintStates.contains printState

/-- What the clients are told about the queue. -/
structure QueueEvent where
  action : String
  /-- The queue as it is now, where the event is about it. -/
  queue : Option (List Job)
  state : QueueState
  reason : Option String := none

/-- What a step of the scheduler asks for. -/
inductive SchedulerEffect where
  /-- The queue is to be stored. -/
  | store (queue : StoredQueue)
  /-- The clients are to be told. -/
  | announce (event : QueueEvent)
  /-- A load chain of this epoch is to be launched. -/
  | launch (epoch : Nat)

/-- The state of the scheduler. -/
structure Scheduler where
  queue : JobQueue := {}
  state : QueueState := .paused
  /-- The epoch of the newest load chain; a pause during it begins another epoch.  A counter of 64
  bits would begin again after 2^64 epochs; so many are left out. -/
  epoch : Nat := 0
  /-- The job that was handed to the control process and has not ended. -/
  active : Option Job := none
  /-- Once the start of that job was acknowledged, the printer's state at that moment. -/
  acknowledgedIn : Option (Option String) := none
  /-- Whether the printer was seen printing that job. -/
  seenPrinting : Bool := false
  /-- The last known state of the printer. -/
  printState : Option String := none
  controlReady : Bool := false
  /-- Whether the next job follows a finished one of itself. -/
  automatic : Bool := false

namespace Scheduler

instance : Inhabited Scheduler := ⟨{}⟩

/-- The result of one step. -/
abbrev Step := Scheduler × List SchedulerEffect

/-- The scheduler of a restored queue. -/
def restored (settings : Config.JobSettings) (queue : JobQueue) : Scheduler where
  queue := queue
  state := if settings.loadOnStartup then .ready else .paused
  automatic := settings.automaticTransition

/-- The effect of storing the queue. -/
def storing (s : Scheduler) : SchedulerEffect := .store s.queue.toStored

/-- The effect of telling the clients. -/
def announcing (s : Scheduler) (action : String) (withQueue : Bool)
    (reason : Option String := none) : SchedulerEffect :=
  .announce ⟨action, if withQueue then some s.queue.jobs else none, s.state, reason⟩

/-- The effect of telling the clients that the scheduler changed its state. -/
def announcingState (s : Scheduler) (reason : Option String := none) : SchedulerEffect :=
  s.announcing "state_changed" false reason

/-- Forgets what was observed of the active job. -/
def untracked (s : Scheduler) : Scheduler :=
  { s with acknowledgedIn := none, seenPrinting := false }

/-- Whether a load chain of this epoch may go on. -/
def isCurrent (s : Scheduler) (epoch : Nat) : Bool := s.epoch = epoch && s.state = .loading

/-- Launches a load chain if everything permits it. -/
def tryLoad (s : Scheduler) : Step :=
  if s.state = .ready && s.controlReady && s.active.isNone && !s.queue.isEmpty then
    let s := { s with state := .loading, epoch := s.epoch + 1 }
    (s, [s.announcingState, .launch s.epoch])
  else (s, [])

/-- Does `before` and then launches a load chain if everything permits it. -/
def thenTryLoad (s : Scheduler) (before : List SchedulerEffect) : Step :=
  let (s, effects) := s.tryLoad
  (s, before ++ effects)

/-- Whether the active job has ended: its start was acknowledged, the printer is idle, and it
was printing or is in another state than when the start was acknowledged. -/
def jobEnded (s : Scheduler) : Bool :=
  match s.acknowledgedIn, s.printState with
  | some startedIn, some current =>
    s.active.isSome && isIdle current && (s.seenPrinting || startedIn != some current)
  | _, _ => false

/-! ## Operations of clients -/

/-- The names that are left when the blanks around them are gone. -/
def properNames (filenames : List String) : List String :=
  (filenames.map Text.trim).filter fun name => !name.isEmpty

/-- Appends jobs, after emptying the queue if `reset` is set. -/
def enqueue (s : Scheduler) (filenames : List String) (reset : Bool) (now : Float) :
    Except RelayError Step :=
  match properNames filenames with
  | [] => .error (.invalidParams "no filenames given")
  | names =>
    let s := { s with queue := (s.queue.enqueue names reset now).2 }
    .ok (s.thenTryLoad [s.storing, s.announcing "jobs_added" true])

/-- Which jobs are deleted: those with the given ids, or all. -/
abbrev Selection := Option (List JobId)

/-- Deletes jobs; ids that are not in the queue do not matter. -/
def remove (s : Scheduler) (selection : Selection) : Step :=
  let queue := match selection with
    | none => s.queue.clear.2
    | some ids => (s.queue.remove ids).2
  let s := { s with queue }
  (s, [s.storing, s.announcing "jobs_removed" true])

/-- Moves a job to the head of the queue. -/
def jump (s : Scheduler) (id : JobId) : Except RelayError Step :=
  match s.queue.jump? id with
  | none => .error (.jobNotFound id)
  | some queue =>
    let s := { s with queue }
    .ok (s, [s.storing, s.announcing "job_jumped" true])

/-- Stops loading.  A load in flight is given up; a job that was started goes on. -/
def pause (s : Scheduler) : Step :=
  let s := { s with
    epoch := if s.state = .loading then s.epoch + 1 else s.epoch
    state := .paused }
  (s, [s.announcingState])

/-- Goes on loading.  A job still held to be active is forgotten. -/
def start (s : Scheduler) : Except RelayError Step :=
  if s.state = .loading || s.state = .starting then
    .error (.queueStateConflict s.state "start")
  else
    let s := if s.active.isSome then { s.untracked with active := none } else s
    if s.state = .paused then
      let s := { s with state := .ready }
      .ok (s.thenTryLoad [s.announcingState])
    else .ok (s.thenTryLoad [])

/-! ## What the control process reports -/

/-- Takes in the state of the control process.  When it stops being ready, an active job is
lost and loading pauses. -/
def controlChanged (s : Scheduler) (status : ControlStatus) : Step :=
  if status.isReady = s.controlReady then (s, [])
  else
    let s := { s with controlReady := status.isReady }
    if status.isReady then s.tryLoad
    else
      match s.active with
      | none => (s, [])
      | some job =>
        let s := { s.untracked with active := none }
        if s.state = .paused then (s, [])
        else
          let s := { s with state := .paused }
          (s, [s.announcingState
            (some ("control process " ++ status.state.name ++ " during job " ++ job.id.text))])

/-- Ends the active job with the printer idle in `printState`, and decides whether the next
one follows. -/
def finishJob (s : Scheduler) (printState : String) : Step :=
  match s.active with
  | none => (s, [])
  | some job =>
    let s := { s.untracked with active := none }
    if s.state = .paused then (s, [])
    else if printState ≠ "complete" then
      let s := { s with state := .paused }
      (s, [s.announcingState
        (some ("job " ++ job.id.text ++ " ended with state '" ++ printState ++ "'"))])
    else if s.queue.isEmpty then
      let s := { s with state := .ready }
      (s, [s.announcingState])
    else if s.automatic then { s with state := .ready }.tryLoad
    else
      let s := { s with state := .paused }
      (s, [s.announcingState])

/-- Takes in the state of the printer. -/
def printStateChanged (s : Scheduler) (printState : String) : Step :=
  let s := { s with printState := some printState }
  if printState = "printing" then
    (if s.active.isSome then { s with seenPrinting := true } else s, [])
  else if !isIdle printState then (s, [])
  else if s.jobEnded then s.finishJob printState
  else if s.active.isNone then s.tryLoad
  else (s, [])

/-- The state of the printer in the scheduler's part of a status. -/
def printStateOf? (status : Fields) : Option String :=
  ((status.get? "print_stats").bind (·.get? "state")).bind Json.string?

/-- Takes in the scheduler's part of a status. -/
def statusChanged (s : Scheduler) (status : Fields) : Step :=
  match printStateOf? status with
  | some printState => s.printStateChanged printState
  | none => (s, [])

/-- What the scheduler itself wants to hear of. -/
def interest : Json := .ofMembers [("print_stats", .ofStrings ["state"])]

end Scheduler

end ControlRelay
