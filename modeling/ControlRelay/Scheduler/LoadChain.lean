import ControlRelay.Scheduler.Basic

/-!
# Load chains

A load chain takes one job from the queue to the control process.  It goes through the stages
of `LoadStage`: a stage either calls the control process, or waits, or takes one step on the
scheduler.  Between stages anything else may happen, so every step on the scheduler first looks
whether the chain is still the current one.
-/

namespace ControlRelay

/-- Where a load chain stands. -/
inductive LoadStage where
  /-- It asks for the state of the printer. -/
  | asking
  /-- The answer is there and is to be looked at. -/
  | checking (printState : String)
  /-- It waits. -/
  | waiting (nanos : Nat)
  /-- It has waited. -/
  | waited
  /-- It runs the transition script, if there is one. -/
  | scripting
  /-- The script was run. -/
  | scripted
  /-- It takes the next job. -/
  | taking
  /-- It starts the job. -/
  | starting (job : Job)
  /-- The start was acknowledged. -/
  | started (job : Job)
  /-- A call failed; a job that was taken is to go back. -/
  | failed (job : Option Job) (error : RelayError)
  /-- It has ended. -/
  | ended

/-- What a stage does. -/
inductive LoadAction where
  | call (call : Control.Call)
  | wait (nanos : Nat)
  /-- It takes a step on the scheduler. -/
  | step
  /-- It goes on to the next stage at once. -/
  | proceed (next : LoadStage)
  /-- It is over. -/
  | stop

namespace LoadStage

/-- A call that runs a script. -/
def scriptCall (script : String) : Control.Call :=
  ⟨Control.scriptMethod, .ofMembers [("script", .string script)]⟩

/-- The script that starts a job. -/
def startScript (job : Job) : String := "SDCARD_PRINT_FILE FILENAME=\"" ++ job.filename ++ "\""

/-- What a stage does. -/
def action (settings : Config.JobSettings) : LoadStage → LoadAction
  | asking => .call ⟨Control.queryMethod, .ofMembers [("objects", Scheduler.interest)]⟩
  | waiting nanos => .wait nanos
  | scripting =>
    let script := Text.trim settings.transitionScript
    if script.isEmpty then .proceed scripted else .call (scriptCall script)
  | starting job => .call (scriptCall (startScript job))
  | ended => .stop
  | _ => .step

/-- The state of the printer in the answer to a query; empty if there is none. -/
def printStateIn (result : Json) : String :=
  ((((result.get? "status").bind (·.get? "print_stats")).bind (·.get? "state")).bind
    Json.string?).getD ""

/-- The stage after the answer to the call of a stage. -/
def answered : LoadStage → Reply → LoadStage
  | asking, .ok result => checking (printStateIn result)
  | asking, .error e => failed none e
  | scripting, .ok _ => scripted
  | scripting, .error e => failed none e
  | starting job, .ok _ => started job
  | starting job, .error e => failed (some job) e
  | stage, _ => stage

/-- The stage after the wait of a stage. -/
def elapsed : LoadStage → LoadStage
  | waiting _ => waited
  | stage => stage

end LoadStage

namespace Scheduler

/-- Whether `job` is the active one, told by its id. -/
def isActive (s : Scheduler) (job : Job) : Bool := s.active.map (·.id) = some job.id

/-- The step of a chain that has learnt the state of the printer: an idle printer lets it go
on, any other puts the load off.  A delay that cannot be represented is the end of the chain,
which leaves the scheduler loading. -/
def checkPrinter (s : Scheduler) (settings : Config.JobSettings) (epoch : Nat)
    (printState : String) : Step × LoadStage :=
  if !s.isCurrent epoch then ((s, []), .ended)
  else
    let s := if printState.isEmpty then s else { s with printState := some printState }
    if isIdle printState then
      match settings.delayNanos? with
      | none => ((s, []), .ended)
      | some 0 => ((s, []), .scripting)
      | some nanos => ((s, []), .waiting nanos)
    else
      let s := { s with state := .ready }
      ((s, [s.announcingState]), .ended)

/-- The step of a chain that takes the next job. -/
def takeJob (s : Scheduler) (epoch : Nat) : Step × LoadStage :=
  if !s.isCurrent epoch then ((s, []), .ended)
  else
    match s.queue.popFront? with
    | none =>
      let s := { s with state := .ready }
      ((s, [s.announcingState]), .ended)
    | some (job, queue) =>
      let s := { s.untracked with queue, state := .starting, active := some job }
      ((s, [s.storing, s.announcing "job_loaded" true]), .starting job)

/-- The step of a chain whose job's start was acknowledged.  A job that has ended before is
finished here. -/
def acknowledge (s : Scheduler) (job : Job) : Step :=
  if s.isActive job then
    let s := { s with acknowledgedIn := some s.printState }
    if s.jobEnded then s.finishJob (s.printState.getD "") else (s, [])
  else (s, [])

/-- The step of a chain whose call failed: the job goes back to the head of the queue, and
loading pauses. -/
def failLoad (s : Scheduler) (epoch : Nat) (job : Option Job) (error : RelayError) : Step :=
  match job with
  | some job =>
    if s.isActive job then
      let s := { s.untracked with active := none, queue := s.queue.pushFront job }
      let paused := { s with state := .paused }
      (paused, [s.storing, paused.announcing "state_changed" true (some error.message)])
    else (s, [])
  | none =>
    if s.isCurrent epoch then
      let s := { s with state := .paused }
      (s, [s.announcing "state_changed" true (some error.message)])
    else (s, [])

/-- The step on the scheduler of a chain at a stage, and the stage after it. -/
def chainStep (s : Scheduler) (settings : Config.JobSettings) (epoch : Nat) :
    LoadStage → Step × LoadStage
  | .checking printState => s.checkPrinter settings epoch printState
  | .waited => ((s, []), if s.isCurrent epoch then .scripting else .ended)
  | .scripted => ((s, []), if s.isCurrent epoch then .taking else .ended)
  | .taking => s.takeJob epoch
  | .started job => (s.acknowledge job, .ended)
  | .failed job error => (s.failLoad epoch job error, .ended)
  | stage => ((s, []), stage)

end Scheduler

end ControlRelay
