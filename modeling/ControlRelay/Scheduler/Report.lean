import ControlRelay.Rpc.Notification
import ControlRelay.Scheduler.Basic

/-!
# What clients see of the queue

The queue as clients see it: each job with the time it has been waiting, and the state of the
scheduler.
-/

namespace ControlRelay

/-- A job as clients see it at a given time. -/
def Job.reportAt (now : Float) (j : Job) : Json :=
  let age := now - j.timeAdded
  .ofMembers [("job_id", j.id.toJson), ("filename", .string j.filename),
    ("time_added", .ofFloat j.timeAdded),
    ("time_in_queue", .ofFloat (if 0.0 < age then age else 0.0))]

/-- An event as clients are told of it. -/
def QueueEvent.notification (e : QueueEvent) (now : Float) : Rpc.Notification :=
  let queue := match e.queue with
    | some jobs => Json.array (jobs.map (·.reportAt now))
    | none => .null
  let reason := match e.reason with
    | some reason => [("reason", Json.string reason)]
    | none => []
  .jobQueueChanged (.ofMembers ([("action", .string e.action), ("updated_queue", queue),
    ("queue_state", .string e.state.name)] ++ reason))

/-- The answer to every request about the queue. -/
def Scheduler.report (s : Scheduler) (now : Float) : Json :=
  .ofMembers [("queued_jobs", .array (s.queue.jobs.map (·.reportAt now))),
    ("queue_state", .string s.state.name)]

end ControlRelay
