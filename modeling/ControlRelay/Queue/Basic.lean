import ControlRelay.Queue.JobId

/-!
# The job queue

The queue holds the jobs to come, in the order in which they are to be started, and the id
that the next new job gets.  Ids are handed out upwards, so none is given twice before the
64 bits are exhausted; a queue that is restored goes on above every id it holds.
-/

namespace ControlRelay

/-- What the scheduler of the queue is doing. -/
inductive QueueState where
  | ready
  | loading
  | starting
  | paused
  deriving DecidableEq, Repr

namespace QueueState

/-- The name of the state in every message. -/
def name : QueueState → String
  | ready => "ready"
  | loading => "loading"
  | starting => "starting"
  | paused => "paused"

/-- All states. -/
def all : List QueueState := [ready, loading, starting, paused]

/-- A state given by its name. -/
def shape : Json.Shape QueueState := fun v => do
  let name ← Json.Shape.variant (all.map QueueState.name) v
  pure ((all.find? fun s => s.name = name).getD paused)

end QueueState

/-- One job to come. -/
structure Job where
  id : JobId
  /-- What the job is called, a path below the directory of jobs. -/
  filename : String
  /-- When it was enqueued, in seconds since 1970. -/
  timeAdded : Float
  deriving DecidableEq

namespace Job

/-- The job as it is sent. -/
def toJson (j : Job) : Json :=
  .ofMembers [("job_id", j.id.toJson), ("filename", .string j.filename),
    ("time_added", .ofFloat j.timeAdded)]

/-- Reads a job. -/
def shape : Json.Shape Job := fun v => do
  let members : List Json.Shape.Member :=
    [.of "job_id" JobId.shape .refused, .of "filename" Json.Shape.string .refused,
      .of "time_added" Json.Shape.float .refused]
  match ← Json.Shape.record "QueuedJob" members v with
  | [some id, some filename, some timeAdded] =>
    pure ⟨← JobId.shape id, ← Json.Shape.string filename, ← Json.Shape.float timeAdded⟩
  | _ => .error (.missingField "job_id")

end Job

/-- The jobs to come, the next one first. -/
structure JobQueue where
  jobs : List Job := []
  /-- The id the next new job gets. -/
  nextId : UInt64 := 0
  deriving DecidableEq

namespace JobQueue

instance : Inhabited JobQueue := ⟨{}⟩

/-- One more than an id, and no more than the largest. -/
def idAbove (id : JobId) : UInt64 :=
  if id.value = UInt64.ofNat (UInt64.size - 1) then id.value else id.value + 1

/-- The queue of stored jobs; new ids are at least `nextId` and above all stored ones. -/
def restore (jobs : List Job) (nextId : UInt64) : JobQueue where
  jobs := jobs
  nextId := jobs.foldl (fun least j => max least (idAbove j.id)) nextId

/-- New jobs for the given names, with ids from `nextId` on. -/
def newJobs (nextId : UInt64) (now : Float) : List String → List Job
  | [] => []
  | name :: names => ⟨⟨nextId⟩, name, now⟩ :: newJobs (nextId + 1) now names

/-- Appends a job for each name, after emptying the queue if `reset` is set.  Also gives the
new jobs. -/
def enqueue (q : JobQueue) (filenames : List String) (reset : Bool) (now : Float) :
    List Job × JobQueue :=
  let added := newJobs q.nextId now filenames
  (added, ⟨(if reset then [] else q.jobs) ++ added, q.nextId + UInt64.ofNat filenames.length⟩)

/-- Deletes the jobs with the given ids.  Also gives their number. -/
def remove (q : JobQueue) (ids : List JobId) : Nat × JobQueue :=
  let kept := q.jobs.filter fun j => j.id ∉ ids
  (q.jobs.length - kept.length, { q with jobs := kept })

/-- Deletes all jobs.  Also gives their number. -/
def clear (q : JobQueue) : Nat × JobQueue := (q.jobs.length, { q with jobs := [] })

/-- The first job with the given id and the others, in their order. -/
def takeOut? (id : JobId) : List Job → Option (Job × List Job)
  | [] => none
  | j :: rest =>
    if j.id = id then some (j, rest) else (takeOut? id rest).map fun (k, others) => (k, j :: others)

/-- Moves a job to the head of the queue; `none` if it is not there. -/
def jump? (q : JobQueue) (id : JobId) : Option JobQueue :=
  (takeOut? id q.jobs).map fun (j, others) => { q with jobs := j :: others }

/-- Takes the first job. -/
def popFront? (q : JobQueue) : Option (Job × JobQueue) :=
  match q.jobs with
  | [] => none
  | j :: rest => some (j, { q with jobs := rest })

/-- Puts a job back at the head. -/
def pushFront (q : JobQueue) (j : Job) : JobQueue := { q with jobs := j :: q.jobs }

/-- Whether a job of this id waits. -/
def contains (q : JobQueue) (id : JobId) : Bool := q.jobs.any fun j => j.id = id

/-- Whether no job waits. -/
def isEmpty (q : JobQueue) : Bool := q.jobs.isEmpty

/-- The message for a job that is not there. -/
def notFoundMessage (id : JobId) : String := "job " ++ id.text ++ " is not in the queue"

end JobQueue

/-- A queue as it is stored. -/
structure StoredQueue where
  nextId : UInt64 := 0
  jobs : List Job := []
  deriving DecidableEq

instance : Inhabited StoredQueue := ⟨{}⟩

namespace JobQueue

/-- The queue as it is stored. -/
def toStored (q : JobQueue) : StoredQueue := ⟨q.nextId, q.jobs⟩

/-- The queue restored from what was stored. -/
def ofStored (s : StoredQueue) : JobQueue := restore s.jobs s.nextId

end JobQueue

end ControlRelay
