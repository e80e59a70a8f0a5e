import ControlRelay.Queue.Basic
import ControlRelay.Storage.FileSystem
import ControlRelay.Toml.Reader
import ControlRelay.Toml.Writer

/-!
# The queue file

The queue is kept in a TOML file: the next id and a table for each job.  To save it, the new
text is written to a temporary file beside the queue file, which is then renamed into place.
`SaveStep` gives these steps one by one, since the process may stop after any of them.
-/

namespace ControlRelay

open Storage

/-- Why the stored queue cannot be read or written. -/
inductive StoreError where
  | io (path : String) (error : IoError)
  | parse
  /-- The queue has no text, since its next id is no TOML integer. -/
  | serialize
  deriving DecidableEq, Repr

namespace StoredQueue

/-- One job of the file. -/
def jobText (j : Job) : String :=
  "\n[[jobs]]\njob_id = " ++ Toml.quoted j.id.text ++ "\nfilename = " ++ Toml.quoted j.filename
    ++ "\ntime_added = " ++ Toml.floatText j.timeAdded ++ "\n"

/-- The text of a queue file; TOML integers end at `2^63 - 1`. -/
def toToml? (q : StoredQueue) : Option String :=
  if q.nextId.toNat < 0x8000000000000000 then
    some ("next_id = " ++ toString q.nextId ++ "\n"
      ++ (if q.jobs.isEmpty then "jobs = []\n" else String.join (q.jobs.map jobText)))
  else none

/-- Reads one job of the file. -/
def jobOfToml? : Toml.Shape Job := fun v => do
  match ← Toml.Shape.record ["job_id", "filename", "time_added"] v with
  | [some id, some filename, some timeAdded] =>
    pure ⟨← JobId.ofText? (← Toml.Shape.string id), ← Toml.Shape.string filename,
      ← Toml.Shape.float timeAdded⟩
  | _ => none

/-- Reads the value of a queue file. -/
def ofToml? : Toml.Shape StoredQueue := fun v => do
  match ← Toml.Shape.record ["next_id", "jobs"] v with
  | [nextId, jobs] =>
    let nextId ← Toml.Shape.field (Toml.Shape.integer 0 (UInt64.size - 1)) 0 nextId
    let jobs ← Toml.Shape.field (Toml.Shape.list jobOfToml?) [] jobs
    pure ⟨UInt64.ofNat nextId.toNat, jobs⟩
  | _ => none

/-- Reads the text of a queue file. -/
def parse? (text : String) : Option StoredQueue := (Toml.parse? text).bind ofToml?

end StoredQueue

/-- A file that keeps a queue. -/
structure QueueFile where
  path : String

namespace QueueFile

/-- Where the file stands. -/
def place (f : QueueFile) : Path := .ofText f.path

/-- The file that a new text is written to first. -/
def temporary (f : QueueFile) : Path := f.place.withExtension "tmp"

/-- Reads the stored queue; `none` if there is no file. -/
def load (f : QueueFile) (fs : FileSystem) : Except StoreError (Option StoredQueue) :=
  match fs.readText f.place with
  | .error .notFound => .ok none
  | .error e => .error (.io f.path e)
  | .ok text =>
    match StoredQueue.parse? text with
    | some q => .ok (some q)
    | none => .error .parse

/-- A step of saving a queue. -/
inductive SaveStep where
  | makeDirectory (path : Path)
  | write (path : Path) (bytes : List UInt8)
  | rename (source target : Path)

/-- What a step does to the files. -/
def SaveStep.run (fs : FileSystem) : SaveStep → Except IoError FileSystem
  | makeDirectory p => fs.makeDirectory p
  | write p bytes => fs.write p bytes
  | rename source target => fs.rename source target

/-- The steps of saving a text. -/
def saveSteps (f : QueueFile) (text : String) : List SaveStep :=
  (match f.place.parent? with
    | some parent => if parent.names.isEmpty then [] else [.makeDirectory parent]
    | none => [])
    ++ [.write f.temporary text.toUTF8.toList, .rename f.temporary f.place]

/-- Takes the steps until one fails.  The files are left as they are then. -/
def runSteps (fs : FileSystem) : List SaveStep → Option IoError × FileSystem
  | [] => (none, fs)
  | step :: rest =>
    match step.run fs with
    | .error e => (some e, fs)
    | .ok fs => runSteps fs rest

/-- Replaces the stored queue. -/
def save (f : QueueFile) (q : StoredQueue) (fs : FileSystem) :
    Except StoreError Unit × FileSystem :=
  match q.toToml? with
  | none => (.error .serialize, fs)
  | some text =>
    match runSteps fs (f.saveSteps text) with
    | (some e, fs) => (.error (.io f.path e), fs)
    | (none, fs) => (.ok (), fs)

end QueueFile

end ControlRelay
