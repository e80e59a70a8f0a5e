import ControlRelay.Queue.File

/-!
# Queue stores

The scheduler stores its queue after every change and reads it once, when it starts.  A store
is either memory, which may refuse to be read or written, or a queue file.
-/

namespace ControlRelay

/-- Where the queue is kept. -/
inductive QueueStore where
  | memory (queue : Option StoredQueue) (canLoad canSave : Bool)
  | file (file : QueueFile) (files : Storage.FileSystem)

namespace QueueStore

instance : Inhabited QueueStore := ⟨memory none true true⟩

/-- The stored queue, if one was stored. -/
def load : QueueStore → Except StoreError (Option StoredQueue)
  | memory queue canLoad _ => if canLoad then .ok queue else .error .parse
  | file f files => f.load files

/-- Replaces the stored queue; if that fails, what was stored stays. -/
def save (s : QueueStore) (queue : StoredQueue) : Except StoreError Unit × QueueStore :=
  match s with
  | memory kept canLoad canSave =>
    if canSave then (.ok (), memory (some queue) canLoad canSave)
    else (.error .serialize, memory kept canLoad canSave)
  | file f files =>
    let (outcome, files) := f.save queue files
    (outcome, file f files)

/-- The queue that a scheduler starts with; one that cannot be read is as good as none. -/
def restore (s : QueueStore) : JobQueue :=
  match s.load with
  | .ok (some stored) => .ofStored stored
  | _ => {}

end QueueStore

end ControlRelay
