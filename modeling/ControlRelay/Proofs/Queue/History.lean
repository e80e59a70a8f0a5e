import ControlRelay.Proofs.Queue.Jobs
import Mathlib.Data.List.Perm.Subperm
import Mathlib.Data.List.Nodup

/-!
# The history of a queue

A restored queue goes through any operations, one after the other.  What all of them keep is that
the jobs that wait have different ids, and that the counter is above those.  So the counter alone
tells that a new id is new: it is above all ids that were stored, and all that were given since.
-/

namespace ControlRelay

namespace JobQueue

/-- An operation on a queue. -/
inductive Operation where
  | enqueue (filenames : List String) (reset : Bool) (now : Float)
  | remove (ids : List JobId)
  | clear
  | jump (id : JobId)
  | popFront

/-- The jobs that an operation creates. -/
def created (q : JobQueue) : Operation → List Job
  | .enqueue filenames reset now => (q.enqueue filenames reset now).1
  | _ => []

/-- The queue after an operation.  One that fails leaves it as it is. -/
def perform (q : JobQueue) : Operation → JobQueue
  | .enqueue filenames reset now => (q.enqueue filenames reset now).2
  | .remove ids => (q.remove ids).2
  | .clear => q.clear.2
  | .jump id => (q.jump? id).getD q
  | .popFront => (q.popFront?.map Prod.snd).getD q

/-- The queue after some operations. -/
def performAll (q : JobQueue) (operations : List Operation) : JobQueue :=
  operations.foldl perform q

/-- The jobs that some operations create, in this order. -/
def createdBy (q : JobQueue) : List Operation → List Job
  | [] => []
  | operation :: operations =>
    q.created operation ++ createdBy (q.perform operation) operations

/-- What an operation is to give, and to leave in the queue. -/
def Does (q : JobQueue) : Operation → Prop
  | .enqueue filenames reset now =>
    ∃ added, q.enqueue filenames reset now =
        (added, ⟨(if reset then [] else q.jobs) ++ added,
          q.nextId + UInt64.ofNat filenames.length⟩) ∧
      added.map Job.filename = filenames ∧ ∀ job ∈ added, job.timeAdded = now
  | .remove ids =>
    ∃ kept, q.remove ids =
        (q.jobs.countP fun job => job.id ∈ ids, { q with jobs := kept }) ∧
      kept.Sublist q.jobs ∧ ∀ job, job ∈ kept ↔ job ∈ q.jobs ∧ job.id ∉ ids
  | .clear => q.clear = (q.jobs.length, { q with jobs := [] })
  | .jump id =>
    (q.jump? id = none ∧ (∀ job ∈ q.jobs, job.id ≠ id) ∧ q.perform (.jump id) = q) ∨
      ∃ before job after, q.jobs = before ++ job :: after ∧ job.id = id ∧
        q.jump? id = some { q with jobs := job :: (before ++ after) } ∧
        (q.perform (.jump id)).jobs.Perm q.jobs
  | .popFront =>
    (q.popFront? = none ∧ q.jobs = []) ∨
      ∃ job rest, q.jobs = job :: rest ∧ q.popFront? = some (job, { q with jobs := rest })

/-! ### What an operation does -/

section

variable {id : JobId} {jobs : List Job}

/-- The job that is taken out is between those before it and those after it. -/
theorem exists_of_takeOut? {job : Job} {others : List Job}
    (taken : takeOut? id jobs = some (job, others)) :
    ∃ before after, jobs = before ++ job :: after ∧ others = before ++ after
  := by
  induction jobs generalizing others with
  | nil => cases taken
  | cons first rest ih =>
    dsimp only [takeOut?] at taken
    split at taken
    next =>
      obtain ⟨rfl, rfl⟩ := Prod.mk.inj (Option.some.inj taken)
      use [], rest
      exact ⟨rfl, rfl⟩
    next =>
      obtain ⟨⟨found, left⟩, inRest, same⟩ := Option.map_eq_some_iff.1 taken
      obtain ⟨rfl, rfl⟩ := Prod.mk.inj same
      obtain ⟨before, after, rfl, rfl⟩ := ih inRest
      use first :: before, after
      exact ⟨rfl, rfl⟩

theorem takeOut?_eq_none_iff :
    takeOut? id jobs = none ↔ ∀ job ∈ jobs, job.id ≠ id
  := by
  induction jobs with
  | nil => exact iff_of_true rfl nofun
  | cons first rest ih =>
    rw [takeOut?, List.forall_mem_cons, ← ih]
    split
    next same => exact iff_of_false nofun fun ⟨other, _⟩ => other same
    next other => rw [Option.map_eq_none_iff, and_iff_right other]

end

theorem map_filename_newJobs (nextId : UInt64) (now : Float) (names : List String) :
    (newJobs nextId now names).map Job.filename = names
  := by
  induction names generalizing nextId with
  | nil => rfl
  | cons name names ih => rw [newJobs, List.map_cons, ih]

theorem timeAdded_of_mem_newJobs {nextId : UInt64} {now : Float} {names : List String} {job : Job}
    (mem : job ∈ newJobs nextId now names) :
    job.timeAdded = now
  := by
  induction names generalizing nextId with
  | nil => cases mem
  | cons name names ih =>
    cases mem with
    | head => rfl
    | tail _ mem => apply ih mem

/-- Every operation does its job on every queue. -/
theorem does (q : JobQueue) (operation : Operation) :
    q.Does operation
  := by
  cases operation with
  | enqueue filenames reset now =>
    use newJobs q.nextId now filenames, rfl, map_filename_newJobs q.nextId now filenames
    intro job
    exact timeAdded_of_mem_newJobs
  | remove ids =>
    use q.jobs.filter fun job => job.id ∉ ids
    refine ⟨?_, List.filter_sublist, ?_⟩
    · have counted := q.jobs.length_eq_countP_add_countP fun job => job.id ∈ ids
      simp only [decide_eq_true_eq] at counted
      rw [remove, ← List.countP_eq_length_filter, counted, Nat.add_sub_cancel_right]
    · intro job
      rw [List.mem_filter, decide_eq_true_iff]
  | clear => rfl
  | jump id =>
    cases taken : takeOut? id q.jobs with
    | none =>
      have failed : q.jump? id = none := by rw [jump?, taken, Option.map_none]
      left
      use failed, takeOut?_eq_none_iff.1 taken
      rw [perform, failed, Option.getD_none]
    | some found =>
      obtain ⟨job, others⟩ := found
      have moved : q.jump? id = some { q with jobs := job :: others } := by
        rw [jump?, taken, Option.map_some]
      obtain ⟨named, perm⟩ := perm_of_takeOut? taken
      obtain ⟨before, after, same, rfl⟩ := exists_of_takeOut? taken
      right
      use before, job, after, same, named, moved
      rw [perform, moved, Option.getD_some]
      apply perm.symm
  | popFront =>
    cases waiting : q.jobs with
    | nil =>
      left
      use by rw [popFront?, waiting], waiting
    | cons job rest =>
      right
      use job, rest, waiting
      rw [popFront?, waiting]

/-! ### Ids -/

/-- The jobs that wait have different ids, all of them below the counter. -/
structure Numbered (q : JobQueue) : Prop where
  distinct : (q.jobs.map Job.id).Nodup
  below : ∀ job ∈ q.jobs, job.id.value < q.nextId

/-- Stored jobs with different ids are restored to a queue that may go on, whatever counter was
stored with them. -/
theorem numbered_restore {jobs : List Job} (distinct : (jobs.map Job.id).Nodup)
    (given : ∀ job ∈ jobs, job.id ≠ .last) (nextId : UInt64) :
    (restore jobs nextId).Numbered where
  distinct := distinct
  below job mem := lt_nextId_restore mem (given job mem) nextId

namespace Numbered

variable {q : JobQueue}

/-- Of a queue, any part with the same counter may stand for it. -/
theorem of_subperm (sound : q.Numbered) {jobs : List Job} (part : jobs.Subperm q.jobs) :
    Numbered { q with jobs := jobs }
  := by
  obtain ⟨same, perm, sublist⟩ := part
  refine ⟨?_, ?_⟩
  · apply (perm.map Job.id).nodup_iff.1
    apply sound.distinct.sublist (sublist.map Job.id)
  · intro job mem
    apply sound.below job (sublist.subset (perm.mem_iff.2 mem))

/-- New jobs get ids that no job has. -/
theorem enqueue (sound : q.Numbered) {filenames : List String} {reset : Bool} {now : Float}
    (fresh : ∀ job ∈ (q.enqueue filenames reset now).1, job.id ≠ .last) :
    (q.enqueue filenames reset now).2.Numbered
  := by
  have part : (if reset then [] else q.jobs).Subperm q.jobs := by
    split
    · apply (List.nil_sublist q.jobs).subperm
    · apply List.Subperm.refl
  have old := sound.of_subperm part
  refine ⟨?_, ?_⟩
  · rw [JobQueue.enqueue, List.map_append]
    apply List.Nodup.append old.distinct (nodup_ids_of_sorted (newJobs_sorted fresh))
    intro id inOld inNew
    obtain ⟨job, waits, rfl⟩ := List.mem_map.1 inOld
    obtain ⟨later, added, same⟩ := List.mem_map.1 inNew
    have least := (newJobs_between fresh added).1
    rw [same] at least
    exact UInt64.not_le.2 (old.below job waits) least
  · intro job mem
    cases List.mem_append.1 mem with
    | inl waits => apply UInt64.lt_of_lt_of_le (old.below job waits) (le_nextId_add fresh)
    | inr added => apply (newJobs_between fresh added).2

/-- What one operation keeps.  The counter does not fall, and the new ids are in the span by which
it goes up. -/
theorem perform (sound : q.Numbered) {operation : Operation}
    (fresh : ∀ job ∈ q.created operation, job.id ≠ .last) :
    (q.perform operation).Numbered ∧ q.nextId ≤ (q.perform operation).nextId ∧
      (q.created operation).Pairwise (fun job later => job.id.value < later.id.value) ∧
      ∀ job ∈ q.created operation,
        q.nextId ≤ job.id.value ∧ job.id.value < (q.perform operation).nextId
  := by
  -- all but one leave a part of the queue and the counter
  have kept {jobs : List Job} (part : jobs.Subperm q.jobs) :
      Numbered { q with jobs := jobs } ∧ q.nextId ≤ q.nextId ∧
        ([] : List Job).Pairwise (fun job later => job.id.value < later.id.value) ∧
        ∀ job ∈ ([] : List Job), q.nextId ≤ job.id.value ∧ job.id.value < q.nextId
    := ⟨sound.of_subperm part, UInt64.le_refl q.nextId, .nil, nofun⟩
  have done := q.does operation
  cases operation with
  | enqueue filenames reset now =>
    use sound.enqueue fresh, le_nextId_add fresh, newJobs_sorted fresh
    intro job mem
    apply newJobs_between fresh mem
  | remove ids => exact kept List.filter_sublist.subperm
  | clear => exact kept (List.nil_sublist q.jobs).subperm
  | jump id =>
    rcases done with ⟨-, -, same⟩ | ⟨before, job, after, -, -, moved, perm⟩
    · rw [same]
      exact kept (List.Subperm.refl q.jobs)
    · rw [JobQueue.perform, moved] at perm ⊢
      exact kept perm.subperm
  | popFront =>
    rcases done with ⟨none, -⟩ | ⟨job, rest, same, popped⟩
    · rw [JobQueue.perform, none]
      exact kept (List.Subperm.refl q.jobs)
    · rw [JobQueue.perform, popped]
      apply kept
      rw [same]
      apply (List.sublist_cons_self job rest).subperm

/-- What any operations keep.  The ids that are given grow, from the counter on. -/
theorem performAll (sound : q.Numbered) {operations : List Operation}
    (fresh : ∀ job ∈ q.createdBy operations, job.id ≠ .last) :
    (q.performAll operations).Numbered ∧
      (q.createdBy operations).Pairwise (fun job later => job.id.value < later.id.value) ∧
      ∀ job ∈ q.createdBy operations, q.nextId ≤ job.id.value
  := by
  induction operations generalizing q with
  | nil => exact ⟨sound, .nil, nofun⟩
  | cons operation operations ih =>
    obtain ⟨first, rest⟩ := List.forall_mem_append.1 fresh
    obtain ⟨next, higher, sorted, between⟩ := sound.perform first
    obtain ⟨last, sorted', above⟩ := ih next rest
    refine ⟨last, ?_, ?_⟩
    · apply List.pairwise_append.2 ⟨sorted, sorted', _⟩
      intro job mem later mem'
      apply UInt64.lt_of_lt_of_le (between job mem).2 (above later mem')
    · intro job mem
      cases List.mem_append.1 mem with
      | inl mem => apply (between job mem).1
      | inr mem => apply UInt64.le_trans higher (above job mem)

end Numbered

/-- Stored jobs with different ids are restored, with any counter, and the queue goes through any
operations, without the largest id.  Then the jobs that wait have different ids below the counter.
The ids that were given grow, and they are above all stored ones.  The next operation does its
job. -/
theorem restored_numbered {jobs : List Job} (distinct : (jobs.map Job.id).Nodup)
    (given : ∀ job ∈ jobs, job.id ≠ .last) (nextId : UInt64) (operations : List Operation)
    (fresh : ∀ job ∈ (restore jobs nextId).createdBy operations, job.id ≠ .last) :
    ((((restore jobs nextId).performAll operations).jobs.map Job.id).Nodup ∧
      ∀ job ∈ ((restore jobs nextId).performAll operations).jobs,
        job.id.value < ((restore jobs nextId).performAll operations).nextId) ∧
      ((restore jobs nextId).createdBy operations).Pairwise
        (fun job later => job.id.value < later.id.value) ∧
      (∀ job ∈ (restore jobs nextId).createdBy operations,
        nextId ≤ job.id.value ∧ ∀ old ∈ jobs, old.id.value < job.id.value) ∧
      ∀ operation, ((restore jobs nextId).performAll operations).Does operation
  := by
  have sound := numbered_restore distinct given nextId
  obtain ⟨⟨distinct', below⟩, sorted, above⟩ := sound.performAll fresh
  refine ⟨⟨distinct', below⟩, sorted, ?_, does _⟩
  intro job mem
  use UInt64.le_trans (le_nextId_restore jobs nextId) (above job mem)
  intro old stored
  apply UInt64.lt_of_lt_of_le (sound.below old stored) (above job mem)

/-- The stored counter is stale, and the jobs are not in the order of their ids. -/
theorem restored_numbered_stale :
    ([⟨⟨41⟩, "x", 0⟩, ⟨⟨7⟩, "y", 0⟩].map Job.id).Nodup ∧
      ∀ job ∈ (restore [⟨⟨41⟩, "x", 0⟩, ⟨⟨7⟩, "y", 0⟩] 3).createdBy
          [.enqueue ["a", "b"] false 1, .jump ⟨43⟩, .remove [⟨7⟩], .enqueue ["c"] true 2],
        3 ≤ job.id.value ∧
          ∀ old ∈ ([⟨⟨41⟩, "x", 0⟩, ⟨⟨7⟩, "y", 0⟩] : List Job), old.id.value < job.id.value
  := by
  have distinct : ([⟨⟨41⟩, "x", 0⟩, ⟨⟨7⟩, "y", 0⟩].map Job.id).Nodup := by decide
  exact ⟨distinct, (restored_numbered distinct (by decide) 3 _ (by decide)).2.2.1⟩

example : ((restore [⟨⟨41⟩, "x", 0⟩, ⟨⟨7⟩, "y", 0⟩] 3).performAll
    [.enqueue ["a", "b"] false 1, .jump ⟨43⟩, .remove [⟨7⟩]]).jobs.map Job.id
      = [⟨43⟩, ⟨41⟩, ⟨42⟩]
  := by decide

end JobQueue

end ControlRelay
