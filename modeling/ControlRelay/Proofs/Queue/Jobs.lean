import ControlRelay.Queue.Basic
import Mathlib.Data.List.Basic

/-!
# The jobs of a queue

New jobs get ids from a counter on.  As long as the largest id is not given out, the ids of new
jobs grow, they are not below the counter, and they are below the counter after them.  The
counter of a restored queue is above all ids in it.  To jump, or to take the first job, loses
none of the others.
-/

namespace ControlRelay

/-- The largest id.  After it ids begin anew. -/
def JobId.last : JobId := ⟨UInt64.ofNat (UInt64.size - 1)⟩

theorem JobId.lt_succ {id : JobId} (below : id ≠ last) :
    id.value < id.value + 1
  := by
  apply UInt64.lt_add_one
  intro same
  apply below
  rw [show id = ⟨id.value⟩ from rfl, same]
  rfl

namespace JobQueue

/-! ### Restored queues -/

theorem lt_idAbove {id : JobId} (below : id ≠ .last) :
    id.value < idAbove id
  := by
  have before : id.value ≠ UInt64.ofNat (UInt64.size - 1) := by
    intro same
    apply below
    rw [show id = ⟨id.value⟩ from rfl, same]
    rfl
  rw [idAbove, if_neg before]
  apply JobId.lt_succ below

theorem le_max_left (m n : UInt64) :
    m ≤ max m n
  := by
  change m ≤ if m ≤ n then n else m
  split
  next le => apply le
  next => apply UInt64.le_refl

theorem le_max_right (m n : UInt64) :
    n ≤ max m n
  := by
  change n ≤ if m ≤ n then n else m
  split
  next => apply UInt64.le_refl
  next gt => apply UInt64.le_of_lt (UInt64.not_le.1 gt)

theorem le_nextId_restore (jobs : List Job) (nextId : UInt64) :
    nextId ≤ (restore jobs nextId).nextId
  := by
  induction jobs generalizing nextId with
  | nil => apply UInt64.le_refl
  | cons job jobs ih => apply UInt64.le_trans (le_max_left nextId (idAbove job.id)) (ih _)

/-- New ids are above those of the restored jobs. -/
theorem lt_nextId_restore {jobs : List Job} {job : Job} (mem : job ∈ jobs)
    (below : job.id ≠ .last) (nextId : UInt64) :
    job.id.value < (restore jobs nextId).nextId
  := by
  induction jobs generalizing nextId with
  | nil => cases mem
  | cons first jobs ih =>
    cases mem with
    | head =>
      apply UInt64.lt_of_lt_of_le (lt_idAbove below)
      apply UInt64.le_trans (le_max_right nextId _)
      apply le_nextId_restore
    | tail _ mem => apply ih mem

theorem max_eq_of_le {m n : UInt64} (le : n ≤ m) :
    max m n = m
  := by
  change (if m ≤ n then n else m) = m
  split
  next ge => apply UInt64.le_antisymm le ge
  next => rfl

theorem idAbove_le {id : JobId} {nextId : UInt64} (below : id.value < nextId) :
    idAbove id ≤ nextId
  := by
  unfold idAbove
  split
  next => apply UInt64.le_of_lt below
  next =>
    rw [UInt64.le_iff_toNat_le, UInt64.toNat_add]
    apply Nat.le_trans (Nat.mod_le _ _) (UInt64.lt_iff_toNat_lt.1 below)

/-- A queue whose ids are below the counter is restored as it was stored. -/
theorem ofStored_toStored {q : JobQueue} (below : ∀ job ∈ q.jobs, job.id.value < q.nextId) :
    ofStored q.toStored = q
  := by
  obtain ⟨jobs, nextId⟩ := q
  suffices same : jobs.foldl (fun least job => max least (idAbove job.id)) nextId = nextId by
    rw [ofStored, toStored, restore, same]
  induction jobs with
  | nil => rfl
  | cons job jobs ih =>
    obtain ⟨first, rest⟩ := List.forall_mem_cons.1 below
    rw [List.foldl_cons, max_eq_of_le (idAbove_le first)]
    apply ih rest

/-! ### New jobs -/

/-- The counter after new jobs. -/
theorem nextId_succ (nextId : UInt64) (count : Nat) :
    nextId + UInt64.ofNat (count + 1) = nextId + 1 + UInt64.ofNat count
  := by
  rw [Nat.add_comm, UInt64.ofNat_add, UInt64.add_assoc]
  rfl

theorem length_newJobs (nextId : UInt64) (now : Float) (names : List String) :
    (newJobs nextId now names).length = names.length
  := by
  induction names generalizing nextId with
  | nil => rfl
  | cons name names ih => rw [newJobs, List.length_cons, ih, List.length_cons]

section

variable {nextId : UInt64} {now : Float} {names : List String}

/-- The counter does not fall while the largest id is not given out. -/
theorem le_nextId_add (below : ∀ job ∈ newJobs nextId now names, job.id ≠ .last) :
    nextId ≤ nextId + UInt64.ofNat names.length
  := by
  induction names generalizing nextId with
  | nil =>
    apply UInt64.le_of_eq
    apply (UInt64.add_zero nextId).symm
  | cons name names ih =>
    obtain ⟨first, rest⟩ := List.forall_mem_cons.1 below
    rw [List.length_cons, nextId_succ]
    apply UInt64.le_trans (UInt64.le_of_lt (JobId.lt_succ first)) (ih rest)

/-- The ids of new jobs are in the span by which the counter goes up. -/
theorem newJobs_between (below : ∀ job ∈ newJobs nextId now names, job.id ≠ .last) {job : Job}
    (mem : job ∈ newJobs nextId now names) :
    nextId ≤ job.id.value ∧ job.id.value < nextId + UInt64.ofNat names.length
  := by
  induction names generalizing nextId with
  | nil => cases mem
  | cons name names ih =>
    obtain ⟨first, rest⟩ := List.forall_mem_cons.1 below
    have above : nextId < nextId + 1 := JobId.lt_succ first
    rw [List.length_cons, nextId_succ]
    cases mem with
    | head =>
      use UInt64.le_refl nextId
      apply UInt64.lt_of_lt_of_le above (le_nextId_add rest)
    | tail _ mem =>
      obtain ⟨least, most⟩ := ih rest mem
      use UInt64.le_trans (UInt64.le_of_lt above) least

/-- The ids of new jobs grow. -/
theorem newJobs_sorted (below : ∀ job ∈ newJobs nextId now names, job.id ≠ .last) :
    (newJobs nextId now names).Pairwise fun job later => job.id.value < later.id.value
  := by
  induction names generalizing nextId with
  | nil => apply List.Pairwise.nil
  | cons name names ih =>
    obtain ⟨first, rest⟩ := List.forall_mem_cons.1 below
    apply List.Pairwise.cons _ (ih rest)
    intro later mem
    apply UInt64.lt_of_lt_of_le (JobId.lt_succ first) (newJobs_between rest mem).1

end

/-- Jobs in the order of their ids have different ids. -/
theorem nodup_ids_of_sorted {jobs : List Job}
    (sorted : jobs.Pairwise fun job later => job.id.value < later.id.value) :
    (jobs.map Job.id).Nodup
  := by
  apply List.pairwise_map.2
  apply sorted.imp
  intro job later less same
  rw [same] at less
  apply UInt64.lt_irrefl _ less

/-! ### Taking jobs -/

theorem exists_mem_iff {q : JobQueue} :
    (∃ job, job ∈ q.jobs) ↔ q.isEmpty = false
  := List.isEmpty_eq_false_iff_exists_mem.symm

theorem isEmpty_of_popFront? {q : JobQueue} (none : q.popFront? = none) :
    q.isEmpty = true
  := by
  unfold popFront? at none
  split at none
  next empty => apply List.isEmpty_iff.2 empty
  next => cases none

theorem jobs_of_popFront? {q rest : JobQueue} {job : Job}
    (popped : q.popFront? = some (job, rest)) :
    q.jobs = job :: rest.jobs ∧ rest.nextId = q.nextId
  := by
  unfold popFront? at popped
  split at popped
  next => cases popped
  next first others jobs =>
    obtain ⟨rfl, rfl⟩ := Prod.mk.inj (Option.some.inj popped)
    use jobs

/-- A job that is taken out is the one of that id, and none of the others is lost. -/
theorem perm_of_takeOut? {id : JobId} {jobs others : List Job} {job : Job}
    (taken : takeOut? id jobs = some (job, others)) :
    job.id = id ∧ jobs.Perm (job :: others)
  := by
  induction jobs generalizing others with
  | nil => cases taken
  | cons first rest ih =>
    dsimp only [takeOut?] at taken
    split at taken
    next same =>
      obtain ⟨rfl, rfl⟩ := Prod.mk.inj (Option.some.inj taken)
      use same
    next =>
      obtain ⟨⟨found, left⟩, inRest, same⟩ := Option.map_eq_some_iff.1 taken
      obtain ⟨rfl, rfl⟩ := Prod.mk.inj same
      obtain ⟨named, perm⟩ := ih inRest
      use named
      apply (perm.cons first).trans (List.Perm.swap found first left)

end JobQueue

end ControlRelay
