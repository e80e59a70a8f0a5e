import ControlRelay.Proofs.Scheduler.Holding
import ControlRelay.Proofs.Scheduler.Pausing
import Mathlib.Data.List.Induction
import Mathlib.Data.List.Infix
import Mathlib.Data.List.Nodup
import Mathlib.Data.List.Perm.Subperm

/-!
# Where jobs are

As long as the largest id is not given out, every id is in one place at most: at one position of
the queue, or with the active job.  A job leaves these places only when it is deleted, the queue
is replaced, or it is over, forgotten or lost as the active job, and it never comes back.  A chain
knows its job as the scheduler does, so a job whose start call fails goes back unchanged.
-/

namespace ControlRelay

namespace LoadStage

/-- The job that a chain at this stage has taken. -/
def job? : LoadStage → Option Job
  | starting job => some job
  | started job => some job
  | failed job _ => job
  | _ => none

theorem job?_answered {stage : LoadStage} {reply : Reply} {job : Job}
    (taken : (stage.answered reply).job? = some job) :
    stage.job? = some job
  := by
  cases stage with
  | asking => cases reply <;> cases taken
  | scripting => cases reply <;> cases taken
  | starting job => cases reply <;> apply taken
  | _ => apply taken

theorem job?_elapsed {stage : LoadStage} {job : Job} (taken : stage.elapsed.job? = some job) :
    stage.job? = some job
  := by
  cases stage with
  | waiting nanos => cases taken
  | _ => apply taken

end LoadStage

namespace Scheduler

/-- The ids of the jobs held. -/
def ids (s : Scheduler) : List JobId := s.held.map Job.id

section

variable {settings : Config.JobSettings} {s : Scheduler} {epoch : Nat} {job : Job}

theorem job?_checkPrinter (printState : String) :
    (s.checkPrinter settings epoch printState).2.job? = none
  := by
  unfold checkPrinter
  split
  next => rfl
  next =>
    dsimp only
    split
    next => split <;> rfl
    next => rfl

theorem mem_held_of_takeJob (taken : (s.takeJob epoch).2.job? = some job) :
    job ∈ s.held
  := by
  unfold takeJob at taken
  split at taken
  next => cases taken
  next =>
    split at taken
    next => cases taken
    next first rest popped =>
      obtain rfl := Option.some.inj taken
      rw [held, (JobQueue.jobs_of_popFront? popped).1]
      apply List.mem_append_right
      apply List.mem_cons_self

/-- A chain's job was its job before, or the scheduler held it. -/
theorem job?_chainStep {stage : LoadStage}
    (taken : (s.chainStep settings epoch stage).2.job? = some job) :
    stage.job? = some job ∨ job ∈ s.held
  := by
  cases stage with
  | checking printState => cases (job?_checkPrinter printState).symm.trans taken
  | waited =>
    dsimp only [chainStep] at taken
    split at taken <;> cases taken
  | scripted =>
    dsimp only [chainStep] at taken
    split at taken <;> cases taken
  | taking =>
    right
    apply mem_held_of_takeJob taken
  | started => cases taken
  | failed => cases taken
  | _ =>
    left
    apply taken

end

namespace System

section

variable {settings : Config.JobSettings} {sys : System} {event : Event} {active : Option Job}
  {queue : JobQueue} {chain : Chain} {job : Job}

/-! ### The jobs of chains -/

theorem mem_chains_stepped {step : Step} (mem : chain ∈ (sys.stepped step).chains) :
    chain ∈ sys.chains ∨ chain.stage = .asking
  := by
  apply (List.mem_append.1 mem).imp_right
  intro new
  obtain ⟨epoch, -, rfl⟩ := List.mem_map.1 new
  rfl

/-- A chain is at work on a job. -/
def Handles (sys : System) (job : Job) : Prop :=
  ∃ chain ∈ sys.chains, chain.stage.job? = some job

theorem handles_of_moved {index : Nat} {next : LoadStage}
    (launched : sys.chains[index]? = some chain)
    (kept : ∀ job, next.job? = some job → chain.stage.job? = some job ∨ job ∈ sys.scheduler.held)
    (handles : (sys.moved index ⟨chain.epoch, next⟩).Handles job) :
    sys.Handles job ∨ job ∈ sys.scheduler.held
  := by
  obtain ⟨other, mem, taken⟩ := handles
  cases List.mem_or_eq_of_mem_set mem with
  | inl old =>
    left
    use other, old
  | inr same =>
    subst same
    apply (kept job taken).imp_left
    intro taken
    use chain, List.mem_of_getElem? launched

theorem handles_of_stepped {step : Step} (handles : (sys.stepped step).Handles job) :
    sys.Handles job
  := by
  obtain ⟨chain, mem, taken⟩ := handles
  cases mem_chains_stepped mem with
  | inl old => use chain, old
  | inr asking =>
    rw [asking] at taken
    cases taken

/-- Chains come to the jobs that the scheduler holds, and to no others. -/
theorem handles_of_next (handles : (sys.next settings event).1.Handles job) :
    sys.Handles job ∨ job ∈ sys.scheduler.held
  := by
  cases event with
  | performed operation =>
    left
    apply handles_of_stepped handles
  | resumed index reply =>
    dsimp only [next] at handles
    split at handles
    next chain launched =>
      unfold resume at handles
      split at handles
      next =>
        left
        apply handles
      next proceeds =>
        obtain rfl := LoadStage.eq_scripted_of_proceed proceeds
        apply handles_of_moved launched _ handles
        rintro job ⟨⟩
      next =>
        apply handles_of_moved launched _ handles
        intro job taken
        left
        apply LoadStage.job?_answered taken
      next =>
        apply handles_of_moved launched _ handles
        intro job taken
        left
        apply LoadStage.job?_elapsed taken
      next =>
        apply handles_of_moved launched _ (handles_of_stepped handles)
        intro job taken
        apply job?_chainStep taken
    next =>
      left
      apply handles

/-! ### One place for each id -/

/-- No id is in two places, new ids are above all others, and chains know their jobs as the
scheduler does. -/
structure Placed (sys : System) : Prop where
  distinct : sys.scheduler.ids.Nodup
  below : ∀ job ∈ sys.scheduler.held, job.id.value < sys.scheduler.queue.nextId
  handled : ∀ job, sys.Handles job → job.id.value < sys.scheduler.queue.nextId ∧
    ∀ other ∈ sys.scheduler.held, other.id = job.id → other = job

/-- A chain is at work on a job that goes back. -/
theorem Returns.handles (returns : Returns sys job event) :
    sys.Handles job
  := by
  cases returns with
  | failed failed active =>
    obtain ⟨chain, launched, stage⟩ := Option.map_eq_some_iff.1 failed
    use chain, List.mem_of_getElem? launched
    rw [stage]
    rfl

/-- A job that goes back is the active one. -/
theorem Placed.active_of_returns (placed : Placed sys) (returns : Returns sys job event) :
    sys.scheduler.active = some job
  := by
  have handles := returns.handles
  cases returns with
  | failed failed active =>
    obtain ⟨job', active, same⟩ := exists_active active
    have mem : job' ∈ sys.scheduler.held := by
      rw [held_of_active active]
      apply List.mem_cons_self
    rw [active, (placed.handled job handles).2 job' mem same]

/-- After an event some of the jobs held before are held, in their order unless one of them
jumped, and behind them those that came with it. -/
structure Renews (sys : System) (event : Event) (held : List Job) (nextId : UInt64)
    (kept : List Job) : Prop where
  eq_append : held = kept ++ sys.arrives event
  subperm : kept.Subperm sys.scheduler.held
  sublist : (∀ id, event ≠ .performed (.jump id)) → kept.Sublist sys.scheduler.held
  sorted : (sys.arrives event).Pairwise fun job later => job.id.value < later.id.value
  between : ∀ job ∈ sys.arrives event,
    sys.scheduler.queue.nextId ≤ job.id.value ∧ job.id.value < nextId
  nextId_le : sys.scheduler.queue.nextId ≤ nextId

/-- When no job comes. -/
theorem renews_of_quiet {held : List Job} (quiet : sys.arrives event = [])
    (subperm : held.Subperm sys.scheduler.held)
    (sublist : (∀ id, event ≠ .performed (.jump id)) → held.Sublist sys.scheduler.held) :
    ∃ kept, Renews sys event held sys.scheduler.queue.nextId kept
  := by
  use held
  constructor
  · rw [quiet, List.append_nil]
  · apply subperm
  · apply sublist
  · rw [quiet]
    apply List.Pairwise.nil
  · rw [quiet]
    rintro job ⟨⟩
  · apply UInt64.le_refl

theorem renews_of_sublist {held : List Job} (quiet : sys.arrives event = [])
    (sublist : held.Sublist sys.scheduler.held) :
    ∃ kept, Renews sys event held sys.scheduler.queue.nextId kept
  := renews_of_quiet quiet sublist.subperm fun _ => sublist

theorem arrives_of_releases (releases : Releases sys event) :
    sys.arrives event = []
  := by
  cases releases <;> rfl

theorem Placed.exists_renews (placed : Placed sys) (holds : Holds sys event active queue)
    (unexhausted : ∀ job ∈ active.toList ++ queue.jobs, job.id ≠ .last) :
    ∃ kept, Renews sys event (active.toList ++ queue.jobs) queue.nextId kept
  := by
  cases holds with
  | kept quiet => apply renews_of_sublist quiet (List.Sublist.refl _)
  | taken draws =>
    cases draws with
    | popped launched current unused popped =>
      obtain ⟨jobs, nextId⟩ := JobQueue.jobs_of_popFront? popped
      rw [nextId]
      apply renews_of_sublist rfl
      rw [held_of_unused unused, jobs]
      apply List.Sublist.refl
  | @added filenames now reset proper =>
    have below : ∀ job ∈ sys.arrives (.performed (.enqueue filenames reset now)), job.id ≠ .last
      := by
      intro job mem
      apply unexhausted job (List.mem_append_right _ (List.mem_append_right _ mem))
    have sublist : (sys.scheduler.active.toList ++
        if reset then [] else sys.scheduler.queue.jobs).Sublist sys.scheduler.held
      := by
      apply List.Sublist.append_left
      cases reset with
      | true => apply List.nil_sublist
      | false => apply List.Sublist.refl
    refine ⟨_, (List.append_assoc _ _ _).symm, sublist.subperm, fun _ => sublist,
      JobQueue.newJobs_sorted below, ?_, ?_⟩
    · intro job mem
      apply JobQueue.newJobs_between below mem
    · apply JobQueue.le_nextId_add below
  | cleared =>
    apply renews_of_sublist rfl
    apply List.Sublist.append_left (List.nil_sublist _)
  | removed ids =>
    apply renews_of_sublist rfl
    apply List.Sublist.append_left List.filter_sublist
  | @jumped id job others taken =>
    have perm := (JobQueue.perm_of_takeOut? taken).2.append_left sys.scheduler.active.toList
    apply renews_of_quiet rfl perm.symm.subperm
    intro other
    apply absurd rfl (other id)
  | released active releases =>
    apply renews_of_sublist (arrives_of_releases releases) (List.sublist_append_right _ _)
  | returned returns =>
    have active := placed.active_of_returns returns
    cases returns
    apply renews_of_sublist rfl
    rw [held_of_active active]
    apply List.Sublist.refl

section

variable {held kept : List Job} {nextId : UInt64}

/-- Every job that is held was held before or is new. -/
theorem Renews.mem_or_new (renews : Renews sys event held nextId kept) (mem : job ∈ held) :
    job ∈ sys.scheduler.held ∨
      sys.scheduler.queue.nextId ≤ job.id.value ∧ job.id.value < nextId
  := by
  rw [renews.eq_append] at mem
  apply (List.mem_append.1 mem).imp
  · intro mem
    apply renews.subperm.subset mem
  · apply renews.between job

theorem Renews.nodup (renews : Renews sys event held nextId kept) (placed : Placed sys) :
    (held.map Job.id).Nodup
  := by
  rw [renews.eq_append, List.map_append]
  apply List.nodup_append.2
  and_intros
  · obtain ⟨jobs, perm, sublist⟩ := renews.subperm
    apply (perm.map Job.id).nodup_iff.1
    apply (sublist.map Job.id).nodup placed.distinct
  · apply JobQueue.nodup_ids_of_sorted renews.sorted
  · intro id old other new same
    obtain ⟨job, mem, rfl⟩ := List.mem_map.1 old
    obtain ⟨job', mem', rfl⟩ := List.mem_map.1 new
    apply UInt64.lt_irrefl job.id.value
    apply UInt64.lt_of_lt_of_le (placed.below job (renews.subperm.subset mem))
    rw [same]
    apply (renews.between job' mem').1

end

theorem Placed.next (placed : Placed sys) (consistent : Consistent sys.scheduler)
    (unexhausted : ∀ job ∈ (sys.next settings event).1.scheduler.held, job.id ≠ .last) :
    Placed (sys.next settings event).1
  := by
  have holds := holds_next settings consistent event
  obtain ⟨kept, renews⟩ := placed.exists_renews holds unexhausted
  constructor
  · apply renews.nodup placed
  · intro job mem
    cases renews.mem_or_new mem with
    | inl old => apply UInt64.lt_of_lt_of_le (placed.below job old) renews.nextId_le
    | inr new => apply new.2
  · intro job handles
    have known : job.id.value < sys.scheduler.queue.nextId ∧
        ∀ other ∈ sys.scheduler.held, other.id = job.id → other = job := by
      cases handles_of_next handles with
      | inl before => apply placed.handled job before
      | inr mem =>
        use placed.below job mem
        intro other mem' same
        apply List.inj_on_of_nodup_map placed.distinct mem' mem same
    use UInt64.lt_of_lt_of_le known.1 renews.nextId_le
    intro other mem same
    cases renews.mem_or_new mem with
    | inl old => apply known.2 other old same
    | inr new =>
      rw [same] at new
      apply absurd known.1 (UInt64.not_lt.2 new.1)

/-! ### Runs -/

/-- At no moment of the run a job of the largest id is held. -/
def Unexhausted (settings : Config.JobSettings) (queue : JobQueue) (events : List Event) : Prop :=
  ∀ earlier, earlier <+: events →
    ∀ job ∈ (after settings queue earlier).scheduler.held, job.id ≠ .last

instance (settings : Config.JobSettings) (queue : JobQueue) (events : List Event) :
    Decidable (Unexhausted settings queue events) :=
  decidable_of_iff (∀ earlier ∈ events.inits,
      ∀ job ∈ (after settings queue earlier).scheduler.held, job.id ≠ .last)
    (by simp [Unexhausted, List.mem_inits])

theorem Unexhausted.earlier {queue : JobQueue} {events earlier : List Event}
    (unexhausted : Unexhausted settings queue events) (before : earlier <+: events) :
    Unexhausted settings queue earlier
  := by
  intro first start
  apply unexhausted first (start.trans before)

theorem placed_after {stored : StoredQueue} {events : List Event}
    (distinct : (stored.jobs.map Job.id).Nodup)
    (unexhausted : Unexhausted settings (.ofStored stored) events) :
    Placed (after settings (.ofStored stored) events)
  := by
  induction events using List.reverseRecOn with
  | nil =>
    constructor
    · apply distinct
    · intro job mem
      apply JobQueue.lt_nextId_restore mem (unexhausted [] (List.prefix_refl _) job mem)
    · rintro job ⟨chain, ⟨⟩, -⟩
  | append_singleton earlier event ih =>
    have placed := ih (unexhausted.earlier (List.prefix_append _ _))
    have consistent := (sound_after settings (.ofStored stored) earlier).consistent
    rw [after_concat]
    apply placed.next consistent
    rw [← after_concat]
    apply unexhausted _ (List.prefix_refl _)

/-- What every event keeps that renews the jobs held, holds along a run. -/
theorem after_of_renews {motive : List Event → Prop} {stored : StoredQueue}
    {earlier later : List Event} (distinct : (stored.jobs.map Job.id).Nodup)
    (unexhausted : Unexhausted settings (.ofStored stored) (earlier ++ later))
    (first : motive earlier)
    (next : ∀ (events : List Event) (event : Event) (kept : List Job),
      let sys := after settings (.ofStored stored) events
      let after := (sys.next settings event).1.scheduler
      event ∈ later → Placed sys → Holds sys event after.active after.queue →
        Renews sys event after.held after.queue.nextId kept → motive events →
          motive (events ++ [event])) :
    motive (earlier ++ later)
  := by
  induction later using List.reverseRecOn with
  | nil => rwa [List.append_nil]
  | append_singleton later event ih =>
    rw [← List.append_assoc] at unexhausted ⊢
    have before := unexhausted.earlier (List.prefix_append _ _)
    have placed := placed_after distinct before
    have consistent := (sound_after settings (.ofStored stored) (earlier ++ later)).consistent
    have holds := holds_next settings consistent event
    have below := unexhausted _ (List.prefix_refl _)
    rw [after_concat] at below
    obtain ⟨kept, renews⟩ := placed.exists_renews holds below
    apply next _ event kept (by simp) placed holds renews
    apply ih before
    intro events event kept sys after mem
    apply next events event kept (List.mem_append_left _ mem)

/-- The job of this id is neither active nor waiting any more. -/
structure Gone (s : Scheduler) (id : JobId) : Prop where
  old : id.value < s.queue.nextId
  absent : id ∉ s.ids

theorem gone_after {stored : StoredQueue} {earlier later : List Event} {id : JobId}
    (distinct : (stored.jobs.map Job.id).Nodup)
    (unexhausted : Unexhausted settings (.ofStored stored) (earlier ++ later))
    (gone : Gone (after settings (.ofStored stored) earlier).scheduler id) :
    Gone (after settings (.ofStored stored) (earlier ++ later)).scheduler id
  := by
  apply after_of_renews
    (motive := fun events => Gone (after settings (.ofStored stored) events).scheduler id)
    distinct unexhausted gone
  intro events event kept sys now mem placed holds renews gone
  rw [after_concat]
  use UInt64.lt_of_lt_of_le gone.old renews.nextId_le
  intro back
  obtain ⟨job, mem, rfl⟩ := List.mem_map.1 back
  cases renews.mem_or_new mem with
  | inl held => apply gone.absent (List.mem_map_of_mem held)
  | inr new => apply absurd gone.old (UInt64.not_lt.2 new.1)

theorem old_after {stored : StoredQueue} {earlier later : List Event} {id : JobId}
    (distinct : (stored.jobs.map Job.id).Nodup)
    (unexhausted : Unexhausted settings (.ofStored stored) (earlier ++ later))
    (present : id ∈ (after settings (.ofStored stored) earlier).scheduler.ids) :
    id.value < (after settings (.ofStored stored) (earlier ++ later)).scheduler.queue.nextId
  := by
  apply after_of_renews (motive := fun events =>
    id.value < (after settings (.ofStored stored) events).scheduler.queue.nextId)
    distinct unexhausted
  · obtain ⟨job, mem, rfl⟩ := List.mem_map.1 present
    apply (placed_after distinct (unexhausted.earlier (List.prefix_append _ _))).below job mem
  · intro events event kept sys now mem placed holds renews old
    rw [after_concat]
    apply UInt64.lt_of_lt_of_le old renews.nextId_le

/-! ### How jobs leave -/

/-- The events after which the job of this id is neither active nor waiting any more. -/
inductive Departs (sys : System) (id : JobId) : Event → Prop where
  | removed {ids : List JobId} (waits : id ∈ sys.scheduler.queue.jobs.map Job.id)
      (named : id ∈ ids) : Departs sys id (.performed (.remove (some ids)))
  | cleared (waits : id ∈ sys.scheduler.queue.jobs.map Job.id) :
      Departs sys id (.performed (.remove none))
  | replaced {filenames : List String} {now : Float}
      (waits : id ∈ sys.scheduler.queue.jobs.map Job.id)
      (proper : properNames filenames ≠ []) :
      Departs sys id (.performed (.enqueue filenames true now))
  | released {event : Event} {job : Job} (active : sys.scheduler.active = some job)
      (same : job.id = id) (releases : Releases sys event) : Departs sys id event

/-- A job that is held leaves in no other way. -/
theorem Placed.departs {id : JobId} (placed : Placed sys) (holds : Holds sys event active queue)
    (present : id ∈ sys.scheduler.ids)
    (absent : id ∉ (active.toList ++ queue.jobs).map Job.id) :
    Departs sys id event
  := by
  obtain ⟨job, mem, rfl⟩ := List.mem_map.1 present
  have waits {other : List Job}
      (absent : job.id ∉ (sys.scheduler.active.toList ++ other).map Job.id) :
      job ∈ sys.scheduler.queue.jobs
    := by
    apply (List.mem_append.1 mem).resolve_left
    intro active
    apply absent (List.mem_map_of_mem (List.mem_append_left _ active))
  cases holds with
  | kept => apply absurd present absent
  | taken draws =>
    cases draws with
    | popped launched current unused popped =>
      rw [held_of_unused unused, (JobQueue.jobs_of_popFront? popped).1] at mem
      apply absurd (List.mem_map_of_mem mem) absent
  | added reset proper =>
    cases reset with
    | true => apply Departs.replaced (List.mem_map_of_mem (waits absent)) proper
    | false =>
      apply absurd _ absent
      rw [JobQueue.enqueue, ← List.append_assoc]
      apply List.mem_map_of_mem (List.mem_append_left _ mem)
  | cleared => apply Departs.cleared (List.mem_map_of_mem (waits absent))
  | removed ids =>
    apply Departs.removed (List.mem_map_of_mem (waits absent))
    by_contra unnamed
    apply absent
    apply List.mem_map_of_mem (List.mem_append_right _ _)
    apply List.mem_filter.2
    use waits absent, decide_eq_true unnamed
  | jumped taken =>
    apply absurd _ absent
    have perm := (JobQueue.perm_of_takeOut? taken).2.append_left sys.scheduler.active.toList
    apply List.mem_map_of_mem (perm.mem_iff.1 mem)
  | released active releases =>
    rw [held_of_active active] at mem
    cases mem with
    | head => apply Departs.released active rfl releases
    | tail _ mem => apply absurd (List.mem_map_of_mem mem) absent
  | returned returns =>
    rw [held_of_active (placed.active_of_returns returns)] at mem
    apply absurd (List.mem_map_of_mem mem) absent

/-! ### The results of start calls -/

/-- A job that goes back is the one that was active, and is the first to be taken again. -/
theorem Placed.next_of_returns (placed : Placed sys) (returns : Returns sys job event)
    (settings : Config.JobSettings) :
    let after := (sys.next settings event).1.scheduler
    sys.scheduler.active = some job ∧ after.active = none ∧
      after.queue.jobs = job :: sys.scheduler.queue.jobs
  := by
  use placed.active_of_returns returns
  cases returns with
  | @failed index reply error failed active =>
    obtain ⟨⟨epoch, stage⟩, launched, rfl⟩ := Option.map_eq_some_iff.1 failed
    have stepped : (sys.next settings (.resumed index reply)).1.scheduler =
        (sys.scheduler.failLoad epoch (some job) error).1
      := by
      simp only [System.next, launched]
      rfl
    rw [stepped]
    simp only [failLoad, active, if_true]
    constructor <;> trivial

/-- What comes of the start call of a job that is not active any more does not matter. -/
theorem scheduler_of_late {index : Nat} {stage : LoadStage} (found : sys.stage? index = some stage)
    (taken : stage.job? = some job) (inactive : sys.scheduler.isActive job = false)
    (settings : Config.JobSettings) (reply : Reply) :
    (sys.next settings (.resumed index reply)).1.scheduler = sys.scheduler
  := by
  obtain ⟨⟨epoch, stage⟩, launched, rfl⟩ := Option.map_eq_some_iff.1 found
  simp only [System.next, launched]
  cases stage with
  | starting => rfl
  | started =>
    obtain rfl := Option.some.inj taken
    simp [resume, LoadStage.action, chainStep, acknowledge, inactive, stepped, moved]
  | failed =>
    obtain rfl : _ = some job := taken
    simp [resume, LoadStage.action, chainStep, failLoad, inactive, stepped, moved]
  | _ => cases taken

/-- Along every run in which ids are not exhausted, an id is at one position of the queue at most
or with the active job, and not in both places.  A job leaves only when it is deleted, the queue
is replaced, or as the active job it is over, forgotten or lost, and it does not come back
whatever follows.  What comes of the start call of a job that is not active any more does not
matter, and an active job whose start call fails is back at the head of the queue. -/
theorem one_place {stored : StoredQueue} {events : List Event}
    (distinct : (stored.jobs.map Job.id).Nodup)
    (unexhausted : Unexhausted settings (.ofStored stored) events) :
    ∀ earlier, earlier <+: events →
      let now := after settings (.ofStored stored) earlier
      now.scheduler.ids.Nodup ∧
      (∀ id ∈ now.scheduler.ids, ∀ event,
        id ∉ (now.next settings event).1.scheduler.ids → Departs now id event) ∧
      (∀ id ∈ now.scheduler.ids, ∀ middle later, earlier ++ (middle ++ later) <+: events →
        id ∉ (now.run settings middle).scheduler.ids →
          id ∉ (now.run settings (middle ++ later)).scheduler.ids) ∧
      (∀ index stage job reply, now.stage? index = some stage → stage.job? = some job →
        now.scheduler.isActive job = false →
          (now.next settings (.resumed index reply)).1.scheduler = now.scheduler) ∧
      (∀ event job, Returns now job event →
        let then' := (now.next settings event).1.scheduler
        now.scheduler.active = some job ∧ then'.active = none ∧
          then'.queue.jobs = job :: now.scheduler.queue.jobs)
  := by
  intro earlier before now
  have placed : Placed now := placed_after distinct (unexhausted.earlier before)
  have consistent : Consistent now.scheduler := (sound_after _ _ _).consistent
  and_intros
  · apply placed.distinct
  · intro id present event absent
    apply placed.departs (holds_next settings consistent event) present absent
  · intro id present middle later before absent
    rw [← List.append_assoc] at before
    have run := unexhausted.earlier before
    have whole := run.earlier (List.prefix_append _ later)
    rw [← after_append] at absent ⊢
    rw [← List.append_assoc]
    apply (gone_after distinct run ⟨old_after distinct whole present, absent⟩).absent
  · intro index stage job reply found taken inactive
    apply scheduler_of_late found taken inactive
  · intro event job returns
    apply placed.next_of_returns returns

end

/-- A queue with one job is stored. -/
def storedJob : StoredQueue := ⟨1, [job]⟩

/-- Loading is paused and asked for again. -/
def forgets : List Event := [.performed .pause, .performed .start]

/-- The start call of the job fails, and the chain takes that to the scheduler. -/
def failsLate : List Event := List.replicate 2 (.resumed 0 (.error .linkDisconnected))

/-- A job that is forgotten while it is started does not come back when its start call fails. -/
theorem one_place_forgets :
    let taken := becomesReady :: goesOn 0
    let events := taken ++ (forgets ++ failsLate)
    (storedJob.jobs.map Job.id).Nodup ∧ Unexhausted eager (.ofStored storedJob) events ∧
      job.id ∈ (after eager (.ofStored storedJob) taken).scheduler.ids ∧
      job.id ∉ (after eager (.ofStored storedJob) events).scheduler.ids
  := by
  intro taken events
  have distinct : (storedJob.jobs.map Job.id).Nodup := by decide
  have unexhausted : Unexhausted eager (.ofStored storedJob) events := by decide
  have present : job.id ∈ (after eager (.ofStored storedJob) taken).scheduler.ids := by decide
  obtain ⟨-, -, left, -⟩ := one_place distinct unexhausted taken (List.prefix_append _ _)
  and_intros
  · apply distinct
  · apply unexhausted
  · apply present
  · rw [after_append]
    apply left job.id present forgets failsLate (List.prefix_refl _)
    decide

end System

end Scheduler

end ControlRelay
