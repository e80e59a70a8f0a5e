import ControlRelay.Proofs.Scheduler.Loss
import ControlRelay.Proofs.Scheduler.Order

/-!
# What is stored

In every step that changes the queue the scheduler asks to store it.  As long as these queues can
be saved, what is stored is the queue, and a scheduler that is started on it goes on with the same
jobs and the same counter.  Every job that is held got its id from the counter or was stored, so it
is below the counter, and jobs get their ids upwards from the first start on.
-/

namespace ControlRelay

/-- The queue that is to be stored, if any. -/
def SchedulerEffect.queue? : SchedulerEffect → Option StoredQueue
  | store queue => some queue
  | _ => none

/-- The queues that are to be stored, in order. -/
def Scheduler.saved (effects : List SchedulerEffect) : List StoredQueue :=
  effects.filterMap SchedulerEffect.queue?

/-! ### Stores that keep what is saved -/

namespace QueueStore

/-- The store after some queues are saved, one after another. -/
def saveAll (store : QueueStore) (queues : List StoredQueue) : QueueStore :=
  queues.foldl (fun store queue => (store.save queue).2) store

/-- To save the queue succeeds, and it is the one that is loaded from then on. -/
def Saves (store : QueueStore) (queue : StoredQueue) : Prop :=
  (store.save queue).1 = .ok () ∧ (store.save queue).2.load = .ok (some queue)

/-- All of the queues can be saved, one after another. -/
def Keeps (store : QueueStore) (queues : List StoredQueue) : Prop :=
  ∀ earlier queue, earlier ++ [queue] <+: queues → (store.saveAll earlier).Saves queue

section

variable {store : QueueStore} {queues : List StoredQueue}

theorem saveAll_append (store : QueueStore) (queues more : List StoredQueue) :
    store.saveAll (queues ++ more) = (store.saveAll queues).saveAll more
  := List.foldl_append

theorem Keeps.load (keeps : store.Keeps queues) {last : StoredQueue}
    (saved : queues.getLast? = some last) :
    (store.saveAll queues).load = .ok (some last)
  := by
  obtain ⟨earlier, rfl⟩ := List.getLast?_eq_some_iff.1 saved
  rw [saveAll_append]
  apply (keeps earlier last (List.prefix_refl _)).2

theorem exists_saveAll_memory (kept : Option StoredQueue) (queues : List StoredQueue) :
    ∃ last, (memory kept true true).saveAll queues = memory last true true
  := by
  induction queues generalizing kept with
  | nil =>
    use kept
    rfl
  | cons first queues ih => apply ih

/-- Memory that may be read and written keeps everything. -/
theorem keeps_memory (kept : Option StoredQueue) (queues : List StoredQueue) :
    (memory kept true true).Keeps queues
  := by
  intro earlier queue _
  obtain ⟨last, same⟩ := exists_saveAll_memory kept earlier
  rw [same]
  constructor <;> rfl

/-- A store that cannot be read is as good as one in which no job is. -/
theorem exists_restore (store : QueueStore) :
    ∃ stored, store.restore = .ofStored stored
  := by
  unfold restore
  split
  next stored _ => use stored
  next =>
    use {}
    rfl

end

end QueueStore

namespace Relay

/-- A relay saves what its scheduler asks for, in order. -/
theorem stored_eq_saveAll (r : Relay) (effects : List SchedulerEffect) :
    r.stored effects = r.store.saveAll (Scheduler.saved effects)
  := by
  induction effects generalizing r with
  | nil => rfl
  | cons effect effects ih =>
    have first := ih (r.carryOut effect)
    rw [r.store_carryOut] at first
    cases effect <;> apply first

end Relay

namespace Scheduler

/-! ### Steps that store what they change -/

/-- After a step the queue is the one that is to be stored last, or as before if none is. -/
def Stores (s : Scheduler) (step : Step) : Prop :=
  (saved step.2).getLast?.getD s.queue.toStored = step.1.queue.toStored

section

variable {s between after : Scheduler} {event : Event} {step : Step}
  {effects more : List SchedulerEffect}

theorem Stores.trans (first : Stores s (between, effects)) (rest : Stores between (after, more)) :
    Stores s (after, effects ++ more)
  := by
  rw [Stores, saved, List.filterMap_append, List.getLast?_append, Option.getD_or]
  apply Eq.trans _ rest
  congr 1

theorem Moves.stores (moves : Moves s event step) :
    Stores s step
  := by
  cases moves with
  | returned active error =>
    simp only [failLoad, active]
    rfl
  | _ => rfl

theorem Leads.stores (leads : Leads event s step) :
    Stores s step
  := by
  induction leads with
  | stay => rfl
  | move leads moves ih => apply ih.trans moves.stores

theorem Prepares.stores {settings : Config.JobSettings} {epoch : Nat} {stage next : LoadStage}
    (prepares : Prepares settings s epoch stage step next) :
    Stores s step
  := by
  cases prepares with
  | taken current popped =>
    simp only [takeJob, current, popped]
    rfl
  | failed current error =>
    simp only [failLoad, current]
    rfl
  | _ => rfl

end

namespace System

section

variable {settings : Config.JobSettings} {sys : System} {event : Event} {active : Option Job}
  {queue : JobQueue} {job : Job}

theorem Goes.stores {result : System × List SchedulerEffect}
    (goes : Goes settings sys event result) :
    Stores sys.scheduler (result.1.scheduler, result.2)
  := by
  cases goes with
  | @performed operation step leads =>
    have heard : (sys.scheduler.heard operation).queue = sys.scheduler.queue := by
      cases operation <;> rfl
    have stores := leads.stores
    rw [Stores, heard] at stores
    apply stores
  | unmoved => rfl
  | moved => rfl
  | prepared launched preparing prepares => apply prepares.stores
  | settled launched starting leads => apply leads.stores

theorem stores_run (settings : Config.JobSettings) (sys : System) (events : List Event) :
    Stores sys.scheduler ((sys.run settings events).scheduler, sys.effects settings events)
  := by
  induction events generalizing sys with
  | nil => rfl
  | cons event events ih => apply (goes_next settings sys event).stores.trans (ih _)

/-! ### The counter -/

/-- The counter is above the ids of all jobs that the scheduler holds or a chain is at work on. -/
structure Below (sys : System) : Prop where
  held : ∀ job ∈ sys.scheduler.held, job.id.value < sys.scheduler.queue.nextId
  handled : ∀ job, sys.Handles job → job.id.value < sys.scheduler.queue.nextId

/-- The counter goes up by the number of jobs that come. -/
theorem Holds.nextId_eq (holds : Holds sys event active queue) :
    queue.nextId = sys.scheduler.queue.nextId + UInt64.ofNat (sys.arrives event).length
  := by
  have unchanged (nextId : UInt64) : nextId = nextId + UInt64.ofNat 0 := (UInt64.add_zero _).symm
  cases holds with
  | kept quiet =>
    rw [quiet]
    apply unchanged
  | taken draws =>
    rw [(held_of_draws draws).2]
    cases draws with
    | popped launched current unused popped =>
      rw [(JobQueue.jobs_of_popFront? popped).2]
      apply unchanged
  | added reset proper =>
    rw [arrives, JobQueue.length_newJobs]
    rfl
  | released active releases =>
    rw [arrives_of_releases releases]
    apply unchanged
  | returned returns =>
    cases returns
    apply unchanged
  | _ => apply unchanged

/-- The jobs that come wait. -/
theorem Holds.arrives_subset (holds : Holds sys event active queue) :
    sys.arrives event ⊆ queue.jobs
  := by
  cases holds with
  | kept quiet =>
    rw [quiet]
    apply List.nil_subset
  | taken draws =>
    rw [(held_of_draws draws).2]
    apply List.nil_subset
  | added reset proper => apply List.subset_append_right
  | released active releases =>
    rw [arrives_of_releases releases]
    apply List.nil_subset
  | returned returns =>
    cases returns
    apply List.nil_subset
  | _ => apply List.nil_subset

/-- Every job that is held was held before, has come, or is back because its start call failed. -/
theorem Holds.origin (holds : Holds sys event active queue)
    (mem : job ∈ active.toList ++ queue.jobs) :
    job ∈ sys.scheduler.held ∨ job ∈ sys.arrives event ∨ Returns sys job event
  := by
  cases holds with
  | kept quiet =>
    left
    apply mem
  | taken draws =>
    left
    rw [(held_of_draws draws).1]
    apply mem
  | added reset proper =>
    cases List.mem_append.1 mem with
    | inl active =>
      left
      apply List.mem_append_left _ active
    | inr waits =>
      apply (List.mem_append.1 waits).imp _ Or.inl
      intro old
      apply List.mem_append_right
      cases reset with
      | true => cases old
      | false => apply old
  | cleared =>
    left
    apply (List.Sublist.append_left (List.nil_sublist _) _).subset mem
  | removed ids =>
    left
    apply (List.Sublist.append_left List.filter_sublist _).subset mem
  | jumped taken =>
    left
    apply ((JobQueue.perm_of_takeOut? taken).2.append_left _).mem_iff.2 mem
  | released active releases =>
    left
    apply List.mem_append_right
    apply mem
  | returned returns =>
    cases mem with
    | head =>
      right
      right
      apply returns
    | tail _ old =>
      left
      apply List.mem_append_right _ old

/-- The ids of the jobs that come are in the span by which the counter goes up, in this order. -/
structure Counts (nextId after : UInt64) (came : List Job) : Prop where
  nextId_le : nextId ≤ after
  sorted : came.Pairwise fun job later => job.id.value < later.id.value
  between : ∀ job ∈ came, nextId ≤ job.id.value ∧ job.id.value < after

theorem counts_nil (nextId : UInt64) :
    Counts nextId nextId []
  := by
  constructor
  · apply UInt64.le_refl
  · apply List.Pairwise.nil
  · rintro job ⟨⟩

theorem Counts.append {nextId between after : UInt64} {came more : List Job}
    (first : Counts nextId between came) (rest : Counts between after more) :
    Counts nextId after (came ++ more)
  := by
  constructor
  · apply UInt64.le_trans first.nextId_le rest.nextId_le
  · apply List.pairwise_append.2
    use first.sorted, rest.sorted
    intro job old later new
    apply UInt64.lt_of_lt_of_le (first.between job old).2 (rest.between later new).1
  · intro job mem
    cases List.mem_append.1 mem with
    | inl old =>
      obtain ⟨least, most⟩ := first.between job old
      use least
      apply UInt64.lt_of_lt_of_le most rest.nextId_le
    | inr new =>
      obtain ⟨least, most⟩ := rest.between job new
      use UInt64.le_trans first.nextId_le least

theorem Holds.counts (holds : Holds sys event active queue)
    (unexhausted : ∀ job ∈ queue.jobs, job.id ≠ .last) :
    Counts sys.scheduler.queue.nextId queue.nextId (sys.arrives event)
  := by
  have below : ∀ job ∈ sys.arrives event, job.id ≠ .last := by
    intro job mem
    apply unexhausted job (holds.arrives_subset mem)
  rw [holds.nextId_eq]
  unfold arrives at below ⊢
  split at below
  next filenames reset now =>
    rw [JobQueue.length_newJobs]
    use JobQueue.le_nextId_add below, JobQueue.newJobs_sorted below
    intro job mem
    apply JobQueue.newJobs_between below mem
  next =>
    rw [List.length_nil, show UInt64.ofNat 0 = 0 from rfl, UInt64.add_zero]
    apply counts_nil

theorem Below.next (below : Below sys) (consistent : Consistent sys.scheduler)
    (unexhausted : ∀ job ∈ (sys.next settings event).1.scheduler.held, job.id ≠ .last) :
    Below (sys.next settings event).1
  := by
  have holds := holds_next settings consistent event
  have counts := holds.counts fun job waits => unexhausted job (List.mem_append_right _ waits)
  constructor
  · intro job mem
    obtain old | new | returns := holds.origin mem
    · apply UInt64.lt_of_lt_of_le (below.held job old) counts.nextId_le
    · apply (counts.between job new).2
    · apply UInt64.lt_of_lt_of_le (below.handled job returns.handles) counts.nextId_le
  · intro job handles
    apply UInt64.lt_of_lt_of_le _ counts.nextId_le
    cases handles_of_next handles with
    | inl before => apply below.handled job before
    | inr mem => apply below.held job mem

/-! ### Runs -/

theorem below_after {stored : StoredQueue} {events : List Event}
    (unexhausted : Unexhausted settings (.ofStored stored) events) :
    Below (after settings (.ofStored stored) events)
  := by
  induction events using List.reverseRecOn with
  | nil =>
    constructor
    · intro job mem
      apply JobQueue.lt_nextId_restore mem (unexhausted [] (List.prefix_refl _) job mem)
    · rintro job ⟨chain, ⟨⟩, -⟩
  | append_singleton earlier event ih =>
    rw [after_concat]
    apply (ih (unexhausted.earlier (List.prefix_append _ _))).next (sound_after _ _ _).consistent
    rw [← after_concat]
    apply unexhausted _ (List.prefix_refl _)

theorem counts_after {events : List Event} (unexhausted : Unexhausted settings queue events) :
    Counts queue.nextId (after settings queue events).scheduler.queue.nextId
      ((after settings queue []).arrivals settings events)
  := by
  induction events using List.reverseRecOn with
  | nil => apply counts_nil
  | append_singleton earlier event ih =>
    rw [arrivals_concat, after_concat]
    apply (ih (unexhausted.earlier (List.prefix_append _ _))).append
    apply (holds_next settings (sound_after _ _ _).consistent event).counts
    intro job waits
    rw [← after_concat] at waits
    apply unexhausted _ (List.prefix_refl _) job (List.mem_append_right _ waits)

end

/-! ### Restarts -/

/-- A scheduler is started on what is stored, and some events follow. -/
structure Session where
  settings : Config.JobSettings
  events : List Event

namespace Session

/-- The system to which a session leads. -/
def ends (session : Session) (store : QueueStore) : System :=
  after session.settings store.restore session.events

/-- The queues that are to be stored in a session, in order. -/
def saves (session : Session) (store : QueueStore) : List StoredQueue :=
  saved ((after session.settings store.restore []).effects session.settings session.events)

/-- The jobs that come in a session, in order. -/
def comes (session : Session) (store : QueueStore) : List Job :=
  (after session.settings store.restore []).arrivals session.settings session.events

/-- The store after some sessions, one after another. -/
def storeAfter (store : QueueStore) (sessions : List Session) : QueueStore :=
  sessions.foldl (fun store session => store.saveAll (session.saves store)) store

/-- What comes up in some sessions, one after another. -/
def during {α : Type} (part : Session → QueueStore → List α) (store : QueueStore) :
    List Session → List α
  | [] => []
  | session :: sessions =>
    part session store ++ during part (store.saveAll (session.saves store)) sessions

/-- In a session all queues can be saved and ids are not exhausted. -/
structure Succeeds (session : Session) (store : QueueStore) : Prop where
  keeps : store.Keeps (session.saves store)
  unexhausted : Unexhausted session.settings store.restore session.events

/-- So it is in every one of some sessions. -/
def Succeed (store : QueueStore) (sessions : List Session) : Prop :=
  ∀ earlier session, earlier ++ [session] <+: sessions →
    session.Succeeds (storeAfter store earlier)

section

variable {session : Session} {store : QueueStore} {sessions earlier : List Session}

theorem storeAfter_concat (store : QueueStore) (earlier : List Session) (session : Session) :
    storeAfter store (earlier ++ [session]) =
      (storeAfter store earlier).saveAll (session.saves (storeAfter store earlier))
  := List.foldl_append

theorem during_concat {α : Type} (part : Session → QueueStore → List α) (store : QueueStore)
    (earlier : List Session) (session : Session) :
    during part store (earlier ++ [session]) =
      during part store earlier ++ part session (storeAfter store earlier)
  := by
  induction earlier generalizing store with
  | nil => apply List.append_nil
  | cons first earlier ih =>
    rw [List.cons_append, during, ih, ← List.append_assoc]
    rfl

/-- Memory that may be read and written keeps everything in every session. -/
theorem keeps_storeAfter_memory (kept : Option StoredQueue) (sessions : List Session)
    (queues : List StoredQueue) :
    (storeAfter (.memory kept true true) sessions).Keeps queues
  := by
  induction sessions generalizing kept with
  | nil => apply QueueStore.keeps_memory
  | cons first sessions ih =>
    obtain ⟨last, left⟩ :=
      QueueStore.exists_saveAll_memory kept (first.saves (.memory kept true true))
    rw [storeAfter, List.foldl_cons, left]
    apply ih

/-- The queue is the one that is saved last, or the one restored if none is. -/
theorem queue_ends (session : Session) (store : QueueStore) :
    (session.saves store).getLast?.getD store.restore.toStored =
      (session.ends store).scheduler.queue.toStored
  := stores_run session.settings (after session.settings store.restore []) session.events

theorem Succeeds.below (succeeds : session.Succeeds store) :
    Below (session.ends store)
  := by
  obtain ⟨stored, same⟩ := store.exists_restore
  have unexhausted := succeeds.unexhausted
  rw [same] at unexhausted
  rw [ends, same]
  apply below_after unexhausted

/-- What a session leaves is restored as its queue. -/
theorem Succeeds.restore (succeeds : session.Succeeds store) :
    (store.saveAll (session.saves store)).restore = (session.ends store).scheduler.queue
  := by
  have queue := session.queue_ends store
  cases last : (session.saves store).getLast? with
  | none =>
    rw [last] at queue
    rw [List.getLast?_eq_none_iff.1 last]
    apply congrArg (fun stored : StoredQueue => (⟨stored.jobs, stored.nextId⟩ : JobQueue)) queue
  | some stored =>
    rw [last] at queue
    rw [QueueStore.restore, succeeds.keeps.load last]
    obtain rfl : stored = _ := queue
    apply JobQueue.ofStored_toStored
    intro job waits
    apply succeeds.below.held job (List.mem_append_right _ waits)

/-- The counter restored is above the ids of the jobs restored. -/
theorem Succeeds.lt_nextId (succeeds : session.Succeeds store) {job : Job}
    (waits : job ∈ store.restore.jobs) :
    job.id.value < store.restore.nextId
  := by
  have started : Session.Succeeds ⟨session.settings, []⟩ store := by
    constructor
    · intro earlier queue before
      apply absurd (List.prefix_nil.1 before) (by simp)
    · apply succeeds.unexhausted.earlier List.nil_prefix
  apply started.below.held job waits

/-- The jobs that come in a session are counted from the counter restored to the one left. -/
theorem Succeeds.counts (succeeds : session.Succeeds store) :
    Counts store.restore.nextId (store.saveAll (session.saves store)).restore.nextId
      (session.comes store)
  := by
  rw [succeeds.restore]
  apply counts_after succeeds.unexhausted

theorem succeed_nil (store : QueueStore) :
    Succeed store []
  := by
  intro earlier session before
  apply absurd (List.prefix_nil.1 before) (by simp)

theorem succeed_concat_iff :
    Succeed store (earlier ++ [session]) ↔
      Succeed store earlier ∧ session.Succeeds (storeAfter store earlier)
  := by
  constructor
  · intro succeed
    constructor
    · intro first session' before
      apply succeed first session' (before.trans (List.prefix_append _ _))
    · apply succeed earlier session (List.prefix_refl _)
  · rintro ⟨succeed, last⟩ first session' before
    cases List.prefix_concat_iff.1 before with
    | inl same =>
      obtain ⟨rfl, ⟨⟩⟩ := List.append_inj' same rfl
      apply last
    | inr before => apply succeed first session' before

theorem Succeed.counts (succeed : Succeed store sessions) :
    Counts store.restore.nextId (storeAfter store sessions).restore.nextId
      (during comes store sessions)
  := by
  induction sessions using List.reverseRecOn with
  | nil => apply counts_nil
  | append_singleton earlier session ih =>
    obtain ⟨before, last⟩ := succeed_concat_iff.1 succeed
    rw [storeAfter_concat, during_concat]
    apply (ih before).append last.counts

/-- Once a queue was saved, the store holds what is restored from it. -/
theorem Succeed.load (succeed : Succeed store sessions) (saved : during saves store sessions ≠ []) :
    let left := storeAfter store sessions
    left.load = .ok (some left.restore.toStored)
  := by
  induction sessions using List.reverseRecOn with
  | nil => contradiction
  | append_singleton earlier session ih =>
    obtain ⟨before, succeeds⟩ := succeed_concat_iff.1 succeed
    rw [storeAfter_concat]
    cases last : (session.saves (storeAfter store earlier)).getLast? with
    | none =>
      rw [List.getLast?_eq_none_iff] at last
      rw [during_concat, last, List.append_nil] at saved
      rw [last]
      apply ih before saved
    | some stored =>
      have queue := session.queue_ends (storeAfter store earlier)
      rw [last] at queue
      intro left
      rw [succeeds.restore, ← queue]
      apply succeeds.keeps.load last

/-- However often a scheduler is started again on what is stored, as long as all queues can be
saved and ids are not exhausted: once a queue was saved, what is loaded from the store is the queue
of the scheduler and its counter, and at every moment a scheduler started on the store has the same
queue and counter.  No two jobs that have come since the first start got the same id, and none got
the id of a job that was stored before. -/
theorem restart_resumes (succeed : Succeed store (earlier ++ [session])) :
    let sessions := earlier ++ [session]
    let now := session.ends (storeAfter store earlier)
    let left := storeAfter store sessions
    let came := during comes store sessions
    (during saves store sessions ≠ [] →
        left.load = .ok (some now.scheduler.queue.toStored)) ∧
      (∀ settings, (after settings left.restore []).scheduler.queue = now.scheduler.queue) ∧
      (came.map Job.id).Nodup ∧
      ∀ job ∈ came, ∀ old ∈ store.restore.jobs, job.id ≠ old.id
  := by
  intro sessions now left came
  have restore : left.restore = now.scheduler.queue := by
    rw [show left = _ from storeAfter_concat store earlier session]
    apply (succeed_concat_iff.1 succeed).2.restore
  and_intros
  · intro saved
    rw [← restore]
    apply succeed.load saved
  · intro settings
    apply restore
  · apply JobQueue.nodup_ids_of_sorted succeed.counts.sorted
  · intro job mem old waits same
    obtain ⟨first, before⟩ : ∃ first, [] ++ [first] <+: sessions := by
      cases earlier with
      | nil => use session
      | cons first rest =>
        use first, rest ++ [session]
        rfl
    have less := (succeed [] first before).lt_nextId waits
    rw [← same] at less
    apply absurd less (UInt64.not_lt.2 (succeed.counts.between job mem).1)

end

/-- A job comes behind one that was stored, which is then loaded, and comes back. -/
def firstSession : Session where
  settings := eager
  events := .performed (.enqueue ["lid.gcode"] false 0.0) :: becomesReady :: goesOn 0 ++ failsLate

/-- Another job comes. -/
def secondSession : Session where
  settings := eager
  events := [.performed (.enqueue ["lamp.gcode"] false 0.0)]

/-- After a restart the queue goes on with the job that came back, and with new ids. -/
theorem restart_resumes_secondSession :
    let store := QueueStore.memory (some storedJob) true true
    let sessions := [firstSession] ++ [secondSession]
    Succeed store sessions ∧
      (storeAfter store sessions).load =
        .ok (some ⟨3, [job, ⟨⟨1⟩, "lid.gcode", 0.0⟩, ⟨⟨2⟩, "lamp.gcode", 0.0⟩]⟩) ∧
      ((during comes store sessions).map Job.id).Nodup ∧
      (during comes store sessions).map Job.id = [⟨1⟩, ⟨2⟩]
  := by
  intro store sessions
  have succeed : Succeed store sessions := by
    apply succeed_concat_iff.2
    constructor
    · apply succeed_concat_iff.2 ⟨succeed_nil store, ?_⟩
      use QueueStore.keeps_memory _ _
      decide +kernel
    · constructor
      · apply keeps_storeAfter_memory
      · decide +kernel
  have saved : (during saves store sessions).isEmpty = false := by decide +kernel
  have queue : (secondSession.ends (storeAfter store [firstSession])).scheduler.queue.toStored =
      ⟨3, [job, ⟨⟨1⟩, "lid.gcode", 0.0⟩, ⟨⟨2⟩, "lamp.gcode", 0.0⟩]⟩
    := by
    decide +kernel
  obtain ⟨load, -, distinct, -⟩ := restart_resumes succeed
  and_intros
  · apply succeed
  · rw [← queue]
    apply load
    rintro none
    rw [none] at saved
    cases saved
  · apply distinct
  · decide +kernel

end Session

end System

end Scheduler

end ControlRelay
