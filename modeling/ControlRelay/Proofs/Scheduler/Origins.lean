import ControlRelay.Proofs.Scheduler.Storing

/-!
# Where jobs come from

A queue that is saved is the queue of the scheduler.  So every job that a scheduler holds, or that a
chain is at work on, came with a request of a client, in this session or in one before, unless it was
stored before the first.  What a store gives back is taken to be what it was given.
-/

namespace ControlRelay

namespace JobQueue

/-- New jobs are called by the names given. -/
theorem filename_mem_of_newJobs {nextId : UInt64} {now : Float} {names : List String} {job : Job}
    (mem : job ∈ newJobs nextId now names) :
    job.filename ∈ names
  := by
  induction names generalizing nextId with
  | nil => cases mem
  | cons name names ih =>
    cases mem with
    | head => exact List.mem_cons_self
    | tail _ mem => exact List.mem_cons_of_mem _ (ih mem)

/-- Each of the names given is that of a new job. -/
theorem exists_newJobs_of_mem {nextId : UInt64} {now : Float} {names : List String} {name : String}
    (mem : name ∈ names) :
    ∃ job ∈ newJobs nextId now names, job.filename = name
  := by
  induction names generalizing nextId with
  | nil => cases mem
  | cons first names ih =>
    cases mem with
    | head => exact ⟨_, List.mem_cons_self, rfl⟩
    | tail _ mem =>
      obtain ⟨job, mem, same⟩ := ih mem
      exact ⟨job, List.mem_cons_of_mem _ mem, same⟩

end JobQueue

namespace Scheduler

/-! ### What is saved is the queue -/

/-- Every queue that a step asks to store is the queue after it. -/
def SavesQueue (step : Step) : Prop :=
  ∀ queue ∈ saved step.2, queue = step.1.queue.toStored

theorem savesQueue_of_nil {step : Step} (none : saved step.2 = []) :
    SavesQueue step
  := by
  intro queue mem
  rw [none] at mem
  cases mem

theorem saved_tryLoad (s : Scheduler) :
    saved s.tryLoad.2 = []
  := by
  unfold tryLoad
  split <;> rfl

theorem saved_thenTryLoad (s : Scheduler) (before : List SchedulerEffect) :
    saved (s.thenTryLoad before).2 = saved before
  := by
  have none := saved_tryLoad s
  unfold saved at none ⊢
  rw [thenTryLoad, List.filterMap_append, none, List.append_nil]

theorem saved_finishJob (s : Scheduler) (printState : String) :
    saved (s.finishJob printState).2 = []
  := by
  unfold finishJob
  split
  next => rfl
  next =>
    dsimp only
    split
    next => rfl
    next =>
      split
      next => rfl
      next =>
        split
        next => rfl
        next =>
          split
          next => apply saved_tryLoad
          next => rfl

theorem savesQueue_perform (s : Scheduler) (operation : Operation) :
    SavesQueue (s.perform operation)
  := by
  cases operation with
  | enqueue filenames reset now =>
    dsimp only [perform, enqueue]
    split
    next => exact savesQueue_of_nil rfl
    next =>
      intro queue mem
      simp only [Except.toOption, Option.getD_some, saved_thenTryLoad, queue_thenTryLoad] at mem ⊢
      exact List.mem_singleton.1 mem
  | remove selection => exact fun queue mem => List.mem_singleton.1 mem
  | jump id =>
    dsimp only [perform, jump]
    split
    next => exact savesQueue_of_nil rfl
    next => exact fun queue mem => List.mem_singleton.1 mem
  | pause => exact savesQueue_of_nil rfl
  | start =>
    apply savesQueue_of_nil
    dsimp only [perform, start]
    split
    next => rfl
    next =>
      generalize (if s.active.isSome = true then { s.untracked with active := none } else s) = between
      split
      next => exact saved_thenTryLoad _ _
      next => exact saved_thenTryLoad _ _
  | controlChanged status =>
    apply savesQueue_of_nil
    dsimp only [perform, controlChanged]
    split
    next => rfl
    next =>
      split
      next => apply saved_tryLoad
      next =>
        split
        next => rfl
        next => split <;> rfl
  | printStateChanged printState =>
    apply savesQueue_of_nil
    dsimp only [perform, printStateChanged]
    split
    next => rfl
    next =>
      split
      next => rfl
      next =>
        split
        next => apply saved_finishJob
        next =>
          split
          next => apply saved_tryLoad
          next => rfl

theorem savesQueue_chainStep (s : Scheduler) (settings : Config.JobSettings) (epoch : Nat)
    (stage : LoadStage) :
    SavesQueue (s.chainStep settings epoch stage).1
  := by
  cases stage with
  | checking printState =>
    apply savesQueue_of_nil
    dsimp only [chainStep, checkPrinter]
    split
    next => rfl
    next =>
      split
      next => split <;> rfl
      next => rfl
  | taking =>
    dsimp only [chainStep, takeJob]
    split
    next => exact savesQueue_of_nil rfl
    next =>
      split
      next => exact savesQueue_of_nil rfl
      next => exact fun queue mem => List.mem_singleton.1 mem
  | started job =>
    apply savesQueue_of_nil
    dsimp only [chainStep, acknowledge]
    split
    next =>
      split
      next => apply saved_finishJob
      next => rfl
    next => rfl
  | failed job error =>
    dsimp only [chainStep, failLoad]
    split
    next =>
      split
      next => exact fun queue mem => List.mem_singleton.1 mem
      next => exact savesQueue_of_nil rfl
    next => exact savesQueue_of_nil (by split <;> rfl)
  | _ => exact savesQueue_of_nil rfl

namespace System

section

variable {settings : Config.JobSettings} {sys : System} {event : Event} {queue : JobQueue}
  {events : List Event} {job : Job}

/-- Every queue that is to be stored in an event is the queue after it. -/
theorem savesQueue_next (settings : Config.JobSettings) (sys : System) (event : Event) :
    SavesQueue ((sys.next settings event).1.scheduler, (sys.next settings event).2)
  := by
  cases event with
  | performed operation => apply savesQueue_perform
  | resumed index reply =>
    dsimp only [next]
    split
    next chain launched =>
      rw [scheduler_resume, effects_resume]
      apply savesQueue_chainStep
    next => exact savesQueue_of_nil rfl

/-- Every queue that is to be stored in a run is the queue at some moment. -/
theorem exists_of_saved {stored : StoredQueue}
    (mem : stored ∈ saved ((after settings queue []).effects settings events)) :
    ∃ before, before <+: events ∧ stored = (after settings queue before).scheduler.queue.toStored
  := by
  induction events using List.reverseRecOn with
  | nil => cases mem
  | append_singleton events event ih =>
    rw [effects_append, saved, List.filterMap_append] at mem
    cases List.mem_append.1 mem with
    | inl old =>
      obtain ⟨before, part, same⟩ := ih old
      exact ⟨before, part.trans (List.prefix_append _ _), same⟩
    | inr new =>
      refine ⟨_, List.prefix_refl _, ?_⟩
      rw [after_concat]
      apply savesQueue_next settings (after settings queue events) event
      rw [effects_cons, effects, List.append_nil] at new
      exact new

/-! ### Jobs in a run -/

/-- The scheduler holds the job, or a chain is at work on it. -/
def Knows (sys : System) (job : Job) : Prop := job ∈ sys.scheduler.held ∨ sys.Handles job

theorem knows_of_next (consistent : Consistent sys.scheduler)
    (knows : (sys.next settings event).1.Knows job) :
    sys.Knows job ∨ job ∈ sys.arrives event
  := by
  cases knows with
  | inl held =>
    obtain old | new | returns := (holds_next settings consistent event).origin held
    · exact .inl (.inl old)
    · exact .inr new
    · exact .inl (.inr returns.handles)
  | inr handles =>
    cases handles_of_next handles with
    | inl before => exact .inl (.inr before)
    | inr held => exact .inl (.inl held)

/-- A job that is known in a run waited at its start or came in one of its events. -/
theorem origin_after (knows : (after settings queue events).Knows job) :
    job ∈ queue.jobs ∨ ∃ before event later, events = before ++ event :: later ∧
      job ∈ (after settings queue before).arrives event
  := by
  induction events using List.reverseRecOn with
  | nil =>
    left
    cases knows with
    | inl held => exact held
    | inr handles =>
      obtain ⟨chain, ⟨⟩, -⟩ := handles
  | append_singleton events event ih =>
    rw [after_concat] at knows
    cases knows_of_next (sound_after settings queue events).consistent knows with
    | inl old =>
      apply (ih old).imp_right
      rintro ⟨before, first, later, rfl, came⟩
      exact ⟨before, first, later ++ [event], by simp, came⟩
    | inr came => exact .inr ⟨events, event, [], rfl, came⟩

end

/-! ### Jobs in sessions -/

namespace Session

/-- In one of the sessions the job came with a request that names these files. -/
def CameWith (filenames : List String) (store : QueueStore) (sessions : List Session) (job : Job) :
    Prop :=
  ∃ first session rest before reset now later, sessions = first ++ session :: rest ∧
    session.events = before ++ .performed (.enqueue filenames reset now) :: later ∧
      job ∈ (after session.settings (storeAfter store first).restore before).arrives
        (.performed (.enqueue filenames reset now))

/-- What is restored was stored: every job that waits after some sessions waited before the first
or is in a queue that was saved since. -/
def Restores (store : QueueStore) (sessions : List Session) : Prop :=
  ∀ earlier, earlier <+: sessions → ∀ job ∈ (storeAfter store earlier).restore.jobs,
    job ∈ store.restore.jobs ∨ ∃ queue ∈ during saves store earlier, job ∈ queue.jobs

section

variable {store : QueueStore} {sessions earlier : List Session} {session : Session} {job : Job}
  {filenames : List String}

theorem CameWith.filename_mem (came : CameWith filenames store sessions job) :
    job.filename ∈ properNames filenames
  := by
  obtain ⟨_, _, _, _, _, _, _, _, _, came⟩ := came
  exact JobQueue.filename_mem_of_newJobs came

theorem mem_during {α : Type} {part : Session → QueueStore → List α} {a : α}
    (among : a ∈ during part store sessions) :
    ∃ first session rest, sessions = first ++ session :: rest ∧
      a ∈ part session (storeAfter store first)
  := by
  induction sessions using List.reverseRecOn with
  | nil => cases among
  | append_singleton sessions session ih =>
    rw [during_concat] at among
    cases List.mem_append.1 among with
    | inl old =>
      obtain ⟨first, other, rest, rfl, mem⟩ := ih old
      exact ⟨first, other, rest ++ [session], by simp, mem⟩
    | inr new => exact ⟨sessions, session, [], rfl, new⟩

/-- What came in a session that was shorter came in the session as well. -/
theorem CameWith.extend {events : List Event} {first rest : List Session}
    (part : events <+: session.events)
    (came : CameWith filenames store (first ++ [⟨session.settings, events⟩]) job) :
    CameWith filenames store (first ++ session :: rest) job
  := by
  obtain ⟨earlier, other, more, before, reset, now, later, same, asked, came⟩ := came
  obtain ⟨tail, extended⟩ := part
  obtain rfl | ⟨more, last, rfl⟩ := List.eq_nil_or_concat' more
  · obtain ⟨rfl, last⟩ := List.append_inj' same rfl
    obtain rfl := List.singleton_inj.1 last
    refine ⟨first, session, rest, before, reset, now, later ++ tail, rfl, ?_, came⟩
    rw [← extended, show events = _ from asked, List.append_assoc, List.cons_append]
  · rw [← List.cons_append, ← List.append_assoc] at same
    obtain ⟨rfl, -⟩ := List.append_inj' same rfl
    exact ⟨earlier, other, more ++ session :: rest, before, reset, now, later, by simp, asked, came⟩

theorem Restores.of_prefix (restores : Restores store sessions) (part : earlier <+: sessions) :
    Restores store earlier
  := fun first before => restores first (before.trans part)

/-- A job that is known in a session came with a request in it or in one before, or was stored
before the first. -/
theorem came_or_stored (restores : Restores store earlier)
    (knows : (session.ends (storeAfter store earlier)).Knows job) :
    (∃ filenames, CameWith filenames store (earlier ++ [session]) job) ∨ job ∈ store.restore.jobs
  := by
  induction length : earlier.length using Nat.strong_induction_on generalizing earlier session with
  | _ n ih =>
    obtain waited | ⟨before, event, later, same, came⟩ := origin_after knows
    · obtain stored | ⟨queue, kept, among⟩ := restores earlier (List.prefix_refl _) job waited
      · exact .inr stored
      · obtain ⟨first, other, rest, rfl, saved⟩ := mem_during kept
        obtain ⟨events, part, rfl⟩ := exists_of_saved saved
        have knows : ((⟨other.settings, events⟩ : Session).ends (storeAfter store first)).Knows job :=
          .inl (List.mem_append_right _ among)
        have shorter : first.length < n := by simp [← length]
        apply (ih _ shorter (restores.of_prefix (List.prefix_append _ _)) knows rfl).imp_left
        rintro ⟨filenames, came⟩
        use filenames
        rw [List.append_assoc, List.cons_append]
        exact came.extend part
    · cases event with
      | performed operation =>
        cases operation with
        | enqueue filenames reset now =>
          exact .inl ⟨filenames, earlier, session, [], before, reset, now, later, rfl, same, came⟩
        | _ => cases came
      | resumed => cases came

/-- Memory keeps the queue that was saved last, or what it had. -/
theorem saveAll_memory (kept : Option StoredQueue) (canLoad canSave : Bool)
    (queues : List StoredQueue) :
    ∃ last, (QueueStore.memory kept canLoad canSave).saveAll queues = .memory last canLoad canSave ∧
      (last = kept ∨ ∃ queue ∈ queues, last = some queue)
  := by
  induction queues generalizing kept with
  | nil => exact ⟨kept, rfl, .inl rfl⟩
  | cons first queues ih =>
    cases canSave with
    | false =>
      obtain ⟨last, same, old | ⟨queue, mem, new⟩⟩ := ih kept
      · exact ⟨last, same, .inl old⟩
      · exact ⟨last, same, .inr ⟨queue, List.mem_cons_of_mem _ mem, new⟩⟩
    | true =>
      obtain ⟨last, same, old | ⟨queue, mem, new⟩⟩ := ih (some first)
      · exact ⟨last, same, .inr ⟨first, List.mem_cons_self, old⟩⟩
      · exact ⟨last, same, .inr ⟨queue, List.mem_cons_of_mem _ mem, new⟩⟩

theorem storeAfter_memory (kept : Option StoredQueue) (canLoad canSave : Bool)
    (sessions : List Session) :
    ∃ last, storeAfter (.memory kept canLoad canSave) sessions = .memory last canLoad canSave ∧
      (last = kept ∨ ∃ queue ∈ during saves (.memory kept canLoad canSave) sessions,
        last = some queue)
  := by
  induction sessions using List.reverseRecOn with
  | nil => exact ⟨kept, rfl, .inl rfl⟩
  | append_singleton sessions session ih =>
    obtain ⟨before, left, origin⟩ := ih
    rw [storeAfter_concat, during_concat, left]
    obtain ⟨last, same, old | ⟨queue, mem, new⟩⟩ :=
      saveAll_memory before canLoad canSave (session.saves (.memory before canLoad canSave))
    · use last, same
      rw [old]
      apply origin.imp_right
      rintro ⟨queue, mem, new⟩
      exact ⟨queue, List.mem_append_left _ mem, new⟩
    · exact ⟨last, same, .inr ⟨queue, List.mem_append_right _ mem, new⟩⟩

/-- Memory gives back what it was given, or nothing. -/
theorem restores_memory (kept : Option StoredQueue) (canLoad canSave : Bool)
    (sessions : List Session) :
    Restores (.memory kept canLoad canSave) sessions
  := by
  intro earlier _ job waits
  obtain ⟨last, same, origin⟩ := storeAfter_memory kept canLoad canSave earlier
  rw [same] at waits
  cases canLoad with
  | false => cases waits
  | true =>
    cases last with
    | none => cases waits
    | some queue =>
      obtain rfl | ⟨other, mem, same⟩ := origin
      · exact .inl waits
      · obtain rfl := Option.some.inj same
        exact .inr ⟨queue, mem, waits⟩

/-- A store in which all queues can be saved gives back the one that was saved last. -/
theorem Succeed.restores (succeed : Succeed store sessions) :
    Restores store sessions
  := by
  intro earlier part
  induction earlier using List.reverseRecOn with
  | nil => exact fun job waits => .inl waits
  | append_singleton earlier session ih =>
    intro job waits
    rw [storeAfter_concat] at waits
    rw [during_concat]
    cases last : (session.saves (storeAfter store earlier)).getLast? with
    | none =>
      rw [List.getLast?_eq_none_iff.1 last] at waits ⊢
      rw [List.append_nil]
      exact ih ((List.prefix_append _ _).trans part) job waits
    | some queue =>
      rw [QueueStore.restore, (succeed earlier session part).keeps.load last] at waits
      exact .inr ⟨queue, List.mem_append_right _ (List.mem_of_getLast? last), waits⟩

end

end Session

end System

end Scheduler

end ControlRelay
