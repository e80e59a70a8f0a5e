import ControlRelay.Proofs.Scheduler.Places
import Mathlib.Data.List.Dedup
import Mathlib.Data.List.Sort

/-!
# The order in which jobs are loaded

Jobs get their ids in the order in which they are enqueued.  Unless a job jumps, the jobs held
stay in this order, every one of them comes after the jobs that were loaded before, and only a job
whose start call failed is loaded again, before any other.  So jobs are loaded in the order in
which they were enqueued.
-/

namespace ControlRelay

/-- Whether the clients are told that a job was loaded. -/
def SchedulerEffect.tellsLoaded : SchedulerEffect → Bool
  | announce told => told.action = "job_loaded"
  | _ => false

namespace Scheduler

section

variable {settings : Config.JobSettings} {s : Scheduler} {event : Event} {step : Step}
  {epoch : Nat} {stage : LoadStage}

/-! ### Who tells that a job was loaded -/

theorem Moves.untold (moves : Moves s event step) :
    step.2.any SchedulerEffect.tellsLoaded = false
  := by
  cases moves with
  | edited edits => cases edits <;> simp [storing, announcing, SchedulerEffect.tellsLoaded]
  | returned active =>
    simp [failLoad, active, storing, announcing, SchedulerEffect.tellsLoaded]
  | _ => simp [pause, announcingState, announcing, SchedulerEffect.tellsLoaded]

theorem Leads.untold (leads : Leads event s step) :
    step.2.any SchedulerEffect.tellsLoaded = false
  := by
  induction leads with
  | stay => rfl
  | move leads moves ih => rw [List.any_append, ih, moves.untold, Bool.or_false]

theorem untold_checkPrinter (printState : String) :
    (s.checkPrinter settings epoch printState).1.2.any SchedulerEffect.tellsLoaded = false
  := by
  unfold checkPrinter
  split
  next => rfl
  next =>
    dsimp only
    split
    next => split <;> rfl
    next => simp [announcingState, announcing, SchedulerEffect.tellsLoaded]

theorem untold_failLoad (error : RelayError) :
    (s.failLoad epoch none error).2.any SchedulerEffect.tellsLoaded = false
  := by
  dsimp only [failLoad]
  split
  next => simp [announcing, SchedulerEffect.tellsLoaded]
  next => rfl

/-- Only a chain that takes a job tells that one was loaded. -/
theorem exists_popped_of_told (acts : stage.action settings = .step)
    (told : (s.chainStep settings epoch stage).1.2.any SchedulerEffect.tellsLoaded = true) :
    stage = .taking ∧ s.isCurrent epoch = true ∧ ∃ job rest, s.queue.popFront? = some (job, rest)
  := by
  cases phase : stage.phase with
  | starting =>
    have leads : Leads (.resumed 0 (.error .linkDisconnected)) s (s.chainStep settings epoch stage).1
      := (leads_chainStep 0 _ phase acts).1
    cases leads.untold.symm.trans told
  | ended => apply absurd phase (LoadStage.ne_ended_of_step acts)
  | preparing =>
    cases stage with
    | checking printState => cases (untold_checkPrinter printState).symm.trans told
    | failed job error =>
      cases job with
      | none => cases (untold_failLoad error).symm.trans told
      | some job => cases phase
    | taking =>
      dsimp only [chainStep, takeJob] at told
      split at told
      next => cases told
      next current =>
        split at told
        next => simp [announcingState, announcing, SchedulerEffect.tellsLoaded] at told
        next job rest popped => use rfl, by simpa using current, job, rest
    | starting job => cases phase
    | started job => cases phase
    | _ => cases told

end

namespace System

/-- The job that is loaded with an event, if the clients are told of one. -/
def loaded? (settings : Config.JobSettings) (sys : System) (event : Event) : Option Job :=
  let (after, effects) := sys.next settings event
  if effects.any SchedulerEffect.tellsLoaded then after.scheduler.active else none

/-- The jobs that are loaded during a list of events, in order. -/
def loads (settings : Config.JobSettings) (sys : System) : List Event → List Job
  | [] => []
  | event :: events =>
    (sys.loaded? settings event).toList ++ (sys.next settings event).1.loads settings events

/-- The jobs that come during a list of events, in the order in which they are enqueued. -/
def arrivals (settings : Config.JobSettings) (sys : System) : List Event → List Job
  | [] => []
  | event :: events => sys.arrives event ++ (sys.next settings event).1.arrivals settings events

section

variable {settings : Config.JobSettings} {sys : System} {event : Event} {job : Job}
  {rest : JobQueue}

theorem loads_concat (settings : Config.JobSettings) (sys : System) (events : List Event)
    (event : Event) :
    sys.loads settings (events ++ [event]) =
      sys.loads settings events ++ ((sys.run settings events).loaded? settings event).toList
  := by
  induction events generalizing sys with
  | nil => apply List.append_nil
  | cons first events ih =>
    rw [List.cons_append, loads, ih, ← List.append_assoc]
    rfl

theorem arrivals_concat (settings : Config.JobSettings) (sys : System) (events : List Event)
    (event : Event) :
    sys.arrivals settings (events ++ [event]) =
      sys.arrivals settings events ++ (sys.run settings events).arrives event
  := by
  induction events generalizing sys with
  | nil => apply List.append_nil
  | cons first events ih =>
    rw [List.cons_append, arrivals, ih, ← List.append_assoc]
    rfl

theorem loaded?_of_draws (draws : Draws sys job rest event) (settings : Config.JobSettings) :
    sys.loaded? settings event = some job
  := by
  cases draws with
  | popped launched current unused popped =>
    simp [loaded?, next, launched, resume, LoadStage.action, chainStep, takeJob, current, popped,
      stepped, storing, announcing, SchedulerEffect.tellsLoaded]

theorem queue_of_draws (draws : Draws sys job rest event) (settings : Config.JobSettings) :
    (sys.next settings event).1.scheduler.queue = rest
  := by
  cases draws with
  | popped launched current unused popped =>
    simp [next, launched, resume, LoadStage.action, chainStep, takeJob, current, popped, stepped]

theorem draws_of_told (consistent : Consistent sys.scheduler)
    (told : (sys.next settings event).2.any SchedulerEffect.tellsLoaded = true) :
    ∃ job rest, Draws sys job rest event
  := by
  cases event with
  | performed operation => cases (leads_perform operation).untold.symm.trans told
  | resumed index reply =>
    dsimp only [next] at told
    split at told
    next chain launched =>
      unfold resume at told
      split at told
      next => cases told
      next => cases told
      next => cases told
      next => cases told
      next acts =>
        obtain ⟨epoch, stage⟩ := chain
        obtain ⟨rfl, current, job, rest, popped⟩ := exists_popped_of_told acts told
        use job, rest, launched, current, consistent.unused current
    next => cases told

theorem draws_of_loaded? (consistent : Consistent sys.scheduler)
    (loaded : sys.loaded? settings event = some job) :
    ∃ rest, Draws sys job rest event
  := by
  have told : (sys.next settings event).2.any SchedulerEffect.tellsLoaded = true := by
    by_contra untold
    simp [loaded?, untold] at loaded
  obtain ⟨job', rest, draws⟩ := draws_of_told consistent told
  obtain rfl := Option.some.inj ((loaded?_of_draws draws settings).symm.trans loaded)
  use rest

/-- The clients are told once of every job that is loaded, and of no others. -/
theorem length_loads (queue : JobQueue) (events : List Event) :
    ((after settings queue []).loads settings events).length =
      ((after settings queue []).effects settings events).countP SchedulerEffect.tellsLoaded
  := by
  have sound : Sound settings (after settings queue []) := sound_after settings queue []
  generalize after settings queue [] = sys at sound ⊢
  induction events generalizing sys with
  | nil => rfl
  | cons event events ih =>
    have once : (sys.loaded? settings event).toList.length =
        (sys.next settings event).2.countP SchedulerEffect.tellsLoaded
      := by
      cases told : (sys.next settings event).2.any SchedulerEffect.tellsLoaded with
      | false =>
        have untold := List.any_eq_false.1 told
        rw [List.countP_eq_zero.2 untold]
        simp [loaded?, told]
      | true =>
        obtain ⟨job, rest, draws⟩ := draws_of_told sound.consistent told
        rw [loaded?_of_draws draws settings]
        cases draws with
        | popped launched current unused popped =>
          simp [next, launched, resume, LoadStage.action, chainStep, takeJob, current, popped,
            storing, announcing, SchedulerEffect.tellsLoaded]
    rw [loads, effects, List.length_append, List.countP_append, once]
    rw [ih _ (sound.goes (goes_next settings sys event))]

theorem held_of_draws (draws : Draws sys job rest event) :
    sys.scheduler.held = job :: rest.jobs ∧ sys.arrives event = []
  := by
  cases draws with
  | popped launched current unused popped =>
    rw [held_of_unused unused, (JobQueue.jobs_of_popFront? popped).1]
    use rfl
    rfl

/-- When no job is loaded, those that wait have waited before, or are new, or one of them is back
because its start call failed. -/
theorem Holds.waited {active : Option Job} {queue : JobQueue} (holds : Holds sys event active queue)
    (unloaded : sys.loaded? settings event = none) (waits : job ∈ queue.jobs) :
    job ∈ sys.scheduler.queue.jobs ∨ job ∈ sys.arrives event ∨ Returns sys job event
  := by
  cases holds with
  | kept =>
    left
    apply waits
  | taken draws => cases unloaded.symm.trans (loaded?_of_draws draws settings)
  | added reset =>
    cases List.mem_append.1 waits with
    | inl old =>
      cases reset with
      | true => cases old
      | false =>
        left
        apply old
    | inr new =>
      right
      left
      apply new
  | cleared => cases waits
  | removed ids =>
    left
    apply List.mem_of_mem_filter waits
  | jumped taken =>
    left
    apply (JobQueue.perm_of_takeOut? taken).2.mem_iff.2 waits
  | released =>
    left
    apply waits
  | returned returns =>
    cases waits with
    | head =>
      right
      right
      apply returns
    | tail _ old =>
      left
      apply old

/-! ### What keeps the order -/

/-- The jobs held are in the order of their ids, none of them comes before those that were loaded,
and so are the jobs that came, among which all of these are. -/
structure Ordered (sys : System) (came loaded : List Job) : Prop where
  held_sorted : sys.scheduler.held.Pairwise fun job later => job.id.value < later.id.value
  loaded_sorted : loaded.Pairwise fun job later => job.id.value ≤ later.id.value
  came_sorted : came.Pairwise fun job later => job.id.value < later.id.value
  loaded_le : ∀ job ∈ loaded, ∀ later ∈ sys.scheduler.held, job.id.value ≤ later.id.value
  old : ∀ job ∈ came, job.id.value < sys.scheduler.queue.nextId
  held_came : sys.scheduler.held ⊆ came
  loaded_came : loaded ⊆ came

section

variable {came loaded kept : List Job}

/-- A job that is loaded was the first one held, so it comes after all that were loaded before. -/
theorem Ordered.load (ordered : Ordered sys came loaded) (consistent : Consistent sys.scheduler)
    (settings : Config.JobSettings) (event : Event) :
    Ordered sys came (loaded ++ (sys.loaded? settings event).toList)
  := by
  cases loads : sys.loaded? settings event with
  | none =>
    rw [Option.toList_none, List.append_nil]
    apply ordered
  | some job =>
    obtain ⟨rest, draws⟩ := draws_of_loaded? consistent loads
    have first := (held_of_draws draws).1
    have mem : job ∈ sys.scheduler.held := by
      rw [first]
      apply List.mem_cons_self
    constructor
    · apply ordered.held_sorted
    · apply List.pairwise_append.2
      use ordered.loaded_sorted, List.pairwise_singleton _ _
      intro before old later new
      obtain rfl := List.mem_singleton.1 new
      apply ordered.loaded_le before old later mem
    · apply ordered.came_sorted
    · intro before old later waits
      cases List.mem_append.1 old with
      | inl old => apply ordered.loaded_le before old later waits
      | inr new =>
        obtain rfl := List.mem_singleton.1 new
        have sorted := ordered.held_sorted
        rw [first] at sorted waits
        cases waits with
        | head => apply UInt64.le_refl
        | tail _ waits => apply UInt64.le_of_lt ((List.pairwise_cons.1 sorted).1 later waits)
    · apply ordered.old
    · apply ordered.held_came
    · apply List.append_subset.2
      use ordered.loaded_came
      apply List.cons_subset.2 ⟨ordered.held_came mem, List.nil_subset _⟩

/-- The jobs that come with an event come after all others. -/
theorem Ordered.renew (ordered : Ordered sys came loaded) (settings : Config.JobSettings)
    (renews : Renews sys event (sys.next settings event).1.scheduler.held
      (sys.next settings event).1.scheduler.queue.nextId kept)
    (unjumped : ∀ id, event ≠ .performed (.jump id)) :
    Ordered (sys.next settings event).1 (came ++ sys.arrives event) loaded
  := by
  have sublist := renews.sublist unjumped
  have before {job later : Job} (old : job ∈ came) (new : later ∈ sys.arrives event) :
      job.id.value < later.id.value
    := UInt64.lt_of_lt_of_le (ordered.old job old) (renews.between later new).1
  constructor
  · rw [renews.eq_append]
    apply List.pairwise_append.2
    use ordered.held_sorted.sublist sublist, renews.sorted
    intro job old later new
    apply before (ordered.held_came (sublist.subset old)) new
  · apply ordered.loaded_sorted
  · apply List.pairwise_append.2
    use ordered.came_sorted, renews.sorted
    intro job old later new
    apply before old new
  · intro job old later waits
    rw [renews.eq_append] at waits
    cases List.mem_append.1 waits with
    | inl kept => apply ordered.loaded_le job old later (sublist.subset kept)
    | inr new => apply UInt64.le_of_lt (before (ordered.loaded_came old) new)
  · intro job mem
    cases List.mem_append.1 mem with
    | inl old => apply UInt64.lt_of_lt_of_le (ordered.old job old) renews.nextId_le
    | inr new => apply (renews.between job new).2
  · rw [renews.eq_append]
    apply List.append_subset.2
    use List.Subset.trans sublist.subset (List.Subset.trans ordered.held_came (by simp)), by simp
  · apply List.Subset.trans ordered.loaded_came (by simp)

/-- After an event a job waits that was loaded before only if it has waited all the time, or is
back because its start call failed. -/
theorem Ordered.waited {before : Job} (ordered : Ordered sys came loaded)
    (consistent : Consistent sys.scheduler)
    (renews : Renews sys event (sys.next settings event).1.scheduler.held
      (sys.next settings event).1.scheduler.queue.nextId kept)
    (waits : job ∈ (sys.next settings event).1.scheduler.queue.jobs)
    (mem : before ∈ loaded ++ (sys.loaded? settings event).toList) (same : before.id = job.id) :
    sys.loaded? settings event = none ∧ before ∈ loaded ∧
      (job ∈ sys.scheduler.queue.jobs ∨ Returns sys job event)
  := by
  cases loads : sys.loaded? settings event with
  | none =>
    rw [loads, Option.toList_none, List.append_nil] at mem
    use rfl, mem
    apply ((holds_next settings consistent event).waited loads waits).imp_right
    intro later
    apply later.resolve_left
    intro new
    have less := UInt64.lt_of_lt_of_le (ordered.old before (ordered.loaded_came mem))
      (renews.between job new).1
    rw [same] at less
    apply UInt64.lt_irrefl _ less
  | some first =>
    obtain ⟨rest, draws⟩ := draws_of_loaded? consistent loads
    have sorted := ordered.held_sorted
    have le := (ordered.load consistent settings event).loaded_le before mem
    rw [(held_of_draws draws).1] at sorted le
    rw [queue_of_draws draws settings] at waits
    have less := UInt64.lt_of_le_of_lt (le first List.mem_cons_self)
      ((List.pairwise_cons.1 sorted).1 job waits)
    rw [same] at less
    apply absurd less (UInt64.lt_irrefl _)

/-- Without repetition the jobs loaded are some of those that came, in the same order. -/
theorem Ordered.sublist (ordered : Ordered sys came loaded) :
    loaded.dedup.Sublist came
  := by
  have antisymm : Std.Antisymm fun job later : Job => job.id.value < later.id.value :=
    ⟨fun _ _ less greater => absurd (UInt64.lt_trans less greater) (UInt64.lt_irrefl _)⟩
  have subset : loaded.dedup ⊆ came := List.Subset.trans (List.dedup_subset _) ordered.loaded_came
  apply List.sublist_of_subperm_of_pairwise _ _ ordered.came_sorted
  · apply List.subperm_of_subset (List.nodup_dedup _) subset
  · have distinct : loaded.dedup.Pairwise (· ≠ ·) := List.nodup_dedup loaded
    have sorted := ordered.loaded_sorted.sublist (List.dedup_sublist _)
    apply List.Pairwise.imp_of_mem _ (distinct.and sorted)
    rintro job later mem mem' ⟨ne, le⟩
    apply UInt64.lt_of_le_of_ne le
    intro same
    apply ne
    apply List.inj_on_of_nodup_map (JobQueue.nodup_ids_of_sorted ordered.came_sorted) (subset mem)
      (subset mem')
    rw [show job.id = ⟨job.id.value⟩ from rfl, same]

end

/-! ### Runs -/

/-- The job is back because its start call failed, and since then none was loaded. -/
def Returned (settings : Config.JobSettings) (queue : JobQueue) (events : List Event) (job : Job) :
    Prop :=
  ∃ before failure since, events = before ++ failure :: since ∧
    Returns (after settings queue before) job failure ∧
    (after settings queue (before ++ [failure])).loads settings since = []

theorem returned_of_returns {queue : JobQueue} {events : List Event}
    (returns : Returns (after settings queue events) job event) :
    Returned settings queue (events ++ [event]) job
  := by
  use events, event, [], rfl, returns
  rfl

theorem Returned.concat {queue : JobQueue} {events : List Event}
    (returned : Returned settings queue events job)
    (unloaded : (after settings queue events).loaded? settings event = none) :
    Returned settings queue (events ++ [event]) job
  := by
  obtain ⟨before, failure, since, rfl, returns, none⟩ := returned
  use before, failure, since ++ [event]
  use by simp, returns
  have now : after settings queue (before ++ failure :: since) =
      (after settings queue (before ++ [failure])).run settings since
    := by rw [← after_append, List.append_assoc, List.singleton_append]
  rw [loads_concat, none, ← now, unloaded]
  rfl

section

variable {stored : StoredQueue} {events : List Event}

/-- What holds at every moment of a run in which no job jumps. -/
structure Orderly (settings : Config.JobSettings) (stored : StoredQueue) (events : List Event) :
    Prop where
  ordered :
    let first := after settings (.ofStored stored) []
    Ordered (after settings (.ofStored stored) events)
      (stored.jobs ++ first.arrivals settings events) (first.loads settings events)
  /-- A job that was loaded waits only if it is back. -/
  returned : ∀ job ∈ (after settings (.ofStored stored) events).scheduler.queue.jobs,
    ∀ before ∈ (after settings (.ofStored stored) []).loads settings events, before.id = job.id →
      Returned settings (.ofStored stored) events job

theorem orderly_after
    (sorted : stored.jobs.Pairwise fun job later => job.id.value < later.id.value)
    (unjumped : ∀ id, .performed (.jump id) ∉ events)
    (unexhausted : Unexhausted settings (.ofStored stored) events) :
    Orderly settings stored events
  := by
  have distinct := JobQueue.nodup_ids_of_sorted sorted
  rw [← List.nil_append events] at unexhausted ⊢
  apply after_of_renews (motive := Orderly settings stored) distinct unexhausted
  · have placed := placed_after distinct (unexhausted.earlier (List.nil_prefix))
    constructor
    · constructor
      · apply sorted
      · apply List.Pairwise.nil
      · rw [arrivals, List.append_nil]
        apply sorted
      · rintro job ⟨⟩
      · rw [arrivals, List.append_nil]
        apply placed.below
      · apply List.subset_append_left
      · apply List.nil_subset
    · rintro job waits before ⟨⟩
  · intro earlier event kept sys now mem placed holds renews orderly
    have consistent : Consistent sys.scheduler := (sound_after _ _ _).consistent
    have other : ∀ id, event ≠ .performed (.jump id) := by
      rintro id rfl
      apply unjumped id mem
    have run : (after settings (.ofStored stored) []).run settings earlier = sys := rfl
    constructor
    · intro first
      rw [loads_concat, arrivals_concat, after_concat, show first.run settings earlier = sys from run,
        ← List.append_assoc]
      apply Ordered.renew (orderly.ordered.load consistent settings event) settings renews other
    · intro job waits before loaded same
      rw [after_concat] at waits
      rw [loads_concat, run] at loaded
      obtain ⟨unloaded, loaded, fate⟩ :=
        orderly.ordered.waited consistent renews waits loaded same
      cases fate with
      | inl waited => apply (orderly.returned job waited before loaded same).concat unloaded
      | inr returns => apply returned_of_returns returns

/-- Along every run in which no job jumps and ids are not exhausted, the ids of the jobs loaded
never go down, and a job is loaded again only when it is back because its start call failed and
none was loaded since.  Ids are given out in the order in which jobs are enqueued, so apart from
repetitions jobs are loaded in that order. -/
theorem loads_in_order
    (sorted : stored.jobs.Pairwise fun job later => job.id.value < later.id.value)
    (unjumped : ∀ id, .performed (.jump id) ∉ events)
    (unexhausted : Unexhausted settings (.ofStored stored) events) :
    let first := after settings (.ofStored stored) []
    let came := stored.jobs ++ first.arrivals settings events
    (first.loads settings events).Pairwise (fun job later => job.id.value ≤ later.id.value) ∧
      (∀ earlier event job, earlier ++ [event] <+: events →
        (after settings (.ofStored stored) earlier).loaded? settings event = some job →
          ∀ before ∈ first.loads settings earlier, before.id = job.id →
            Returned settings (.ofStored stored) earlier job) ∧
      came.Pairwise (fun job later => job.id.value < later.id.value) ∧
      (first.loads settings events).dedup.Sublist came
  := by
  intro first came
  have orderly := orderly_after sorted unjumped unexhausted
  and_intros
  · apply orderly.ordered.loaded_sorted
  · intro earlier event job start loaded before mem same
    have start : earlier <+: events := (List.prefix_append _ _).trans start
    have orderly := orderly_after sorted (fun id mem => unjumped id (start.subset mem))
      (unexhausted.earlier start)
    obtain ⟨rest, draws⟩ := draws_of_loaded? (sound_after _ _ _).consistent loaded
    apply orderly.returned job _ before mem same
    cases draws with
    | popped launched current unused popped =>
      rw [(JobQueue.jobs_of_popFront? popped).1]
      apply List.mem_cons_self
  · apply orderly.ordered.came_sorted
  · apply orderly.ordered.sublist

end

end

/-- A job is loaded, its start call fails, and loading is asked for again. -/
def again : List Event :=
  becomesReady :: goesOn 0 ++ failsLate ++ .performed .start :: List.replicate 4 (.resumed 1 standsBy)

/-- The job is loaded again, because its start call failed. -/
theorem loads_in_order_again :
    let first := after eager (.ofStored storedJob) []
    let last : Event := .resumed 1 standsBy
    (storedJob.jobs.Pairwise fun job later => job.id.value < later.id.value) ∧
      (∀ id, .performed (.jump id) ∉ again ++ [last]) ∧
      Unexhausted eager (.ofStored storedJob) (again ++ [last]) ∧
      (after eager (.ofStored storedJob) again).loaded? eager last = some job ∧
      job ∈ first.loads eager again ∧
      Returned eager (.ofStored storedJob) again job
  := by
  intro first last
  have sorted : storedJob.jobs.Pairwise fun job later => job.id.value < later.id.value :=
    List.pairwise_singleton _ _
  have unjumped : ∀ id, .performed (.jump id) ∉ again ++ [last] := by
    intro id
    simp [again, last, becomesReady, goesOn, failsLate]
  have unexhausted : Unexhausted eager (.ofStored storedJob) (again ++ [last]) := by decide
  have loaded : (after eager (.ofStored storedJob) again).loaded? eager last = some job :=
    by decide
  have once : first.loads eager again = [job] := by decide
  have mem : job ∈ first.loads eager again := by
    rw [once]
    apply List.mem_singleton_self
  obtain ⟨-, repeated, -⟩ := loads_in_order sorted unjumped unexhausted
  refine ⟨sorted, unjumped, unexhausted, loaded, mem, ?_⟩
  apply repeated again last job (List.prefix_refl _) loaded job mem rfl

end System

end Scheduler

end ControlRelay
