import ControlRelay.Proofs.Scheduler.Moves
import Mathlib.Data.List.Induction
import Mathlib.Data.Nat.Basic
import Mathlib.Order.Basic

/-!
# Who loads

Along every run the state of the scheduler, its active job and what it tracks of that job fit
together, and it is loading exactly when one of the chains carries its epoch without having
taken a job.  That chain brings loading to an end, whatever the control process replies.
-/

namespace ControlRelay.Scheduler

/-! ### The active job -/

/-- The state, the active job and what is tracked of it fit together. -/
structure Consistent (s : Scheduler) : Prop where
  starting : s.state = .starting → s.active.isSome = true
  active : s.active.isSome = true → s.state = .starting ∨ s.state = .paused
  untracked : s.active = none → s.acknowledgedIn = none ∧ s.seenPrinting = false

section

variable {settings : Config.JobSettings} {s : Scheduler} {event : Event} {step : Step}

/-- Without an active job all fits together unless a job is being started. -/
theorem consistent_of_idle (unused : s.active = none)
    (untracked : s.acknowledgedIn = none ∧ s.seenPrinting = false) (state : s.state ≠ .starting) :
    Consistent s
  := by
  constructor
  · intro starting
    apply absurd starting state
  · rw [unused]
    rintro ⟨⟩
  · intro
    apply untracked

theorem Consistent.ne_loading {job : Job} (consistent : Consistent s)
    (active : s.active = some job) :
    s.state ≠ .loading
  := by
  intro loading
  cases consistent.active (Option.isSome_of_mem active) with
  | inl starting => cases loading.symm.trans starting
  | inr paused => cases loading.symm.trans paused

theorem epoch_and_state_of_current {epoch : Nat} (current : s.isCurrent epoch = true) :
    s.epoch = epoch ∧ s.state = .loading
  := by
  simpa [isCurrent] using current

theorem Consistent.unused {epoch : Nat} (consistent : Consistent s)
    (current : s.isCurrent epoch = true) :
    s.active = none
  := by
  apply Option.eq_none_iff_forall_not_mem.2
  intro job active
  apply consistent.ne_loading active (epoch_and_state_of_current current).2

theorem Moves.consistent (consistent : Consistent s) (moves : Moves s event step) :
    Consistent step.1
  := by
  cases moves with
  | edited => use consistent.starting, consistent.active, consistent.untracked
  | paused =>
    constructor
    · rintro ⟨⟩
    · intro
      apply Or.inr rfl
    · apply consistent.untracked
  | rearmed unused =>
    apply consistent_of_idle
    · apply unused
    · apply consistent.untracked unused
    · rintro ⟨⟩
  | forgotten active rests =>
    apply consistent_of_idle rfl ⟨rfl, rfl⟩
    intro starting
    cases rests with
    | inl ready => cases ready.symm.trans starting
    | inr paused => cases paused.symm.trans starting
  | printed => use consistent.starting, consistent.active, consistent.untracked
  | seen active =>
    use consistent.starting, consistent.active
    intro unused
    cases unused ▸ active
  | acknowledged active =>
    use consistent.starting, consistent.active
    intro unused
    cases unused ▸ active
  | stopped => apply consistent_of_idle rfl ⟨rfl, rfl⟩ (by rintro ⟨⟩)
  | finished => apply consistent_of_idle rfl ⟨rfl, rfl⟩ (by rintro ⟨⟩)
  | followed => apply consistent_of_idle rfl ⟨rfl, rfl⟩ (by rintro ⟨⟩)
  | returned active =>
    simp only [failLoad, active, if_true]
    apply consistent_of_idle rfl ⟨rfl, rfl⟩ (by rintro ⟨⟩)
  | launched ready control unused =>
    apply consistent_of_idle
    · apply unused
    · apply consistent.untracked unused
    · rintro ⟨⟩

theorem Prepares.consistent {epoch : Nat} {stage next : LoadStage} (consistent : Consistent s)
    (prepares : Prepares settings s epoch stage step next) :
    Consistent step.1
  := by
  cases prepares with
  | superseded => apply consistent
  | continued => use consistent.starting, consistent.active, consistent.untracked
  | stuck => use consistent.starting, consistent.active, consistent.untracked
  | deferred current =>
    apply consistent_of_idle
    · apply consistent.unused current
    · apply consistent.untracked (consistent.unused current)
    · rintro ⟨⟩
  | taken current popped =>
    simp only [takeJob, current, popped]
    constructor
    · intro
      rfl
    · intro
      apply Or.inl rfl
    · rintro ⟨⟩
  | failed current =>
    simp only [failLoad, current, if_true]
    apply consistent_of_idle
    · apply consistent.unused current
    · apply consistent.untracked (consistent.unused current)
    · rintro ⟨⟩

end

/-! ### The chain that loads -/

namespace System

/-- How many chains carry the epoch of the scheduler and have neither taken a job nor ended. -/
def carriers (sys : System) : Nat :=
  sys.chains.countP fun chain => chain.carries sys.scheduler.epoch

/-- Loading goes with exactly one chain that carries the epoch, unless that chain could not
represent its delay. -/
structure Attended (settings : Config.JobSettings) (sys : System) : Prop where
  epoch_le : ∀ chain ∈ sys.chains, chain.epoch ≤ sys.scheduler.epoch
  carriers : sys.scheduler.state = .loading ∧ sys.carriers = 1 ∨
    sys.carriers = 0 ∧ (sys.scheduler.state = .loading → settings.delayNanos? = none)

section

variable {settings : Config.JobSettings} {sys : System} {event : Event} {step : Step}
  {index : Nat} {chain : Chain}

theorem stepped_stepped (sys : System) (first rest : Step) :
    (sys.stepped first).stepped rest = sys.stepped (rest.1, first.2 ++ rest.2)
  := by
  simp [stepped]

theorem carriers_pos (launched : sys.chains[index]? = some chain)
    (carries : chain.carries sys.scheduler.epoch = true) :
    0 < sys.carriers
  := by
  apply List.countP_pos_iff.2
  use chain, List.mem_of_getElem? launched

theorem carriers_moved (launched : sys.chains[index]? = some chain) (chain' : Chain) :
    (sys.moved index chain').carriers + (chain.carries sys.scheduler.epoch).toNat =
      sys.carriers + (chain'.carries sys.scheduler.epoch).toNat
  := by
  obtain ⟨inside, rfl⟩ := List.getElem?_eq_some_iff.1 launched
  have counted : (sys.moved index chain').carriers =
      (sys.carriers - if sys.chains[index].carries sys.scheduler.epoch = true then 1 else 0) +
        if chain'.carries sys.scheduler.epoch = true then 1 else 0
    := List.countP_set inside
  have pos := carriers_pos launched
  rw [counted]
  cases carries : sys.chains[index].carries sys.scheduler.epoch with
  | false => cases chain'.carries sys.scheduler.epoch <;> simp
  | true =>
    replace pos := pos carries
    cases chain'.carries sys.scheduler.epoch <;> simp <;> omega

theorem countP_carries_of_lt {epoch : Nat} (older : ∀ chain ∈ sys.chains, chain.epoch < epoch) :
    sys.chains.countP (fun chain => chain.carries epoch) = 0
  := by
  apply List.countP_eq_zero.2
  intro chain mem carries
  apply (older chain mem).ne (Chain.carries_iff.1 carries).1

theorem carriers_stepped (sys : System) (step : Step) :
    (sys.stepped step).carriers =
      sys.chains.countP (fun chain => chain.carries step.1.epoch) +
        (step.2.filterMap Action.launched?).count step.1.epoch
  := by
  apply List.countP_append.trans
  rw [List.countP_map]
  congr 2
  funext epoch
  apply Bool.eq_iff_iff.2
  apply Chain.carries_iff.trans
  simp [LoadStage.phase, System.stepped]

/-- The one chain of the scheduler's epoch is the current one. -/
theorem Attended.current (attended : Attended settings sys)
    (launched : sys.chains[index]? = some chain)
    (carries : chain.carries sys.scheduler.epoch = true) :
    sys.scheduler.isCurrent chain.epoch = true ∧ sys.carriers = 1
  := by
  obtain ⟨same, -⟩ := Chain.carries_iff.1 carries
  cases attended.carriers with
  | inl loading => simp [isCurrent, same, loading]
  | inr unattended => apply absurd unattended.1 (carriers_pos launched carries).ne'

/-! ### The steps of the scheduler -/

/-- A step that launches no chain, keeps the epoch, and neither begins nor ends loading. -/
theorem Attended.stepped (attended : Attended settings sys)
    (epoch : step.1.epoch = sys.scheduler.epoch)
    (unlaunched : step.2.filterMap Action.launched? = [])
    (loading : step.1.state = .loading ↔ sys.scheduler.state = .loading) :
    Attended settings (sys.stepped step)
  := by
  constructor
  · simp only [System.stepped, unlaunched, epoch, List.map_nil, List.append_nil]
    apply attended.epoch_le
  · rw [carriers_stepped, unlaunched, epoch]
    change step.1.state = .loading ∧ sys.carriers = 1 ∨
      sys.carriers = 0 ∧ (step.1.state = .loading → settings.delayNanos? = none)
    rw [loading]
    apply attended.carriers

/-- A step that stays out of loading. -/
theorem Attended.stepped_of_ne (attended : Attended settings sys)
    (epoch : step.1.epoch = sys.scheduler.epoch)
    (unlaunched : step.2.filterMap Action.launched? = [])
    (before : sys.scheduler.state ≠ .loading) (after : step.1.state ≠ .loading) :
    Attended settings (sys.stepped step)
  := attended.stepped epoch unlaunched (iff_of_false after before)

theorem Attended.paused (attended : Attended settings sys) :
    Attended settings (sys.stepped sys.scheduler.pause)
  := by
  by_cases loading : sys.scheduler.state = .loading
  · have epoch : sys.scheduler.pause.1.epoch = sys.scheduler.epoch + 1 := if_pos loading
    have older : ∀ chain ∈ sys.chains, chain.epoch < sys.scheduler.pause.1.epoch := by
      intro chain mem
      rw [epoch]
      apply Nat.lt_succ_of_le (attended.epoch_le chain mem)
    constructor
    · intro chain mem
      apply (older chain _).le
      rw [← List.append_nil sys.chains]
      apply mem
    · right
      rw [carriers_stepped, countP_carries_of_lt older]
      use rfl
      rintro ⟨⟩
  · apply attended.stepped_of_ne
    · apply if_neg loading
    · rfl
    · apply loading
    · rintro ⟨⟩

theorem Attended.launched (attended : Attended settings sys) (told : QueueEvent) :
    Attended settings
      (sys.stepped
        ({ sys.scheduler with state := .loading, epoch := sys.scheduler.epoch + 1 },
          [.announce told, .launch (sys.scheduler.epoch + 1)]))
  := by
  have older : ∀ chain ∈ sys.chains, chain.epoch < sys.scheduler.epoch + 1 := by
    intro chain mem
    apply Nat.lt_succ_of_le (attended.epoch_le chain mem)
  constructor
  · intro chain mem
    cases List.mem_append.1 mem with
    | inl old => apply (older chain old).le
    | inr new =>
      obtain rfl := List.mem_singleton.1 new
      apply le_refl
  · left
    rw [carriers_stepped, countP_carries_of_lt older]
    use rfl
    apply (Nat.zero_add _).trans List.count_singleton_self

theorem Attended.moves (attended : Attended settings sys) (consistent : Consistent sys.scheduler)
    (moves : Moves sys.scheduler event step) :
    Attended settings (sys.stepped step)
  := by
  cases moves with
  | edited => apply attended.stepped rfl rfl Iff.rfl
  | paused => apply attended.paused
  | rearmed unused paused =>
    apply attended.stepped_of_ne rfl rfl
    · rw [paused]
      rintro ⟨⟩
    · rintro ⟨⟩
  | forgotten active => apply attended.stepped rfl rfl Iff.rfl
  | printed => apply attended.stepped rfl rfl Iff.rfl
  | seen => apply attended.stepped rfl rfl Iff.rfl
  | acknowledged => apply attended.stepped rfl rfl Iff.rfl
  | stopped active => apply attended.stepped_of_ne rfl rfl (consistent.ne_loading active) (by rintro ⟨⟩)
  | finished active => apply attended.stepped_of_ne rfl rfl (consistent.ne_loading active) (by rintro ⟨⟩)
  | followed active => apply attended.stepped_of_ne rfl rfl (consistent.ne_loading active) (by rintro ⟨⟩)
  | returned active =>
    obtain ⟨job, found, -⟩ := Option.map_eq_some_iff.1 (of_decide_eq_true active)
    simp only [failLoad, active, if_true]
    apply attended.stepped_of_ne rfl rfl (consistent.ne_loading found) (by rintro ⟨⟩)
  | launched => apply attended.launched

/-! ### The steps of a system -/

/-- What holds of every system that a run leads to. -/
structure Sound (settings : Config.JobSettings) (sys : System) : Prop where
  consistent : Consistent sys.scheduler
  attended : Attended settings sys

theorem Sound.leads (sound : Sound settings sys) (leads : Leads event sys.scheduler step) :
    Sound settings (sys.stepped step)
  := by
  induction leads with
  | stay =>
    constructor
    · apply sound.consistent
    · apply sound.attended.stepped rfl rfl Iff.rfl
  | @move between after effects more leads moves ih =>
    rw [← stepped_stepped sys (between, effects) (after, more)]
    constructor
    · apply moves.consistent ih.consistent
    · apply ih.attended.moves ih.consistent moves

theorem Sound.heard (sound : Sound settings sys) (operation : Operation) :
    Sound settings { sys with scheduler := sys.scheduler.heard operation }
  := by
  cases operation with
  | controlChanged status =>
    use ⟨sound.consistent.starting, sound.consistent.active, sound.consistent.untracked⟩
    use sound.attended.epoch_le, sound.attended.carriers
  | _ => apply sound

/-- A chain that goes on within its phase, or whose end is of no account. -/
theorem Attended.moved (attended : Attended settings sys) {next : LoadStage}
    (launched : sys.chains[index]? = some chain)
    (same : Chain.carries ⟨chain.epoch, next⟩ sys.scheduler.epoch =
      chain.carries sys.scheduler.epoch) :
    Attended settings (sys.moved index ⟨chain.epoch, next⟩)
  := by
  constructor
  · intro other mem
    cases List.mem_or_eq_of_mem_set mem with
    | inl old => apply attended.epoch_le other old
    | inr new =>
      rw [new]
      apply attended.epoch_le chain (List.mem_of_getElem? launched)
  · have carriers := carriers_moved launched ⟨chain.epoch, next⟩
    rw [same] at carriers
    rw [Nat.add_right_cancel carriers]
    apply attended.carriers

/-- A chain that brings loading to its end. -/
theorem Attended.resolved (attended : Attended settings sys) {next : LoadStage}
    (launched : sys.chains[index]? = some chain)
    (carries : chain.carries sys.scheduler.epoch = true) (resolves : next.phase ≠ .preparing)
    (epoch : step.1.epoch = sys.scheduler.epoch)
    (unlaunched : step.2.filterMap Action.launched? = [])
    (quits : step.1.state = .loading → settings.delayNanos? = none) :
    Attended settings ((sys.moved index ⟨chain.epoch, next⟩).stepped step)
  := by
  have uncarried : Chain.carries ⟨chain.epoch, next⟩ sys.scheduler.epoch = false := by
    apply eq_false_of_ne_true
    intro carried
    apply resolves (Chain.carries_iff.1 carried).2
  have carriers := carriers_moved launched ⟨chain.epoch, next⟩
  rw [carries, uncarried, (attended.current launched carries).2] at carriers
  constructor
  · intro other mem
    simp only [System.stepped, unlaunched, List.map_nil, List.append_nil] at mem
    change other.epoch ≤ step.1.epoch
    rw [epoch]
    cases List.mem_or_eq_of_mem_set mem with
    | inl old => apply attended.epoch_le other old
    | inr new =>
      rw [new]
      apply attended.epoch_le chain (List.mem_of_getElem? launched)
  · right
    rw [carriers_stepped, unlaunched, epoch]
    use Nat.add_right_cancel carriers, quits

theorem Attended.prepares (attended : Attended settings sys) {next : LoadStage}
    (launched : sys.chains[index]? = some chain) (preparing : chain.stage.phase = .preparing)
    (prepares : Prepares settings sys.scheduler chain.epoch chain.stage step next) :
    Attended settings ((sys.moved index ⟨chain.epoch, next⟩).stepped step)
  := by
  have carries : sys.scheduler.isCurrent chain.epoch = true →
      chain.carries sys.scheduler.epoch = true
    := by
    intro current
    apply Chain.carries_iff.2
    use (epoch_and_state_of_current current).1.symm
  cases prepares with
  | superseded stale =>
    apply Attended.stepped _ rfl rfl Iff.rfl
    apply attended.moved launched
    rw [Bool.eq_iff_iff]
    apply iff_of_false
    · intro carried
      cases (Chain.carries_iff.1 carried).2
    · intro carried
      cases stale.symm.trans (attended.current launched carried).1
  | continued current printState phase =>
    apply Attended.stepped _ rfl rfl Iff.rfl
    apply attended.moved launched
    rw [carries current]
    apply Chain.carries_iff.2
    use (epoch_and_state_of_current current).1.symm
  | stuck current printState delay =>
    apply attended.resolved launched (carries current) _ rfl rfl
    · intro
      apply delay
    · decide
  | deferred current =>
    apply attended.resolved launched (carries current) _ rfl rfl
    · rintro ⟨⟩
    · decide
  | taken current popped =>
    simp only [takeJob, current, popped]
    apply attended.resolved launched (carries current) _ rfl rfl
    · rintro ⟨⟩
    · simp [LoadStage.phase]
  | failed current =>
    simp only [failLoad, current, if_true]
    apply attended.resolved launched (carries current) _ rfl rfl
    · rintro ⟨⟩
    · decide

theorem Sound.goes {result : System × List SchedulerEffect} (sound : Sound settings sys)
    (goes : Goes settings sys event result) :
    Sound settings result.1
  := by
  cases goes with
  | @performed operation step leads =>
    apply (sound.heard operation).leads leads
  | unmoved => apply sound
  | @moved index reply chain stage launched phase =>
    use sound.consistent
    apply sound.attended.moved launched
    simp [Chain.carries, phase]
  | prepared launched preparing prepares =>
    use prepares.consistent sound.consistent
    apply sound.attended.prepares launched preparing prepares
  | @settled index reply chain step launched starting leads =>
    have moved : Sound settings (sys.moved index ⟨chain.epoch, .ended⟩) := by
      use sound.consistent
      apply sound.attended.moved launched
      rw [Chain.carries, Chain.carries, starting]
      rfl
    apply moved.leads leads

/-- What a run leads to is sound. -/
theorem Sound.run (sound : Sound settings sys) (events : List Event) :
    Sound settings (sys.run settings events)
  := by
  induction events generalizing sys with
  | nil => apply sound
  | cons event events ih => apply ih (sound.goes (goes_next settings sys event))

theorem sound_after (settings : Config.JobSettings) (queue : JobQueue) (events : List Event) :
    Sound settings (after settings queue events)
  := by
  apply Sound.run
  constructor
  · apply consistent_of_idle rfl ⟨rfl, rfl⟩
    dsimp only [restored]
    split <;> rintro ⟨⟩
  · constructor
    · rintro _ ⟨⟩
    · right
      use rfl
      dsimp only [restored]
      split <;> rintro ⟨⟩

/-! ### The end of loading -/

theorem Attended.loading_iff (attended : Attended settings sys)
    (delay : settings.delayNanos?.isSome = true) :
    (sys.scheduler.state = .loading ↔ sys.carriers = 1) ∧ sys.carriers ≤ 1
  := by
  cases attended.carriers with
  | inl loading =>
    use iff_of_true loading.1 loading.2
    apply loading.2.le
  | inr unattended =>
    obtain ⟨none, quits⟩ := unattended
    have waits : sys.scheduler.state ≠ .loading := by
      intro loading
      rw [quits loading] at delay
      cases delay
    rw [none]
    use iff_of_false waits Nat.zero_ne_one
    apply Nat.zero_le

theorem getElem?_moved (launched : sys.chains[index]? = some chain) (chain' : Chain) :
    (sys.moved index chain').chains[index]? = some chain'
  := by
  obtain ⟨inside, -⟩ := List.getElem?_eq_some_iff.1 launched
  apply List.getElem?_set_self inside

theorem getElem?_stepped (launched : sys.chains[index]? = some chain) (step : Step) :
    (sys.stepped step).chains[index]? = some chain
  := by
  obtain ⟨inside, -⟩ := List.getElem?_eq_some_iff.1 launched
  rw [← launched]
  apply List.getElem?_append_left inside

/-- A chain that carries the epoch ends loading when it goes on, or comes closer to that. -/
theorem Attended.closer {reply : Reply} {result : System × List SchedulerEffect}
    (attended : Attended settings sys) (delay : settings.delayNanos?.isSome = true)
    (launched : sys.chains[index]? = some chain)
    (carries : chain.carries sys.scheduler.epoch = true)
    (goes : Goes settings sys (.resumed index reply) result) :
    result.1.scheduler.state ≠ .loading ∨
      ∃ chain', result.1.chains[index]? = some chain' ∧
        chain'.carries result.1.scheduler.epoch = true ∧ chain'.stage.rank < chain.stage.rank
  := by
  obtain ⟨epoch, preparing⟩ := Chain.carries_iff.1 carries
  have only : ∀ {other}, sys.chains[index]? = some other → chain = other := by
    intro other found
    apply Option.some.inj (launched.symm.trans found)
  cases goes with
  | unmoved ended => cases preparing.symm.trans (congrArg LoadStage.phase (ended chain launched))
  | @moved _ _ _ stage found phase closer =>
    obtain rfl := only found
    right
    use ⟨chain.epoch, stage⟩, getElem?_moved launched _
    use Chain.carries_iff.2 ⟨epoch, phase.trans preparing⟩
  | @prepared _ _ _ _ stage found preparing prepares =>
    obtain rfl := only found
    cases prepares with
    | superseded stale => cases stale.symm.trans (attended.current launched carries).1
    | continued current printState phase closer =>
      right
      use ⟨chain.epoch, stage⟩, getElem?_stepped (getElem?_moved launched _) _
      use Chain.carries_iff.2 ⟨epoch, phase⟩
    | stuck current printState none =>
      rw [none] at delay
      cases delay
    | deferred =>
      left
      rintro ⟨⟩
    | taken current popped =>
      left
      simp only [takeJob, current, popped]
      rintro ⟨⟩
    | failed current =>
      left
      simp only [failLoad, current, if_true]
      rintro ⟨⟩
  | settled found starting =>
    obtain rfl := only found
    cases preparing.symm.trans starting

/-- A chain that carries the epoch, left to itself, brings loading to its end. -/
theorem Sound.exists_end (sound : Sound settings sys) (delay : settings.delayNanos?.isSome = true)
    (launched : sys.chains[index]? = some chain)
    (carries : chain.carries sys.scheduler.epoch = true) (replies : Nat → Reply) :
    ∃ n, (sys.run settings ((List.range n).map fun k => .resumed index (replies k))).scheduler.state
      ≠ .loading
  := by
  induction rank : chain.stage.rank using Nat.strong_induction_on generalizing sys chain replies with
  | _ rank' ih =>
    subst rank
    have goes := goes_next settings sys (.resumed index (replies 0))
    cases sound.attended.closer delay launched carries goes with
    | inl ends =>
      use 1
      apply ends
    | inr nearer =>
      obtain ⟨chain', launched, carries, closer⟩ := nearer
      obtain ⟨n, ends⟩ :=
        ih _ closer (sound.goes goes) launched carries (fun k => replies (k + 1)) rfl
      use n + 1
      rw [List.range_succ_eq_map, List.map_cons, List.map_map]
      apply ends

/-- Between the steps of every run, loading goes with exactly one chain that carries the epoch
without having taken a job or ended; never do two, and that chain brings loading to its end,
whatever the control process replies.  A job that is being started is active, an active job is
being started or loading is paused, and nothing is tracked of a job that is not there. -/
theorem loading_iff_carried (delay : settings.delayNanos?.isSome = true) (queue : JobQueue)
    (events : List Event) :
    let sys := after settings queue events
    (sys.scheduler.state = .loading ↔ sys.carriers = 1) ∧ sys.carriers ≤ 1 ∧
      (sys.scheduler.state = .loading →
        ∃ index, ∀ replies : Nat → Reply, ∃ n,
          (sys.run settings ((List.range n).map fun k => .resumed index (replies k))).scheduler.state
            ≠ .loading) ∧
      (sys.scheduler.state = .starting → sys.scheduler.active.isSome = true) ∧
      (sys.scheduler.active.isSome = true →
        sys.scheduler.state = .starting ∨ sys.scheduler.state = .paused) ∧
      (sys.scheduler.active = none →
        sys.scheduler.acknowledgedIn = none ∧ sys.scheduler.seenPrinting = false)
  := by
  intro sys
  have sound : Sound settings sys := sound_after settings queue events
  obtain ⟨carried, le_one⟩ := sound.attended.loading_iff delay
  and_intros
  · apply carried
  · apply le_one
  · intro loading
    obtain ⟨chain, mem, carries⟩ := List.countP_pos_iff.1 ((carried.1 loading).symm ▸ Nat.one_pos)
    obtain ⟨index, launched⟩ := List.mem_iff_getElem?.1 mem
    use index
    intro replies
    apply sound.exists_end delay launched carries replies
  · apply sound.consistent.starting
  · apply sound.consistent.active
  · apply sound.consistent.untracked

end

/-- Loading is permitted from the start on, and nothing delays it. -/
def eager : Config.JobSettings := { loadOnStartup := true }

def job : Job := ⟨⟨0⟩, "plate.gcode", 0.0⟩

/-- The queue in which one job waits. -/
def oneJob : JobQueue := ⟨[job], 1⟩

def becomesReady : Event := .performed (.controlChanged ⟨.ready, ""⟩)

/-- A waiting job is loaded as soon as the control process is ready, by one chain. -/
theorem loading_iff_carried_becomesReady :
    eager.delayNanos?.isSome = true ∧
      (after eager oneJob [becomesReady]).scheduler.state = .loading ∧
      (after eager oneJob [becomesReady]).carriers = 1
  := by
  have delay : eager.delayNanos?.isSome = true := by decide
  have loading : (after eager oneJob [becomesReady]).scheduler.state = .loading := rfl
  obtain ⟨carried, -⟩ := loading_iff_carried delay oneJob [becomesReady]
  and_intros
  · apply delay
  · apply loading
  · apply carried.1 loading

end System

end ControlRelay.Scheduler
