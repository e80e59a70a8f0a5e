import ControlRelay.Proofs.Config.Delay
import ControlRelay.Proofs.Scheduler.Pausing

/-!
# A delay that cannot be kept

A load chain that has found the printer idle turns the delay of the settings into a wait.  Where
the delay has a representation the chain goes on and stays the one that carries loading.  A
delay of `2^64` seconds and more has none: the chain is over, the scheduler is left loading, and
only a pause takes it out of that.
-/

namespace ControlRelay.Scheduler.System

/-- The scheduler is loading, and no chain is left that could bring that to an end. -/
structure Stranded (sys : System) : Prop where
  loading : sys.scheduler.state = .loading
  uncarried : sys.carriers = 0

section

variable {settings : Config.JobSettings} {sys : System} {event : Event} {step : Step}
  {index : Nat} {chain : Chain}

theorem Stranded.stepped (stranded : Stranded sys)
    (epoch : step.1.epoch = sys.scheduler.epoch)
    (unlaunched : step.2.filterMap Action.launched? = [])
    (state : step.1.state = sys.scheduler.state) :
    Stranded (sys.stepped step)
  := by
  constructor
  · apply state.trans stranded.loading
  · rw [carriers_stepped, unlaunched, epoch]
    apply stranded.uncarried

/-- Whoever is loading has no active job, so no job ends and none is given back; and nothing is
launched, as only a scheduler that is ready launches. -/
theorem Stranded.moves (stranded : Stranded sys) (consistent : Consistent sys.scheduler)
    (unpaused : event ≠ .performed .pause) (moves : Moves sys.scheduler event step) :
    Stranded (sys.stepped step)
  := by
  have unused : ∀ job, sys.scheduler.active ≠ some job := by
    intro job active
    apply consistent.ne_loading active stranded.loading
  cases moves with
  | edited => apply stranded.stepped rfl rfl rfl
  | paused => apply absurd rfl unpaused
  | rearmed _ paused => cases paused.symm.trans stranded.loading
  | forgotten active => apply absurd active (unused _)
  | printed => apply stranded.stepped rfl rfl rfl
  | seen => apply stranded.stepped rfl rfl rfl
  | acknowledged => apply stranded.stepped rfl rfl rfl
  | stopped active => apply absurd active (unused _)
  | finished active => apply absurd active (unused _)
  | followed active => apply absurd active (unused _)
  | returned active =>
    obtain ⟨job, found, -⟩ := Option.map_eq_some_iff.1 (of_decide_eq_true active)
    apply absurd found (unused job)
  | launched ready => cases ready.symm.trans stranded.loading

theorem Stranded.leads (stranded : Stranded sys) (consistent : Consistent sys.scheduler)
    (unpaused : event ≠ .performed .pause) (leads : Leads event sys.scheduler step) :
    Stranded (sys.stepped step)
  := by
  suffices both : Stranded (sys.stepped step) ∧ Consistent step.1 from both.1
  induction leads with
  | stay => apply And.intro (stranded.stepped rfl rfl rfl) consistent
  | @move between after effects more leads moves ih =>
    obtain ⟨stranded, consistent⟩ := ih
    rw [← stepped_stepped sys (between, effects) (after, more)]
    apply And.intro
    · apply stranded.moves consistent unpaused moves
    · apply moves.consistent consistent

theorem Stranded.heard (stranded : Stranded sys) (operation : Operation) :
    Stranded { sys with scheduler := sys.scheduler.heard operation }
  := by
  cases operation with
  | controlChanged status => use stranded.loading, stranded.uncarried
  | _ => apply stranded

/-- A chain that does not begin to carry the epoch. -/
theorem Stranded.moved (stranded : Stranded sys) {next : LoadStage}
    (launched : sys.chains[index]? = some chain)
    (uncarried : Chain.carries ⟨chain.epoch, next⟩ sys.scheduler.epoch = true →
      chain.carries sys.scheduler.epoch = true) :
    Stranded (sys.moved index ⟨chain.epoch, next⟩)
  := by
  have before : chain.carries sys.scheduler.epoch = false := by
    apply eq_false_of_ne_true
    intro carries
    apply (carriers_pos launched carries).ne' stranded.uncarried
  have after : Chain.carries ⟨chain.epoch, next⟩ sys.scheduler.epoch = false := by
    apply eq_false_of_ne_true
    intro carries
    cases before.symm.trans (uncarried carries)
  have carriers := carriers_moved launched ⟨chain.epoch, next⟩
  rw [before, after] at carriers
  use stranded.loading, carriers.trans stranded.uncarried

/-- No chain that has not taken a job finds itself current. -/
theorem Stranded.not_current (stranded : Stranded sys)
    (launched : sys.chains[index]? = some chain) (preparing : chain.stage.phase = .preparing) :
    sys.scheduler.isCurrent chain.epoch = false
  := by
  apply eq_false_of_ne_true
  intro current
  apply (carriers_pos launched _).ne' stranded.uncarried
  apply Chain.carries_iff.2
  use (epoch_and_state_of_current current).1.symm

theorem Stranded.goes {result : System × List SchedulerEffect} (stranded : Stranded sys)
    (sound : Sound settings sys) (unpaused : event ≠ .performed .pause)
    (goes : Goes settings sys event result) :
    Stranded result.1
  := by
  cases goes with
  | @performed operation step leads =>
    apply (stranded.heard operation).leads (sound.heard operation).consistent unpaused leads
  | unmoved => apply stranded
  | moved launched phase =>
    apply stranded.moved launched
    simp [Chain.carries, phase]
  | prepared launched preparing prepares =>
    have stale := stranded.not_current launched preparing
    cases prepares with
    | superseded =>
      apply Stranded.stepped _ rfl rfl rfl
      apply stranded.moved launched
      intro carried
      cases (Chain.carries_iff.1 carried).2
    | continued current => cases stale.symm.trans current
    | stuck current => cases stale.symm.trans current
    | deferred current => cases stale.symm.trans current
    | taken current => cases stale.symm.trans current
    | failed current => cases stale.symm.trans current
  | @settled index reply chain step launched starting leads =>
    have moved : Stranded (sys.moved index ⟨chain.epoch, .ended⟩) := by
      apply stranded.moved launched
      intro carried
      cases (Chain.carries_iff.1 carried).2
    apply moved.leads sound.consistent unpaused leads

/-- Only a pause takes a stranded scheduler out of loading. -/
theorem Stranded.run (stranded : Stranded sys) (sound : Sound settings sys) {events : List Event}
    (unpaused : .performed .pause ∉ events) :
    Stranded (sys.run settings events)
  := by
  induction events generalizing sys with
  | nil => apply stranded
  | cons event events ih =>
    rw [List.mem_cons, not_or] at unpaused
    obtain ⟨other, rest⟩ := unpaused
    have goes := goes_next settings sys event
    apply ih (stranded.goes sound (Ne.symm other) goes) (sound.goes goes) rest

/-! ### The printer is idle -/

/-- The stage that a chain goes on to when the delay is known. -/
def delayStage : Nat → LoadStage
  | 0 => .scripting
  | nanos => .waiting nanos

variable {printState : String}

/-- The step of a chain that is current and finds the printer idle. -/
theorem checkPrinter_of_idle (settings : Config.JobSettings) {s : Scheduler} {epoch : Nat}
    (current : s.isCurrent epoch = true) (idle : isIdle printState = true) :
    ∃ heard : Option String, s.checkPrinter settings epoch printState =
      (({ s with printState := heard }, []), (settings.delayNanos?.map delayStage).getD .ended)
  := by
  use if printState.isEmpty then s.printState else some printState
  unfold checkPrinter
  rw [current, idle]
  dsimp only
  rw [noted_eq]
  cases settings.delayNanos? with
  | none => rfl
  | some nanos => cases nanos <;> rfl

theorem next_of_idle (settings : Config.JobSettings)
    (launched : sys.chains[index]? = some ⟨sys.scheduler.epoch, .checking printState⟩)
    (loading : sys.scheduler.state = .loading) (idle : isIdle printState = true) (reply : Reply) :
    ∃ heard : Option String, (sys.next settings (.resumed index reply)).1 =
      (sys.moved index ⟨sys.scheduler.epoch,
        (settings.delayNanos?.map delayStage).getD .ended⟩).stepped
        ({ sys.scheduler with printState := heard }, [])
  := by
  have current : sys.scheduler.isCurrent sys.scheduler.epoch = true := by
    simp [isCurrent, loading]
  obtain ⟨heard, checked⟩ := checkPrinter_of_idle settings current idle
  use heard
  simp only [next, launched, resume, LoadStage.action, chainStep, checked]

theorem goesOn_of_delay {nanos : Nat} (delay : settings.delayNanos? = some nanos)
    (launched : sys.chains[index]? = some ⟨sys.scheduler.epoch, .checking printState⟩)
    (loading : sys.scheduler.state = .loading) (idle : isIdle printState = true) (reply : Reply) :
    let next := (sys.next settings (.resumed index reply)).1
    next.chains[index]? = some ⟨next.scheduler.epoch, delayStage nanos⟩ ∧
      next.scheduler.state = .loading
  := by
  obtain ⟨heard, next⟩ := next_of_idle settings launched loading idle reply
  rw [next, delay]
  use getElem?_stepped (getElem?_moved launched _) _, loading

/-- The chain that is over was the only one to carry loading. -/
theorem stranded_of_noDelay (sound : Sound settings sys) (delay : settings.delayNanos? = none)
    (launched : sys.chains[index]? = some ⟨sys.scheduler.epoch, .checking printState⟩)
    (loading : sys.scheduler.state = .loading) (idle : isIdle printState = true) (reply : Reply) :
    Stranded (sys.next settings (.resumed index reply)).1
  := by
  obtain ⟨heard, next⟩ := next_of_idle settings launched loading idle reply
  rw [next, delay]
  have carries :
      Chain.carries ⟨sys.scheduler.epoch, .checking printState⟩ sys.scheduler.epoch = true
    := Chain.carries_iff.2 ⟨rfl, rfl⟩
  have only := (sound.attended.current launched carries).2
  have moved := carriers_moved launched ⟨sys.scheduler.epoch, .ended⟩
  have ended : Chain.carries ⟨sys.scheduler.epoch, .ended⟩ sys.scheduler.epoch = false := by
    simp [Chain.carries, LoadStage.phase]
  rw [carries, ended, only] at moved
  apply Stranded.stepped _ rfl rfl rfl
  use loading, Nat.add_right_cancel moved

/-- One chain is launched, and finds the printer idle. -/
def meetsIdle : List Event := [becomesReady, .performed .start, .resumed 0 standsBy]

theorem checking_meetsIdle (settings : Config.JobSettings) :
    let sys := after settings oneJob meetsIdle
    sys.chains[0]? = some ⟨sys.scheduler.epoch, .checking "standby"⟩ ∧
      sys.scheduler.state = .loading
  := by
  obtain ⟨startup⟩ := settings
  cases startup with
  | false => apply And.intro rfl rfl
  | true => apply And.intro rfl rfl

theorem stranded_meetsIdle (delay : settings.delayNanos? = none) :
    Stranded (after settings oneJob (meetsIdle ++ [.resumed 0 standsBy]))
  := by
  obtain ⟨launched, loading⟩ := checking_meetsIdle settings
  rw [after_concat]
  apply stranded_of_noDelay (sound_after settings oneJob meetsIdle) delay launched loading rfl

/-- A scheduler can be left loading without a chain exactly if the delay is too long. -/
theorem exists_stranded_iff :
    (∃ queue events, Stranded (after settings queue events)) ↔ settings.delayNanos? = none
  := by
  constructor
  · rintro ⟨queue, events, stranded⟩
    cases (sound_after settings queue events).attended.carriers with
    | inl carried => cases carried.2.symm.trans stranded.uncarried
    | inr unattended => apply unattended.2 stranded.loading
  · intro delay
    use oneJob, meetsIdle ++ [.resumed 0 standsBy]
    apply stranded_meetsIdle delay

/-- For all settings the delay is an exact number of seconds, or none at all.  It has no
representation exactly from `2^64` seconds on; a smaller positive one is the nearest number of
nanoseconds, the even one in a tie, and all others are no delay.  In every run a chain that
finds the printer idle while it carries loading goes on, by way of the wait if there is one, and
keeps loading carried; if the delay has no representation, the chain is over instead, and what
comes later, a pause excepted, leaves the scheduler loading without a chain.  So there is a run
that strands the scheduler exactly if the delay is `2^64` seconds or more. -/
theorem stranded_iff_too_long (settings : Config.JobSettings) :
    let seconds := exactValue? settings.transitionDelay
    (settings.delayNanos? = none ↔ ∃ v, seconds = some v ∧ 2 ^ 64 ≤ v) ∧
      (∀ v, seconds = some v → 0 < v → v < 2 ^ 64 →
        ∃ nanos, settings.delayNanos? = some nanos ∧ Config.IsNearest nanos (v * 10 ^ 9) ∧
          nanos < 2 ^ 64 * 10 ^ 9) ∧
      ((∀ v, seconds = some v → v ≤ 0) → settings.delayNanos? = some 0) ∧
      (∀ queue events index printState reply,
        let sys := after settings queue events
        sys.chains[index]? = some ⟨sys.scheduler.epoch, .checking printState⟩ →
        sys.scheduler.state = .loading → isIdle printState = true →
        let next := (sys.next settings (.resumed index reply)).1
        (∀ nanos, settings.delayNanos? = some nanos →
          next.chains[index]? = some ⟨next.scheduler.epoch, delayStage nanos⟩ ∧
            next.scheduler.state = .loading) ∧
          (settings.delayNanos? = none →
            ∀ later, .performed .pause ∉ later → Stranded (next.run settings later))) ∧
      ((∃ queue events, Stranded (after settings queue events)) ↔
        ∃ v, seconds = some v ∧ 2 ^ 64 ≤ v)
  := by
  intro seconds
  and_intros
  · apply Config.delayNanos?_eq_none_iff
  · intro v value positive small
    apply Config.delayNanos?_of_lt value positive small
  · apply Config.delayNanos?_of_not_pos
  · intro queue events index printState reply sys launched loading idle next
    constructor
    · intro nanos delay
      apply goesOn_of_delay delay launched loading idle
    · intro delay later unpaused
      have sound : Sound settings sys := sound_after settings queue events
      have stranded := stranded_of_noDelay sound delay launched loading idle reply
      apply stranded.run _ unpaused
      apply sound.goes (goes_next settings sys (.resumed index reply))
  · apply exists_stranded_iff.trans Config.delayNanos?_eq_none_iff

end

/-- The settings of a file with the least delay that has no representation. -/
def tooLong : String := "[job_queue]\njob_transition_delay = 18446744073709551616.0"

/-- With a delay of `2^64` seconds, which the file may hold, the one chain is over before it has
taken the waiting job, and whatever comes but a pause leaves the scheduler loading. -/
theorem stranded_tooLong :
    ∃ settings, Config.Settings.parse tooLong = .ok settings ∧
      settings.jobs.delayNanos? = none ∧
      ∀ later, .performed .pause ∉ later →
        Stranded ((after settings.jobs oneJob (meetsIdle ++ [.resumed 0 standsBy])).run
          settings.jobs later)
  := by
  have delay : (Config.Settings.parse tooLong).toOption.map (·.jobs.delayNanos?) = some none := by
    decide +kernel
  cases parsed : Config.Settings.parse tooLong with
  | error => cases parsed ▸ delay
  | ok settings =>
    rw [parsed] at delay
    replace delay : settings.jobs.delayNanos? = none := Option.some.inj delay
    use settings, rfl, delay
    intro later unpaused
    apply (stranded_meetsIdle delay).run (sound_after settings.jobs oneJob _) unpaused

end ControlRelay.Scheduler.System
