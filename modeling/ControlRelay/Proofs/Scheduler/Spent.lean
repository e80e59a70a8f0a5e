import ControlRelay.Proofs.Scheduler.Loading

/-!
# Spent chains

An event changes a chain in few ways: only the current chain takes a job, and no chain comes
back to a phase that it has left.  Since the epoch of the scheduler does not fall, a chain that
was superseded before it took a job never takes one.
-/

namespace ControlRelay.Scheduler

/-! ### The epoch and the control process -/

/-- What every step has in common, reports about the control process aside. -/
structure Steady (s : Scheduler) (step : Step) : Prop where
  epoch_le : s.epoch ≤ step.1.epoch
  controlReady : step.1.controlReady = s.controlReady
  launches : step.2.filterMap Action.launched? ≠ [] → s.controlReady = true

section

variable {settings : Config.JobSettings} {s : Scheduler} {event : Event} {step : Step}

/-- A step that neither launches a chain nor changes the epoch. -/
theorem steady_of_quiet (epoch : step.1.epoch = s.epoch)
    (controlReady : step.1.controlReady = s.controlReady)
    (quiet : step.2.filterMap Action.launched? = []) :
    Steady s step
  := by
  use epoch.ge, controlReady
  intro launches
  apply absurd quiet launches

theorem Moves.steady (moves : Moves s event step) :
    Steady s step
  := by
  cases moves with
  | paused =>
    use ?_, rfl
    · intro launches
      apply absurd rfl launches
    · dsimp only [pause]
      split
      · apply Nat.le_succ
      · apply le_refl
  | returned active =>
    simp only [failLoad, active, if_true]
    apply steady_of_quiet <;> rfl
  | launched ready control =>
    use Nat.le_succ s.epoch, rfl
    intro
    apply control
  | _ => apply steady_of_quiet <;> rfl

theorem Leads.steady (leads : Leads event s step) :
    Steady s step
  := by
  induction leads with
  | stay => apply steady_of_quiet <;> rfl
  | @move between after effects more leads moves ih =>
    have steady := moves.steady
    use ih.epoch_le.trans steady.epoch_le, steady.controlReady.trans ih.controlReady
    intro launches
    by_cases quiet : effects.filterMap Action.launched? = []
    · rw [List.filterMap_append, quiet] at launches
      rw [← ih.controlReady]
      apply steady.launches launches
    · apply ih.launches quiet

theorem Prepares.steady {epoch : Nat} {stage next : LoadStage}
    (prepares : Prepares settings s epoch stage step next) :
    Steady s step
  := by
  cases prepares with
  | taken current popped =>
    simp only [takeJob, current, popped]
    apply steady_of_quiet <;> rfl
  | failed current =>
    simp only [failLoad, current, if_true]
    apply steady_of_quiet <;> rfl
  | _ => apply steady_of_quiet <;> rfl

end

/-- Whether the control process is ready as far as reported, after an event. -/
def Event.hears (ready : Bool) : Event → Bool
  | performed (.controlChanged status) => status.isReady
  | _ => ready

theorem heard_controlReady (s : Scheduler) (operation : Operation) :
    (s.heard operation).controlReady = (Event.performed operation).hears s.controlReady
  := by
  cases operation <;> rfl

theorem heard_epoch (s : Scheduler) (operation : Operation) :
    (s.heard operation).epoch = s.epoch
  := by
  cases operation <;> rfl

namespace System

/-! ### What an event does to a chain -/

/-- What an event can make of a chain that was launched. -/
inductive Fate (s : Scheduler) (chain : Chain) (stage : LoadStage) : Prop where
  | kept (phase : stage.phase = chain.stage.phase)
  | took (preparing : chain.stage.phase = .preparing) (current : s.isCurrent chain.epoch = true)
      (starting : stage.phase = .starting)
  | finished (ended : stage.phase = .ended)

section

variable {settings : Config.JobSettings} {sys : System} {event : Event}
  {result : System × List SchedulerEffect} {index : Nat} {chain : Chain} {stage : LoadStage}

theorem fate_of_prepares {s : Scheduler} {step : Step} (preparing : chain.stage.phase = .preparing)
    (prepares : Prepares settings s chain.epoch chain.stage step stage) :
    Fate s chain stage
  := by
  cases prepares with
  | continued current printState phase => apply Fate.kept (phase.trans preparing.symm)
  | taken current => apply Fate.took preparing current rfl
  | _ => apply Fate.finished rfl

/-- When one chain goes on, the others are left as they are. -/
theorem Fate.moved {s : Scheduler} {place : Nat} {other : Chain} (fate : Fate s other stage)
    (found : sys.chains[place]? = some other) (launched : sys.chains[index]? = some chain) :
    ∃ stage', (sys.moved place ⟨other.epoch, stage⟩).chains[index]? = some ⟨chain.epoch, stage'⟩ ∧
      Fate s chain stage'
  := by
  by_cases same : place = index
  · subst same
    obtain rfl := Option.some.inj (found.symm.trans launched)
    use stage, getElem?_moved found _
  · use chain.stage
    use (List.getElem?_set_ne same).trans launched
    apply Fate.kept rfl

theorem Goes.fate (goes : Goes settings sys event result)
    (launched : sys.chains[index]? = some chain) :
    ∃ stage, result.1.chains[index]? = some ⟨chain.epoch, stage⟩ ∧ Fate sys.scheduler chain stage
  := by
  cases goes with
  | performed =>
    use chain.stage, getElem?_stepped launched _
    apply Fate.kept rfl
  | unmoved =>
    use chain.stage, launched
    apply Fate.kept rfl
  | moved found phase => apply Fate.moved (.kept phase) found launched
  | prepared found preparing prepares =>
    obtain ⟨stage, launched, fate⟩ := (fate_of_prepares preparing prepares).moved found launched
    use stage, getElem?_stepped launched _
  | settled found =>
    obtain ⟨stage, launched, fate⟩ :=
      (Fate.finished rfl : Fate sys.scheduler _ .ended).moved found launched
    use stage, getElem?_stepped launched _

theorem Goes.epoch_le (goes : Goes settings sys event result) :
    sys.scheduler.epoch ≤ result.1.scheduler.epoch
  := by
  cases goes with
  | @performed operation step leads =>
    rw [← heard_epoch sys.scheduler operation]
    apply leads.steady.epoch_le
  | unmoved => apply le_refl
  | moved => apply le_refl
  | prepared launched preparing prepares => apply prepares.steady.epoch_le
  | settled launched starting leads => apply leads.steady.epoch_le

theorem launches_of_stepped {step : Step} (unlaunched : sys.chains[index]? = none)
    (launched : (sys.stepped step).chains[index]? = some chain) :
    chain.stage = .asking ∧ step.2.filterMap Action.launched? ≠ []
  := by
  dsimp only [stepped] at launched
  rw [List.getElem?_append_right (List.getElem?_eq_none_iff.1 unlaunched), List.getElem?_map]
    at launched
  obtain ⟨epoch, found, rfl⟩ := Option.map_eq_some_iff.1 launched
  use rfl
  intro quiet
  rw [quiet] at found
  cases found

/-- A chain is launched at its first stage, while the control process is ready. -/
theorem Goes.launches (goes : Goes settings sys event result)
    (unlaunched : sys.chains[index]? = none) (launched : result.1.chains[index]? = some chain) :
    chain.stage = .asking ∧ result.1.scheduler.controlReady = true
  := by
  have unmoved (place : Nat) (other : Chain) : (sys.moved place other).chains[index]? = none := by
    apply List.getElem?_eq_none_iff.2
    apply List.length_set.trans_le (List.getElem?_eq_none_iff.1 unlaunched)
  cases goes with
  | performed leads =>
    obtain ⟨asking, launches⟩ := launches_of_stepped unlaunched launched
    use asking
    apply leads.steady.controlReady.trans (leads.steady.launches launches)
  | unmoved => cases unlaunched.symm.trans launched
  | moved => cases (unmoved _ _).symm.trans launched
  | prepared found preparing prepares =>
    obtain ⟨asking, launches⟩ := launches_of_stepped (unmoved _ _) launched
    use asking
    apply prepares.steady.controlReady.trans (prepares.steady.launches launches)
  | settled found starting leads =>
    obtain ⟨asking, launches⟩ := launches_of_stepped (unmoved _ _) launched
    use asking
    apply leads.steady.controlReady.trans (leads.steady.launches launches)

/-- A chain was launched just now, or has come to where it is by an event. -/
theorem Goes.origin (goes : Goes settings sys event result)
    (launched : result.1.chains[index]? = some chain) :
    (sys.chains[index]? = none ∧ chain.stage = .asking ∧ result.1.scheduler.controlReady = true) ∨
      ∃ chain', sys.chains[index]? = some chain' ∧ Fate sys.scheduler chain' chain.stage
  := by
  cases before : sys.chains[index]? with
  | none =>
    left
    use rfl
    apply goes.launches before launched
  | some chain' =>
    right
    obtain ⟨stage, found, fate⟩ := goes.fate before
    obtain rfl := Option.some.inj (found.symm.trans launched)
    use chain', rfl

/-! ### The end of a chain that is not the current one -/

/-- The chain has ended, or it is without a job and another epoch has begun. -/
def Spent (sys : System) (index : Nat) : Prop :=
  ∃ chain, sys.chains[index]? = some chain ∧
    (chain.stage.phase = .ended ∨
      chain.stage.phase = .preparing ∧ chain.epoch < sys.scheduler.epoch)

theorem Spent.goes (spent : Spent sys index)
    (goes : Goes settings sys event result) :
    Spent result.1 index
  := by
  obtain ⟨chain, launched, out⟩ := spent
  obtain ⟨stage, launched, fate⟩ := goes.fate launched
  use ⟨chain.epoch, stage⟩, launched
  cases fate with
  | kept phase =>
    rw [phase]
    apply out.imp_right
    rintro ⟨preparing, older⟩
    use preparing, older.trans_le goes.epoch_le
  | took preparing current =>
    cases out with
    | inl ended => cases preparing.symm.trans ended
    | inr out => apply absurd (epoch_and_state_of_current current).1 out.2.ne'
  | finished ended =>
    left
    apply ended

theorem Spent.run (spent : Spent sys index) (events : List Event) :
    Spent (sys.run settings events) index
  := by
  induction events generalizing sys with
  | nil => apply spent
  | cons event events ih => apply ih (spent.goes (goes_next settings sys event))

theorem Spent.phase_ne (spent : Spent sys index) :
    sys.phase? index ≠ some .starting
  := by
  obtain ⟨chain, launched, out⟩ := spent
  intro starting
  obtain ⟨other, found, starting⟩ := phase?_eq_some_iff.1 starting
  obtain rfl := Option.some.inj (launched.symm.trans found)
  cases out with
  | inl ended => cases starting.symm.trans ended
  | inr out => cases starting.symm.trans out.1

/-- A chain without a job that is not the current one. -/
theorem Attended.spent (attended : Attended settings sys)
    (launched : sys.chains[index]? = some chain) (preparing : chain.stage.phase = .preparing)
    (stale : sys.scheduler.isCurrent chain.epoch = false) :
    Spent sys index
  := by
  use chain, launched
  right
  use preparing
  apply lt_of_le_of_ne (attended.epoch_le chain (List.mem_of_getElem? launched))
  intro same
  have current := (attended.current launched (Chain.carries_iff.2 ⟨same, preparing⟩)).1
  cases stale.symm.trans current

end

end System

end ControlRelay.Scheduler
