import ControlRelay.Proofs.Scheduler.Spent

/-!
# Pausing

Only a client that asks for it sets a paused scheduler going again: whatever else happens,
loading stays paused and no chain takes a job.  The chains that were under way when loading was
paused never take one, not even once a newer chain was launched.
-/

namespace ControlRelay.Scheduler

/-- Loading is paused, and no job has become active since `s`. -/
structure Rests (s after : Scheduler) : Prop where
  paused : after.state = .paused
  active : after.active = none ∨ after.active = s.active

section

variable {settings : Config.JobSettings} {s : Scheduler} {event : Event} {step : Step}

theorem rests_self (paused : s.state = .paused) :
    Rests s s
  := ⟨paused, .inr rfl⟩

theorem Rests.trans {between after : Scheduler} (first : Rests s between)
    (rest : Rests between after) :
    Rests s after
  := by
  use rest.paused
  cases rest.active with
  | inl none =>
    left
    apply none
  | inr same =>
    rw [same]
    apply first.active

theorem Moves.rests (moves : Moves s event step) (paused : s.state = .paused)
    (other : event ≠ .performed .start) :
    Rests s step.1
  := by
  cases moves with
  | edited => use paused, .inr rfl
  | paused => use rfl, .inr rfl
  | rearmed => apply absurd rfl other
  | forgotten => use paused, .inl rfl
  | printed => use paused, .inr rfl
  | seen => use paused, .inr rfl
  | acknowledged => use paused, .inr rfl
  | stopped active running => apply absurd paused running
  | finished active running => apply absurd paused running
  | followed active running => apply absurd paused running
  | returned active =>
    simp only [failLoad, active, if_true]
    use rfl, .inl rfl
  | launched ready => cases ready.symm.trans paused

theorem Leads.rests (leads : Leads event s step) (paused : s.state = .paused)
    (other : event ≠ .performed .start) :
    Rests s step.1
  := by
  induction leads with
  | stay => apply rests_self paused
  | move leads moves ih => apply ih.trans (moves.rests ih.paused other)

theorem isCurrent_of_paused (paused : s.state = .paused) (epoch : Nat) :
    s.isCurrent epoch = false
  := by
  simp [isCurrent, paused]

/-- No chain is the current one, so whichever goes on finds that out and ends. -/
theorem Prepares.rests {epoch : Nat} {stage next : LoadStage}
    (prepares : Prepares settings s epoch stage step next) (paused : s.state = .paused) :
    Rests s step.1
  := by
  have stale := isCurrent_of_paused paused epoch
  cases prepares with
  | superseded => apply rests_self paused
  | continued current => cases stale.symm.trans current
  | stuck current => cases stale.symm.trans current
  | deferred current => cases stale.symm.trans current
  | taken current => cases stale.symm.trans current
  | failed current => cases stale.symm.trans current

end

namespace System

section

variable {settings : Config.JobSettings} {sys : System} {event : Event}
  {result : System × List SchedulerEffect} {index : Nat}

theorem Goes.rests (goes : Goes settings sys event result)
    (paused : sys.scheduler.state = .paused) (other : event ≠ .performed .start) :
    Rests sys.scheduler result.1.scheduler
  := by
  cases goes with
  | @performed operation step leads =>
    have heard : Rests sys.scheduler (sys.scheduler.heard operation) := by
      cases operation <;> use paused, .inr rfl
    apply heard.trans (leads.rests heard.paused other)
  | unmoved => apply rests_self paused
  | moved => apply rests_self paused
  | prepared launched preparing prepares => apply prepares.rests paused
  | settled launched starting leads => apply leads.rests paused other

/-- Only the current chain takes a job, and while loading is paused there is none. -/
theorem Goes.phase_eq_starting (goes : Goes settings sys event result)
    (paused : sys.scheduler.state = .paused)
    (taken : result.1.phase? index = some .starting) :
    sys.phase? index = some .starting
  := by
  obtain ⟨chain', launched, starting⟩ := phase?_eq_some_iff.1 taken
  cases goes.origin launched with
  | inl new =>
    obtain ⟨-, asking, -⟩ := new
    rw [asking] at starting
    cases starting
  | inr old =>
    obtain ⟨chain, launched, fate⟩ := old
    apply phase?_eq_some_iff.2
    use chain, launched
    cases fate with
    | kept phase => apply phase.symm.trans starting
    | took preparing current => cases (isCurrent_of_paused paused _).symm.trans current
    | finished ended => cases ended.symm.trans starting

/-- A paused system stays paused until a client asks for loading. -/
theorem rests_run (paused : sys.scheduler.state = .paused) {events : List Event}
    (unasked : .performed .start ∉ events) :
    Rests sys.scheduler (sys.run settings events).scheduler ∧
      ∀ index, (sys.run settings events).phase? index = some .starting →
        sys.phase? index = some .starting
  := by
  induction events generalizing sys with
  | nil =>
    use rests_self paused
    intro index taken
    apply taken
  | cons event events ih =>
    obtain ⟨other, unasked⟩ := not_or.1 (mt List.mem_cons.2 unasked)
    have goes := goes_next settings sys event
    have rests := goes.rests paused (Ne.symm other)
    obtain ⟨rest, untaken⟩ := ih rests.paused unasked
    use rests.trans rest
    intro index taken
    apply goes.phase_eq_starting paused (untaken index taken)

/-- Once loading is paused, no chain that is under way takes a job, whatever follows. -/
theorem Attended.spent_of_paused (attended : Attended settings sys)
    (paused : sys.scheduler.state = .paused) (preparing : sys.phase? index = some .preparing) :
    Spent sys index
  := by
  obtain ⟨chain, launched, preparing⟩ := phase?_eq_some_iff.1 preparing
  apply attended.spent launched preparing (isCurrent_of_paused paused _)

/-- A client that pauses puts an end to the chains that are under way. -/
theorem Attended.spent_of_pausing (attended : Attended settings sys)
    (preparing : sys.phase? index = some .preparing) :
    Spent (sys.stepped sys.scheduler.pause) index
  := by
  apply attended.paused.spent_of_paused rfl
  obtain ⟨chain, launched, preparing⟩ := phase?_eq_some_iff.1 preparing
  apply phase?_eq_some_iff.2
  use chain, getElem?_stepped launched _

end

/-- Whenever loading is paused, it stays so until a client asks for loading, and meanwhile no
chain takes a job and none becomes active; the chains that were under way take none even after
that.  So it is with the chains that are under way when a client pauses. -/
theorem paused_until_start (settings : Config.JobSettings) (queue : JobQueue)
    (earlier later : List Event) :
    let now := after settings queue earlier
    let sys := after settings queue (earlier ++ later)
    (now.scheduler.state = .paused →
      (.performed .start ∉ later →
        sys.scheduler.state = .paused ∧
          (sys.scheduler.active = none ∨ sys.scheduler.active = now.scheduler.active) ∧
          ∀ index, sys.phase? index = some .starting → now.phase? index = some .starting) ∧
      ∀ index, now.phase? index = some .preparing → sys.phase? index ≠ some .starting) ∧
    ∀ index, now.phase? index = some .preparing →
      (after settings queue (earlier ++ .performed .pause :: later)).phase? index ≠ some .starting
  := by
  intro now sys
  have attended : Attended settings now := (sound_after settings queue earlier).attended
  have rest : sys = now.run settings later := after_append settings queue earlier later
  rw [after_append, rest]
  constructor
  · intro paused
    constructor
    · intro unasked
      obtain ⟨rests, untaken⟩ := rests_run paused unasked
      use rests.paused, rests.active
    · intro index preparing
      apply ((attended.spent_of_paused paused preparing).run later).phase_ne
  · intro index preparing
    apply ((attended.spent_of_pausing preparing).run later).phase_ne

/-- The printer can take a job. -/
def standsBy : Reply :=
  .ok (.ofMembers [("status", .ofMembers [("print_stats",
    .ofMembers [("state", .string "standby")])])])

/-- A chain goes on until it has taken a job. -/
def goesOn (index : Nat) : List Event := List.replicate 5 (.resumed index standsBy)

/-- A chain that was under way when a client paused takes no job after loading was asked for
again, unlike the newer chain. -/
theorem paused_until_start_asking :
    let events := [becomesReady] ++ .performed .pause :: .performed .start :: (goesOn 0 ++ goesOn 1)
    (after eager oneJob [becomesReady]).phase? 0 = some .preparing ∧
      (after eager oneJob events).phase? 0 ≠ some .starting ∧
      (after eager oneJob events).phase? 1 = some .starting
  := by
  intro events
  have preparing : (after eager oneJob [becomesReady]).phase? 0 = some .preparing := rfl
  obtain ⟨-, pausing⟩ :=
    paused_until_start eager oneJob [becomesReady] (.performed .start :: (goesOn 0 ++ goesOn 1))
  and_intros
  · apply preparing
  · apply pausing 0 preparing
  · decide

end System

end ControlRelay.Scheduler
