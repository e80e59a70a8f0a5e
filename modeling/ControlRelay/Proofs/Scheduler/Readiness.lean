import ControlRelay.Proofs.Scheduler.Pausing

/-!
# Readiness during a load

A chain is launched only while the control process is ready, and takes a job only if it has been
the current chain ever since.  A report that the control process is not ready is noted while a
chain is under way, but the chain goes on: it takes its job, if nothing else stops it.
-/

namespace ControlRelay.Scheduler

/-- Without an active job, a report that the control process is not ready is no more than
noted. -/
theorem controlChanged_of_unused {s : Scheduler} (unused : s.active = none)
    {status : ControlStatus} (unready : status.isReady = false) :
    s.controlChanged status = ({ s with controlReady := false }, [])
  := by
  cases ready : s.controlReady with
  | false =>
    simp only [controlChanged, unready, ready]
    rw [← ready]
    rfl
  | true => simp [controlChanged, unready, ready, unused]

namespace System

section

variable {settings : Config.JobSettings} {queue : JobQueue} {sys : System} {event : Event}
  {result : System × List SchedulerEffect} {index : Nat}

theorem Goes.controlReady (goes : Goes settings sys event result) :
    result.1.scheduler.controlReady = event.hears sys.scheduler.controlReady
  := by
  cases goes with
  | performed leads => apply leads.steady.controlReady.trans (heard_controlReady _ _)
  | unmoved => rfl
  | moved => rfl
  | prepared launched preparing prepares => apply prepares.steady.controlReady
  | settled launched starting leads => apply leads.steady.controlReady

/-- A chain under way was so before, or was just launched. -/
theorem Goes.phase_eq_preparing (goes : Goes settings sys event result)
    (preparing : result.1.phase? index = some .preparing) :
    sys.phase? index = some .preparing ∨
      sys.phase? index = none ∧ result.1.scheduler.controlReady = true
  := by
  obtain ⟨chain', launched, preparing⟩ := phase?_eq_some_iff.1 preparing
  apply (goes.origin launched).symm.imp
  · rintro ⟨chain, launched, fate⟩
    apply phase?_eq_some_iff.2
    use chain, launched
    cases fate with
    | kept phase => apply phase.symm.trans preparing
    | took _ _ starting => cases preparing.symm.trans starting
    | finished ended => cases preparing.symm.trans ended
  · rintro ⟨unlaunched, -, ready⟩
    use by simp [phase?, stage?, unlaunched]

/-- No operation moves a chain that was launched. -/
theorem phase?_performed (launched : sys.phase? index = some .preparing) (operation : Operation) :
    (sys.next settings (.performed operation)).1.phase? index = some .preparing
  := by
  obtain ⟨chain, launched, preparing⟩ := phase?_eq_some_iff.1 launched
  apply phase?_eq_some_iff.2
  use chain, getElem?_stepped launched _

/-- A chain that is to take a job is the current one. -/
theorem Attended.current_of_starting (attended : Attended settings sys) {later : List Event}
    (preparing : sys.phase? index = some .preparing)
    (started : (sys.run settings later).phase? index = some .starting) :
    ∃ chain, sys.chains[index]? = some chain ∧ sys.scheduler.isCurrent chain.epoch = true
  := by
  obtain ⟨chain, launched, preparing⟩ := phase?_eq_some_iff.1 preparing
  use chain, launched
  apply eq_true_of_ne_false
  intro stale
  apply ((attended.spent launched preparing stale).run later).phase_ne started

/-- The run comes by a moment, after `earlier`, at which the chain was launched and has not taken
a job. -/
def UnderWay (settings : Config.JobSettings) (queue : JobQueue) (events : List Event)
    (index : Nat) (earlier : List Event) : Prop :=
  earlier <+: events ∧ (after settings queue earlier).phase? index = some .preparing

theorem UnderWay.init {events earlier : List Event} {last : Event}
    (underWay : UnderWay settings queue events index (earlier ++ [last]))
    (launched : (after settings queue earlier).phase? index = some .preparing) :
    UnderWay settings queue events index earlier
  := by
  use (List.prefix_append earlier [last]).trans underWay.1

/-- Only reports tell about the control process. -/
theorem hears_of_reports {ready : Bool} (wasReady : ready = true)
    (reports : ∀ status, event = .performed (.controlChanged status) → status.isReady = true) :
    event.hears ready = true
  := by
  cases event with
  | performed operation =>
    cases operation with
    | controlChanged status => apply reports status rfl
    | _ => apply wasReady
  | resumed => apply wasReady

theorem ready_of_reports {events : List Event}
    (reports : ∀ earlier status, UnderWay settings queue events index earlier →
      earlier ++ [.performed (.controlChanged status)] <+: events → status.isReady = true)
    {earlier : List Event} (underWay : UnderWay settings queue events index earlier) :
    (after settings queue earlier).scheduler.controlReady = true
  := by
  induction earlier using List.reverseRecOn with
  | nil => cases underWay.2
  | append_singleton earlier event ih =>
    have goes := goes_next settings (after settings queue earlier) event
    have preparing := underWay.2
    rw [after_concat] at preparing ⊢
    cases goes.phase_eq_preparing preparing with
    | inl before =>
      have underWay' := underWay.init before
      rw [goes.controlReady]
      apply hears_of_reports (ih underWay')
      rintro status rfl
      apply reports earlier status underWay' underWay.1
    | inr launched => apply launched.2

/-- A chain that has taken a job was launched while the control process was ready, and was the
current one from then on.  All that while the control process was ready exactly if no report
came that it was not; such a report is noted, and nothing else. -/
theorem ready_underWay_iff {events : List Event}
    (started : (after settings queue events).phase? index = some .starting) :
    (∀ earlier event, UnderWay settings queue events index (earlier ++ [event]) →
      (after settings queue earlier).phase? index = none →
        (after settings queue (earlier ++ [event])).scheduler.controlReady = true) ∧
    (∀ earlier, UnderWay settings queue events index earlier →
      ∃ chain, (after settings queue earlier).chains[index]? = some chain ∧
        (after settings queue earlier).scheduler.isCurrent chain.epoch = true) ∧
    ((∀ earlier, UnderWay settings queue events index earlier →
        (after settings queue earlier).scheduler.controlReady = true) ↔
      ∀ earlier status, UnderWay settings queue events index earlier →
        earlier ++ [.performed (.controlChanged status)] <+: events → status.isReady = true) ∧
    ∀ earlier status, UnderWay settings queue events index earlier → status.isReady = false →
      let now := after settings queue earlier
      now.next settings (.performed (.controlChanged status)) =
        ({ now with scheduler := { now.scheduler with controlReady := false } }, [])
  := by
  have current : ∀ earlier, UnderWay settings queue events index earlier →
      ∃ chain, (after settings queue earlier).chains[index]? = some chain ∧
        (after settings queue earlier).scheduler.isCurrent chain.epoch = true
    := by
    rintro earlier ⟨⟨later, rfl⟩, preparing⟩
    rw [after_append] at started
    apply (sound_after settings queue earlier).attended.current_of_starting preparing started
  and_intros
  · intro earlier event underWay unlaunched
    have goes := goes_next settings (after settings queue earlier) event
    have preparing := underWay.2
    rw [after_concat] at preparing ⊢
    cases goes.phase_eq_preparing preparing with
    | inl before => cases unlaunched.symm.trans before
    | inr launched => apply launched.2
  · apply current
  · constructor
    · intro ready earlier status underWay reported
      have goes := goes_next settings (after settings queue earlier)
        (.performed (.controlChanged status))
      apply goes.controlReady.symm.trans
      rw [← after_concat]
      apply ready
      use reported
      rw [after_concat]
      apply phase?_performed underWay.2
    · intro reports earlier underWay
      apply ready_of_reports reports underWay
  · intro earlier status underWay unready now
    obtain ⟨chain, launched, current⟩ := current earlier underWay
    have unused := (sound_after settings queue earlier).consistent.unused current
    dsimp only [next, Scheduler.perform]
    rw [controlChanged_of_unused unused unready]
    simp [stepped, now]

end

/-- When nothing but its becoming ready is reported, the control process is ready all the while. -/
theorem ready_underWay_iff_goesOn :
    (after eager oneJob (becomesReady :: goesOn 0)).phase? 0 = some .starting ∧
      ∀ earlier, UnderWay eager oneJob (becomesReady :: goesOn 0) 0 earlier →
        (after eager oneJob earlier).scheduler.controlReady = true
  := by
  have started : (after eager oneJob (becomesReady :: goesOn 0)).phase? 0 = some .starting := by
    decide
  use started
  obtain ⟨-, -, ready, -⟩ := ready_underWay_iff started
  apply ready.2
  intro earlier status underWay reported
  have mem := reported.subset (List.mem_append_right earlier (List.mem_singleton_self _))
  cases List.mem_cons.1 mem with
  | inl same =>
    cases same
    rfl
  | inr other => cases List.eq_of_mem_replicate other

/-- Loading is permitted from the start on, and takes a while. -/
def delayed : Config.JobSettings := { loadOnStartup := true, transitionDelay := 1.0 }

/-- The control process shuts down and is restarted while a chain waits. -/
def restarts : List Event :=
  [becomesReady, .resumed 0 standsBy, .resumed 0 standsBy,
    .performed (.controlChanged ⟨.shutdown, ""⟩), becomesReady] ++ goesOn 0

/-- The chain takes its job and is about to start it, though the control process was not ready
in between. -/
theorem not_ready_underWay_restarts :
    (after delayed oneJob restarts).stage? 0 = some (.starting job) ∧
      ∃ earlier, UnderWay delayed oneJob restarts 0 earlier ∧
        (after delayed oneJob earlier).scheduler.controlReady = false
  := by
  have shutDown : restarts.take 4 <+: restarts := List.take_prefix 4 restarts
  constructor
  · rfl
  · use restarts.take 4
    use ⟨shutDown, by decide⟩
    rfl

end System

end ControlRelay.Scheduler
