import ControlRelay.Proofs.Scheduler.Resting

/-!
# Queues that stand still

A load is put off while the printer is busy.  After that the queue stands still: a job waits and
nothing else is in the way, but the scheduler does not load it.  It comes to that only when the
scheduler pays heed to a state in which the printer is busy, and chains learn such states only
from the answers to their queries.
-/

namespace ControlRelay

namespace LoadStage

/-- The state of the printer in the answer to a query, if there is one. -/
def printStateIn? (result : Json) : Option String :=
  (((result.get? "status").bind (·.get? "print_stats")).bind (·.get? "state")).bind Json.string?

theorem printStateIn_eq {result : Json} {printState : String}
    (carried : printStateIn? result = some printState) :
    printStateIn result = printState
  := by
  rw [printStateIn, ← printStateIn?, carried]
  rfl

section

variable {settings : Config.JobSettings} {stage : LoadStage} {printState : String}

/-- Only the answer to a query tells a chain the state of the printer. -/
theorem learnt_of_answered {call : Control.Call} {reply : Reply}
    (calls : stage.action settings = .call call)
    (learnt : stage.answered reply = .checking printState) :
    stage = .asking ∧ ∃ result, reply = .ok result ∧ printState = printStateIn result
  := by
  cases stage with
  | asking =>
    cases reply with
    | ok result => use rfl, result, rfl, (checking.inj learnt).symm
    | error e => cases learnt
  | scripting => cases reply <;> cases learnt
  | starting job => cases reply <;> cases learnt
  | _ => cases calls

theorem elapsed_ne_checking {nanos : Nat} (waits : stage.action settings = .wait nanos) :
    stage.elapsed ≠ .checking printState
  := by
  cases stage with
  | waiting nanos => rintro ⟨⟩
  | scripting =>
    dsimp only [action] at waits
    split at waits <;> cases waits
  | _ => cases waits

end

end LoadStage

namespace Scheduler

namespace System

/-- The state of the printer to which the scheduler pays heed with an event: one that is reported
to it, or one that the current chain has learnt. -/
def heeds? (sys : System) : Event → Option String
  | .performed (.printStateChanged printState) => some printState
  | .resumed index _ =>
    match sys.chains[index]? with
    | some ⟨epoch, .checking printState⟩ =>
      if sys.scheduler.isCurrent epoch then some printState else none
    | _ => none
  | _ => none

/-- The queue stands still after an event because the printer is busy, or it did so before. -/
def StillStands (sys : System) (event : Event) : Prop :=
  match sys.heeds? event with
  | some printState => isIdle printState = false
  | none => Stands sys.scheduler

section

variable {settings : Config.JobSettings} {sys : System} {event : Event}

theorem stillStands_perform {operation : Operation}
    (stands : Stands (sys.scheduler.perform operation).1) :
    sys.StillStands (.performed operation)
  := by
  cases operation with
  | enqueue filenames reset now =>
    dsimp only [perform, enqueue] at stands
    split at stands
    next => apply stands
    next => apply absurd stands (not_stands_thenTryLoad _ _)
  | remove selection =>
    obtain ⟨ready, control, unused, waiting⟩ := stands
    obtain ⟨job, mem⟩ := JobQueue.exists_mem_iff.2 waiting
    cases selection with
    | none => cases mem
    | some ids =>
      use ready, control, unused
      apply JobQueue.exists_mem_iff.1
      use job, List.mem_of_mem_filter mem
  | jump id =>
    dsimp only [perform, jump] at stands
    split at stands
    next => apply stands
    next queue jumped =>
      obtain ⟨⟨job, others⟩, taken, rfl⟩ := Option.map_eq_some_iff.1 jumped
      obtain ⟨ready, control, unused, waiting⟩ := stands
      use ready, control, unused
      apply JobQueue.exists_mem_iff.1
      use job, (JobQueue.perm_of_takeOut? taken).2.mem_iff.2 List.mem_cons_self
  | pause => cases stands.ready
  | start =>
    dsimp only [perform, start] at stands
    split at stands
    next => apply stands
    next =>
      split at stands <;> split at stands <;>
        apply absurd stands (not_stands_thenTryLoad _ _)
  | controlChanged status =>
    dsimp only [perform, controlChanged] at stands
    split at stands
    next => apply stands
    next =>
      split at stands
      next => apply absurd stands (not_stands_tryLoad _)
      next unready =>
        apply absurd _ unready
        split at stands
        next => apply stands.control
        next => split at stands <;> apply stands.control
  | printStateChanged printState =>
    change isIdle printState = false
    dsimp only [perform, printStateChanged] at stands
    split at stands
    next printing => rw [printing]; rfl
    next =>
      split at stands
      next busy => simpa using busy
      next =>
        split at stands
        next ended =>
          obtain ⟨job, active⟩ := Option.isSome_iff_exists.1 (isIdle_of_jobEnded ended).2
          apply absurd stands (AtRest.not_stands (atRest_finishJob (by exact active) _))
        next =>
          split at stands
          next => apply absurd stands (not_stands_tryLoad _)
          next used =>
            apply absurd _ used
            rw [show sys.scheduler.active = none from stands.unused]
            rfl

theorem isIdle_of_stands_checkPrinter {epoch : Nat} {printState : String}
    (current : sys.scheduler.isCurrent epoch = true)
    (stands : Stands (sys.scheduler.checkPrinter settings epoch printState).1.1) :
    isIdle printState = false
  := by
  have loading := (epoch_and_state_of_current current).2
  cases idle : isIdle printState with
  | false => rfl
  | true =>
    have state : (sys.scheduler.checkPrinter settings epoch printState).1.1.state = .loading := by
      simp only [checkPrinter, current, idle, Bool.not_true, Bool.false_eq_true, if_false, if_true]
      split <;> split <;> apply loading
    cases state.symm.trans stands.ready

theorem stands_of_takeJob {epoch : Nat} (stands : Stands (sys.scheduler.takeJob epoch).1.1) :
    Stands sys.scheduler
  := by
  unfold takeJob at stands
  split at stands
  next => apply stands
  next =>
    split at stands
    next none =>
      cases (JobQueue.isEmpty_of_popFront? none).symm.trans stands.waiting
    next => cases stands.ready

theorem stands_of_acknowledge {job : Job} (stands : Stands (sys.scheduler.acknowledge job).1) :
    Stands sys.scheduler
  := by
  dsimp only [acknowledge] at stands
  split at stands
  next active =>
    obtain ⟨job', found, -⟩ := exists_active active
    split at stands
    next => apply absurd stands (AtRest.not_stands (atRest_finishJob (by exact found) _))
    next => cases found.symm.trans stands.unused
  next => apply stands

theorem stands_of_failLoad {epoch : Nat} {job : Option Job} {error : RelayError}
    (stands : Stands (sys.scheduler.failLoad epoch job error).1) :
    Stands sys.scheduler
  := by
  cases job <;>
  · dsimp only [failLoad] at stands
    split at stands
    next => cases stands.ready
    next => apply stands

theorem stillStands_chainStep {index epoch : Nat} {reply : Reply} {stage : LoadStage}
    (launched : sys.chains[index]? = some ⟨epoch, stage⟩)
    (stands : Stands (sys.scheduler.chainStep settings epoch stage).1.1) :
    sys.StillStands (.resumed index reply)
  := by
  cases stage with
  | checking printState =>
    cases current : sys.scheduler.isCurrent epoch with
    | true =>
      simp only [StillStands, heeds?, launched, current, if_true]
      apply isIdle_of_stands_checkPrinter current stands
    | false =>
      simp only [StillStands, heeds?, launched, current, Bool.false_eq_true, if_false]
      simp only [chainStep, checkPrinter, current] at stands
      apply stands
  | taking =>
    simp only [StillStands, heeds?, launched]
    apply stands_of_takeJob stands
  | started job =>
    simp only [StillStands, heeds?, launched]
    apply stands_of_acknowledge stands
  | failed job error =>
    simp only [StillStands, heeds?, launched]
    apply stands_of_failLoad stands
  | _ =>
    simp only [StillStands, heeds?, launched]
    apply stands

/-- The queue stands still only if the printer is busy. -/
theorem stillStands_of_next (stands : Stands (sys.next settings event).1.scheduler) :
    sys.StillStands event
  := by
  cases event with
  | performed operation => apply stillStands_perform stands
  | resumed index reply =>
    dsimp only [next] at stands
    split at stands
    next chain launched =>
      rw [scheduler_resume] at stands
      apply stillStands_chainStep launched stands
    next unlaunched =>
      simp only [StillStands, heeds?, unlaunched]
      apply stands

/-! ### Chains that have learnt a state -/

theorem getElem?_of_stepped {index : Nat} {chain : Chain} {step : Step}
    (found : (sys.stepped step).chains[index]? = some chain) :
    sys.chains[index]? = some chain ∨ chain.stage = .asking
  := by
  cases Nat.lt_or_ge index sys.chains.length with
  | inl inside =>
    left
    rw [← found]
    apply (List.getElem?_append_left inside).symm
  | inr outside =>
    right
    dsimp only [System.stepped] at found
    rw [List.getElem?_append_right outside] at found
    obtain ⟨epoch, -, rfl⟩ := List.mem_map.1 (List.mem_of_getElem? found)
    rfl

theorem getElem?_of_moved {index other : Nat} {chain chain' : Chain}
    (found : (sys.moved index chain').chains[other]? = some chain) :
    sys.chains[other]? = some chain ∨ index = other ∧ chain = chain'
  := by
  dsimp only [moved] at found
  rw [List.getElem?_set] at found
  split at found
  next same =>
    split at found
    next =>
      right
      use same, (Option.some.inj found).symm
    next => cases found
  next =>
    left
    apply found

theorem chainStep_ne_checking (s : Scheduler) (settings : Config.JobSettings) (epoch : Nat)
    {stage : LoadStage} (acts : stage.action settings = .step) (printState : String) :
    (s.chainStep settings epoch stage).2 ≠ .checking printState
  := by
  intro learnt
  cases stage with
  | checking printState' =>
    dsimp only [chainStep, checkPrinter] at learnt
    split at learnt
    next => cases learnt
    next =>
      split at learnt
      next => split at learnt <;> cases learnt
      next => cases learnt
  | waited =>
    dsimp only [chainStep] at learnt
    split at learnt <;> cases learnt
  | scripted =>
    dsimp only [chainStep] at learnt
    split at learnt <;> cases learnt
  | taking =>
    dsimp only [chainStep, takeJob] at learnt
    split at learnt
    next => cases learnt
    next => split at learnt <;> cases learnt
  | asking => cases acts
  | waiting nanos => cases acts
  | scripting =>
    dsimp only [LoadStage.action] at acts
    split at acts <;> cases acts
  | starting job => cases acts
  | started job => cases learnt
  | failed job error => cases learnt
  | ended => cases acts

/-- Only a chain whose query was answered has learnt a state. -/
theorem learnt_of_next {index epoch : Nat} {printState : String}
    (found : (sys.next settings event).1.chains[index]? = some ⟨epoch, .checking printState⟩) :
    sys.chains[index]? = some ⟨epoch, .checking printState⟩ ∨
      ∃ result, event = .resumed index (.ok result) ∧ sys.stage? index = some .asking ∧
        printState = LoadStage.printStateIn result
  := by
  cases event with
  | performed operation =>
    left
    apply (getElem?_of_stepped found).resolve_right
    rintro ⟨⟩
  | resumed other reply =>
    dsimp only [next] at found
    split at found
    next chain launched =>
      obtain ⟨epoch', stage⟩ := chain
      unfold resume at found
      split at found
      next =>
        left
        apply found
      next proceeds =>
        left
        obtain rfl := LoadStage.eq_scripted_of_proceed proceeds
        apply (getElem?_of_moved found).resolve_right
        rintro ⟨-, ⟨⟩⟩
      next calls =>
        cases getElem?_of_moved found with
        | inl old =>
          left
          apply old
        | inr new =>
          obtain ⟨rfl, learnt⟩ := new
          obtain ⟨rfl, result, rfl, told⟩ :=
            LoadStage.learnt_of_answered calls (Chain.mk.inj learnt).2.symm
          right
          use result, rfl
          simp [stage?, launched, told]
      next waits =>
        left
        apply (getElem?_of_moved found).resolve_right
        rintro ⟨-, learnt⟩
        apply LoadStage.elapsed_ne_checking waits (Chain.mk.inj learnt).2.symm
      next acts =>
        left
        apply (getElem?_of_moved ((getElem?_of_stepped found).resolve_right _)).resolve_right
        · rintro ⟨-, learnt⟩
          apply chainStep_ne_checking _ settings epoch' acts printState (Chain.mk.inj learnt).2.symm
        · rintro ⟨⟩
    next =>
      left
      apply found

/-- Whether the answer to a query that comes with an event, if one does, tells the state of the
printer. -/
def tells (sys : System) : Event → Bool
  | .resumed index (.ok result) =>
    match sys.stage? index with
    | some .asking => (LoadStage.printStateIn? result).isSome
    | _ => true
  | _ => true

/-- Whether every answer to a query tells the state of the printer. -/
def allTell (settings : Config.JobSettings) (sys : System) : List Event → Bool
  | [] => true
  | event :: events => sys.tells event && (sys.next settings event).1.allTell settings events

theorem allTell_concat (settings : Config.JobSettings) (sys : System) (events : List Event)
    (event : Event) :
    sys.allTell settings (events ++ [event]) =
      (sys.allTell settings events && (sys.run settings events).tells event)
  := by
  induction events generalizing sys with
  | nil => simp [allTell, run]
  | cons first events ih =>
    rw [List.cons_append, allTell, ih, ← Bool.and_assoc]
    rfl

end

end System

end Scheduler

end ControlRelay
