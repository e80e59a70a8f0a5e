import ControlRelay.Proofs.Scheduler.System
import ControlRelay.Relay.Services

/-!
# Load chains as routines

A relay runs a load chain as a routine, which takes atomic steps on the relay and waits in
between.  From one wait to the next it does what `System.resume` says: the scheduler of the relay
and the stage with which the routine goes on are those of the system.
-/

namespace ControlRelay

namespace Relay

/-! ### What carrying out leaves alone -/

section

variable {α β : Type}

theorem foldl_keeps (field : Relay → β) {f : Relay → α → Relay}
    (keeps : ∀ r a, field (f r a) = field r) (r : Relay) (items : List α) :
    field (items.foldl f r) = field r
  := by
  induction items generalizing r with
  | nil => rfl
  | cons item items ih => rw [List.foldl_cons, ih, keeps]

end

/-- To deliver a notification concerns neither the scheduler nor its store. -/
theorem deliver_keeps (r : Relay) (target : Target) (note : Rpc.Notification) :
    (r.deliver target note).2.scheduler = r.scheduler ∧ (r.deliver target note).2.store = r.store
  := by
  apply Prod.mk.inj
  dsimp only [deliver]
  apply (foldl_keeps (fun r => (r.scheduler, r.store)) _ _ _).trans
  · apply (foldl_keeps (fun r => (r.scheduler, r.store)) _ _ _).trans
    · apply (foldl_keeps (fun r => (r.scheduler, r.store)) _ _ _).trans rfl
      intro r id
      rfl
    · intro r published
      rfl
  · intro r id
    split <;> rfl

theorem scheduler_carryOut (r : Relay) (effect : SchedulerEffect) :
    (r.carryOut effect).scheduler = r.scheduler
  := by
  cases effect with
  | store queue => rfl
  | announce event => apply (r.deliver_keeps _ _).1
  | launch epoch => rfl

theorem scheduler_carriedOut (r : Relay) (scheduler : Scheduler)
    (effects : List SchedulerEffect) :
    (effects.foldl carryOut { r with scheduler }).scheduler = scheduler
  := foldl_keeps Relay.scheduler scheduler_carryOut _ effects

/-- Only the queue of an effect is stored. -/
theorem store_carryOut (r : Relay) (effect : SchedulerEffect) :
    (r.carryOut effect).store =
      match effect with
      | .store queue => (r.store.save queue).2
      | _ => r.store
  := by
  cases effect with
  | store queue => rfl
  | announce event => apply (r.deliver_keeps _ _).2
  | launch epoch => rfl

end Relay

/-! ### The steps of a routine -/

/-- A process that is left alone with a relay takes its atomic steps and launches load chains. -/
inductive Takes : Relay → RelayProcess → List Nat → Relay → RelayProcess → Prop where
  | rest {r : Relay} {p : RelayProcess} : Takes r p [] r p
  | step {r r' last : Relay} {run : Relay → Relay × RelayProcess} {p p' : RelayProcess}
      {launched : List Nat} (runs : run r = (r', p)) (rest : Takes r' p launched last p') :
      Takes r (.step run) launched last p'
  | launch {r last : Relay} {p p' : RelayProcess} {epoch : Nat} {launched : List Nat}
      (rest : Takes r p launched last p') :
      Takes r (.fork (.enter (.loadChain epoch .asking)) p) (epoch :: launched) last p'

/-- A process that waits for the reply to a call or for a while, or does not wait, goes on. -/
inductive Awakes (reply : Reply) : RelayProcess → RelayProcess → Prop where
  | ready {p : RelayProcess} : Awakes reply p p
  | answered {call : Control.Call} {next : Reply → RelayProcess} :
      Awakes reply (Action.call call next) (next reply)
  | elapsed {deadline : Option Nat} {next : RelayProcess} :
      Awakes reply (.wait [] deadline next) next

namespace Scheduler.System

section

variable {r : Relay}

theorem takes_forM (epochs : List Nat) (next : Unit → RelayProcess) :
    Takes r ((epochs.forM fun epoch => Program.launch (.loadChain epoch .asking) :
      Action Unit) next) epochs r (next ())
  := by
  induction epochs with
  | nil => apply Takes.rest
  | cons epoch epochs ih => apply Takes.launch ih

theorem takes_schedule {α : Type} (f : Relay → Step × α) (next : α → RelayProcess) :
    let step := (f r).1
    Takes r (Action.schedule f next) (step.2.filterMap Action.launched?)
      (step.2.foldl Relay.carryOut { r with scheduler := step.1 }) (next (f r).2)
  := by
  apply Takes.step rfl
  apply takes_forM

/-- A request of a client is the step of an operation, which changes nothing if it is refused. -/
theorem takes_scheduleRequest (f : Scheduler → Float → Except RelayError Step)
    (next : Except RelayError Json → RelayProcess) :
    let step := (f r.scheduler r.timeOfDay).toOption.getD (r.scheduler, [])
    ∃ answer, Takes r (Action.scheduleRequest f next) (step.2.filterMap Action.launched?)
      (step.2.foldl Relay.carryOut { r with scheduler := step.1 }) (next answer)
  := by
  obtain ⟨requested, asks, same⟩ : ∃ requested : Relay → Step × Except RelayError Json,
      Action.scheduleRequest f = Action.schedule requested ∧
        (requested r).1 = (f r.scheduler r.timeOfDay).toOption.getD (r.scheduler, [])
    := by
    refine ⟨_, rfl, ?_⟩
    cases f r.scheduler r.timeOfDay <;> rfl
  rw [asks, ← same]
  use (requested r).2
  apply takes_schedule

/-- From one wait to the next the routine of a load chain takes this step of the scheduler, if
any, and goes on at stage `next`. -/
def Reaches (r : Relay) (epoch : Nat) (stage : LoadStage) (reply : Reply) (step : Step)
    (next : LoadStage) : Prop :=
  ∃ p p', Takes r (Routine.loadChain epoch stage).process (step.2.filterMap Action.launched?)
      (step.2.foldl Relay.carryOut { r with scheduler := step.1 }) p ∧
    Awakes reply p p' ∧ (p' = .enter (.loadChain epoch next) ∨ p' = .done ∧ next = .ended)

section

variable {epoch : Nat} {stage : LoadStage}

theorem reaches_of_stop (acts : stage.action r.jobs = .stop) (reply : Reply) :
    Reaches r epoch stage reply (r.scheduler, []) .ended
  := by
  use .done, .done
  and_intros
  · apply Takes.step rfl
    simp only [acts]
    apply Takes.rest
  · apply Awakes.ready
  · right
    trivial

theorem reaches_of_proceed {next : LoadStage} (acts : stage.action r.jobs = .proceed next)
    (reply : Reply) :
    Reaches r epoch stage reply (r.scheduler, []) next
  := by
  use .enter (.loadChain epoch next), .enter (.loadChain epoch next)
  and_intros
  · apply Takes.step rfl
    simp only [acts]
    apply Takes.rest
  · apply Awakes.ready
  · left
    rfl

theorem reaches_of_call {call : Control.Call} (acts : stage.action r.jobs = .call call)
    (reply : Reply) :
    Reaches r epoch stage reply (r.scheduler, []) (stage.answered reply)
  := by
  let answered (reply : Reply) : RelayProcess := .enter (.loadChain epoch (stage.answered reply))
  use Action.call call answered, answered reply
  and_intros
  · apply Takes.step rfl
    simp only [acts]
    apply Takes.rest
  · apply Awakes.answered
  · left
    rfl

theorem reaches_of_wait {nanos : Nat} (acts : stage.action r.jobs = .wait nanos) (reply : Reply) :
    Reaches r epoch stage reply (r.scheduler, []) stage.elapsed
  := by
  let deadline := r.clock + (nanos + 999999) / 1000000
  use .wait [] (some deadline) (.enter (.loadChain epoch stage.elapsed)),
    .enter (.loadChain epoch stage.elapsed)
  and_intros
  · apply Takes.step rfl
    simp only [acts]
    apply Takes.step rfl
    apply Takes.rest
  · apply Awakes.elapsed
  · left
    rfl

theorem reaches_of_step (acts : stage.action r.jobs = .step) (reply : Reply) :
    Reaches r epoch stage reply (r.scheduler.chainStep r.jobs epoch stage).1
      (r.scheduler.chainStep r.jobs epoch stage).2
  := by
  let next := (r.scheduler.chainStep r.jobs epoch stage).2
  use .enter (.loadChain epoch next), .enter (.loadChain epoch next)
  and_intros
  · apply Takes.step rfl
    simp only [acts]
    apply takes_schedule fun r' => r'.scheduler.chainStep r.jobs epoch stage
  · apply Awakes.ready
  · left
    rfl

end

/-- The routine of a load chain does what the system does with the chain, and leaves the relay
with the scheduler of the system. -/
theorem exists_reaches {sys : System} {index : Nat} {chain : Chain}
    (launched : sys.chains[index]? = some chain) (same : sys.scheduler = r.scheduler)
    (reply : Reply) :
    ∃ step next, Reaches r chain.epoch chain.stage reply step next ∧
      sys.resume r.jobs index chain reply =
        ((sys.moved index ⟨chain.epoch, next⟩).stepped step, step.2) ∧
      (step.2.foldl Relay.carryOut { r with scheduler := step.1 }).scheduler = step.1
  := by
  have quiet (next : LoadStage) : (sys.moved index ⟨chain.epoch, next⟩).stepped (r.scheduler, []) =
      sys.moved index ⟨chain.epoch, next⟩
    := by
    simp [stepped, moved, same]
  cases acts : chain.stage.action r.jobs with
  | stop =>
    use (r.scheduler, []), .ended, reaches_of_stop acts reply
    have kept : sys.moved index ⟨chain.epoch, .ended⟩ = sys := by
      obtain ⟨inside, rfl⟩ := List.getElem?_eq_some_iff.1 launched
      rw [← LoadStage.ended_of_stop acts, moved]
      congr 1
      apply List.set_getElem_self inside
    rw [quiet, kept]
    simp only [resume, acts, true_and]
    rfl
  | proceed next =>
    use (r.scheduler, []), next, reaches_of_proceed acts reply
    rw [quiet]
    simp only [resume, acts, true_and]
    rfl
  | call c =>
    use (r.scheduler, []), chain.stage.answered reply, reaches_of_call acts reply
    rw [quiet]
    simp only [resume, acts, true_and]
    rfl
  | wait nanos =>
    use (r.scheduler, []), chain.stage.elapsed, reaches_of_wait acts reply
    rw [quiet]
    simp only [resume, acts, true_and]
    rfl
  | step =>
    refine ⟨_, _, reaches_of_step acts reply, ?_, r.scheduler_carriedOut _ _⟩
    simp only [resume, acts, same]

end

end Scheduler.System

end ControlRelay
