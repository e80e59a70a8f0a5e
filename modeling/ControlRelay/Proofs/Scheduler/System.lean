import ControlRelay.Relay.Action
import Mathlib.Tactic.Common

/-!
# A scheduler with its load chains

A `System` is a scheduler together with the load chains that were launched.  Clients, the
control process and the chains take turns in any order: in each `Event` the scheduler takes one
step as a whole, or one chain goes on to its next stage.  A chain that is over, or was never
launched, does not go on, so every list of events is a run, and what holds after every list of
events holds for every order in which they can come.
-/

namespace ControlRelay

namespace LoadStage

/-- What a load chain has come to. -/
inductive Phase where
  /-- It has not taken a job. -/
  | preparing
  /-- It has taken a job and asks for its start, or does not know yet how that went. -/
  | starting
  | ended
  deriving DecidableEq

/-- The phase to which a stage belongs. -/
def phase : LoadStage → Phase
  | starting _ => .starting
  | started _ => .starting
  | failed (some _) _ => .starting
  | ended => .ended
  | _ => .preparing

/-- How often a chain at this stage goes on at most. -/
def rank : LoadStage → Nat
  | asking => 9
  | checking _ => 8
  | waiting _ => 7
  | waited => 6
  | scripting => 5
  | scripted => 4
  | taking => 3
  | starting _ => 2
  | started _ => 1
  | failed _ _ => 1
  | ended => 0

section

variable {settings : Config.JobSettings} {stage : LoadStage}

theorem ended_of_stop (stops : stage.action settings = .stop) :
    stage = .ended
  := by
  cases stage with
  | scripting =>
    dsimp only [action] at stops
    split at stops <;> cases stops
  | ended => rfl
  | _ => cases stops

theorem ne_ended_of_step (acts : stage.action settings = .step) :
    stage.phase ≠ .ended
  := by
  cases stage with
  | failed job error => cases job <;> simp [phase]
  | ended => cases acts
  | _ => simp [phase]

theorem eq_scripted_of_proceed {next : LoadStage}
    (proceeds : stage.action settings = .proceed next) :
    next = .scripted
  := by
  cases stage with
  | scripting =>
    dsimp only [action] at proceeds
    split at proceeds
    · apply (LoadAction.proceed.inj proceeds).symm
    · cases proceeds
  | _ => cases proceeds

theorem phase_and_rank_of_proceed {next : LoadStage}
    (proceeds : stage.action settings = .proceed next) :
    next.phase = stage.phase ∧ next.rank < stage.rank
  := by
  cases stage with
  | scripting =>
    dsimp only [action] at proceeds
    split at proceeds
    · obtain rfl := LoadAction.proceed.inj proceeds
      decide
    · cases proceeds
  | _ => cases proceeds

theorem phase_and_rank_answered {call : Control.Call} (calls : stage.action settings = .call call)
    (reply : Reply) :
    (stage.answered reply).phase = stage.phase ∧ (stage.answered reply).rank < stage.rank
  := by
  cases stage with
  | asking => cases reply <;> simp [answered, phase, rank]
  | scripting => cases reply <;> simp [answered, phase, rank]
  | starting job => cases reply <;> simp [answered, phase, rank]
  | _ => cases calls

theorem phase_and_rank_elapsed {nanos : Nat} (waits : stage.action settings = .wait nanos) :
    stage.elapsed.phase = stage.phase ∧ stage.elapsed.rank < stage.rank
  := by
  cases stage with
  | waiting nanos => simp [elapsed, phase, rank]
  | scripting =>
    dsimp only [action] at waits
    split at waits <;> cases waits
  | _ => cases waits

end

end LoadStage

namespace Scheduler

/-- What a scheduler can be asked for and told. -/
inductive Operation where
  | enqueue (filenames : List String) (reset : Bool) (now : Float)
  | remove (selection : Selection)
  | jump (id : JobId)
  | pause
  | start
  | controlChanged (status : ControlStatus)
  | printStateChanged (printState : String)

/-- The step of an operation; one that is refused changes nothing. -/
def perform (s : Scheduler) : Operation → Step
  | .enqueue filenames reset now => (s.enqueue filenames reset now).toOption.getD (s, [])
  | .remove selection => s.remove selection
  | .jump id => (s.jump id).toOption.getD (s, [])
  | .pause => s.pause
  | .start => s.start.toOption.getD (s, [])
  | .controlChanged status => s.controlChanged status
  | .printStateChanged printState => s.printStateChanged printState

/-- A load chain that was launched. -/
structure Chain where
  epoch : Nat
  stage : LoadStage

/-- Whether the chain is of this epoch and has neither taken a job nor ended. -/
def Chain.carries (c : Chain) (epoch : Nat) : Bool :=
  c.epoch = epoch && c.stage.phase = .preparing

theorem Chain.carries_iff {c : Chain} {epoch : Nat} :
    c.carries epoch = true ↔ c.epoch = epoch ∧ c.stage.phase = .preparing
  := by
  simp [carries]

/-- What can happen next. -/
inductive Event where
  | performed (operation : Operation)
  /-- The chain at `index` goes on; if it waits for the answer to a call, that is `reply`. -/
  | resumed (index : Nat) (reply : Reply)

/-- A scheduler and its load chains, in the order in which they were launched. -/
structure System where
  scheduler : Scheduler
  chains : List Chain := []

namespace System

/-- The system after a step of its scheduler: the chains that it asks for are launched. -/
def stepped (sys : System) (step : Step) : System where
  scheduler := step.1
  chains := sys.chains ++ (step.2.filterMap Action.launched?).map fun epoch => ⟨epoch, .asking⟩

/-- The system with a chain that has gone on to another stage. -/
def moved (sys : System) (index : Nat) (chain : Chain) : System :=
  { sys with chains := sys.chains.set index chain }

/-- The system after a chain has gone on, and what the scheduler asks for. -/
def resume (settings : Config.JobSettings) (sys : System) (index : Nat) (chain : Chain)
    (reply : Reply) : System × List SchedulerEffect :=
  match chain.stage.action settings with
  | .stop => (sys, [])
  | .proceed next => (sys.moved index ⟨chain.epoch, next⟩, [])
  | .call _ => (sys.moved index ⟨chain.epoch, chain.stage.answered reply⟩, [])
  | .wait _ => (sys.moved index ⟨chain.epoch, chain.stage.elapsed⟩, [])
  | .step =>
    let (step, next) := sys.scheduler.chainStep settings chain.epoch chain.stage
    ((sys.moved index ⟨chain.epoch, next⟩).stepped step, step.2)

/-- The system after an event, and what the scheduler asks for. -/
def next (settings : Config.JobSettings) (sys : System) : Event → System × List SchedulerEffect
  | .performed operation =>
    let step := sys.scheduler.perform operation
    (sys.stepped step, step.2)
  | .resumed index reply =>
    match sys.chains[index]? with
    | some chain => sys.resume settings index chain reply
    | none => (sys, [])

/-- The system after a list of events. -/
def run (settings : Config.JobSettings) (sys : System) (events : List Event) : System :=
  events.foldl (fun sys event => (sys.next settings event).1) sys

/-- What the scheduler asks for during a list of events, in order. -/
def effects (settings : Config.JobSettings) (sys : System) : List Event → List SchedulerEffect
  | [] => []
  | event :: events =>
    let (sys, asked) := sys.next settings event
    asked ++ sys.effects settings events

/-- The system that a restored queue and a list of events lead to. -/
def after (settings : Config.JobSettings) (queue : JobQueue) (events : List Event) : System :=
  run settings { scheduler := restored settings queue } events

theorem after_append (settings : Config.JobSettings) (queue : JobQueue)
    (first rest : List Event) :
    after settings queue (first ++ rest) = (after settings queue first).run settings rest
  := List.foldl_append

theorem after_concat (settings : Config.JobSettings) (queue : JobQueue) (earlier : List Event)
    (last : Event) :
    after settings queue (earlier ++ [last]) = ((after settings queue earlier).next settings last).1
  := after_append settings queue earlier [last]

theorem effects_cons (settings : Config.JobSettings) (sys : System) (event : Event)
    (events : List Event) :
    sys.effects settings (event :: events) =
      (sys.next settings event).2 ++ (sys.next settings event).1.effects settings events
  := rfl

theorem effects_append (settings : Config.JobSettings) (sys : System) (first rest : List Event) :
    sys.effects settings (first ++ rest) =
      sys.effects settings first ++ (sys.run settings first).effects settings rest
  := by
  induction first generalizing sys with
  | nil => rfl
  | cons event first ih =>
    rw [List.cons_append, effects_cons, ih, ← List.append_assoc]
    rfl

/-- The stage of a chain, if it was launched. -/
def stage? (sys : System) (index : Nat) : Option LoadStage := sys.chains[index]?.map Chain.stage

/-- What a chain has come to, if it was launched. -/
def phase? (sys : System) (index : Nat) : Option LoadStage.Phase :=
  (sys.stage? index).map LoadStage.phase

theorem phase?_eq_some_iff {sys : System} {index : Nat} {phase : LoadStage.Phase} :
    sys.phase? index = some phase ↔
      ∃ chain, sys.chains[index]? = some chain ∧ chain.stage.phase = phase
  := by
  simp [phase?, stage?]

end System

end Scheduler

end ControlRelay
