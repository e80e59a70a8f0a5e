import ControlRelay.Process.Basic

/-!
# Running processes

A `Machine` runs processes one at a time.  A process runs until it waits; those that can go on
do so in the order in which they became able to.  Time stands still until nothing can go on,
and is moved on only by `advance`, from one deadline to the next.
-/

namespace ControlRelay

/-- A process that waits. -/
structure Parked (σ ι π : Type) where
  signals : List ι
  deadline : Option Nat
  next : Process σ ι π

/-- What a machine needs to know of the state and of the named programs. -/
structure MachineInterface (σ ι π : Type) where
  /-- The signals raised by the last step, the first one first, and the state without them. -/
  takeSignals : σ → List ι × σ
  clock : σ → Nat
  setClock : Nat → σ → σ
  /-- What a named program is. -/
  body : π → Process σ ι π

/-- Processes and the state they share. -/
structure Machine (σ ι π : Type) where
  state : σ
  /-- The processes that can go on, the next one first. -/
  ready : List (Process σ ι π) := []
  /-- The processes that wait, in the order in which they began to. -/
  parked : List (Parked σ ι π) := []

namespace Machine

variable {σ ι π : Type} [DecidableEq ι]

/-- Lets a process go on when its turn comes. -/
def start (m : Machine σ ι π) (p : Process σ ι π) : Machine σ ι π :=
  { m with ready := m.ready ++ [p] }

/-- Wakes the processes that wait for a signal. -/
def wake (m : Machine σ ι π) (signal : ι) : Machine σ ι π :=
  let (woken, parked) := m.parked.partition fun p => p.signals.contains signal
  { m with ready := m.ready ++ woken.map (·.next), parked }

/-- Wakes the processes that wait for the signals raised. -/
def settle (i : MachineInterface σ ι π) (m : Machine σ ι π) : Machine σ ι π :=
  let (signals, state) := i.takeSignals m.state
  signals.foldl wake { m with state }

/-- Runs a process until it waits or is over. -/
def runProcess (i : MachineInterface σ ι π) :
    Nat → Process σ ι π → Machine σ ι π → Machine σ ι π
  | 0, _, m => m
  | fuel + 1, p, m =>
    match p with
    | .done => m
    | .step run =>
      let (state, next) := run m.state
      runProcess i fuel next (settle i { m with state })
    | .wait signals deadline next =>
      { m with parked := m.parked ++ [⟨signals, deadline, next⟩] }
    | .fork child next => runProcess i fuel next (m.start child)
    | .enter program => runProcess i fuel (i.body program) m

/-- Wakes the processes whose deadline has come, the earliest deadline first. -/
def wakeDue (i : MachineInterface σ ι π) (m : Machine σ ι π) : Machine σ ι π :=
  let now := i.clock m.state
  let isDue (p : Parked σ ι π) : Bool :=
    match p.deadline with
    | some t => t ≤ now
    | none => false
  let (due, parked) := m.parked.partition isDue
  let inTime := due.mergeSort fun a b => a.deadline.getD 0 ≤ b.deadline.getD 0
  { m with ready := m.ready ++ inTime.map (·.next), parked }

/-- Runs processes until all of them wait for something that has not come. -/
def runAll (i : MachineInterface σ ι π) : Nat → Machine σ ι π → Machine σ ι π
  | 0, m => m
  | fuel + 1, m =>
    match m.ready with
    | p :: ready => runAll i fuel (runProcess i fuel p { m with ready })
    | [] =>
      let m := wakeDue i m
      if m.ready.isEmpty then m else runAll i fuel m

/-- The earliest deadline. -/
def nextDeadline? (m : Machine σ ι π) : Option Nat :=
  m.parked.foldl (fun earliest p =>
    match earliest, p.deadline with
    | some t, some u => some (min t u)
    | none, d => d
    | t, none => t) none

/-- Runs all processes and moves the time on from deadline to deadline until `target`. -/
def advance (i : MachineInterface σ ι π) (target : Nat) :
    Nat → Machine σ ι π → Machine σ ι π
  | 0, m => m
  | fuel + 1, m =>
    let m := runAll i (fuel + 1) m
    match m.nextDeadline? with
    | some t =>
      if t ≤ target then advance i target fuel { m with state := i.setClock t m.state }
      else { m with state := i.setClock target m.state }
    | none => { m with state := i.setClock target m.state }

end Machine

end ControlRelay
