/-!
# Processes

A process works on a state that it shares with other processes.  It goes from one atomic step
to the next and may wait in between, for signals or for a point in time, start other processes,
or go on with one of the named programs, which is how it can go on for ever.

A `Program α` is a part of a process that comes to a result of type `α`; programs are put
together with `do`.
-/

namespace ControlRelay

/-- A process over states `σ`, which waits for signals `ι` and goes on with programs named by
`π`. -/
inductive Process (σ ι π : Type) where
  /-- It is over. -/
  | done
  /-- It takes an atomic step. -/
  | step (run : σ → σ × Process σ ι π)
  /-- It waits for one of the signals, or until the time given, and then goes on. -/
  | wait (signals : List ι) (deadline : Option Nat) (next : Process σ ι π)
  /-- It starts another process and goes on. -/
  | fork (child next : Process σ ι π)
  /-- It goes on with a named program. -/
  | enter (program : π)

/-- A part of a process that comes to a result. -/
def Program (σ ι π α : Type) : Type := (α → Process σ ι π) → Process σ ι π

namespace Program

variable {σ ι π α : Type}

instance : Monad (Program σ ι π) where
  pure a k := k a
  bind p f k := p fun a => f a k

/-- An atomic step with a result. -/
def atomically (f : σ → σ × α) : Program σ ι π α := fun k =>
  .step fun s =>
    let (s, a) := f s
    (s, k a)

/-- An atomic step that changes the state. -/
def update (f : σ → σ) : Program σ ι π Unit := atomically fun s => (f s, ())

/-- Something of the state as it is. -/
def inspect (f : σ → α) : Program σ ι π α := atomically fun s => (s, f s)

/-- Waits for one of the signals, or until the deadline. -/
def await (signals : List ι) (deadline : Option Nat := none) : Program σ ι π Unit := fun k =>
  .wait signals deadline (k ())

/-- Starts a process. -/
def fork (child : Process σ ι π) : Program σ ι π Unit := fun k => .fork child (k ())

/-- Starts a named program as a process. -/
def launch (program : π) : Program σ ι π Unit := fork (.enter program)

/-- The process that ends with this program. -/
def process (p : Program σ ι π Unit) : Process σ ι π := p fun _ => .done

end Program

end ControlRelay
