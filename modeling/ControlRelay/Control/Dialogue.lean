import ControlRelay.Error

/-!
# Dialogues with the control process

A `Dialogue` is a computation that may call the control process and goes on with each answer.
It says nothing about when an answer comes, so whoever carries it out may do other things while
it waits.
-/

namespace ControlRelay.Control

/-- A call of the control process. -/
structure Call where
  method : String
  params : Json

/-- A computation that calls the control process. -/
inductive Dialogue (α : Type) where
  | done (result : α)
  | ask (call : Call) (next : Reply → Dialogue α)

namespace Dialogue

variable {α β : Type}

/-- Goes on with the result of a dialogue. -/
def bind : Dialogue α → (α → Dialogue β) → Dialogue β
  | done a, f => f a
  | ask call next, f => ask call fun reply => (next reply).bind f

instance : Monad Dialogue where
  pure := done
  bind := bind

/-- Carries a dialogue out with the given answers; gives the calls made, and the result unless
the answers run out. -/
def run : Dialogue α → List Reply → List Call × Option α
  | done a, _ => ([], some a)
  | ask call _, [] => ([call], none)
  | ask call next, reply :: replies =>
    let (calls, result) := (next reply).run replies
    (call :: calls, result)

end Dialogue

end ControlRelay.Control
