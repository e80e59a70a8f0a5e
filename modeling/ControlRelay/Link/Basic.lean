import ControlRelay.Control.Event
import ControlRelay.Error
import ControlRelay.Sequence

/-!
# The link to the control process

The link matches the answers of the control process to the calls that wait for them, by the id
that every call gets.  It counts the generations of its connection: with the loss of a
connection its generation ends and every pending call fails at once, so no caller ever gets an
answer from another connection than the one it called on.
-/

namespace ControlRelay

/-- A call that waits for its answer. -/
structure PendingCall where
  /-- Which one it is of all calls, by which its caller learns how it ended. -/
  number : Nat
  /-- The generation of the connection it was sent on. -/
  generation : Nat
  method : String
  deriving DecidableEq, Repr

/-- How a call ends. -/
abbrev CallOutcome := Except LinkError Json

/-- The state of the link. -/
structure Link where
  ids : Sequence := .startingAt 1
  /-- How many calls there were. -/
  count : Nat := 0
  /-- How many connections were lost.  A counter of 64 bits would begin again after 2^64 of them; so
  many are left out. -/
  generation : Nat := 0
  /-- The connection on which frames are sent, if there is one. -/
  writer : Option Nat := none
  pending : SortedMap UInt64 PendingCall := ∅
  /-- The last known state of the control process. -/
  status : ControlStatus := .disconnected

/-- What comes out of the link. -/
inductive LinkOutput where
  /-- A call has ended. -/
  | outcome (number : Nat) (outcome : CallOutcome)
  | event (event : ControlEvent)

/-- A call that is to be sent. -/
structure SentCall where
  number : Nat
  connection : Nat
  request : Control.Request

namespace Link

instance : Inhabited Link := ⟨{}⟩

/-- The result of one step. -/
abbrev Step := Link × List LinkOutput

/-- Takes in a state; it is reported if it is another one than before. -/
def setStatus (l : Link) (status : ControlStatus) : Step :=
  if l.status.state = status.state then ({ l with status }, [])
  else ({ l with status }, [.event (.stateChanged status)])

/-- Begins to send on a connection. -/
def attach (l : Link) (connection : Nat) : Step :=
  ({ l with writer := some connection }, [.event (.connected l.generation)])

/-- What callers hear of calls that are dropped. -/
def dropping (calls : List PendingCall) : List LinkOutput :=
  calls.map fun call => .outcome call.number (.error .disconnected)

/-- Begins a call.  Gives what is to be sent if there is a connection, of which `canSend` says
whether it takes frames.  A call that still waits under the same id is dropped. -/
def call (l : Link) (method : String) (params : Json) (canSend : Nat → Bool) :
    Step × Except LinkError SentCall :=
  let number := l.count
  let (id, ids) := l.ids.next
  let l := { l with ids, count := number + 1 }
  match l.writer with
  | none => ((l, []), .error .disconnected)
  | some connection =>
    let dropped := dropping (l.pending.get? id).toList
    if canSend connection then
      (({ l with pending := l.pending.insert id ⟨number, l.generation, method⟩ }, dropped),
        .ok ⟨number, connection, ⟨id, method, params⟩⟩)
    else (({ l with pending := l.pending.erase id }, dropped), .error .disconnected)

/-- Takes in the state that the answer to a question for it holds. -/
def adoptStatus (l : Link) (method : String) (answer : Except Control.Fault Json) : Step :=
  if method = Control.infoMethod then
    match answer with
    | .ok result =>
      match Control.stateOfParams result with
      | .ok status => l.setStatus status
      | .error _ => (l, [])
    | .error _ => (l, [])
  else (l, [])

/-- Takes in an answer; one that no call waits for is passed over. -/
def receiveResponse (l : Link) (id : UInt64) (answer : Except Control.Fault Json) : Step :=
  match l.pending.get? id with
  | none => (l, [])
  | some call =>
    let l := { l with pending := l.pending.erase id }
    if call.generation ≠ l.generation then (l, dropping [call])
    else
      let (l, outputs) := l.adoptStatus call.method answer
      (l, outputs ++ [.outcome call.number (answer.mapError .controlFault)])

/-- Takes in a push. -/
def receivePush (l : Link) : Control.Push → Step
  | .stateChanged status => l.setStatus status
  | .status status eventtime => (l, [.event (.status status eventtime)])
  | .gcodeResponse text => (l, [.event (.gcodeResponse text)])
  | .other method params => (l, [.event (.other method params)])

/-- Takes in a message. -/
def receive (l : Link) : Control.Message → Step
  | .response id answer => l.receiveResponse id answer
  | .push push => l.receivePush push

/-- Takes in what a decoder gave; what is unusable is dropped. -/
def receiveFrame (l : Link) : Except Frame.Error Frame → Step
  | .ok frame =>
    match Control.Message.ofFrame frame with
    | .ok message => l.receive message
    | .error _ => (l, [])
  | .error _ => (l, [])

/-- Gives up waiting for an answer. -/
def expire (l : Link) (id : UInt64) : Link := { l with pending := l.pending.erase id }

/-- Ends a generation: there is no connection any more, and all pending calls fail.  If that
generation has ended already, nothing happens. -/
def lose (l : Link) (generation : Nat) : Step :=
  if l.generation ≠ generation ∨ l.writer = none then (l, [])
  else
    let dropped := dropping l.pending.values
    let l := { l with writer := none, generation := l.generation + 1, pending := ∅ }
    let (l, outputs) := l.setStatus .disconnected
    (l, dropped ++ outputs)

end Link

end ControlRelay
