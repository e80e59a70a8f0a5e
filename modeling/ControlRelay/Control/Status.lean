import ControlRelay.Json.Shape

/-!
# The state of the control process

The control process reports where it stands in its life: starting, ready, shut down or failed.
The relay adds a state of its own for the time without a connection.
-/

namespace ControlRelay

/-- Where the control process stands, as the relay sees it. -/
inductive ControlState where
  /-- Connected and still initialising. -/
  | starting
  /-- Fully operational. -/
  | ready
  /-- Halted until it is restarted. -/
  | shutdown
  /-- It failed to start. -/
  | errored
  /-- There is no connection to it. -/
  | disconnected
  deriving DecidableEq, Repr

namespace ControlState

/-- The name of the state on every wire. -/
def name : ControlState → String
  | starting => "starting"
  | ready => "ready"
  | shutdown => "shutdown"
  | errored => "error"
  | disconnected => "disconnected"

/-- All states. -/
def all : List ControlState := [starting, ready, shutdown, errored, disconnected]

/-- The state a name stands for; `startup` is another name for `starting`. -/
def ofName? (name : String) : Option ControlState :=
  if name = "startup" then some starting else all.find? fun s => s.name = name

/-- A state given by its name; here only the names proper are known. -/
def shape : Json.Shape ControlState := fun v => do
  let name ← Json.Shape.variant (all.map ControlState.name) v
  pure ((all.find? fun s => s.name = name).getD disconnected)

end ControlState

/-- A state and the text reported with it. -/
structure ControlStatus where
  state : ControlState
  message : String
  deriving DecidableEq, Repr

namespace ControlStatus

/-- The status before the first connection and after the loss of one. -/
def disconnected : ControlStatus := ⟨.disconnected, "control process not connected"⟩

instance : Inhabited ControlStatus := ⟨disconnected⟩

/-- Whether calls can be made. -/
def isReady (s : ControlStatus) : Bool := s.state = .ready

/-- The status as it is sent. -/
def toJson (s : ControlStatus) : Json :=
  .ofMembers [("state", .string s.state.name), ("message", .string s.message)]

/-- A status as a record of its state and, if there is one, its message. -/
def shape : Json.Shape ControlStatus := fun v => do
  let members : List Json.Shape.Member :=
    [.of "state" ControlState.shape .refused, .of "message" Json.Shape.string .defaulted]
  match ← Json.Shape.record "ControlStatus" members v with
  | [some state, message] =>
    pure ⟨← ControlState.shape state, (message.bind Json.string?).getD ""⟩
  | _ => .error (.missingField "state")

end ControlStatus

end ControlRelay
