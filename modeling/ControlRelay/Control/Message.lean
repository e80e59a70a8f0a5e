import ControlRelay.Control.Status
import ControlRelay.Frame.Basic

/-!
# Messages of the control process

The relay sends requests with an id; the control process answers with the same id, or pushes
a message without one.  `Message.ofFrame` tells the two apart and decodes the pushes the relay
understands: a change of state, a batch of status values and lines of text.
-/

namespace ControlRelay.Control

/-- Asks for the state of the control process. -/
def infoMethod : String := "info"

/-- Lists every object that can be queried. -/
def listMethod : String := "objects/list"

/-- Reads attributes of objects once. -/
def queryMethod : String := "objects/query"

/-- Replaces the subscription of the connection. -/
def subscribeMethod : String := "objects/subscribe"

/-- Runs a script. -/
def scriptMethod : String := "gcode/script"

/-- The push of a state. -/
def stateChangedPush : String := "state_changed"

/-- The push of status values, which a subscription asks for by this name. -/
def statusUpdatePush : String := "process_status_update"

/-- The push of a line of text. -/
def gcodeResponsePush : String := "process_gcode_response"

/-- A request to the control process. -/
structure Request where
  id : UInt64
  method : String
  params : Json

/-- The request as a frame holds it. -/
def Request.toJson (r : Request) : Json :=
  .ofMembers [("id", .ofNat r.id.toNat), ("method", .string r.method), ("params", r.params)]

/-- An error that the control process gives as its answer. -/
structure Fault where
  /-- Its class, which may be empty. -/
  kind : String
  message : String
  deriving DecidableEq, Repr

/-- The fault an `error` member stands for: a text, an object with a class and a text, or
anything else by its JSON text. -/
def Fault.ofJson (v : Json) : Fault :=
  match v with
  | .string s => ⟨"", s⟩
  | .object _ => ⟨(v.getString? "error").getD "", (v.getString? "message").getD v.text⟩
  | other => ⟨"", other.text⟩

/-- A message without an id. -/
inductive Push where
  | stateChanged (status : ControlStatus)
  | status (status : Fields) (eventtime : Float)
  | gcodeResponse (text : String)
  /-- Any other push, which is passed on as it is. -/
  | other (method : String) (params : Json)

/-- A frame of the control process. -/
inductive Message where
  | response (id : UInt64) (outcome : Except Fault Json)
  | push (push : Push)

/-- Reads a state and its message, which is called `message` or else `state_message`. -/
def stateOfParams (params : Json) : Except Frame.Malformation ControlStatus :=
  match params.getString? "state" with
  | none => .error .stateMissing
  | some name =>
    match ControlState.ofName? name with
    | none => .error (.unknownState name)
    | some state =>
      let message := (params.get? "message").or (params.get? "state_message")
      .ok ⟨state, (message.bind Json.string?).getD ""⟩

/-- The push with the given method and parameters. -/
def Push.of (method : String) (params : Json) : Except Frame.Malformation Push :=
  if method = stateChangedPush then (stateOfParams params).map .stateChanged
  else if method = statusUpdatePush then
    match (params.get? "status").bind Json.fields? with
    | none => .error .statusMissing
    | some fields => .ok (.status fields (((params.get? "eventtime").bind Json.float?).getD 0.0))
  else if method = gcodeResponsePush then
    .ok (.gcodeResponse (((params.getString? "response").or params.string?).getD ""))
  else .ok (.other method params)

/-- Splits frames into responses, which are those with an `id`, and pushes. -/
def Message.ofFrame (frame : Frame) : Except Frame.Malformation Message :=
  match frame.get? "id" with
  | some id =>
    match id.nat? with
    | none => .error .nonNumericId
    | some id =>
      match frame.get? "error" with
      | some fault => .ok (.response id (.error (.ofJson fault)))
      | none => .ok (.response id (.ok ((frame.get? "result").getD .null)))
  | none =>
    match (frame.get? "method").bind Json.string? with
    | none => .error .neitherIdNorMethod
    | some method => (Push.of method ((frame.get? "params").getD .null)).map .push

end ControlRelay.Control
