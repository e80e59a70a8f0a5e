import ControlRelay.Rpc.Message

/-!
# Notifications

What the relay tells its clients without being asked.  The parameters are always an array.
-/

namespace ControlRelay.Rpc

/-- A message from the relay to a client that answers no request. -/
structure Notification where
  method : String
  params : List Json

namespace Notification

/-- New status values: the parameters are the values and their time. -/
def statusUpdateMethod : String := "status_update"

/-- The notification of new values. -/
def statusUpdate (status : Fields) (eventtime : Float) : Notification :=
  ⟨statusUpdateMethod, [.ofFields status, .ofFloat eventtime]⟩

/-- The control process is ready. -/
def controlReady : Notification := ⟨"control_ready", []⟩

/-- The control process shut down or failed. -/
def controlShutdown (status : Json) : Notification := ⟨"control_shutdown", [status]⟩

/-- The connection to the control process is lost. -/
def controlDisconnected : Notification := ⟨"control_disconnected", []⟩

/-- The queue or the state of its scheduler changed. -/
def jobQueueChanged (event : Json) : Notification := ⟨"job_queue_changed", [event]⟩

/-- A line of text from the control process. -/
def gcodeResponse (text : String) : Notification := ⟨"gcode_response", [.string text]⟩

/-- Whether this notifies of new values. -/
def isStatusUpdate (n : Notification) : Bool := n.method = statusUpdateMethod

/-- The notification as it is sent. -/
def toJson (n : Notification) : Json :=
  .ofMembers [("jsonrpc", .string version), ("method", .string n.method),
    ("params", .array n.params)]

/-- The text sent to the client. -/
def text (n : Notification) : String := n.toJson.text

end Notification

end ControlRelay.Rpc
