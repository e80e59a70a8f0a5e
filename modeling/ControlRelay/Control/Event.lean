import ControlRelay.Control.Message

/-!
# Control events

What the connection to the control process reports to the relay, in the order in which it
happened on the wire.
-/

namespace ControlRelay

/-- Something that the control process or the connection to it reported. -/
inductive ControlEvent where
  /-- A connection was made. -/
  | connected (generation : Nat)
  /-- The state of the control process is another one. -/
  | stateChanged (status : ControlStatus)
  /-- New values of attributes. -/
  | status (status : Fields) (eventtime : Float)
  | gcodeResponse (text : String)
  /-- A push that is passed on as it is. -/
  | other (method : String) (params : Json)

end ControlRelay
