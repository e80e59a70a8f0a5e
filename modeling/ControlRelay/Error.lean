import ControlRelay.Interest.Request
import ControlRelay.Queue.Basic
import ControlRelay.Rpc.Message
import ControlRelay.Control.Message

/-!
# Failures

A `RelayError` is the failure of an operation that a client or the relay itself asked for; its
code is stable, so that clients can tell failures apart.  A `LinkError` is the failure of one
call on the connection to the control process, and becomes a `RelayError` for whoever called.
-/

namespace ControlRelay

/-- The failure of an operation. -/
inductive RelayError where
  /-- The connection to the control process was lost, or there is none. -/
  | linkDisconnected
  | callTimeout (method : String)
  /-- The control process refused the call. -/
  | controlFault (fault : Control.Fault)
  | invalidInterest (error : InterestError)
  | unknownClient (id : UInt64)
  | queueStateConflict (state : QueueState) (operation : String)
  | jobNotFound (id : JobId)
  | methodNotFound (method : String)
  | invalidParams (message : String)
  | unauthorized
  | alreadyIdentified (id : UInt64)
  | internal (message : String)
  deriving DecidableEq

namespace RelayError

/-- The code of the error of a response. -/
def code : RelayError → Int
  | linkDisconnected => -32001
  | callTimeout _ => -32002
  | controlFault _ => -32003
  | invalidInterest _ => Rpc.invalidParamsCode
  | unknownClient _ => -32004
  | queueStateConflict _ _ => -32005
  | jobNotFound _ => -32006
  | methodNotFound _ => Rpc.methodNotFoundCode
  | invalidParams _ => Rpc.invalidParamsCode
  | unauthorized => -32007
  | alreadyIdentified _ => -32008
  | internal _ => Rpc.internalErrorCode

/-- What the error of a response says. -/
def message : RelayError → String
  | linkDisconnected => "control process link disconnected"
  | callTimeout method => "upstream call '" ++ method ++ "' timed out"
  | controlFault fault => "upstream error: " ++ fault.message
  | invalidInterest e => "invalid subscription: " ++ e.message
  | unknownClient id => "unknown connection " ++ toString id
  | queueStateConflict state operation => "job queue is " ++ state.name ++ "; cannot " ++ operation
  | jobNotFound id => JobQueue.notFoundMessage id
  | methodNotFound method => "method '" ++ method ++ "' not found"
  | invalidParams message => "invalid params: " ++ message
  | unauthorized => "connection is not authorized for this call"
  | alreadyIdentified id => "connection " ++ toString id ++ " has already identified"
  | internal message => "internal error: " ++ message

/-- The error of a response. -/
def body (e : RelayError) : Rpc.ErrorBody := ⟨e.code, e.message⟩

end RelayError

/-- The answer to a call on the control process. -/
abbrev Reply := Except RelayError Json

/-- The failure of a call on the connection. -/
inductive LinkError where
  | disconnected
  | timeout (method : String)
  | controlFault (fault : Control.Fault)
  | protocol (error : Frame.Error)

namespace LinkError

/-- What the failure of a call says. -/
def message : LinkError → String
  | disconnected => "control process link disconnected"
  | timeout method => "call '" ++ method ++ "' timed out"
  | controlFault fault => "control process error: " ++ fault.message
  | protocol e => "protocol error: " ++ e.message

/-- What the failure is to the caller of a call. -/
def toRelayError : LinkError → RelayError
  | disconnected => .linkDisconnected
  | timeout method => .callTimeout method
  | controlFault fault => .controlFault fault
  | protocol e => .internal e.message

end LinkError

end ControlRelay
