import ControlRelay.Json.Reader
import ControlRelay.Json.Shape

/-!
# Messages of the clients

Clients speak JSON-RPC 2.0: they send requests, the relay sends a response to every request
that has an id, and notifications on its own account.  `parseRequest` reads a request from text
or gives the response that refuses it.
-/

namespace ControlRelay.Rpc

/-- The protocol version that every message carries. -/
def version : String := "2.0"

/-- The text was no JSON. -/
def parseErrorCode : Int := -32700

/-- The JSON was no request. -/
def invalidRequestCode : Int := -32600

/-- The method is unknown. -/
def methodNotFoundCode : Int := -32601

/-- The parameters do not suit the method. -/
def invalidParamsCode : Int := -32602

/-- Something failed within the relay. -/
def internalErrorCode : Int := -32603

/-- A request; without an id it asks for no response. -/
structure Request where
  method : String
  params : Json
  id : Option Json

/-- The error of a response. -/
structure ErrorBody where
  code : Int
  message : String
  deriving DecidableEq, Repr

/-- The answer to the request with the same id. -/
structure Response where
  outcome : Except ErrorBody Json
  id : Json

namespace Response

/-- The answer of a request that succeeded. -/
def success (id result : Json) : Response := ⟨.ok result, id⟩

/-- The answer of a request that failed. -/
def failure (id : Json) (error : ErrorBody) : Response := ⟨.error error, id⟩

/-- Whether the request failed. -/
def isError (r : Response) : Bool :=
  match r.outcome with
  | .ok _ => false
  | .error _ => true

end Response

/-- The members of a response in the order in which they are written. -/
structure ResponseText where
  version : String
  result : Option Json
  error : Option ErrorBody
  id : Json

namespace ErrorBody

/-- The members of an error in the order in which they are written. -/
def members (e : ErrorBody) : List (String × Json) :=
  [("code", .ofInt e.code), ("message", .string e.message)]

/-- Reads an error. -/
def shape : Json.Shape ErrorBody := fun v => do
  let code := Json.Shape.integer "i64" (-0x8000000000000000) 0x7fffffffffffffff
  match ← Json.Shape.record "ErrorBody"
      [.of "code" code .refused, .of "message" Json.Shape.string .refused] v with
  | [some c, some message] => pure ⟨← code c, ← Json.Shape.string message⟩
  | _ => .error (.missingField "code")

end ErrorBody

namespace ResponseText

/-- The members that are there, in the order in which they are written. -/
def members (r : ResponseText) : List (String × Json) :=
  [("jsonrpc", .string r.version)]
    ++ (r.result.map ("result", ·)).toList
    ++ (r.error.map fun e => ("error", Json.object e.members)).toList
    ++ [("id", r.id)]

/-- The text of the response. -/
def text (r : ResponseText) : String := (Json.object r.members).text

/-- Reads a response that has a result, an error, both or neither. -/
def shape : Json.Shape ResponseText := fun v => do
  let error := Json.Shape.option ErrorBody.shape
  let members : List Json.Shape.Member :=
    [.of "jsonrpc" Json.Shape.string .refused, .of "result" Json.Shape.any .optional,
      .of "error" error .optional, .of "id" Json.Shape.any .refused]
  match ← Json.Shape.record "RpcResponse" members v with
  | [some version, result, failure, some id] =>
    let result := result.bind fun
      | .null => none
      | v => some v
    pure ⟨← Json.Shape.string version, result, ← error (failure.getD .null), id⟩
  | _ => .error (.missingField "jsonrpc")

end ResponseText

namespace Response

/-- A response has a result or an error, never both. -/
def toText (r : Response) : ResponseText :=
  match r.outcome with
  | .ok result => ⟨version, some result, none, r.id⟩
  | .error e => ⟨version, none, some e, r.id⟩

/-- The text sent to the client. -/
def text (r : Response) : String := r.toText.text

/-- The response as a value. -/
def toJson (r : Response) : Json :=
  match r.outcome with
  | .ok result => .ofMembers [("jsonrpc", .string version), ("result", result), ("id", r.id)]
  | .error e =>
    .ofMembers [("jsonrpc", .string version), ("error", .ofMembers e.members), ("id", r.id)]

end Response

/-- Reads a request from a JSON value, or gives the response that refuses it.  An id that is
`null` counts as none, and a refusal carries the id if the value has one. -/
def requestOfJson (v : Json) : Except Response Request :=
  let id := (v.get? "id").getD .null
  let refuse (message : String) : Except Response Request :=
    .error (.failure id ⟨invalidRequestCode, message⟩)
  let members : List Json.Shape.Member :=
    [.of "jsonrpc" Json.Shape.string .refused, .of "method" Json.Shape.string .refused,
      .of "params" Json.Shape.any .defaulted, .of "id" Json.Shape.any .defaulted]
  match Json.Shape.record "RpcRequest" members v with
  | .error e => refuse e.message
  | .ok [some (.string jsonrpc), some (.string method), params, id] =>
    if jsonrpc = version then
      .ok ⟨method, params.getD .null, id.bind fun
        | .null => none
        | id => some id⟩
    else refuse ("jsonrpc must be \"" ++ version ++ "\"")
  | .ok _ => refuse "jsonrpc must be a string"

/-- Reads a request from text, or gives the response that refuses it. -/
def parseRequest (text : String) : Except Response Request :=
  match Json.parse text with
  | .error e => .error (.failure .null ⟨parseErrorCode, e.message⟩)
  | .ok v => requestOfJson v

end ControlRelay.Rpc
