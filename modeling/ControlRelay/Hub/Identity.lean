import ControlRelay.Config.Settings

/-!
# Identities and authorization

A client says who it is once.  It is authorized if its name is trusted or if it presents the
token that is configured; an empty token is as good as none being configured.
-/

namespace ControlRelay

/-- How a connection carries messages. -/
inductive TransportKind where
  /-- Requests and notifications both ways, through a bounded queue. -/
  | duplex
  /-- One request and its response. -/
  | requestResponse
  /-- Messages published under topics. -/
  | topic
  deriving DecidableEq, Repr

namespace TransportKind

/-- The name of the kind in every message. -/
def name : TransportKind → String
  | duplex => "duplex"
  | requestResponse => "request_response"
  | topic => "topic"

/-- Whether notifications can reach such a connection. -/
def supportsPush : TransportKind → Bool
  | requestResponse => false
  | _ => true

/-- Whether a client that reads too slowly is disconnected. -/
def hasBackpressure : TransportKind → Bool
  | duplex => true
  | _ => false

/-- Whether a response is matched to its request by the pair of topics and not by its id. -/
def pairsTopics : TransportKind → Bool
  | topic => true
  | _ => false

end TransportKind

/-- Who a client says it is. -/
structure ClientIdentity where
  clientName : String
  version : String
  /-- Its role, such as `"web"` or `"agent"`. -/
  clientType : String
  url : Option String
  deriving DecidableEq, Repr

/-- Whether a client is authorized, given the token it presents. -/
def Config.AuthSettings.authorizes (s : AuthSettings) (identity : ClientIdentity)
    (token : Option String) : Bool :=
  s.trustedClients.contains identity.clientName ||
    match s.apiKey, token with
    | some key, some token => !key.isEmpty && key = token
    | _, _ => false

end ControlRelay
