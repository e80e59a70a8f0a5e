import ControlRelay.Error
import ControlRelay.Hub.Identity
import ControlRelay.Rpc.Notification
import ControlRelay.Sequence

/-!
# The hub

The hub knows every client connection, whatever carries it, and delivers notifications to them.
A duplex connection has a mailbox of bounded size, from which its session takes the messages; a
mailbox outlives the connection until its reader is gone.  A delivery that finds a mailbox full
or without a reader evicts the connection.
-/

namespace ControlRelay

/-- The identifier of a connection; none is given twice. -/
abbrev ConnectionId := UInt64

/-- Where the notifications for a connection go. -/
inductive Sink where
  /-- Into the mailbox of the connection. -/
  | mailbox
  /-- To a topic broker: status updates under one topic, all others under another. -/
  | topics (broker : Nat) (notification status : String)
  /-- Nowhere. -/
  | detached
  deriving DecidableEq, Repr

/-- A live connection. -/
structure Connection where
  kind : TransportKind
  sink : Sink
  identity : Option ClientIdentity := none
  authorized : Bool := false
  /-- Whether somebody waits for its end. -/
  watched : Bool := false

/-- Messages on their way to a session. -/
structure Mailbox where
  capacity : Nat
  /-- The texts not taken yet, the oldest first. -/
  waiting : List String := []
  /-- Whether there is somebody to take them. -/
  hasReader : Bool := true

namespace Mailbox

/-- Whether one more message fits. -/
def hasRoom (m : Mailbox) : Bool := m.waiting.length < m.capacity

/-- Appends a text, if there is room and a reader. -/
def put? (m : Mailbox) (text : String) : Option Mailbox :=
  if m.hasReader && m.hasRoom then some { m with waiting := m.waiting ++ [text] } else none

/-- Takes at most `count` texts. -/
def take (m : Mailbox) (count : Nat) : List String × Mailbox :=
  (m.waiting.take count, { m with waiting := m.waiting.drop count })

/-- The mailbox after its reader is gone. -/
def abandon (m : Mailbox) : Mailbox := { m with waiting := [], hasReader := false }

end Mailbox

/-- Whom a notification is for. -/
inductive Target where
  | connection (id : ConnectionId)
  | all
  deriving DecidableEq, Repr

/-- A message under a topic. -/
structure TopicMessage where
  topic : String
  payload : String
  deriving DecidableEq, Repr

/-- All live connections and the mailboxes. -/
structure Hub where
  connections : SortedMap ConnectionId Connection := ∅
  mailboxes : SortedMap ConnectionId Mailbox := ∅
  ids : Sequence := .startingAt 1
  auth : Config.AuthSettings := {}

namespace Hub

instance : Inhabited Hub := ⟨{}⟩

/-- Makes a connection record.  A mailbox holds at least one message. -/
def register (h : Hub) (kind : TransportKind) (sink : Sink) (capacity : Nat) :
    ConnectionId × Hub :=
  let (id, ids) := h.ids.next
  let mailboxes := match sink with
    | .mailbox => h.mailboxes.insert id ⟨max capacity 1, [], true⟩
    | _ => h.mailboxes
  (id, { h with ids, mailboxes, connections := h.connections.insert id { kind, sink } })

/-- Whether a connection lives. -/
def contains (h : Hub) (id : ConnectionId) : Bool := h.connections.contains id

/-- Drops a connection record; also tells whether it was there. -/
def unregister (h : Hub) (id : ConnectionId) : Bool × Hub :=
  (h.contains id, { h with connections := h.connections.erase id })

/-- The transport of a connection. -/
def kind (h : Hub) (id : ConnectionId) : Except RelayError TransportKind :=
  match h.connections.get? id with
  | some c => .ok c.kind
  | none => .error (.unknownClient id)

/-- Marks a connection whose end somebody waits for; tells whether it lives. -/
def watch (h : Hub) (id : ConnectionId) : Bool × Hub :=
  match h.connections.get? id with
  | some c => (true, { h with connections := h.connections.insert id { c with watched := true } })
  | none => (false, h)

/-- Records who a client is, once, and decides whether it is authorized. -/
def identify (h : Hub) (id : ConnectionId) (identity : ClientIdentity)
    (token : Option String) : Except RelayError ConnectionId × Hub :=
  match h.connections.get? id with
  | none => (.error (.unknownClient id), h)
  | some c =>
    if c.identity.isSome then (.error (.alreadyIdentified id), h)
    else
      let c := { c with
        identity := some identity
        authorized := h.auth.authorizes identity token }
      (.ok id, { h with connections := h.connections.insert id c })

/-- Whether a client has identified itself and is authorized. -/
def isAuthorized (h : Hub) (id : ConnectionId) : Except RelayError Bool :=
  match h.connections.get? id with
  | some c => .ok (c.identity.isSome && c.authorized)
  | none => .error (.unknownClient id)

/-- A connection as clients see it. -/
def connectionJson (id : ConnectionId) (c : Connection) : Json :=
  let text (get : ClientIdentity → String) : Json :=
    match c.identity with
    | some identity => .string (get identity)
    | none => .null
  .ofMembers [("connection_id", .ofNat id.toNat), ("transport", .string c.kind.name),
    ("client_name", text (·.clientName)), ("version", text (·.version)),
    ("client_type", text (·.clientType)), ("authorized", .bool c.authorized)]

/-- All live connections in the order of their ids. -/
def list (h : Hub) : List Json :=
  h.connections.entries.map fun (id, c) => connectionJson id c

/-- Lets go of a mailbox's messages, since its reader is gone. -/
def abandon (h : Hub) (id : ConnectionId) : Hub :=
  match h.mailboxes.get? id with
  | some m => { h with mailboxes := h.mailboxes.insert id m.abandon }
  | none => h

/-- Takes messages out of a mailbox. -/
def take (h : Hub) (id : ConnectionId) (count : Nat) : List String × Hub :=
  match h.mailboxes.get? id with
  | some m =>
    let (texts, m) := m.take count
    (texts, { h with mailboxes := h.mailboxes.insert id m })
  | none => ([], h)

end Hub

end ControlRelay
