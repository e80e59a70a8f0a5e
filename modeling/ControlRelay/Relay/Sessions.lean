import ControlRelay.Relay.Requests

/-!
# Sessions and exchanges

A duplex session puts the responses to its requests into the mailbox that its notifications go
to as well, so its client gets both in the order of the mailbox.  Every request is carried out
by a process of its own.  An HTTP exchange is a connection of its own that lives only while its
request is carried out.
-/

namespace ControlRelay.Action

open Program

/-- Opens a session whose mailbox holds `capacity` messages. -/
def openSession (capacity : Nat) : Action ConnectionId := do
  let id ← connect .duplex .mailbox capacity
  update fun r => { r with hub := (r.hub.watch id).2 }
  pure id

/-- Puts a reply into the mailbox of a session as soon as there is room.  The reply to a session
that has ended is dropped. -/
def reply (id : ConnectionId) (text : String) : Action (Option Routine) := do
  let waits ← atomically fun r =>
    match r.hub.mailboxes.get? id with
    | some m =>
      if !r.hub.contains id || !m.hasReader then (r, false)
      else
        match m.put? text with
        | some m =>
          let hub := { r.hub with mailboxes := r.hub.mailboxes.insert id m }
          ({ r with hub }.raise (.mail id), false)
        | none => (r, true)
    | none => (r, false)
  if waits then
    await [.room id, .gone id]
    pure (some (.reply id text))
  else pure none

/-- Takes a text message of a session's client. -/
def receiveText (id : ConnectionId) (text : String) : Action Unit :=
  fork (submitText id text fun
    | some response => .enter (.reply id response.text)
    | none => .done)

/-- Takes the next message for a session's client. -/
def takeMessage (id : ConnectionId) : Action (Option String) :=
  atomically fun r =>
    let (texts, hub) := r.hub.take id 1
    ({ r with hub }.raise (.room id), texts.head?)

/-- Ends a session. -/
def closeSession (id : ConnectionId) : Action Unit := disconnect id

/-- The path at which requests are taken over HTTP. -/
def httpPath : String := "/server/jsonrpc"

/-- The longest body in bytes. -/
def httpBodyLimit : Nat := 2 * 1024 * 1024

/-- The path of a request target, without query and fragment. -/
def pathOf (target : String) : String :=
  String.ofList (target.toList.takeWhile fun c => c != '?' && c != '#')

/-- The text of an HTTP request for the relay, or the status that refuses it. -/
def httpText (method target : String) (body : List UInt8) : Except Nat String :=
  if pathOf target ≠ httpPath then .error 404
  else if method ≠ "POST" then .error 405
  else if httpBodyLimit < body.length then .error 413
  else
    match String.fromUTF8? ⟨body.toArray⟩ with
    | some text => .ok text
    | none => .error 400

/-- Carries out an HTTP request; gives the status and the body of the answer. -/
def exchange (method target : String) (body : List UInt8) : Action (Nat × Option Json) :=
  match httpText method target body with
  | .error status => pure (status, none)
  | .ok text =>
    match Rpc.parseRequest text with
    | .error refusal => pure (200, some refusal.toJson)
    | .ok request => do
      let id ← connect .requestResponse .detached 0
      let response ← submit id request
      disconnect id
      match response with
      | some response => pure (200, some response.toJson)
      | none => pure (204, none)

end ControlRelay.Action
