import ControlRelay.Relay.Action

/-!
# Requests of clients

`Action.submit` carries out a request for a connection, whatever transport it came by, and gives
the response to a request that has an id.
-/

namespace ControlRelay.Action

open Program

/-- The `objects` of the parameters. -/
def objectsParam (params : Json) : Except RelayError Json :=
  match params.get? "objects" with
  | some objects => .ok objects
  | none => .error (.invalidParams "missing 'objects'")

/-- A list of strings among the parameters. -/
def stringsParam (params : Json) (name : String) : Except RelayError (List String) :=
  match ((params.get? name).bind Json.items?).bind fun items => items.mapM Json.string? with
  | some strings => .ok strings
  | none => .error (.invalidParams ("'" ++ name ++ "' must be a list of strings"))

/-- The job a parameter names. -/
def jobIdOf (text : String) : Except RelayError JobId :=
  match JobId.ofText? text with
  | some id => .ok id
  | none => .error (.invalidParams (JobId.invalidMessage text))

/-- The jobs that a request wants deleted. -/
def selectionParam (params : Json) : Except RelayError Scheduler.Selection := do
  if (params.get? "all").bind Json.bool? = some true then pure none
  else
    let texts ← stringsParam params "job_ids"
    pure (some (← texts.mapM jobIdOf))

/-- The job that a request is about. -/
def jobParam (params : Json) : Except RelayError JobId :=
  match params.getString? "job_id" with
  | some text => jobIdOf text
  | none => .error (.invalidParams "missing 'job_id'")

/-- Who a client says it is, and the token it presents. -/
def identityParam (params : Json) : Except RelayError (ClientIdentity × Option String) :=
  match params.getString? "client_name" with
  | none => .error (.invalidParams "missing 'client_name'")
  | some clientName =>
    .ok ({
      clientName
      version := (params.getString? "version").getD ""
      clientType := (params.getString? "type").getD ""
      url := params.getString? "url" }, params.getString? "access_token")

/-- The answer that names a connection. -/
def connectionAnswer (id : ConnectionId) : Json :=
  .ofMembers [("connection_id", .ofNat id.toNat)]

/-- The answer that carries a snapshot. -/
def snapshotAnswer (answer : Except RelayError Snapshot) : Except RelayError Json :=
  answer.map Snapshot.toJson

/-- Succeeds for clients that are authorized. -/
def requireAuthorized (hub : Hub) (id : ConnectionId) : Except RelayError Unit := do
  if ← hub.isAuthorized id then pure () else .error .unauthorized

/-- Subscribes a connection that can be pushed to; any other gets the values only.  A
connection that has ended in the meantime keeps no interest. -/
def subscribeFor (id : ConnectionId) (kind : TransportKind) (objects : Json) :
    Action (Except RelayError Json) := do
  if kind.supportsPush then
    let answer ← subscribe (.connection id) objects
    if ← inspect (·.hub.contains id) then pure (snapshotAnswer answer)
    else
      let _ ← removeSubscriber (.connection id)
      pure (.error (.unknownClient id))
  else
    let answer ← peek objects
    pure (snapshotAnswer answer)

/-- Drops the interest of a connection: its own, or that of another if it is authorized. -/
def unsubscribe (id : ConnectionId) (params : Json) : Action (Except RelayError Json) := do
  let target : Except RelayError ConnectionId := match params.get? "connection_id" with
    | none => .ok id
    | some .null => .ok id
    | some v =>
      match v.nat? with
      | some n => .ok n
      | none => .error (.invalidParams "'connection_id' must be an integer")
  match target with
  | .error e => pure (.error e)
  | .ok target => do
    let allowed ← inspect fun r => do
      if target = id then pure ()
      else
        requireAuthorized r.hub id
        if r.hub.contains target then pure () else .error (.unknownClient target)
    match allowed with
    | .error e => pure (.error e)
    | .ok () => do
      let _ ← removeSubscriber (.connection target)
      pure (.ok (connectionAnswer target))

/-- A scheduler request with a parameter that may be refused. -/
def withParam {α : Type} (param : Except RelayError α)
    (f : α → Action (Except RelayError Json)) : Action (Except RelayError Json) :=
  match param with
  | .error e => pure (.error e)
  | .ok a => f a

/-- Carries out a method for a connection of the given kind. -/
def dispatchTo (id : ConnectionId) (kind : TransportKind) (method : String) (params : Json) :
    Action (Except RelayError Json) :=
  match method with
  | "objects.list" => converse Registry.listObjects
  | "objects.query" =>
    withParam (objectsParam params) fun objects => do
      let answer ← query objects
      pure (snapshotAnswer answer)
  | "objects.subscribe" => withParam (objectsParam params) (subscribeFor id kind)
  | "objects.unsubscribe" => unsubscribe id params
  | "connection.identify" =>
    withParam (identityParam params) fun (identity, token) => do
      let outcome ← atomically fun r =>
        let (outcome, hub) := r.hub.identify id identity token
        ({ r with hub }, outcome)
      pure (outcome.map connectionAnswer)
  | "connection.list" =>
    inspect fun r => do
      requireAuthorized r.hub id
      pure (.array r.hub.list)
  | "job_queue.status" => scheduleRequest fun s _ => .ok (s, [])
  | "job_queue.enqueue" =>
    withParam (stringsParam params "filenames") fun filenames =>
      let reset := ((params.get? "reset").bind Json.bool?).getD false
      scheduleRequest fun s now => s.enqueue filenames reset now
  | "job_queue.remove" =>
    withParam (selectionParam params) fun selection =>
      scheduleRequest fun s _ => .ok (s.remove selection)
  | "job_queue.pause" => scheduleRequest fun s _ => .ok s.pause
  | "job_queue.start" => scheduleRequest fun s _ => s.start
  | "job_queue.jump" =>
    withParam (jobParam params) fun job => scheduleRequest fun s _ => s.jump job
  | other => pure (.error (.methodNotFound other))

/-- Carries out a method for a connection. -/
def dispatch (id : ConnectionId) (method : String) (params : Json) :
    Action (Except RelayError Json) := do
  match ← inspect fun r => r.hub.kind id with
  | .error e => pure (.error e)
  | .ok kind => dispatchTo id kind method params

/-- Carries out a request; a request without an id gets no response. -/
def submit (id : ConnectionId) (request : Rpc.Request) : Action (Option Rpc.Response) := do
  let outcome ← dispatch id request.method request.params
  pure (request.id.map fun replyId =>
    match outcome with
    | .ok result => .success replyId result
    | .error e => .failure replyId e.body)

/-- Carries out the request in a text, or refuses it. -/
def submitText (id : ConnectionId) (text : String) : Action (Option Rpc.Response) :=
  match Rpc.parseRequest text with
  | .error refusal => pure (some refusal)
  | .ok request => submit id request

end ControlRelay.Action
