import ControlRelay.Relay.State

/-!
# Actions of a relay

The programs that every part of a relay is made of: calling the control process, working on the
registry under its lock, taking a step of the scheduler, and delivering notifications.
-/

namespace ControlRelay

/-- The transport that serves clients by topics. -/
structure TopicService where
  /-- The number under which its end is put down. -/
  service : Nat
  switch : Switch
  /-- The broker it works on. -/
  broker : Nat
  settings : Config.TopicSettings

/-- The connection to the socket of the control process, which is made again after every
loss. -/
structure LinkService where
  service : Nat
  switch : Switch
  /-- Milliseconds between two attempts. -/
  pause : Nat

/-- The handling of events. -/
structure EventService where
  service : Nat
  switch : Switch
  /-- Milliseconds between two attempts to make a subscription that failed. -/
  period : Nat
  /-- Whether the evictions are read here. -/
  readsEvictions : Bool

/-- The programs that go on by name. -/
inductive Routine where
  /-- A load chain at a stage. -/
  | loadChain (epoch : Nat) (stage : LoadStage)
  /-- Handles events and evictions; the next attempt to subscribe is due at `tick`. -/
  | eventLoop (service : EventService) (tick : Nat)
  | wireReader (wire : Nat)
  | wireWriter (wire : Nat)
  /-- Makes the connection. -/
  | linkLoop (service : LinkService)
  /-- Waits for the end of a connection. -/
  | linkWatch (service : LinkService) (wire : Nat)
  /-- Serves the topics as connection `id`, having read up to `position`. -/
  | topicLoop (service : TopicService) (id : ConnectionId) (position : Nat)
  /-- Waits for clients; looks at `time` whether it was switched off. -/
  | listener (service : Nat) (switch : Switch) (time : Nat)
  /-- Puts the reply to a request into the mailbox of its session. -/
  | reply (id : ConnectionId) (text : String)

/-- A part of a process of a relay. -/
abbrev Action (α : Type) : Type := Program Relay Signal Routine α

/-- A process of a relay. -/
abbrev RelayProcess : Type := Process Relay Signal Routine

namespace Lock

/-- Asks for the lock.  Whoever cannot have it at once gets a ticket to wait for. -/
def ask (l : Lock) : Option Nat × Lock :=
  match l.holder with
  | none => (none, { l with holder := some l.nextTicket, nextTicket := l.nextTicket + 1 })
  | some _ =>
    (some l.nextTicket,
      { l with waiting := l.waiting ++ [l.nextTicket], nextTicket := l.nextTicket + 1 })

/-- Hands the lock on to the next who waits, if there is one. -/
def release (l : Lock) : Option Nat × Lock :=
  match l.waiting with
  | [] => (none, { l with holder := none })
  | next :: waiting => (some next, { l with holder := some next, waiting })

end Lock

namespace Action

open Program

/-! ## Calls of the control process -/

/-- Begins a call on the link: gives what was sent and the time when it is given up. -/
def beginCall (r : Relay) (call : Control.Call) (timeout : Nat) :
    Relay × Except LinkError (SentCall × Nat) :=
  let ((link, outputs), begun) := r.link.call call.method call.params fun w => (r.wire w).isWritten
  let r := outputs.foldl Relay.linkOutput { r with link }
  match begun with
  | .error e => (r, .error e)
  | .ok sent =>
    let frame := Frame.encode sent.request.toJson
    let r := r.onWire sent.connection fun w => { w with queue := w.queue ++ [frame] }
    (r.raise (.queued sent.connection), .ok (sent, r.clock + timeout))

/-- Takes the outcome of a call; without one the call is given up. -/
def takeOutcome (r : Relay) (sent : SentCall) : Relay × CallOutcome :=
  match r.outcomes.find? (·.1 = sent.number) with
  | some (_, outcome) => ({ r with outcomes := r.outcomes.filter (·.1 ≠ sent.number) }, outcome)
  | none =>
    ({ r with link := r.link.expire sent.request.id }, .error (.timeout sent.request.method))

/-- Calls the control process on the link, for `timeout` milliseconds at most. -/
def callLink (call : Control.Call) (timeout : Nat) : Action CallOutcome := do
  match ← atomically fun r => beginCall r call timeout with
  | .error e => pure (.error e)
  | .ok (sent, deadline) =>
    await [.answered sent.number] (some deadline)
    atomically fun r => takeOutcome r sent

/-- Begins a call that a script answers: gives its number, and the reply unless it has to
wait. -/
def beginScripted (script : Script) (call : Control.Call) : Script × Nat × Option Reply :=
  let number := script.count + 1
  let replies := (script.replies.get? call.method).getD []
  let script := { script with count := number, calls := script.calls ++ [(number, call)] }
  let script := match replies with
    | _ :: next :: rest => { script with
        replies := script.replies.insert call.method (next :: rest) }
    | _ => script
  match replies.head? with
  | none => (script, number, some (.ok (.ofMembers [])))
  | some (.answer reply) => (script, number, some reply)
  | some .hold => ({ script with held := script.held ++ [number] }, number, none)

/-- Takes the reply to a call that was released. -/
def takeReleased (r : Relay) (number : Nat) : Relay × Reply :=
  match r.script with
  | none => (r, .error .linkDisconnected)
  | some script =>
    match script.released.find? (·.1 = number) with
    | none => (r, .error .linkDisconnected)
    | some (_, reply) =>
      let released := script.released.filter (·.1 ≠ number)
      ({ r with script := some { script with released } }, reply)

/-- Calls the control process. -/
def call (call : Control.Call) : Action Reply := do
  let begun ← atomically fun r =>
    match r.script with
    | none => (r, none)
    | some script =>
      let (script, begun) := beginScripted script call
      ({ r with script := some script }, some begun)
  match begun with
  | none => do
    let timeout ← inspect (·.callTimeout)
    let outcome ← callLink call timeout
    pure (outcome.mapError LinkError.toRelayError)
  | some (_, some reply) => pure reply
  | some (number, none) => do
    await [.released number]
    atomically fun r => takeReleased r number

/-- Carries a dialogue out. -/
def converse {α : Type} : Control.Dialogue α → Action α
  | .done a => pure a
  | .ask c next => do
    let reply ← call c
    converse (next reply)

/-! ## The registry -/

/-- Takes the lock of the registry, when its turn comes. -/
def lockRegistry : Action Unit := do
  let ticket ← atomically fun r =>
    let (ticket, registryLock) := r.registryLock.ask
    ({ r with registryLock }, ticket)
  match ticket with
  | none => pure ()
  | some ticket => await [.granted ticket]

/-- The relay after the lock of the registry was handed on. -/
def unlocked (r : Relay) : Relay :=
  let (next, registryLock) := r.registryLock.release
  let r := { r with registryLock }
  match next with
  | none => r
  | some ticket => r.raise (.granted ticket)

/-- Works on the registry as a whole, calls of the control process included. -/
def withRegistry {α : Type} (f : Registry → Control.Dialogue (Registry × α)) : Action α := do
  lockRegistry
  let dialogue ← inspect fun r => f r.registry
  let (registry, a) ← converse dialogue
  update fun r => unlocked { r with registry }
  pure a

/-- Subscribes. -/
def subscribe (who : Subscriber) (objects : Json) : Action (Except RelayError Snapshot) :=
  match parseSubscription objects with
  | .error e => pure (.error (.invalidInterest e))
  | .ok changes => withRegistry fun registry => registry.subscribe who changes

/-- Answers a request for objects without any subscription; the registry is free again while
the control process is asked for what the cache does not give. -/
def answerQuery (request : Except InterestError Interest) :
    Action (Except RelayError Snapshot) :=
  match request with
  | .error e => pure (.error (.invalidInterest e))
  | .ok request => do
    let part ← withRegistry fun registry => pure (registry, registry.cachedPart request)
    converse part.complete

/-- Answers a query. -/
def query (objects : Json) : Action (Except RelayError Snapshot) :=
  answerQuery (parseQuery objects)

/-- Gives the answer to a subscription without making it. -/
def peek (objects : Json) : Action (Except RelayError Snapshot) :=
  answerQuery ((parseSubscription objects).map InterestChanges.selected)

/-- Drops the interest of a subscriber; tells whether it had any. -/
def removeSubscriber (who : Subscriber) : Action Bool :=
  withRegistry fun registry => registry.remove who

/-- Takes in a push; gives the parts of the subscribers. -/
def pushStatus (status : Fields) (eventtime : Float) : Action (List (Subscriber × Fields)) :=
  withRegistry fun registry => pure (registry.push status eventtime)

/-- Tells the registry of a change of the control process. -/
def registryControlChanged (status : ControlStatus) : Action Unit :=
  withRegistry fun registry => do
    let registry ← registry.controlChanged status
    pure (registry, ())

/-- Tries a failed subscription again; tells whether all is well after it. -/
def resync : Action Bool := withRegistry Registry.resync

/-! ## The scheduler -/

/-- The epoch of a load chain to launch. -/
def launched? : SchedulerEffect → Option Nat
  | .launch epoch => some epoch
  | _ => none

/-- Takes a step of the scheduler and does what it asks for. -/
def schedule {α : Type} (f : Relay → Scheduler.Step × α) : Action α := do
  let (epochs, a) ← atomically fun r =>
    let ((scheduler, effects), a) := f r
    (effects.foldl Relay.carryOut { r with scheduler }, effects.filterMap launched?, a)
  epochs.forM fun epoch => launch (.loadChain epoch .asking)
  pure a

/-- Takes a step of the scheduler. -/
def scheduleStep (f : Scheduler → Scheduler.Step) : Action Unit :=
  schedule fun r => (f r.scheduler, ())

/-- Takes a step of the scheduler that a client asked for, and reports the queue after it. -/
def scheduleRequest (f : Scheduler → Float → Except RelayError Scheduler.Step) :
    Action (Except RelayError Json) :=
  schedule fun r =>
    match f r.scheduler r.timeOfDay with
    | .error e => ((r.scheduler, []), .error e)
    | .ok step => (step, .ok (step.1.report r.timeOfDay))

/-- What a load chain does at a stage, and the stage after it. -/
def loadChain (epoch : Nat) (stage : LoadStage) : Action (Option Routine) := do
  let settings ← inspect (·.jobs)
  match stage.action settings with
  | .stop => pure none
  | .proceed next => pure (some (.loadChain epoch next))
  | .call c => do
    let reply ← call c
    pure (some (.loadChain epoch (stage.answered reply)))
  | .wait nanos => do
    let now ← inspect (·.clock)
    await [] (some (now + (nanos + 999999) / 1000000))
    pure (some (.loadChain epoch stage.elapsed))
  | .step => do
    let next ← schedule fun r => r.scheduler.chainStep settings epoch stage
    pure (some (.loadChain epoch next))

/-! ## Delivery and connections -/

/-- Delivers a notification and drops the interest of the connections that were evicted. -/
def deliver (target : Target) (note : Rpc.Notification) : Action Unit := do
  let evicted ← atomically fun r =>
    let (evicted, r) := r.deliver target note
    (r, evicted)
  evicted.forM fun id => do
    let _ ← removeSubscriber (.connection id)

/-- Makes a connection. -/
def connect (kind : TransportKind) (sink : Sink) (capacity : Nat) : Action ConnectionId :=
  atomically fun r =>
    let (id, hub) := r.hub.register kind sink capacity
    ({ r with hub }, id)

/-- Ends a connection and drops all of its interest. -/
def disconnect (id : ConnectionId) : Action Unit := do
  update (·.unregister id)
  let _ ← removeSubscriber (.connection id)

end Action

end ControlRelay
