import ControlRelay.Relay.Events
import ControlRelay.Relay.Sessions
import ControlRelay.Relay.Topics

/-!
# Services

A relay serves its clients until it is switched off: it connects to the control process, handles
events, serves the topics if it is asked to, and listens for WebSocket and HTTP clients.  A
listener that cannot be bound stops everything else.  `Routine.process` says what each named
program is.
-/

namespace ControlRelay.Action

open Program

/-- One turn of a listener. -/
def listener (service : Nat) (switch : Switch) (time : Nat) : Action (Option Routine) := do
  await [] (some time)
  if ← inspect (·.isRunning switch) then
    pure (some (.listener service switch (time + pollInterval)))
  else
    update (·.finish service (.ok ()))
    pure none

/-- Which listener: for WebSocket clients or for HTTP clients. -/
inductive ListenerKind where
  | webSocket
  | http
  deriving DecidableEq, Repr

/-- The name of the kind in messages. -/
def ListenerKind.name : ListenerKind → String
  | webSocket => "WebSocket"
  | http => "HTTP"

/-- Why a listener cannot be bound. -/
def ListenerKind.bindFailure (k : ListenerKind) : String :=
  "failed to bind " ++ k.name ++ " listener"

/-- Starts a listener; if its port is taken it fails.  Tells whether it was bound. -/
def listen (kind : ListenerKind) (service : Nat) (switch : Switch) (isTaken : Bool) :
    Action Bool := do
  if isTaken then
    update (·.finish service (.error kind.bindFailure))
    pure false
  else
    let (isOn, now) ← inspect fun r => (r.isRunning switch, r.clock)
    if isOn then launch (.listener service switch (now + pollInterval))
    else update (·.finish service (.ok ()))
    pure true

/-- Waits for the end of a service. -/
def awaitEnd (service : Nat) : Action ServiceOutcome := do
  match ← inspect (·.outcome? service) with
  | some outcome => pure outcome
  | none => do
    await [.ended service]
    inspect fun r => (r.outcome? service).getD (.ok ())

/-- Registers the interest of the scheduler. -/
def registerScheduler : Action Unit := do
  let _ ← subscribe .scheduler Scheduler.interest

/-- The process that goes on with the program an action comes to, if any. -/
def continue? (a : Action (Option Routine)) : RelayProcess :=
  a fun
    | some routine => .enter routine
    | none => .done

/-- The relay with new parts made from settings; the time, the sockets and the files stay. -/
def configured (settings : Config.Settings) (r : Relay) : Relay :=
  let store := match settings.jobs.queueFile, r.store with
    | some path, .file _ files => QueueStore.file ⟨path⟩ files
    | some path, _ => .file ⟨path⟩ {}
    | none, _ => .memory none true true
  { r with
    jobs := settings.jobs
    callTimeout := settings.control.callTimeout * 1000
    hub := { auth := settings.auth }
    registry := {}
    registryLock := {}
    scheduler := .restored settings.jobs store.restore
    store := store
    link := {}
    script := none
    events := {}
    evictions := {}
    evictionsTaken := false }

/-- The capacity of the topic broker of a relay. -/
def topicCapacity : Nat := 1024

/-- The addresses a relay listens on, or why there are none. -/
def checkAddresses (server : Config.ServerSettings) : ServiceOutcome := do
  let _ ← (server.wsAddress).mapError fun e => "invalid WebSocket address: " ++ e.message
  let _ ← (server.httpAddress).mapError fun e => "invalid HTTP address: " ++ e.message
  pure ()

/-- Starts to listen as a part of a relay; if that fails the relay is switched off. -/
def listenForRelay (kind : ListenerKind) (service : Nat) (isTaken : Bool) : Action Unit := do
  if ← listen kind service .relay isTaken then pure ()
  else update (·.switchOff .relay)

/-- Runs a relay until it is switched off.  Its own end is put down under `service`, the ends of
its parts under the numbers after it. -/
def runRelay (settings : Config.Settings) (service : Nat) (wsTaken httpTaken : Bool) :
    Action Unit := do
  match checkAddresses settings.server with
  | .error e => update (·.finish service (.error e))
  | .ok () => do
    let broker ← atomically fun r =>
      let r := configured settings r
      ({ r with topics := r.topics ++ [.ofCapacity topicCapacity] }, r.topics.length)
    registerScheduler
    launch (.linkLoop ⟨service + 1, .relay, settings.control.reconnectInterval * 1000⟩)
    fork (continue? (runEvents (service + 2) .relay (settings.control.resyncInterval * 1000)))
    if settings.topic.enabled then
      fork (continue? (runTopics ⟨service + 3, .relay, broker, settings.topic⟩))
    listenForRelay .webSocket (service + 4) wsTaken
    listenForRelay .http (service + 5) httpTaken
    let ws ← awaitEnd (service + 4)
    let http ← awaitEnd (service + 5)
    update (·.switchOff .relay)
    let _ ← awaitEnd (service + 1)
    let _ ← awaitEnd (service + 2)
    if settings.topic.enabled then
      let _ ← awaitEnd (service + 3)
    update (·.finish service (match ws with
      | .error e => .error e
      | .ok () => http))

end ControlRelay.Action

namespace ControlRelay

/-- What a named program is. -/
def Routine.process : Routine → RelayProcess
  | loadChain epoch stage => Action.continue? (Action.loadChain epoch stage)
  | eventLoop service tick => Action.continue? (Action.eventLoop service tick)
  | wireReader k => Action.continue? (Action.wireReader k)
  | wireWriter k => Action.continue? (Action.wireWriter k)
  | linkLoop service => Action.continue? (Action.linkLoop service)
  | linkWatch service k => Action.continue? (Action.linkWatch service k)
  | topicLoop service id position => Action.continue? (Action.topicLoop service id position)
  | listener service switch time => Action.continue? (Action.listener service switch time)
  | reply id text => Action.continue? (Action.reply id text)

/-- How a machine works on a relay. -/
def relayInterface : MachineInterface Relay Signal Routine where
  takeSignals := Relay.takeSignals
  clock := (·.clock)
  setClock t r := { r with clock := t }
  body := Routine.process

end ControlRelay
