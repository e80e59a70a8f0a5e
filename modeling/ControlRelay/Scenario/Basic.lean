import ControlRelay.Relay.Services

/-!
# Scenarios

A `Scenario` is a relay together with what surrounds it: the other ends of the wires to the
control process, the receivers of the clients, and a clock that moves only when it is told to.
Whatever is done to it, all processes run until each of them waits; `Scenario.observe` then
gives what can be seen from outside and has not been seen before.
-/

namespace ControlRelay

/-- The other end of a wire. -/
structure Peer where
  wire : Nat
  decoder : Frame.Decoder := default

/-- A receiver of the messages of a topic broker. -/
structure TopicReceiver where
  broker : Nat
  position : Nat

/-- A relay and its surroundings. -/
structure Scenario where
  machine : Machine Relay Signal Routine
  /-- The other ends of wires, in the order in which they were made or accepted. -/
  peers : List Peer := []
  /-- Clients that take their messages only when told to. -/
  manual : List ConnectionId := []
  /-- Receivers for the topic connections made from outside. -/
  topicClients : List (ConnectionId × TopicReceiver) := []
  /-- A receiver on the broker of the topic transport, and the topic of requests there. -/
  listener : Option (TopicReceiver × String) := none
  /-- The number for the next service. -/
  nextService : Nat := 0
  eventService : Option Nat := none
  topicService : Option Nat := none
  linkService : Option Nat := none
  wsService : Option Nat := none
  httpService : Option Nat := none
  relayService : Option Nat := none
  /-- Whether evictions are read from outside. -/
  readsEvictions : Bool := false
  /-- Whether events can be sent to the event loop from outside. -/
  sendsEvents : Bool := false

namespace Scenario

/-- A bound for the steps between two moments at which all processes wait. -/
def fuel : Nat := 1000000000

/-- A scenario that begins with this relay. -/
def ofRelay (relay : Relay) : Scenario := { machine := { state := relay } }

instance : Inhabited Scenario := ⟨ofRelay default⟩

/-- The relay as it is now. -/
def relay (s : Scenario) : Relay := s.machine.state

/-- Runs all processes until each of them waits. -/
def run (s : Scenario) : Scenario :=
  { s with machine := s.machine.runAll relayInterface fuel }

/-- Does something to the relay at once. -/
def change {α : Type} (s : Scenario) (f : Relay → Relay × α) : α × Scenario :=
  let (state, a) := f s.machine.state
  (a, { s with machine := { s.machine with state }.settle relayInterface })

/-- Changes the relay. -/
def update (s : Scenario) (f : Relay → Relay) : Scenario := (s.change fun r => (f r, ())).2

/-- Starts a process. -/
def start (s : Scenario) (p : RelayProcess) : Scenario := { s with machine := s.machine.start p }

/-- Starts an operation whose answer is put down under its number. -/
def operate (s : Scenario) (operation : Nat) (a : Action Answer) : Scenario :=
  s.start (Program.process do
    let answer ← a
    Program.update (·.answer operation answer))

/-- Lets time pass. -/
def advance (s : Scenario) (millis : Nat) : Scenario :=
  { s with machine :=
      s.machine.advance relayInterface (s.relay.clock + millis) fuel }.run

/-! ## The control process -/

/-- Sets the replies that are prepared for a method. -/
def setReplies (s : Scenario) (method : String) (replies : List ScriptedReply) : Scenario :=
  s.update fun r =>
    { r with script := r.script.map fun script =>
        { script with replies := script.replies.insert method replies } }

/-- Releases a call that waits; tells whether it waited. -/
def release (s : Scenario) (call : Nat) (reply : Reply) : Bool × Scenario :=
  s.change fun r =>
    match r.script with
    | none => (r, false)
    | some script =>
      if script.held.contains call then
        ({ r with script := some { script with
            held := script.held.filter (· ≠ call)
            released := (call, reply) :: script.released } }.raise (.released call), true)
      else (r, false)

/-- A new wire, which is attached to the link. -/
def attach (s : Scenario) : Scenario :=
  let (k, s) := s.change fun r => ({ r with wires := r.wires ++ [default] }, r.wires.length)
  let peer : Peer := { wire := k }
  { s with peers := s.peers ++ [peer] }.start (Action.attach k).process

/-- The wire of a peer, of the last one if none is named. -/
def wireOf? (s : Scenario) (peer : Option Nat) : Option Nat :=
  (s.peers[peer.getD (s.peers.length - 1)]?).map (·.wire)

/-- A peer sends bytes; tells whether it could. -/
def send (s : Scenario) (peer : Option Nat) (bytes : List UInt8) : Bool × Scenario :=
  match s.wireOf? peer with
  | none => (false, s)
  | some k =>
    s.change fun r =>
      let w := r.wire k
      if w.isEnded || !w.isHeld then (r, false)
      else ((r.onWire k (·.arrive bytes)).raise (.arrived k), true)

/-- A peer closes its wire. -/
def close (s : Scenario) (peer : Option Nat) : Scenario :=
  match s.wireOf? peer with
  | none => s
  | some k => s.update fun r => (r.onWire k (·.close)).raise (.arrived k)

/-- A peer takes no more bytes. -/
def refuseWrites (s : Scenario) (peer : Option Nat) : Scenario :=
  match s.wireOf? peer with
  | none => s
  | some k => s.update fun r => r.onWire k fun w => { w with takesBytes := false }

/-- The control process starts to listen on its socket. -/
def openSocket (s : Scenario) : Scenario := s.update fun r => { r with isListening := true }

/-- The control process stops to listen; connections it has not accepted are closed. -/
def closeSocket (s : Scenario) : Scenario :=
  s.update fun r =>
    r.backlog.foldl (fun r k => (r.onWire k (·.close)).raise (.arrived k))
      { r with isListening := false, backlog := [] }

/-- The control process accepts a connection; tells whether there was one. -/
def accept (s : Scenario) : Bool × Scenario :=
  match s.relay.backlog with
  | [] => (false, s)
  | k :: backlog =>
    (true, { s.update (fun r => { r with backlog }) with peers := s.peers ++ [{ wire := k }] })

/-! ## Clients -/

/-- How the messages for a client get there. -/
inductive SinkChoice where
  | queue
  | detached
  | topic
  deriving DecidableEq, Repr

/-- The way that suits a transport. -/
def SinkChoice.suiting : TransportKind → SinkChoice
  | .duplex => queue
  | .requestResponse => detached
  | .topic => topic

/-- The names of the topics for clients made from outside. -/
def clientTopics : TopicNames := .ofInstance "t"

/-- How many messages a broker for clients made from outside keeps. -/
def clientTopicCapacity : Nat := UInt32.size

/-- Makes a connection. -/
def connect (s : Scenario) (kind : TransportKind) (choice : SinkChoice) (capacity : Nat) :
    ConnectionId × Scenario :=
  match choice with
  | .queue => s.change fun r => register r .mailbox
  | .detached => s.change fun r => register r .detached
  | .topic =>
    let number := s.relay.topics.length
    let (id, s) := s.change fun r =>
      let broker : TopicBroker := { size := clientTopicCapacity }
      register { r with topics := r.topics ++ [broker] } (.topics number clientTopics.notification
        clientTopics.status)
    (id, { s with topicClients := s.topicClients ++ [(id, ⟨number, 0⟩)] })
where
  /-- Makes a connection record. -/
  register (r : Relay) (sink : Sink) : Relay × ConnectionId :=
    let (id, hub) := r.hub.register kind sink capacity
    ({ r with hub }, id)

/-- Waits for the end of a connection; tells whether it lives. -/
def watch (s : Scenario) (id : ConnectionId) : Bool × Scenario :=
  s.change fun r =>
    let (lives, hub) := r.hub.watch id
    ({ r with hub }, lives)

/-- Takes messages of a client. -/
def read (s : Scenario) (id : ConnectionId) (count : Nat) : List String × Scenario :=
  s.change fun r =>
    let (texts, hub) := r.hub.take id count
    ({ r with hub }.raise (.room id), texts)

/-- The messages under topics that were received. -/
def messagesOf (received : List Received) : List TopicMessage :=
  received.filterMap fun
    | .message message => some message
    | .lagged _ => none

/-- Takes messages for a topic connection made from outside. -/
def readTopics (s : Scenario) (id : ConnectionId) (count : Nat) : List TopicMessage × Scenario :=
  match s.topicClients.find? (·.1 = id) with
  | none => ([], s)
  | some (_, receiver) =>
    let (received, position) :=
      (s.relay.topics.getD receiver.broker default).receiveSome count receiver.position
    let topicClients := s.topicClients.map fun (other, r) =>
      (other, if other = id then { receiver with position } else r)
    (messagesOf received, { s with topicClients })

/-- A client stops taking messages. -/
def dropReceiver (s : Scenario) (id : ConnectionId) : Scenario :=
  let s := { s with topicClients := s.topicClients.filter (·.1 ≠ id) }
  s.update fun r => { r with hub := r.hub.abandon id }.raise (.room id)

/-- Delivers a notification a number of times; gives the connections that were evicted. -/
def deliver (s : Scenario) (target : Target) (note : Rpc.Notification) :
    Nat → List ConnectionId × Scenario
  | 0 => ([], s)
  | times + 1 =>
    let (evicted, s) := s.change fun r =>
      let (evicted, r) := r.deliver target note
      (r, evicted)
    let (more, s) := s.deliver target note times
    (evicted ++ more, s)

/-- Begins to read evictions from outside, unless they are read already. -/
def takeEvictions (s : Scenario) : Bool × Scenario :=
  let (first, s) := s.change fun r => ({ r with evictionsTaken := true }, !r.evictionsTaken)
  (first, { s with readsEvictions := s.readsEvictions || first })

/-! ## Services -/

/-- Starts the event loop. -/
def runEvents (s : Scenario) (period : Nat) : Scenario :=
  let s := s.update fun r => r.switchOn .events
  { s with
    nextService := s.nextService + 1
    eventService := some s.nextService
    sendsEvents := s.relay.script.isSome }.start
      (Action.continue? (Action.runEvents s.nextService .events period))

/-- Sends an event to the event loop; tells whether it could. -/
def sendEvent (s : Scenario) (event : ControlEvent) : Bool × Scenario :=
  s.change fun r =>
    if r.events.hasReader then
      ({ r with events := { r.events with items := r.events.items ++ [event] } }.raise .events,
        true)
    else (r, false)

/-- Closes the channel of events from outside: nothing more is sent, or nobody takes what the
link reports. -/
def closeEvents (s : Scenario) : Scenario :=
  if s.sendsEvents then
    { s.update (fun r => { r with events := { r.events with hasSender := false } }.raise .events)
      with sendsEvents := false }
  else s.update fun r => { r with events := { r.events with items := [], hasReader := false } }

/-- Starts the topic transport on a broker of its own. -/
def runTopics (s : Scenario) (settings : Config.TopicSettings) (capacity : Nat) : Scenario :=
  let broker := s.relay.topics.length
  let s := s.update fun r =>
    { r with topics := r.topics ++ [TopicBroker.ofCapacity capacity] }.switchOn .topic
  let names := TopicNames.ofInstance settings.instanceName
  { s with
    nextService := s.nextService + 1
    topicService := some s.nextService
    listener := some (⟨broker, 0⟩, names.request) }.start
      (Action.continue? (Action.runTopics ⟨s.nextService, .topic, broker, settings⟩))

/-- Publishes messages on the broker of the topic transport, as requests if no topic is
named. -/
def publish (s : Scenario) (topic : Option String) (payloads : List String) : Scenario :=
  match s.listener with
  | none => s
  | some (receiver, request) =>
    payloads.foldl (fun s payload =>
      s.update (·.publish receiver.broker ⟨topic.getD request, payload⟩)) s

/-- Starts to connect to the socket of the control process. -/
def runLink (s : Scenario) (pause : Nat) : Scenario :=
  let s := s.update fun r => r.switchOn .link
  { s with nextService := s.nextService + 1, linkService := some s.nextService }.start
    (.enter (.linkLoop ⟨s.nextService, .link, pause⟩))

/-- Starts a listener for clients. -/
def runListener (s : Scenario) (kind : Action.ListenerKind) (isTaken : Bool) : Scenario :=
  let s := s.update fun r => r.switchOn .listeners
  let service := s.nextService
  let s := { s with nextService := service + 1 }
  let s := match kind with
    | .webSocket => { s with wsService := some service }
    | .http => { s with httpService := some service }
  s.start (Program.process do
    let _ ← Action.listen kind service .listeners isTaken)

/-- Starts a whole relay in place of the parts there are. -/
def runRelay (s : Scenario) (settings : Config.Settings) (wsTaken httpTaken : Bool) : Scenario :=
  let s := s.update fun r => r.switchOn .relay
  let service := s.nextService
  { s with nextService := service + 6, relayService := some service }.start
    (Action.runRelay settings service wsTaken httpTaken).process

/-- Switches something off. -/
def switchOff (s : Scenario) (switch : Switch) : Scenario := s.update (·.switchOff switch)

/-- How a service ended, if it has. -/
def outcome? (s : Scenario) (service : Option Nat) : Option ServiceOutcome :=
  service.bind s.relay.outcome?

end Scenario

end ControlRelay
