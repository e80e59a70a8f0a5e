import ControlRelay.Hub.Delivery
import ControlRelay.Link.Wire
import ControlRelay.Process.Machine
import ControlRelay.Queue.Store
import ControlRelay.Registry.Basic
import ControlRelay.Scheduler.LoadChain
import ControlRelay.Scheduler.Report
import ControlRelay.Topic.Broker

/-!
# The state of a relay

Everything that the processes of a relay share: its parts, the channels between them, and the
time.  A relay is connected to its control process by a link; in its place there may be a
script, which answers calls by itself.
-/

namespace ControlRelay

/-- A lock that is handed on in the order in which it was asked for. -/
structure Lock where
  /-- Who has it. -/
  holder : Option Nat := none
  /-- Who waits for it, the next one first. -/
  waiting : List Nat := []
  /-- The number of the next to ask. -/
  nextTicket : Nat := 0
  deriving DecidableEq, Repr

/-- The receiving end of a channel and what waits there. -/
structure Inbox (α : Type) where
  items : List α := []
  /-- Whether somebody can still take the items. -/
  hasReader : Bool := true
  /-- Whether somebody can still send. -/
  hasSender : Bool := true

/-- What a script does with a call. -/
inductive ScriptedReply where
  | answer (reply : Reply)
  /-- It lets the call wait until it is released. -/
  | hold

/-- Answers that were prepared for calls. -/
structure Script where
  /-- The replies to each method; the last one stays. -/
  replies : SortedMap String (List ScriptedReply) := ∅
  /-- How many calls there were. -/
  count : Nat := 0
  /-- The calls that nobody has looked at yet, the oldest first. -/
  calls : List (Nat × Control.Call) := []
  /-- The calls that wait to be released. -/
  held : List Nat := []
  /-- Replies for calls that were released. -/
  released : List (Nat × Reply) := []

/-- What keeps the processes of a kind going. -/
inductive Switch where
  | events
  | topic
  | link
  | listeners
  | relay
  deriving DecidableEq, Repr

/-- What processes wait for. -/
inductive Signal where
  /-- A call on the link has ended. -/
  | answered (call : Nat)
  /-- A call that waited was released. -/
  | released (call : Nat)
  /-- The lock of the registry was handed on. -/
  | granted (ticket : Nat)
  /-- There is an event, or there will be none any more. -/
  | events
  /-- A connection was evicted. -/
  | evicted
  /-- A message was published. -/
  | published (broker : Nat)
  /-- There is a frame to write, or there will be none any more. -/
  | queued (wire : Nat)
  /-- There is something to read. -/
  | arrived (wire : Nat)
  /-- A wire is read no more. -/
  | unread (wire : Nat)
  /-- A service has ended. -/
  | ended (service : Nat)
  /-- There is a message for a session, or there will be none any more. -/
  | mail (id : ConnectionId)
  /-- There may be room in a mailbox. -/
  | room (id : ConnectionId)
  /-- A connection has ended. -/
  | gone (id : ConnectionId)
  deriving DecidableEq, Repr

/-- The answer to an operation that was asked for from outside. -/
inductive Answer where
  | nothing
  | flag (value : Bool)
  | id (id : ConnectionId)
  | value (value : Json)
  /-- What a call of the control process brought. -/
  | called (value : Json)
  | status (status : ControlStatus)
  | parts (parts : List (Subscriber × Fields))
  | http (status : Nat) (body : Option Json)
  | failed (error : RelayError)
  | linkFailed (error : LinkError)

/-- How a service ended. -/
abbrev ServiceOutcome := Except String Unit

/-- The state of a relay. -/
structure Relay where
  jobs : Config.JobSettings := {}
  /-- How many milliseconds a call may take. -/
  callTimeout : Nat := 30000
  hub : Hub := {}
  registry : Registry := {}
  registryLock : Lock := {}
  scheduler : Scheduler := {}
  store : QueueStore := default
  link : Link := {}
  wires : List Wire := []
  /-- Calls on the link that have ended and whose callers have not looked yet. -/
  outcomes : List (Nat × CallOutcome) := []
  script : Option Script := none
  /-- What the control process reported. -/
  events : Inbox ControlEvent := {}
  /-- Connections that were evicted. -/
  evictions : Inbox ConnectionId := {}
  /-- Whether somebody reads the evictions. -/
  evictionsTaken : Bool := false
  topics : List TopicBroker := []
  running : List Switch := []
  /-- The services that have ended. -/
  ended : List (Nat × ServiceOutcome) := []
  /-- Whether the control process listens on its socket. -/
  isListening : Bool := false
  /-- Wires that it has not accepted yet. -/
  backlog : List Nat := []
  /-- Connections whose end was waited for and has come. -/
  closed : List ConnectionId := []
  /-- Operations asked for from outside that have come to an end. -/
  answers : List (Nat × Answer) := []
  /-- Milliseconds since the start. -/
  clock : Nat := 0
  /-- The time of day, in seconds since 1970. -/
  timeOfDay : Float := 0.0
  /-- Signals of the current step, the last one first. -/
  raised : List Signal := []

namespace Relay

instance : Inhabited Relay := ⟨{}⟩

/-- Puts a signal down for whoever waits for it. -/
def raise (r : Relay) (signal : Signal) : Relay := { r with raised := signal :: r.raised }

/-- Takes the signals of the last step. -/
def takeSignals (r : Relay) : List Signal × Relay := (r.raised.reverse, { r with raised := [] })

/-- Whether a switch is on. -/
def isRunning (r : Relay) (switch : Switch) : Bool := r.running.contains switch

/-- Turns a switch on. -/
def switchOn (r : Relay) (switch : Switch) : Relay :=
  { r with running := switch :: r.running.filter (· ≠ switch) }

/-- Turns a switch off. -/
def switchOff (r : Relay) (switch : Switch) : Relay :=
  { r with running := r.running.filter (· ≠ switch) }

/-- How a service ended, if it has. -/
def outcome? (r : Relay) (service : Nat) : Option ServiceOutcome :=
  (r.ended.find? (·.1 = service)).map (·.2)

/-- Puts down the end of a service. -/
def finish (r : Relay) (service : Nat) (outcome : ServiceOutcome) : Relay :=
  { r with ended := (service, outcome) :: r.ended }.raise (.ended service)

/-- Puts down the answer to an operation. -/
def answer (r : Relay) (operation : Nat) (answer : Answer) : Relay :=
  { r with answers := r.answers ++ [(operation, answer)] }

/-- Changes one wire. -/
def onWire (r : Relay) (wire : Nat) (f : Wire → Wire) : Relay :=
  { r with wires := r.wires.modify wire f }

/-- One of the wires. -/
def wire (r : Relay) (wire : Nat) : Wire := r.wires.getD wire {}

/-- Passes on what came out of the link. -/
def linkOutput (r : Relay) : LinkOutput → Relay
  | .outcome number outcome =>
    { r with outcomes := (number, outcome) :: r.outcomes }.raise (.answered number)
  | .event event =>
    if r.events.hasReader then
      { r with events := { r.events with items := r.events.items ++ [event] } }.raise .events
    else r

/-- Takes a step of the link.  If frames are not sent on the same wire any more, the process
that writes there is told. -/
def onLink (r : Relay) (step : Link → Link.Step) : Relay :=
  let (link, outputs) := step r.link
  let before := r.link.writer
  let r := outputs.foldl linkOutput { r with link }
  match before with
  | some wire => if link.writer = before then r else r.raise (.queued wire)
  | none => r

/-- Drops a connection record; whoever waits for its end is told. -/
def unregister (r : Relay) (id : ConnectionId) : Relay :=
  let watched := match r.hub.connections.get? id with
    | some c => c.watched
    | none => false
  let r := { r with hub := (r.hub.unregister id).2 }
  let r := if watched then { r with closed := r.closed ++ [id] } else r
  (r.raise (.mail id)).raise (.gone id)

/-- Publishes a message. -/
def publish (r : Relay) (broker : Nat) (message : TopicMessage) : Relay :=
  { r with topics := r.topics.modify broker (·.publish message) }.raise (.published broker)

/-- Delivers a notification; gives the connections that were evicted, which are reported. -/
def deliver (r : Relay) (target : Target) (note : Rpc.Notification) :
    List ConnectionId × Relay :=
  let d := r.hub.deliver target note
  let recipients := (r.hub.recipients target).map (·.1)
  let watched := d.evicted.filter fun id =>
    match r.hub.connections.get? id with
    | some c => c.watched
    | none => false
  let r := { r with hub := d.hub, closed := r.closed ++ watched }
  let r := recipients.foldl (fun r id => r.raise (.mail id)) r
  let r := d.published.foldl (fun r (broker, message) => r.publish broker message) r
  let r := d.evicted.foldl (fun r id =>
    let r := if r.evictions.hasReader then
      { r with evictions := { r.evictions with items := r.evictions.items ++ [id] } } else r
    (r.raise .evicted).raise (.gone id)) r
  (d.evicted, r)

/-- Carries out what a step of the scheduler asks for, apart from launching load chains. -/
def carryOut (r : Relay) : SchedulerEffect → Relay
  | .store queue => { r with store := (r.store.save queue).2 }
  | .announce event => (r.deliver .all (event.notification r.timeOfDay)).2
  | .launch _ => r

end Relay

end ControlRelay
