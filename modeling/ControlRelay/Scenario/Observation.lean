import ControlRelay.Scenario.Basic

/-!
# Observations

What can be seen of a scenario from outside: answers, calls, messages, reports of the link and
the ends of connections.  Whatever is seen once is not seen again.
-/

namespace ControlRelay

/-- What was not seen before. -/
structure Observation where
  /-- Operations that have ended. -/
  answers : List (Nat × Answer)
  /-- Calls that a script has got. -/
  calls : List (Nat × Control.Call)
  /-- Frames that the peers have got, by the number of the peer. -/
  frames : List (Nat × Frame)
  /-- Messages of the clients that take them at once. -/
  messages : List (ConnectionId × List String)
  /-- Messages for the topic connections made from outside. -/
  topicMessages : List (ConnectionId × List TopicMessage)
  /-- What the topic transport's broker carried, requests left out. -/
  topicOutput : List Received
  closed : List ConnectionId
  evictions : List ConnectionId
  /-- What the link reported, while no event loop takes it. -/
  events : List ControlEvent

namespace Scenario

/-- All frames that a decoder has. -/
def drain (decoder : Frame.Decoder) : Nat → List Frame × Frame.Decoder
  | 0 => ([], decoder)
  | fuel + 1 =>
    match decoder.next with
    | (none, decoder) => ([], decoder)
    | (some (.error _), decoder) => drain decoder fuel
    | (some (.ok frame), decoder) =>
      let (frames, decoder) := drain decoder fuel
      (frame :: frames, decoder)

/-- The frames that the peers have got. -/
def takeFrames (s : Scenario) : List (Nat × Frame) × Scenario :=
  let taken := s.peers.map fun peer =>
    let sent := (s.relay.wire peer.wire).sent
    let (frames, decoder) := drain (peer.decoder.extend sent) (sent.length + 1)
    (frames, { peer with decoder })
  let s := s.update fun r =>
    s.peers.foldl (fun r peer => r.onWire peer.wire fun w => { w with sent := [] }) r
  (taken.zipIdx.flatMap fun ((frames, _), i) => frames.map (i, ·),
    { s with peers := taken.map (·.2) })

/-- The messages of the clients that take them at once. -/
def takeMessages (s : Scenario) : List (ConnectionId × List String) × Scenario :=
  let ids := s.relay.hub.mailboxes.keys.filter fun id => !s.manual.contains id
  ids.foldl (fun (taken, s) id =>
    match s.relay.hub.mailboxes.get? id with
    | some m =>
      if m.waiting.isEmpty then (taken, s)
      else
        let (texts, s) := s.read id m.waiting.length
        (taken ++ [(id, texts)], s)
    | none => (taken, s)) ([], s)

/-- The messages for the topic connections made from outside that take them at once. -/
def takeTopicMessages (s : Scenario) : List (ConnectionId × List TopicMessage) × Scenario :=
  let taken := s.topicClients.map fun (id, receiver) =>
    if s.manual.contains id then ((id, []), (id, receiver))
    else
      let (received, position) :=
        (s.relay.topics.getD receiver.broker default).receiveAll receiver.position
      ((id, messagesOf received), (id, { receiver with position }))
  ((taken.map (·.1)).filter fun (_, messages) => !messages.isEmpty,
    { s with topicClients := taken.map (·.2) })

/-- What the broker of the topic transport carried, requests left out. -/
def takeTopicOutput (s : Scenario) : List Received × Scenario :=
  match s.listener with
  | none => ([], s)
  | some (receiver, request) =>
    let (received, position) :=
      (s.relay.topics.getD receiver.broker default).receiveAll receiver.position
    (received.filter fun
        | .message message => message.topic != request
        | .lagged _ => true,
      { s with listener := some ({ receiver with position }, request) })

/-- The ends of connections, in the order of their ids. -/
def sorted (ids : List ConnectionId) : List ConnectionId := ids.mergeSort fun a b => a ≤ b

/-- What was not seen before. -/
def observe (s : Scenario) : Observation × Scenario :=
  let (frames, s) := s.takeFrames
  let (messages, s) := s.takeMessages
  let (topicMessages, s) := s.takeTopicMessages
  let (topicOutput, s) := s.takeTopicOutput
  let r := s.relay
  let calls := (r.script.map (·.calls)).getD []
  let evictions := if s.readsEvictions then sorted r.evictions.items else []
  let events := if r.script.isSome || s.eventService.isSome then [] else r.events.items
  let s := s.update fun r =>
    let r := { r with
      answers := []
      closed := []
      script := r.script.map fun script => { script with calls := [] } }
    let r := if s.readsEvictions then
      { r with evictions := { r.evictions with items := [] } } else r
    if s.eventService.isSome then r else { r with events := { r.events with items := [] } }
  ({ answers := r.answers, calls, frames, messages, topicMessages, topicOutput, events
     closed := sorted r.closed, evictions }, s)

end Scenario

end ControlRelay
