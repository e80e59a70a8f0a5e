import ControlRelay.Relay.Connecting
import ControlRelay.Relay.Requests

/-!
# The topic transport

All clients that speak by topics are one connection.  Requests are taken from the request topic
and their responses are published under the response topic; the connection is subscribed to the
objects that the settings name.
-/

namespace ControlRelay.Action

open Program

/-- Subscribes a connection to all attributes of some objects. -/
def subscribeStatically (id : ConnectionId) (objects : List String) :
    Action (Except RelayError Unit) := do
  if objects.isEmpty then pure (.ok ())
  else
    let payload := Json.ofMembers (objects.map fun name => (name, .string allAttributes))
    let answer ← subscribe (.connection id) payload
    pure (answer.map fun _ => ())

/-- Carries out the request in a message and publishes the response. -/
def answerByTopic (s : TopicService) (id : ConnectionId) (payload : String) :
    Action Unit := do
  match ← submitText id payload with
  | none => pure ()
  | some response =>
    let names := TopicNames.ofInstance s.settings.instanceName
    update (·.publish s.broker ⟨names.response, response.text⟩)

/-- Starts to serve the topics. -/
def runTopics (s : TopicService) : Action (Option Routine) := do
  let names := TopicNames.ofInstance s.settings.instanceName
  let position ← inspect fun r => (r.topics.getD s.broker default).count
  let id ← connect .topic (.topics s.broker names.notification names.status) 0
  let _ ← subscribeStatically id s.settings.statusObjects
  pure (some (.topicLoop s id position))

/-- What a receiver at a position gets from a broker. -/
def received? (broker position : Nat) (r : Relay) : Option (Received × Nat) :=
  (r.topics.getD broker default).receive? position

/-- One turn of serving the topics. -/
def topicLoop (s : TopicService) (id : ConnectionId) (position : Nat) :
    Action (Option Routine) := do
  let (next, now) ← inspect fun r => (received? s.broker position r, r.clock)
  match next with
  | some (.lagged _, position) => pure (some (.topicLoop s id position))
  | some (.message message, position) => do
    if message.topic = (TopicNames.ofInstance s.settings.instanceName).request then
      fork (answerByTopic s id message.payload).process
    pure (some (.topicLoop s id position))
  | none => do
    await [.published s.broker] (some (now + pollInterval))
    let (hasMessage, isOn) ← inspect fun r =>
      ((received? s.broker position r).isSome, r.isRunning s.switch)
    if hasMessage || isOn then pure (some (.topicLoop s id position))
    else
      disconnect id
      update (·.finish s.service (.ok ()))
      pure none

end ControlRelay.Action
