import ControlRelay.Hub.Basic

/-!
# Delivery

`Hub.deliver` gives a notification to the connections it is for: into the mailbox of each
duplex connection and to the topic broker of each topic connection.  The connections whose
mailbox cannot take it are evicted.
-/

namespace ControlRelay

/-- What a delivery comes to. -/
structure Delivery where
  /-- The hub without the evicted connections. -/
  hub : Hub
  /-- The connections it evicted. -/
  evicted : List ConnectionId := []
  /-- Messages for topic brokers. -/
  published : List (Nat × TopicMessage) := []

namespace Hub

/-- The connections a notification is for. -/
def recipients (h : Hub) : Target → List (ConnectionId × Connection)
  | .all => h.connections.entries
  | .connection id => ((h.connections.get? id).map (id, ·)).toList

/-- Gives a text to one connection. -/
def deliverTo (isStatus : Bool) (text : String) (d : Delivery) (id : ConnectionId)
    (c : Connection) : Delivery :=
  match c.sink with
  | .detached => d
  | .topics broker notification status =>
    let topic := if isStatus then status else notification
    { d with published := d.published ++ [(broker, ⟨topic, text⟩)] }
  | .mailbox =>
    match d.hub.mailboxes.get? id with
    | none => d
    | some m =>
      match m.put? text with
      | some m => { d with hub := { d.hub with mailboxes := d.hub.mailboxes.insert id m } }
      | none =>
        if m.hasReader && !c.kind.hasBackpressure then d
        else { d with evicted := d.evicted ++ [id] }

/-- Delivers a notification and evicts the connections that cannot take it. -/
def deliver (h : Hub) (target : Target) (note : Rpc.Notification) : Delivery :=
  let text := note.text
  let d := (h.recipients target).foldl
    (fun d (id, c) => deliverTo note.isStatusUpdate text d id c) { hub := h }
  { d with hub := d.evicted.foldl (fun h id => (h.unregister id).2) d.hub }

end Hub

end ControlRelay
