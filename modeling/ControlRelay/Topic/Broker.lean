import ControlRelay.Hub.Basic

/-!
# The topic broker

The broker gives every message to every receiver.  It keeps the last messages in a ring of a
fixed size, so a receiver that reads too late finds that it has lost some: it is told how many,
and goes on with the oldest message that is kept.
-/

namespace ControlRelay

/-- The names of the topics of one relay. -/
structure TopicNames where
  request : String
  response : String
  notification : String
  status : String
  deriving DecidableEq, Repr

/-- The topics of the relay instance of a name. -/
def TopicNames.ofInstance (name : String) : TopicNames where
  request := name ++ "/api/request"
  response := name ++ "/api/response"
  notification := name ++ "/notification"
  status := name ++ "/status"

/-- The ring of messages. -/
structure TopicBroker where
  /-- How many messages are kept. -/
  size : Nat
  /-- How many were published so far. -/
  count : Nat := 0
  /-- The last messages, the newest one first. -/
  kept : List TopicMessage := []

/-- What a receiver gets. -/
inductive Received where
  | message (message : TopicMessage)
  /-- It has lost so many messages. -/
  | lagged (count : Nat)
  deriving DecidableEq, Repr

namespace TopicBroker

instance : Inhabited TopicBroker := ⟨{ size := 1 }⟩

/-- The least power of two that is not below a number. -/
def powerOfTwoAbove (n : Nat) : Nat := if n ≤ 1 then 1 else Nat.pow 2 ((n - 1).log2 + 1)

/-- A broker that keeps at least `capacity` messages. -/
def ofCapacity (capacity : Nat) : TopicBroker := { size := powerOfTwoAbove capacity }

/-- Puts a message into the ring; the oldest one makes room for it. -/
def publish (b : TopicBroker) (message : TopicMessage) : TopicBroker :=
  { b with count := b.count + 1, kept := (message :: b.kept).take b.size }

/-- What a receiver gets that has got the first `position` messages, and its position after
it; nothing if there is no other message. -/
def receive? (b : TopicBroker) (position : Nat) : Option (Received × Nat) :=
  if b.count ≤ position then none
  else
    let oldest := b.count - b.kept.length
    if position < oldest then some (.lagged (oldest - position), oldest)
    else
      match b.kept[b.count - 1 - position]? with
      | some message => some (.message message, position + 1)
      | none => none

/-- What a receiver gets from its position on, in at most `limit` parts. -/
def receiveSome (b : TopicBroker) : Nat → Nat → List Received × Nat
  | 0, position => ([], position)
  | limit + 1, position =>
    match b.receive? position with
    | none => ([], position)
    | some (received, position) =>
      let (more, position) := b.receiveSome limit position
      (received :: more, position)

/-- All that a receiver gets from its position on. -/
def receiveAll (b : TopicBroker) (position : Nat) : List Received × Nat :=
  let oldest := b.count - b.kept.length
  let lag : List Received := if position < oldest then [.lagged (oldest - position)] else []
  let fresh := b.kept.take (b.count - max position oldest)
  (lag ++ fresh.reverse.map .message, max position b.count)

end TopicBroker

end ControlRelay
