import ControlRelay.Proofs.Interest.Slice
import ControlRelay.Proofs.Relay.Bystanders

/-!
# What the event loop owes

The event loop takes one event after the other from the channel, and before it takes the next one it
hands each client its part of a push.  From the moment when a push is taken, the loop owes a client
the text of one status update, or nothing if the client's part is empty, and it pays by putting the
text into the mailbox.  All else that it does in between brings the client no status update.
-/

namespace ControlRelay

/-- New values of attributes as the control process pushes them. -/
structure StatusPush where
  status : Fields
  eventtime : Float

namespace StatusPush

/-- The part that an interest selects, if it is not empty. -/
def partFor? (push : StatusPush) (interest : Option Interest) : Option Fields :=
  interest.bind fun interest =>
    let part := SubscriptionTable.slice interest push.status
    if part.isEmpty then none else some part

/-- The text of the status update with that part, if there is any. -/
def textFor? (push : StatusPush) (interest : Option Interest) : Option String :=
  (push.partFor? interest).map fun part => (Rpc.Notification.statusUpdate part push.eventtime).text

/-- The part has the values of the push for what the interest asks for, and no other. -/
theorem valueOf?_partFor? (push : StatusPush) {interest : Option Interest} {part : Fields}
    (selected : push.partFor? interest = some part) (object field : String) :
    part.valueOf? object field =
      (interest.bind fun wanted => wanted.get? object).bind fun set =>
        if field ∈ set then push.status.valueOf? object field else none
  := by
  obtain ⟨wanted, rfl, selected⟩ := Option.bind_eq_some_iff.1 selected
  obtain ⟨-, same⟩ := Option.ite_none_left_eq_some.1 selected
  rw [← Option.some.inj same]
  apply SubscriptionTable.valueOf?_slice

end StatusPush

namespace ControlEvent

/-- The push, if the event is one of new values. -/
def push? : ControlEvent → Option StatusPush
  | .status fields eventtime => some ⟨fields, eventtime⟩
  | _ => none

/-- Whether the event is an uninterpreted push with the name of status updates. -/
def isNamesake : ControlEvent → Bool
  | .other method _ => method = Rpc.Notification.statusUpdateMethod
  | _ => false

/-- The status update that a client is owed for an event; a namesake goes to all clients as it
is. -/
def owed (interest : Option Interest) (event : ControlEvent) : Option String :=
  match event with
  | .status fields eventtime => StatusPush.textFor? ⟨fields, eventtime⟩ interest
  | .other method params =>
    if method = Rpc.Notification.statusUpdateMethod then
      some (Rpc.Notification.mk method (Action.passedOnParams params)).text
    else none
  | _ => none

theorem owed_of_isNamesake {event : ControlEvent} (other : event.isNamesake = false)
    (interest : Option Interest) :
    event.owed interest = event.push?.bind (·.textFor? interest)
  := by
  cases event with
  | other method params => apply if_neg (of_decide_eq_false other)
  | _ => rfl

end ControlEvent

namespace Relay

/-- A duplex connection lives and has an interest, and somebody handles the events. -/
structure Serves (id : ConnectionId) (interest : Option Interest) (r : Relay) : Prop where
  connected : ∃ c, r.hub.connections.get? id = some c ∧ c.kind = .duplex ∧ c.sink = .mailbox
  interest : r.registry.table.interest? (.connection id) = interest
  handled : r.events.hasReader = true

instance (id : ConnectionId) (interest : Option Interest) (r : Relay) :
    Decidable (r.Serves id interest) :=
  decidable_of_iff
    ((∃ c ∈ r.hub.connections.get? id, c.kind = .duplex ∧ c.sink = .mailbox) ∧
      r.registry.table.interest? (.connection id) = interest ∧ r.events.hasReader = true)
    ⟨fun serves => ⟨serves.1, serves.2.1, serves.2.2⟩,
      fun serves => ⟨serves.connected, serves.interest, serves.handled⟩⟩

/-- A step of the event loop, with what a client is owed before it and after it. -/
inductive Advances (id : ConnectionId) (interest : Option Interest) :
    Option String → Relay → Relay → Option String → Prop where
  | spares {owed : Option String} {r r' : Relay} (spares : Spares id r r') :
      Advances id interest owed r r' owed
  | takes {r r' : Relay} {event : ControlEvent} {items : List ControlEvent}
      (waiting : r.events.items = event :: items) (events : r'.events = { r.events with items })
      (hub : r'.hub = r.hub) : Advances id interest none r r' (event.owed interest)
  | puts {text : String} {r r' : Relay} (isUpdate : Rpc.isUpdateText text = true)
      (events : r'.events = r.events) (puts : Hub.Puts id [text] r.hub r'.hub) :
      Advances id interest (some text) r r' none

/-- The rest of a turn of the event loop pays what it owes a client, as long as the client is
served. -/
inductive Owes (id : ConnectionId) (interest : Option Interest) :
    Option String → RelayProcess → Prop where
  | done : Owes id interest none .done
  | between (s : EventService) (tick : Nat) : Owes id interest none (.enter (.eventLoop s tick))
  | step {owed : Option String} {run : Relay → Relay × RelayProcess} (after : Relay → Option String)
      (advances : ∀ r, r.Serves id interest → (run r).1.Serves id interest →
        Advances id interest owed r (run r).1 (after r))
      (next : ∀ r, Owes id interest (after r) (run r).2) :
      Owes id interest owed (.step run)
  | wait {owed : Option String} {signals : List Signal} {deadline : Option Nat} {p : RelayProcess}
      (next : Owes id interest owed p) : Owes id interest owed (.wait signals deadline p)
  | fork {owed : Option String} {child p : RelayProcess} (started : Bystander id child)
      (next : Owes id interest owed p) : Owes id interest owed (.fork child p)

section

variable {id : ConnectionId} {interest : Option Interest} {owed : Option String}

/-- What a bystander goes on with pays what is owed. -/
theorem Owes.of_keeps {ends : RelayProcess → Prop} {p : RelayProcess}
    (keeps : Process.Keeps (Spares id) Rests ends p)
    (goesOn : ∀ q, ends q → Owes id interest owed q) :
    Owes id interest owed p
  := by
  induction keeps with
  | ended here => apply goesOn _ here
  | step spares _ ih =>
    apply Owes.step fun _ => owed
    · intro r _ _
      apply Advances.spares (spares r)
    · intro r
      apply ih r goesOn
  | wait _ ih => exact .wait (ih goesOn)
  | fork started _ _ ih => exact .fork started (ih goesOn)

theorem owes_after {α : Type} {a : Action α} {k : α → RelayProcess} (spares : Action.Spares id a)
    (goesOn : ∀ x, Owes id interest owed (k x)) :
    Owes id interest owed (a k)
  := by
  apply Owes.of_keeps (spares k)
  rintro q ⟨x, rfl⟩
  apply goesOn x

theorem owes_bind {α β : Type} {a : Action α} {f : α → Action β} {k : β → RelayProcess}
    (spares : Action.Spares id a) (goesOn : ∀ x, Owes id interest owed (f x k)) :
    Owes id interest owed ((a >>= f) k)
  := by
  apply Owes.of_keeps (spares fun x => f x k)
  rintro q ⟨x, rfl⟩
  apply goesOn x

/-- An atomic step pays or takes on what it says, and what comes after it goes on with the rest. -/
theorem owes_atomically {α β : Type} {f : Relay → Relay × α} {g : α → Action β}
    {k : β → RelayProcess} (after : Relay → Option String)
    (advances : ∀ r, r.Serves id interest → (f r).1.Serves id interest →
      Advances id interest owed r (f r).1 (after r))
    (next : ∀ r, Owes id interest (after r) (g (f r).2 k)) :
    Owes id interest owed ((Program.atomically f >>= g) k)
  := .step after advances next

end

end Relay

namespace Action

open Program Relay

/-- The texts of the parts for a connection. -/
def textsOf (id : ConnectionId) (eventtime : Float) (parts : List (Subscriber × Fields)) :
    List String :=
  (SubscriptionTable.partsOf (.connection id) parts).map fun part =>
    (Rpc.Notification.statusUpdate part eventtime).text

/-- What is owed once a turn is chosen. -/
def EventTurn.owed (interest : Option Interest) : EventTurn → Option String
  | .event e => e.owed interest
  | _ => none

section

variable {id : ConnectionId} {interest : Option Interest} {owed : Option String}

/-! ### Deliveries -/

/-- A status update for the client is what it was owed. -/
theorem owes_deliver {target : Target} {note : Rpc.Notification} {k : Unit → RelayProcess}
    (included : target = .all ∨ target = .connection id) (isUpdate : note.isStatusUpdate = true)
    (goesOn : Owes id interest none (k ())) :
    Owes id interest (some note.text) (deliver target note k)
  := by
  apply owes_atomically fun _ => none
  · intro r serves stays
    obtain ⟨c, connected, duplex, sink⟩ := serves.connected
    obtain ⟨hub, events⟩ := r.hub_events_deliver target note
    obtain ⟨c', connected', -⟩ := stays.connected
    have lives : (r.hub.deliver target note).hub.contains id = true := by
      rw [Hub.contains, SortedMap.contains_iff, ← hub, connected']
      simp
    have puts := Hub.puts_deliver_own connected duplex sink included lives
    rw [← hub] at puts
    apply Advances.puts _ events puts
    rw [Rpc.isUpdateText_text, isUpdate]
  · intro r
    apply owes_after (spares_evicting _)
    intro
    apply goesOn

/-- When all parts are handed on, the client has got its own. -/
theorem owes_parts {eventtime : Float} {parts : List (Subscriber × Fields)}
    {k : Unit → RelayProcess} (own : textsOf id eventtime parts = owed.toList)
    (goesOn : Owes id interest none (k ())) :
    Owes id interest owed (parts.forM (handPart eventtime) k)
  := by
  induction parts generalizing owed with
  | nil =>
    obtain rfl : owed = none := Option.toList_eq_nil_iff.1 own.symm
    apply goesOn
  | cons entry parts ih =>
    obtain ⟨who, part⟩ := entry
    by_cases same : who = .connection id
    · subst same
      have texts : textsOf id eventtime ((.connection id, part) :: parts) =
          (Rpc.Notification.statusUpdate part eventtime).text :: textsOf id eventtime parts
        := by
        simp [textsOf, SubscriptionTable.partsOf]
      rw [texts] at own
      cases owed with
      | none => cases own
      | some text =>
        obtain ⟨rfl, nothing⟩ := List.cons.inj own
        apply owes_deliver (.inr rfl) rfl (@ih none nothing)
    · have texts : textsOf id eventtime ((who, part) :: parts) = textsOf id eventtime parts := by
        simp [textsOf, SubscriptionTable.partsOf, same]
      have spares : Spares id (handPart eventtime (who, part)) := by
        cases who with
        | connection owner =>
          apply spares_deliver_of_ne
          rintro rfl
          apply same rfl
        | scheduler => exact spares_scheduleStep (·.statusChanged part)
      apply owes_bind spares
      intro
      apply ih
      rw [← texts, own]

/-! ### Events -/

/-- A push is split by the interests that are registered at that moment, and the client is owed the
text for its own. -/
theorem owes_pushStatus (push : StatusPush) {k : List (Subscriber × Fields) → RelayProcess}
    (goesOn : ∀ parts owed, textsOf id push.eventtime parts = owed.toList →
      Owes id interest owed (k parts)) :
    Owes id interest (push.textFor? interest) (pushStatus push.status push.eventtime k)
  := by
  apply owes_bind spares_lockRegistry
  intro
  apply owes_atomically fun r => push.textFor? (r.registry.table.interest? (.connection id))
  · intro r serves _
    rw [serves.interest]
    apply Advances.spares r.spares_refl
  · intro r
    let registry := (r.registry.push push.status push.eventtime).1
    let parts := (r.registry.push push.status push.eventtime).2
    let owed := push.textFor? (r.registry.table.interest? (.connection id))
    have unlocks : Spares id (update fun r => unlocked { r with registry }) :=
      Keeps.update fun r => spares_unlocked r registry
    have own : textsOf id push.eventtime parts = owed.toList := by
      have routed : SubscriptionTable.partsOf (.connection id) parts =
          (push.partFor? (r.registry.table.interest? (.connection id))).toList
        := by
        apply SubscriptionTable.partsOf_route
      rw [textsOf, routed, ← Option.toList_map]
      rfl
    exact owes_after (k := fun _ => k parts) unlocks fun _ => goesOn parts owed own

theorem isStatusUpdate_of_stateNotification? {status : ControlStatus} {note : Rpc.Notification}
    (found : stateNotification? status = some note) :
    note.isStatusUpdate = false
  := by
  unfold stateNotification? at found
  split at found <;> cases found <;> rfl

theorem spares_stateChanged (status : ControlStatus) :
    Spares id (handleEvent (.stateChanged status))
  := by
  apply Keeps.bind (spares_withRegistry _)
  intro
  apply Keeps.bind (spares_scheduleStep _)
  intro
  split
  next found => apply spares_deliver .all (isStatusUpdate_of_stateNotification? found)
  next => apply Keeps.pure

/-- When an event is handled, all that is owed for it is paid. -/
theorem owes_handleEvent (event : ControlEvent) {k : Unit → RelayProcess}
    (goesOn : Owes id interest none (k ())) :
    Owes id interest (event.owed interest) (handleEvent event k)
  := by
  cases event with
  | connected generation => apply goesOn
  | stateChanged status =>
    apply owes_after (spares_stateChanged status)
    intro
    apply goesOn
  | status fields eventtime =>
    apply owes_pushStatus ⟨fields, eventtime⟩
    intro parts owed own
    apply owes_parts own goesOn
  | gcodeResponse text =>
    apply owes_after (spares_deliver .all rfl)
    intro
    apply goesOn
  | other method params =>
    let note : Rpc.Notification := ⟨method, passedOnParams params⟩
    rw [ControlEvent.owed]
    split
    next same =>
      have isUpdate : note.isStatusUpdate = true := decide_eq_true same
      apply owes_deliver (.inl rfl) isUpdate goesOn
    next differs =>
      have spares : Spares id (deliver .all note) := spares_deliver .all (decide_eq_false differs)
      exact owes_after spares fun _ => goesOn

/-! ### Turns -/

/-- The event loop takes the next event, or it finds something else to do. -/
theorem chooseTurn_cases (s : EventService) (tick : Nat) (r : Relay) :
    (∃ event items, r.events.items = event :: items ∧
      chooseTurn s tick r = ({ r with events := { r.events with items } }, .event event)) ∨
    (Relay.Spares id r (chooseTurn s tick r).1 ∧
      ∀ event, (chooseTurn s tick r).2 ≠ .event event)
  := by
  unfold chooseTurn
  split
  next event items waiting => exact .inl ⟨event, items, waiting, rfl⟩
  next =>
    right
    split
    next =>
      use r.spares_refl
      rintro event ⟨⟩
    next =>
      split
      next =>
        use Relay.spares_of_same rfl rfl
        rintro event ⟨⟩
      next =>
        split
        next =>
          use r.spares_refl
          rintro event ⟨⟩
        next =>
          use r.spares_refl
          rintro event ⟨⟩

/-- While the events are handled, the event loop does not end. -/
theorem owes_ending (s : EventService) {k : Option Routine → RelayProcess}
    (ends : Owes id interest none (k none)) :
    Owes id interest none ((update (eventsEnded s) >>= fun _ => pure none) k)
  := by
  apply owes_atomically fun _ => none
  · intro r _ stays
    have ended : (eventsEnded s r).events.hasReader = false := by
      unfold eventsEnded
      dsimp only
      split <;> rfl
    cases ended.symm.trans stays.handled
  · intro r
    apply ends

/-- A turn of the event loop pays what it owes before the next one begins. -/
theorem owes_eventLoop (s : EventService) (tick : Nat) :
    Owes id interest none (continue? (eventLoop s tick))
  := by
  apply owes_atomically fun r => (chooseTurn s tick r).2.owed interest
  · intro r _ _
    obtain ⟨event, items, waiting, chosen⟩ | ⟨spares, others⟩ := @chooseTurn_cases id s tick r
    · rw [chosen]
      exact .takes waiting rfl rfl
    · have nothing : (chooseTurn s tick r).2.owed interest = none := by
        cases chosen : (chooseTurn s tick r).2 with
        | event event => apply absurd chosen (others event)
        | _ => rfl
      rw [nothing]
      apply Advances.spares spares
  · intro r
    generalize (chooseTurn s tick r).2 = turn
    cases turn with
    | event event =>
      apply owes_handleEvent event
      apply Owes.between
    | evicted other =>
      apply owes_bind (spares_removeSubscriber _)
      intro
      apply Owes.between
    | tick isOn next =>
      cases isOn with
      | true =>
        apply owes_bind (spares_withRegistry _)
        intro
        apply Owes.between
      | false => apply owes_ending s .done
    | closed => apply owes_ending s .done
    | idle => exact .wait (.between s tick)

end

end Action

end ControlRelay
