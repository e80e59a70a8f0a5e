import ControlRelay.Proofs.Relay.Handing

/-!
# Accounts of status updates

A step of a relay is accounted for when what waits in the channel before it, together with what it
adds, is what it takes out and what waits after it, and when what a client was owed before it,
together with what it comes to be owed for that, is what is put into its mailbox and what it is owed
after it.  Every step that spares the client is accounted for, and so is every step of the event loop
and of the processes that read the wires.
-/

namespace ControlRelay

/-! ### Frames with pushes of values -/

namespace StatusPush

/-- The push of new values that a frame is: it has no id, the method says so, and the status in its
parameters is an object. -/
def ofFrame? (frame : Frame) : Option StatusPush :=
  if (frame.get? "id").isNone ∧
      (frame.get? "method").bind Json.string? = some Control.statusUpdatePush then
    let params := (frame.get? "params").getD .null
    ((params.get? "status").bind Json.fields?).map fun status =>
      ⟨status, ((params.get? "eventtime").bind Json.float?).getD 0.0⟩
  else none

/-- The push of new values in what a decoder gives out. -/
def ofOutcome? : Frame.Outcome → Option StatusPush
  | .ok frame => ofFrame? frame
  | .error _ => none

end StatusPush

/-- Whether what a decoder gives out is an uninterpreted push with the name of status updates. -/
def Frame.isNamesake : Frame.Outcome → Bool
  | .ok frame => (frame.get? "id").isNone ∧
      (frame.get? "method").bind Json.string? = some Rpc.Notification.statusUpdateMethod
  | .error _ => false

namespace ControlEvent

/-- A frame is passed on as a push of values exactly if it is one, and as a namesake of status
updates only if it is one. -/
theorem ofFrame?_cases (outcome : Frame.Outcome) :
    (ofFrame? outcome).bind push? = StatusPush.ofOutcome? outcome ∧
      (Frame.isNamesake outcome = false → (ofFrame? outcome).any isNamesake = false)
  := by
  cases outcome with
  | error e => exact ⟨rfl, fun _ => rfl⟩
  | ok frame =>
    dsimp only [ofFrame?, Control.Message.ofFrame, StatusPush.ofOutcome?, StatusPush.ofFrame?,
      Frame.isNamesake]
    cases frame.get? "id" with
    | some id =>
      dsimp only
      cases id.nat? with
      | none => simp
      | some id => cases frame.get? "error" <;> simp
    | none =>
      cases (frame.get? "method").bind Json.string? with
      | none => simp
      | some method =>
        dsimp only [Control.Push.of]
        by_cases state : method = Control.stateChangedPush
        · subst state
          rw [if_pos rfl]
          cases Control.stateOfParams ((frame.get? "params").getD .null) <;>
            simp [Except.map, ofPush?, Control.stateChangedPush, Control.statusUpdatePush]
        · rw [if_neg state]
          by_cases values : method = Control.statusUpdatePush
          · subst values
            rw [if_pos rfl]
            cases (((frame.get? "params").getD .null).get? "status").bind Json.fields? <;>
              simp [Except.map, ofPush?, push?, isNamesake]
          · rw [if_neg values]
            by_cases text : method = Control.gcodeResponsePush
            · rw [if_pos text]
              simp [Except.map, ofPush?, push?, isNamesake, values]
            · rw [if_neg text]
              simp [Except.map, ofPush?, push?, isNamesake, values]

/-- Nothing is owed for any other event. -/
theorem owed_of_not_isUpdate {event : ControlEvent} (other : event.isUpdate = false)
    (interest : Option Interest) :
    event.owed interest = none
  := by
  cases event with
  | status fields eventtime => cases other
  | other method params => apply if_neg (of_decide_eq_false other)
  | _ => rfl

end ControlEvent

namespace Relay

/-- The events in the channel of which clients hear by status updates. -/
def updates (r : Relay) : List ControlEvent := r.events.items.filter ControlEvent.isUpdate

/-- The messages that wait for a connection. -/
def queue (r : Relay) (id : ConnectionId) : List String :=
  ((r.hub.mailboxes.get? id).map Mailbox.waiting).getD []

/-- The status updates that are put into a mailbox from one relay to the next. -/
def put (id : ConnectionId) (r r' : Relay) : List String :=
  ((r'.queue id).drop (r.queue id).length).filter Rpc.isUpdateText

/-- The outcome that is handed to the link next from a wire. -/
def nextOn? (r : Relay) (wire : Nat) : Option Frame.Outcome :=
  if (r.wire wire).isRead then (r.wire wire).decoder.next.1 else none

/-- A step that adds events to the channel is accounted for. -/
structure Accounts (id : ConnectionId) (interest : Option Interest) (owed : Option String)
    (r r' : Relay) (added : List ControlEvent) (owed' : Option String) : Prop where
  mailbox : r'.hub.mailboxes.contains id = true
  balance : ∃ taken, r.updates ++ added = taken ++ r'.updates ∧
    owed.toList ++ taken.filterMap (·.owed interest) = put id r r' ++ owed'.toList

section

variable {r r' : Relay} {id : ConnectionId} {interest : Option Interest} {owed owed' : Option String}

theorem exists_mailbox (mailbox : r.hub.mailboxes.contains id = true) :
    ∃ m, r.hub.mailboxes.get? id = some m ∧ r.queue id = m.waiting
  := by
  obtain ⟨m, found⟩ := Option.isSome_iff_exists.1 mailbox
  use m, found
  rw [queue, found]
  rfl

theorem put_of_puts {texts : List String} (mailbox : r.hub.mailboxes.contains id = true)
    (puts : Hub.Puts id texts r.hub r'.hub) :
    r'.hub.mailboxes.contains id = true ∧ put id r r' = texts.filter Rpc.isUpdateText
  := by
  obtain ⟨m, found, queued⟩ := exists_mailbox mailbox
  obtain ⟨m', found', waiting⟩ := puts m found
  constructor
  · apply Option.isSome_iff_exists.2 ⟨m', found'⟩
  · rw [put, queued, queue, found', Option.map_some, Option.getD_some, waiting, List.drop_left]

theorem put_of_takes (mailbox : r.hub.mailboxes.contains id = true)
    (takes : Hub.Takes id r.hub r'.hub) :
    r'.hub.mailboxes.contains id = true ∧ put id r r' = []
  := by
  obtain ⟨m, found, queued⟩ := exists_mailbox mailbox
  obtain ⟨m', n, found', waiting⟩ := takes m found
  constructor
  · apply Option.isSome_iff_exists.2 ⟨m', found'⟩
  · rw [put, queued, queue, found', Option.map_some, Option.getD_some, waiting, List.drop_drop,
      List.drop_eq_nil_of_le (Nat.le_add_left _ _)]
    rfl

theorem put_of_same (mailbox : r.hub.mailboxes.contains id = true) (hub : r'.hub = r.hub) :
    r'.hub.mailboxes.contains id = true ∧ put id r r' = []
  := by
  apply put_of_takes mailbox
  apply Hub.takes_of_same
  rw [hub]

theorem Spares.put_eq_nil (mailbox : r.hub.mailboxes.contains id = true) (spares : Spares id r r') :
    r'.hub.mailboxes.contains id = true ∧ put id r r' = []
  := by
  obtain ⟨texts, puts, others⟩ | takes := spares.mailbox
  · rw [← List.filter_eq_nil_iff.2 fun text mem => Bool.eq_false_iff.1 (others text mem)]
    apply put_of_puts mailbox puts
  · apply put_of_takes mailbox takes

theorem updates_of_sent {reports : List ControlEvent}
    (sends : r'.events = r.events.sent reports) (handled : r.events.hasReader = true) :
    r'.updates = r.updates ++ reports.filter ControlEvent.isUpdate
  := by
  rw [updates, sends, Inbox.sent, if_pos handled, List.filter_append]
  rfl

/-- What spares the client changes nothing in its account. -/
theorem Spares.accounts (spares : Spares id r r') (mailbox : r.hub.mailboxes.contains id = true)
    (handled : r.events.hasReader = true) :
    Accounts id interest owed r r' [] owed
  := by
  obtain ⟨mailbox', nothing⟩ := spares.put_eq_nil mailbox
  obtain ⟨reports, sends, others⟩ := spares.events
  use mailbox', []
  rw [nothing, updates_of_sent sends handled,
    List.filter_eq_nil_iff.2 fun event mem => Bool.eq_false_iff.1 (others event mem)]
  simp

/-- The event loop takes on debts for what it takes out of the channel, and pays them. -/
theorem Advances.accounts (advances : Advances id interest owed r r' owed')
    (mailbox : r.hub.mailboxes.contains id = true) (handled : r.events.hasReader = true) :
    Accounts id interest owed r r' [] owed'
  := by
  cases advances with
  | spares spares => apply spares.accounts mailbox handled
  | takes waiting events hub =>
    rename_i event items
    obtain ⟨mailbox', nothing⟩ := put_of_same mailbox hub
    use mailbox', [event].filter ControlEvent.isUpdate
    rw [nothing, updates, updates, waiting, events]
    constructor
    · rw [List.append_nil, ← List.filter_append]
      rfl
    · cases update : event.isUpdate with
      | true => cases due : event.owed interest <;> simp [update, due]
      | false => simp [update, ControlEvent.owed_of_not_isUpdate update]
  | puts isUpdate events puts =>
    obtain ⟨mailbox', same⟩ := put_of_puts mailbox puts
    use mailbox', []
    rw [same, updates, updates, events]
    simp [isUpdate]

/-- What the link reports is added to the channel. -/
theorem accounts_of_sent {reports : List ControlEvent}
    (sends : r'.events = r.events.sent reports) (hub : r'.hub = r.hub)
    (mailbox : r.hub.mailboxes.contains id = true) (handled : r.events.hasReader = true) :
    Accounts id interest owed r r' (reports.filter ControlEvent.isUpdate) owed
  := by
  obtain ⟨mailbox', nothing⟩ := put_of_same mailbox hub
  use mailbox', []
  rw [nothing, updates_of_sent sends handled]
  simp

/-- A process that reads a wire hands the next outcome to the link, or does nothing that concerns
the client. -/
theorem readStep_cases (r : Relay) (wire : Nat) :
    (∃ result, r.nextOn? wire = some result ∧
      (Action.readStep wire r).1.events =
        r.events.sent (Link.reported (r.link.receiveFrame result).2) ∧
      (Action.readStep wire r).1.hub = r.hub) ∨
    (r.nextOn? wire = none ∧ Spares id r (Action.readStep wire r).1)
  := by
  unfold Action.readStep nextOn?
  dsimp only
  by_cases isRead : (r.wire wire).isRead = true
  · have opened : ¬(!(r.wire wire).isRead) = true := by simp [isRead]
    rw [if_pos isRead, if_neg opened]
    split
    next result decoder next =>
      left
      let looked := r.onWire wire fun w => { w with decoder }
      rw [next]
      exact ⟨result, rfl, (looked.onLink_wires_events (·.receiveFrame result)).2,
        (looked.aside_onLink (·.receiveFrame result)).hub⟩
    next next =>
      right
      rw [next]
      use rfl
      split
      next => exact spares_of_same rfl rfl
      next =>
        split
        next =>
          have lost : Spares id r (r.onLink (·.lose (r.wire wire).generation)) := r.spares_lose _
          exact ⟨lost.events, lost.mailbox⟩
        next => exact spares_of_same rfl rfl
  · have closed : (!(r.wire wire).isRead) = true := by simp [isRead]
    rw [if_neg isRead, if_pos closed]
    exact .inr ⟨rfl, r.spares_refl⟩

/-- A process that reads a wire adds the push that it hands on. -/
theorem accounts_readStep (mailbox : r.hub.mailboxes.contains id = true)
    (handled : r.events.hasReader = true) (wire : Nat) :
    Accounts id interest owed r (Action.readStep wire r).1
      (((r.nextOn? wire).bind ControlEvent.ofFrame?).toList.filter ControlEvent.isUpdate) owed
  := by
  obtain ⟨result, next, sends, hub⟩ | ⟨next, spares⟩ := @readStep_cases id r wire
  · obtain ⟨told, hears⟩ := Link.exists_hears_receiveFrame r.link result
    have others : (Link.news r.link.status told).filter ControlEvent.isUpdate = [] :=
      List.filter_eq_nil_iff.2 fun event mem =>
        Bool.eq_false_iff.1 (Link.isUpdate_of_mem_news mem)
    have passed : (Link.reported (r.link.receiveFrame result).2).filter ControlEvent.isUpdate =
        (ControlEvent.ofFrame? result).toList.filter ControlEvent.isUpdate
      := by
      rw [hears.reports, List.filter_append, others, List.append_nil]
    rw [next, Option.bind_some, ← passed]
    apply accounts_of_sent sends hub mailbox handled
  · rw [next]
    apply spares.accounts mailbox handled

end

end Relay

end ControlRelay
