import ControlRelay.Proofs.Hub.Delivering
import ControlRelay.Proofs.Link.Wired
import ControlRelay.Proofs.Relay.Linking
import ControlRelay.Proofs.Rpc.Opening

/-!
# Steps that spare a client

A step spares a client if it reports nothing that is passed on as a status update, and if its
mailbox is left alone, apart from messages that are taken or other texts that are put there.  The
actions of a relay spare every client, as long as they hand no status update to it themselves.
-/

namespace ControlRelay

/-- Whether clients hear of an event by a status update. -/
def ControlEvent.isUpdate : ControlEvent → Bool
  | .status _ _ => true
  | .other method _ => method = Rpc.Notification.statusUpdateMethod
  | _ => false

/-- Whether a text is that of a status update. -/
def Rpc.isUpdateText (text : String) : Bool :=
  Notification.opens Notification.statusUpdateMethod text

theorem Rpc.isUpdateText_text (note : Notification) :
    isUpdateText note.text = note.isStatusUpdate
  := by
  rw [Bool.eq_iff_iff, isUpdateText, note.opens_text_iff (by decide), Notification.isStatusUpdate]
  simp

/-- Messages were taken from the mailbox of a connection, or none. -/
def Hub.Takes (id : ConnectionId) (h h' : Hub) : Prop :=
  ∀ m, h.mailboxes.get? id = some m →
    ∃ m' n, h'.mailboxes.get? id = some m' ∧ m'.waiting = m.waiting.drop n

theorem Hub.takes_of_same {id : ConnectionId} {h h' : Hub} (same : h'.mailboxes = h.mailboxes) :
    Takes id h h'
  := by
  intro m found
  rw [same]
  use m, 0, found
  rfl

/-- To put a mailbox in the place of another one takes messages if it has the last of the others. -/
theorem Hub.takes_insert {id owner : ConnectionId} {h h' : Hub} {m' : Mailbox}
    (mailboxes : h'.mailboxes = h.mailboxes.insert owner m')
    (last : ∀ m, h.mailboxes.get? owner = some m → ∃ n, m'.waiting = m.waiting.drop n) :
    Takes id h h'
  := by
  intro m found
  rw [mailboxes, SortedMap.get?_insert]
  split
  next same =>
    rw [same] at found
    obtain ⟨n, waiting⟩ := last m found
    use m', n
  next =>
    use m, 0, found
    rfl

namespace Link

/-- A frame is passed on as the push that it holds, whatever else the link makes of it. -/
theorem exists_hears_receiveFrame (l : Link) (frame : Except Frame.Error Frame) :
    ∃ told, Hears l (l.receiveFrame frame) told (ControlEvent.ofFrame? frame)
  := by
  unfold receiveFrame
  cases frame with
  | error e => exact ⟨none, hears_nothing rfl rfl⟩
  | ok frame =>
    dsimp only [ControlEvent.ofFrame?]
    cases Control.Message.ofFrame frame with
    | error reason => exact ⟨none, hears_nothing rfl rfl⟩
    | ok message =>
      cases message with
      | push push => exact ⟨_, hears_receivePush l push⟩
      | response id answer =>
        dsimp only [receive, receiveResponse]
        split
        next => exact ⟨none, hears_nothing rfl rfl⟩
        next call _ =>
          split
          next => exact ⟨none, hears_nothing rfl (reported_dropping [call])⟩
          next =>
            use answered? call.method answer
            apply Hears.append_outcome
            apply (hears_adoptStatus _ call.method answer).of_status
            rfl

theorem isUpdate_of_mem_news {before : ControlStatus} {told : Option ControlStatus}
    {event : ControlEvent} (mem : event ∈ news before told) :
    event.isUpdate = false
  := by
  unfold news at mem
  split at mem
  next =>
    split at mem
    next => cases mem
    next =>
      rw [List.mem_singleton.1 mem]
      rfl
  next => cases mem

end Link

namespace Relay

/-- A step brings no status update for a client: none is reported, and none is put into its
mailbox. -/
structure Spares (id : ConnectionId) (r r' : Relay) : Prop where
  events : ∃ reports, r'.events = r.events.sent reports ∧
    ∀ event ∈ reports, event.isUpdate = false
  mailbox : (∃ texts, Hub.Puts id texts r.hub r'.hub ∧
      ∀ text ∈ texts, Rpc.isUpdateText text = false) ∨
    Hub.Takes id r.hub r'.hub

section

variable {r r' r'' : Relay} {id : ConnectionId}

theorem spares_of_reports (reports : List ControlEvent)
    (sends : r'.events = r.events.sent reports)
    (others : ∀ event ∈ reports, event.isUpdate = false)
    (mailboxes : r'.hub.mailboxes = r.hub.mailboxes) :
    Spares id r r'
  := by
  constructor
  · use reports, sends
  · left
    use [], Hub.puts_of_same mailboxes
    simp

theorem spares_of_same (events : r'.events = r.events)
    (mailboxes : r'.hub.mailboxes = r.hub.mailboxes) :
    Spares id r r'
  := by
  apply spares_of_reports [] _ _ mailboxes
  · rw [events, Inbox.sent_nil]
  · simp

theorem spares_refl (r : Relay) :
    Spares id r r
  := spares_of_same rfl rfl

theorem spares_of_takes (events : r'.events = r.events) (takes : Hub.Takes id r.hub r'.hub) :
    Spares id r r'
  := by
  constructor
  · use []
    rw [events, Inbox.sent_nil]
    simp
  · right
    apply takes

/-! ### Deliveries -/

theorem hub_events_deliver (r : Relay) (target : Target) (note : Rpc.Notification) :
    (r.deliver target note).2.hub = (r.hub.deliver target note).hub ∧
      (r.deliver target note).2.events = r.events
  := by
  apply Prod.mk.inj
  dsimp only [deliver]
  apply (foldl_keeps (fun r => (r.hub, r.events)) _ _ _).trans
  · apply (foldl_keeps (fun r => (r.hub, r.events)) _ _ _).trans
    · apply (foldl_keeps (fun r => (r.hub, r.events)) _ _ _).trans rfl
      intro r id
      rfl
    · intro r published
      rfl
  · intro r id
    split <;> rfl

/-- Texts that are no status updates were put into the mailbox, and nothing was reported. -/
structure Tells (id : ConnectionId) (r r' : Relay) : Prop where
  events : r'.events = r.events
  mailbox : ∃ texts, Hub.Puts id texts r.hub r'.hub ∧
    ∀ text ∈ texts, Rpc.isUpdateText text = false

theorem tells_of_same (events : r'.events = r.events)
    (mailboxes : r'.hub.mailboxes = r.hub.mailboxes) :
    Tells id r r'
  := by
  use events, [], Hub.puts_of_same mailboxes
  simp

theorem Tells.trans (first : Tells id r r') (second : Tells id r' r'') :
    Tells id r r''
  := by
  obtain ⟨texts, puts, others⟩ := first.mailbox
  obtain ⟨more, puts', others'⟩ := second.mailbox
  use second.events.trans first.events, texts ++ more, puts.trans puts'
  intro text mem
  cases List.mem_append.1 mem with
  | inl mem => apply others text mem
  | inr mem => apply others' text mem

theorem Tells.spares (tells : Tells id r r') :
    Spares id r r'
  := by
  constructor
  · use []
    rw [tells.events, Inbox.sent_nil]
    simp
  · left
    apply tells.mailbox

theorem tells_deliver (r : Relay) (target : Target) {note : Rpc.Notification}
    (other : note.isStatusUpdate = false) :
    Tells id r (r.deliver target note).2
  := by
  obtain ⟨hub, events⟩ := r.hub_events_deliver target note
  obtain ⟨n, puts⟩ := Hub.exists_puts_deliver r.hub target note id
  rw [← hub] at puts
  use events, List.replicate n note.text, puts
  intro text mem
  rw [(List.mem_replicate.1 mem).2, Rpc.isUpdateText_text, other]

theorem spares_deliver_of_ne (r : Relay) (note : Rpc.Notification) {owner : ConnectionId}
    (differs : owner ≠ id) :
    Spares id r (r.deliver (.connection owner) note).2
  := by
  obtain ⟨hub, events⟩ := r.hub_events_deliver (.connection owner) note
  apply Tells.spares
  use events, []
  rw [hub]
  use Hub.puts_deliver_of_ne differs
  simp

theorem tells_carriedOut (r : Relay) (scheduler : Scheduler) (effects : List SchedulerEffect) :
    Tells id r (effects.foldl carryOut { r with scheduler })
  := by
  have each (r : Relay) (effect : SchedulerEffect) : Tells id r (r.carryOut effect) := by
    cases effect with
    | announce event => apply tells_deliver r .all rfl
    | _ => exact tells_of_same rfl rfl
  generalize same : ({ r with scheduler } : Relay) = start
  have first : Tells id r start := by
    rw [← same]
    exact tells_of_same rfl rfl
  clear same
  induction effects generalizing start with
  | nil => apply first
  | cons effect effects ih => apply ih _ (first.trans (each start effect))

/-! ### The link -/

theorem spares_linkOutputs (r : Relay) (link : Link) {outputs : List LinkOutput}
    (others : ∀ event ∈ Link.reported outputs, event.isUpdate = false) :
    Spares id r (outputs.foldl linkOutput { r with link })
  := by
  apply spares_of_reports (Link.reported outputs) _ others
  · rw [(aside_linkOutputs _ outputs).hub]
  · apply (foldl_linkOutput _ outputs).2

theorem spares_onLink (r : Relay) {step : Link → Link.Step}
    (others : ∀ event ∈ Link.reported (step r.link).2, event.isUpdate = false) :
    Spares id r (r.onLink step)
  := by
  apply spares_of_reports _ (r.onLink_wires_events step).2 others
  rw [(r.aside_onLink step).hub]

theorem spares_lose (r : Relay) (generation : Nat) :
    Spares id r (r.onLink (·.lose generation))
  := by
  apply spares_onLink
  intro event mem
  rw [(Link.System.hears_lose r.link generation).reports] at mem
  apply Link.isUpdate_of_mem_news mem

theorem spares_beginCall (r : Relay) (call : Control.Call) (timeout : Nat) :
    Spares id r (Action.beginCall r call timeout).1
  := by
  have reports := (Link.System.hears_call r.link call fun w => (r.wire w).isWritten).reports
  unfold Action.beginCall
  generalize r.link.call _ _ _ = result at reports ⊢
  obtain ⟨⟨link, outputs⟩, begun⟩ := result
  have spared : Spares id r (outputs.foldl linkOutput { r with link }) := by
    apply r.spares_linkOutputs
    dsimp only at reports
    rw [reports]
    simp [Link.news]
  cases begun with
  | error e => apply spared
  | ok sent => exact ⟨spared.events, spared.mailbox⟩

/-- Steps at the link spare every client. -/
theorem Links.spares (links : Links r r') :
    Spares id r r'
  := by
  cases links with
  | refl => apply spares_refl
  | begins call timeout => apply spares_beginCall
  | takes sent =>
    unfold Action.takeOutcome
    split <;> exact spares_of_same rfl rfl
  | scripts => exact spares_of_same rfl rfl
  | attaches wire f =>
    have attached : Spares id (r.onWire wire f) ((r.onWire wire f).onLink (·.attach wire)) := by
      apply spares_onLink
      intro event mem
      rw [List.mem_singleton.1 mem]
      rfl
    exact ⟨attached.events, attached.mailbox⟩
  | opens =>
    unfold Action.openSocket
    split <;> exact spares_of_same rfl rfl
  | writes wire =>
    unfold Action.writeStep
    dsimp only
    split
    next => exact spares_of_same rfl rfl
    next => split <;> exact spares_of_same rfl rfl
  | finishes => exact spares_of_same rfl rfl
  | abandons wire service outcome =>
    let closed := (r.onWire wire fun w => { w with isRead := false }).raise (.arrived wire)
    have lost : Spares id closed (Action.abandonWire wire r) := closed.spares_lose _
    exact ⟨lost.events, lost.mailbox⟩

end

end Relay

end ControlRelay
