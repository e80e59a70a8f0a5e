import ControlRelay.Proofs.Hub.Delivering
import Mathlib.Data.List.Nodup
import Mathlib.Data.List.Basic

/-!
# What a delivery does to each connection

A delivery treats every connection on its own: what happens to one depends on its record and its
mailbox alone.  A duplex connection for which the notification is gets the text or is evicted, a
topic connection is told of it once under one of its topics, and all others are left alone.
-/

namespace ControlRelay

/-- Whether one more text can be put into the mailbox. -/
def Mailbox.takes (m : Mailbox) : Bool := m.hasReader && m.hasRoom

/-- The mailbox after a text was offered to it. -/
def Mailbox.offered (m : Mailbox) (text : String) : Mailbox := (m.put? text).getD m

/-- The message with which a topic connection is told of a notification. -/
def Connection.topicMessage? (note : Rpc.Notification) (c : Connection) :
    Option (Nat × TopicMessage) :=
  match c.sink with
  | .topics broker notification status =>
    some (broker, ⟨if note.isStatusUpdate then status else notification, note.text⟩)
  | _ => none

/-- Whether a notification is for a connection. -/
def Target.names : Target → ConnectionId → Bool
  | all, _ => true
  | connection id, other => id = other

namespace Mailbox

variable {m : Mailbox} {text : String}

theorem offered_of_takes (isOpen : m.takes = true) :
    m.offered text = { m with waiting := m.waiting ++ [text] }
  := by
  have isOpen : (m.hasReader && m.hasRoom) = true := isOpen
  rw [offered, put?, if_pos isOpen]
  rfl

theorem offered_of_not_takes (shut : m.takes = false) :
    m.offered text = m
  := by
  have shut : (m.hasReader && m.hasRoom) = false := shut
  rw [offered, put?, shut]
  rfl

end Mailbox

namespace Hub

/-- A connection as one of the transports makes it. -/
inductive Suits (h : Hub) (id : ConnectionId) (c : Connection) : Prop where
  | duplex {m : Mailbox} (kind : c.kind = .duplex) (sink : c.sink = .mailbox)
      (found : h.mailboxes.get? id = some m)
  | topic {broker : Nat} {notification status : String} (kind : c.kind = .topic)
      (sink : c.sink = .topics broker notification status)
  | requestResponse (kind : c.kind = .requestResponse) (sink : c.sink = .detached)

/-- Every connection is one as the transports make them. -/
def Fitted (h : Hub) : Prop := ∀ id c, h.connections.get? id = some c → h.Suits id c

/-- Whether a connection cannot be given a text and has to go. -/
def refuses (h : Hub) (id : ConnectionId) (c : Connection) : Bool :=
  match c.sink, h.mailboxes.get? id with
  | .mailbox, some m => !m.takes && !(m.hasReader && !c.kind.hasBackpressure)
  | _, _ => false

section

variable {h : Hub} {note : Rpc.Notification} {d : Delivery} {id : ConnectionId} {c : Connection}
  {recipients : List (ConnectionId × Connection)} {target : Target}

/-! ### One recipient -/

theorem refuses_congr {h' : Hub} (same : h'.mailboxes.get? id = h.mailboxes.get? id) :
    h'.refuses id c = h.refuses id c
  := by
  unfold refuses
  rw [same]

theorem published_deliverTo :
    (deliverTo note.isStatusUpdate note.text d id c).published =
      d.published ++ (c.topicMessage? note).toList
  := by
  unfold deliverTo Connection.topicMessage?
  split
  next sink => simp [sink]
  next sink => simp [sink]
  next sink =>
    rw [sink, Option.toList_none, List.append_nil]
    split
    next => rfl
    next =>
      split
      next => rfl
      next => split <;> rfl

theorem evicted_deliverTo :
    (deliverTo note.isStatusUpdate note.text d id c).evicted =
      d.evicted ++ if d.hub.refuses id c then [id] else []
  := by
  unfold deliverTo refuses
  split
  next sink => simp [sink]
  next sink => simp [sink]
  next sink =>
    rw [sink]
    split
    next absent => simp [absent]
    next m found =>
      have put : m.put? note.text =
          if m.takes then some { m with waiting := m.waiting ++ [note.text] } else none
        := rfl
      rw [found]
      dsimp only
      by_cases takes : m.takes = true
      · simp [put, takes]
      · rw [if_neg takes] at put
        by_cases dropped : (m.hasReader && !c.kind.hasBackpressure) = true <;>
          simp [put, takes, dropped]

theorem get?_mailboxes_deliverTo (other : ConnectionId) :
    (deliverTo note.isStatusUpdate note.text d id c).hub.mailboxes.get? other =
      if other = id ∧ c.sink = .mailbox then (d.hub.mailboxes.get? other).map (·.offered note.text)
      else d.hub.mailboxes.get? other
  := by
  unfold deliverTo
  split
  next sink => simp [sink]
  next sink => simp [sink]
  next sink =>
    simp only [sink, and_true]
    split
    next absent =>
      split
      next same => rw [same, absent]; rfl
      next => rfl
    next m found =>
      cases put : m.put? note.text with
      | some m' =>
        dsimp only
        rw [SortedMap.get?_insert]
        split
        next same => rw [same, found, Option.map_some, Mailbox.offered, put]; rfl
        next => rfl
      | none =>
        have kept : (d.hub.mailboxes.get? id).map (·.offered note.text) = some m := by
          rw [found, Option.map_some, Mailbox.offered, put]
          rfl
        have same : (if other = id then (d.hub.mailboxes.get? other).map (·.offered note.text)
            else d.hub.mailboxes.get? other) = d.hub.mailboxes.get? other
          := by
          split
          next same => rw [same, kept, found]
          next => rfl
        rw [same]
        dsimp only
        split <;> rfl

/-! ### All recipients -/

theorem give_cons (recipient : ConnectionId × Connection) :
    give note (recipient :: recipients) d =
      give note recipients (deliverTo note.isStatusUpdate note.text d recipient.1 recipient.2)
  := rfl

/-- Every recipient is told once, in turn. -/
theorem published_give :
    (give note recipients d).published =
      d.published ++ recipients.filterMap fun r => r.2.topicMessage? note
  := by
  induction recipients generalizing d with
  | nil => exact (List.append_nil _).symm
  | cons recipient recipients ih =>
    rw [give_cons, ih, published_deliverTo, List.append_assoc, List.filterMap_cons]
    cases recipient.2.topicMessage? note with
    | none => rfl
    | some message => rfl

/-- The mailbox of one who is no recipient stays as it is. -/
theorem get?_mailboxes_give_of_absent (absent : ∀ r ∈ recipients, r.1 ≠ id) :
    (give note recipients d).hub.mailboxes.get? id = d.hub.mailboxes.get? id
  := by
  induction recipients generalizing d with
  | nil => rfl
  | cons recipient recipients ih =>
    obtain ⟨differs, absent⟩ := List.forall_mem_cons.1 absent
    rw [give_cons, ih absent, get?_mailboxes_deliverTo, if_neg]
    rintro ⟨same, -⟩
    exact differs same.symm

/-- The mailbox of a recipient is offered the text once. -/
theorem get?_mailboxes_give (distinct : recipients.Pairwise fun a b => a.1 ≠ b.1)
    (mem : (id, c) ∈ recipients) :
    (give note recipients d).hub.mailboxes.get? id =
      if c.sink = .mailbox then (d.hub.mailboxes.get? id).map (·.offered note.text)
      else d.hub.mailboxes.get? id
  := by
  induction recipients generalizing d with
  | nil => cases mem
  | cons recipient recipients ih =>
    obtain ⟨absent, distinct⟩ := List.pairwise_cons.1 distinct
    rw [give_cons]
    cases mem with
    | head =>
      rw [get?_mailboxes_give_of_absent, get?_mailboxes_deliverTo]
      · simp only [true_and]
      · intro r mem
        exact (absent r mem).symm
    | tail _ mem =>
      have kept : (deliverTo note.isStatusUpdate note.text d recipient.1
          recipient.2).hub.mailboxes.get? id = d.hub.mailboxes.get? id
        := by
        rw [get?_mailboxes_deliverTo, if_neg]
        rintro ⟨same, -⟩
        exact absent _ mem same.symm
      rw [ih distinct mem, kept]

/-- The recipients that refuse the text are evicted, in turn. -/
theorem evicted_give_eq (distinct : recipients.Pairwise fun a b => a.1 ≠ b.1) :
    (give note recipients d).evicted =
      d.evicted ++ (recipients.filter fun r => d.hub.refuses r.1 r.2).map (·.1)
  := by
  induction recipients generalizing d with
  | nil => exact (List.append_nil _).symm
  | cons recipient recipients ih =>
    obtain ⟨absent, distinct⟩ := List.pairwise_cons.1 distinct
    have others : ∀ r ∈ recipients,
        (deliverTo note.isStatusUpdate note.text d recipient.1 recipient.2).hub.refuses r.1 r.2 =
          d.hub.refuses r.1 r.2
      := by
      intro r mem
      apply refuses_congr
      rw [get?_mailboxes_deliverTo, if_neg]
      rintro ⟨same, -⟩
      exact absent r mem same.symm
    rw [give_cons, ih distinct, evicted_deliverTo, List.append_assoc, List.filter_congr others]
    rw [List.filter_cons]
    cases d.hub.refuses recipient.1 recipient.2 <;> rfl

/-! ### A whole delivery -/

/-- The notification is for those connections that its target names. -/
theorem recipients_eq (h : Hub) (target : Target) :
    h.recipients target = h.connections.entries.filter fun r => target.names r.1
  := by
  cases target with
  | all => exact (List.filter_eq_self.2 fun _ _ => rfl).symm
  | connection owner =>
    have own := h.connections.filterMap_entries owner fun c => some (owner, c)
    have filtered : (fun r : ConnectionId × Connection =>
        if r.1 = owner then some (owner, r.2) else none) =
          Option.guard fun r => Target.names (.connection owner) r.1
      := by
      funext ⟨id, c⟩
      by_cases same : id = owner
      · simp [same, Option.guard, Target.names]
      · simp [same, Ne.symm same, Option.guard, Target.names]
    rw [filtered, List.filterMap_eq_filter] at own
    rw [own]
    dsimp only [recipients]
    cases h.connections.get? owner <;> rfl

theorem mem_recipients_iff :
    (id, c) ∈ h.recipients target ↔ h.connections.get? id = some c ∧ target.names id = true
  := by
  rw [recipients_eq, List.mem_filter, SortedMap.get?_eq_some_iff]

theorem distinct_recipients (h : Hub) (target : Target) :
    (h.recipients target).Pairwise fun a b => a.1 ≠ b.1
  := by
  rw [recipients_eq]
  apply (h.connections.ordered.imp _).filter
  intro a b less
  exact UInt64.ne_of_lt less

/-- Only a duplex connection refuses a text, and only if its mailbox does not take it. -/
theorem refuses_iff (suits : h.Suits id c) :
    h.refuses id c = true ↔
      c.kind = .duplex ∧ ∃ m, h.mailboxes.get? id = some m ∧ m.takes = false
  := by
  unfold refuses
  cases suits with
  | duplex kind sink found => simp [kind, sink, found, TransportKind.hasBackpressure]
  | topic kind sink => simp [kind, sink]
  | requestResponse kind sink => simp [kind, sink]

theorem evicted_deliver (h : Hub) (target : Target) (note : Rpc.Notification) :
    (h.deliver target note).evicted =
      ((h.recipients target).filter fun r => h.refuses r.1 r.2).map (·.1)
  := by
  apply Eq.trans (evicted_give_eq (d := { hub := h }) (h.distinct_recipients target))
  rfl

theorem published_deliver (h : Hub) (target : Target) (note : Rpc.Notification) :
    (h.deliver target note).published =
      (h.recipients target).filterMap fun r => r.2.topicMessage? note
  := by
  apply Eq.trans (published_give (d := { hub := h }))
  rfl

theorem mailboxes_evict (evicted : List ConnectionId) (h : Hub) :
    (evicted.foldl (fun h id => (h.unregister id).2) h).mailboxes = h.mailboxes
  := by
  induction evicted generalizing h with
  | nil => rfl
  | cons id evicted ih => apply ih

theorem mailboxes_deliver (h : Hub) (target : Target) (note : Rpc.Notification) :
    (h.deliver target note).hub.mailboxes =
      (give note (h.recipients target) { hub := h }).hub.mailboxes
  := by
  rw [hub_deliver]
  apply mailboxes_evict

/-- What a delivery does to each connection, and that it does nothing else. -/
structure Delivers (h : Hub) (target : Target) (note : Rpc.Notification) (d : Delivery) : Prop where
  /-- A duplex connection that can take the text gets it as the newest one of its mailbox. -/
  given : ∀ id c m, h.connections.get? id = some c → target.names id = true →
    c.kind = .duplex → h.mailboxes.get? id = some m → m.takes = true →
    d.hub.connections.get? id = some c ∧
      d.hub.mailboxes.get? id = some { m with waiting := m.waiting ++ [note.text] }
  /-- The evicted ones are the duplex connections that cannot take the text. -/
  evicted : ∀ id, id ∈ d.evicted ↔ ∃ c m, h.connections.get? id = some c ∧
    target.names id = true ∧ c.kind = .duplex ∧ h.mailboxes.get? id = some m ∧ m.takes = false
  once : d.evicted.Nodup
  /-- Who is evicted is removed; the texts that it has not taken yet are left to it. -/
  gone : ∀ id, id ∈ d.evicted →
    d.hub.connections.get? id = none ∧ d.hub.mailboxes.get? id = h.mailboxes.get? id
  /-- The topic connections are told, each of them once. -/
  published : d.published =
    (h.connections.entries.filter fun r => target.names r.1).filterMap fun r =>
      r.2.topicMessage? note
  /-- Nobody else sees anything of it. -/
  others : ∀ id, (∀ c, h.connections.get? id = some c → target.names id = true →
      c.kind ≠ .duplex) →
    d.hub.connections.get? id = h.connections.get? id ∧
      d.hub.mailboxes.get? id = h.mailboxes.get? id
  ids : d.hub.ids = h.ids
  auth : d.hub.auth = h.auth

theorem mem_evicted_deliver (fitted : h.Fitted) (id : ConnectionId) :
    id ∈ (h.deliver target note).evicted ↔ ∃ c m, h.connections.get? id = some c ∧
      target.names id = true ∧ c.kind = .duplex ∧ h.mailboxes.get? id = some m ∧ m.takes = false
  := by
  rw [evicted_deliver, List.mem_map]
  constructor
  · rintro ⟨⟨id, c⟩, mem, rfl⟩
    obtain ⟨mem, refuses⟩ := List.mem_filter.1 mem
    obtain ⟨found, named⟩ := mem_recipients_iff.1 mem
    obtain ⟨kind, m, mailbox, shut⟩ := (refuses_iff (fitted id c found)).1 refuses
    exact ⟨c, m, found, named, kind, mailbox, shut⟩
  · rintro ⟨c, m, found, named, kind, mailbox, shut⟩
    refine ⟨(id, c), List.mem_filter.2 ⟨mem_recipients_iff.2 ⟨found, named⟩, ?_⟩, rfl⟩
    exact (refuses_iff (fitted id c found)).2 ⟨kind, m, mailbox, shut⟩

theorem delivers_deliver (fitted : h.Fitted) (target : Target) (note : Rpc.Notification) :
    Delivers h target note (h.deliver target note)
  := by
  have offered (id : ConnectionId) (c : Connection) (found : h.connections.get? id = some c)
      (named : target.names id = true) (sink : c.sink = .mailbox) :
      (h.deliver target note).hub.mailboxes.get? id =
        (h.mailboxes.get? id).map (·.offered note.text)
    := by
    rw [mailboxes_deliver, get?_mailboxes_give (h.distinct_recipients target)
      (mem_recipients_iff.2 ⟨found, named⟩), if_pos sink]
  constructor
  case given =>
    intro id c m found named kind mailbox takes
    have sink : c.sink = .mailbox := by
      cases fitted id c found with
      | duplex _ sink _ => exact sink
      | topic other _ => cases kind.symm.trans other
      | requestResponse other _ => cases kind.symm.trans other
    constructor
    · rw [get?_connections_deliver, if_neg, found]
      intro mem
      obtain ⟨_, m', _, _, _, mailbox', shut⟩ := (mem_evicted_deliver fitted id).1 mem
      obtain rfl := Option.some.inj (mailbox.symm.trans mailbox')
      cases takes.symm.trans shut
    · rw [offered id c found named sink, mailbox, Option.map_some, Mailbox.offered_of_takes takes]
  case evicted => apply mem_evicted_deliver fitted
  case once =>
    rw [evicted_deliver]
    apply List.pairwise_map.2
    apply (h.distinct_recipients target).filter
  case gone =>
    intro id mem
    rw [get?_connections_deliver, if_pos mem]
    use rfl
    obtain ⟨c, m, found, named, kind, mailbox, shut⟩ := (mem_evicted_deliver fitted id).1 mem
    cases fitted id c found with
    | duplex _ sink _ =>
      rw [offered id c found named sink, mailbox, Option.map_some,
        Mailbox.offered_of_not_takes shut]
    | topic other _ => cases kind.symm.trans other
    | requestResponse other _ => cases kind.symm.trans other
  case published =>
    rw [published_deliver, recipients_eq]
  case others =>
    intro id foreign
    constructor
    · rw [get?_connections_deliver, if_neg]
      intro mem
      obtain ⟨c, m, found, named, kind, -⟩ := (mem_evicted_deliver fitted id).1 mem
      exact foreign c found named kind
    · rw [mailboxes_deliver]
      by_cases mem : ∃ c, (id, c) ∈ h.recipients target
      · obtain ⟨c, mem⟩ := mem
        obtain ⟨found, named⟩ := mem_recipients_iff.1 mem
        rw [get?_mailboxes_give (h.distinct_recipients target) mem, if_neg]
        intro sink
        cases fitted id c found with
        | duplex kind _ _ => exact foreign c found named kind
        | topic _ other => cases sink.symm.trans other
        | requestResponse _ other => cases sink.symm.trans other
      · rw [get?_mailboxes_give_of_absent]
        rintro ⟨other, c⟩ member rfl
        exact mem ⟨c, member⟩
  case ids => exact (ids_auth_deliver h target note).1
  case auth => exact (ids_auth_deliver h target note).2

end

end Hub

end ControlRelay
