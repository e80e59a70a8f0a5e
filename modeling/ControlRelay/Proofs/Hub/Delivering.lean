import ControlRelay.Hub.Delivery
import ControlRelay.Proofs.SortedMap
import Mathlib.Tactic.Common

/-!
# What a delivery puts into a mailbox

A delivery puts its text into the mailbox of a connection that it is for, and changes no other
mailbox.  A duplex connection that is still there after the delivery has got the text.
-/

namespace ControlRelay.Hub

/-- These texts were put into the mailbox of a connection, and nothing was taken from there. -/
def Puts (id : ConnectionId) (texts : List String) (h h' : Hub) : Prop :=
  ∀ m, h.mailboxes.get? id = some m →
    ∃ m', h'.mailboxes.get? id = some m' ∧ m'.waiting = m.waiting ++ texts

section

variable {h h' h'' : Hub} {id : ConnectionId} {texts more : List String}

theorem puts_of_same (same : h'.mailboxes = h.mailboxes) :
    Puts id [] h h'
  := by
  intro m found
  use m
  rw [same, List.append_nil]
  exact ⟨found, rfl⟩

theorem Puts.trans (first : Puts id texts h h') (second : Puts id more h' h'') :
    Puts id (texts ++ more) h h''
  := by
  intro m found
  obtain ⟨m', found', waiting⟩ := first m found
  obtain ⟨m'', found'', waiting'⟩ := second m' found'
  use m'', found''
  rw [waiting', waiting, List.append_assoc]

theorem waiting_of_put? {m m' : Mailbox} {text : String} (put : m.put? text = some m') :
    m'.waiting = m.waiting ++ [text]
  := by
  obtain ⟨-, same⟩ := Option.ite_none_right_eq_some.1 put
  rw [← Option.some.inj same]

/-- To put a text into a mailbox is to put it into no other. -/
theorem puts_insert {owner : ConnectionId} {m m' : Mailbox} {text : String}
    (found : h.mailboxes.get? owner = some m) (put : m.put? text = some m') :
    Puts id (if owner = id then [text] else []) h
      { h with mailboxes := h.mailboxes.insert owner m' }
  := by
  intro m₀ found₀
  dsimp only
  rw [SortedMap.get?_insert]
  by_cases same : owner = id
  · obtain rfl : m = m₀ := by
      rw [same] at found
      apply Option.some.inj (found.symm.trans found₀)
    rw [if_pos same, if_pos same.symm]
    use m', rfl, waiting_of_put? put
  · rw [if_neg same, if_neg (Ne.symm same)]
    use m₀, found₀
    rw [List.append_nil]

/-- To give a text to a connection is to put it into its mailbox, or to leave the hub alone; those
who are to be evicted still are. -/
theorem deliverTo_cases (isStatus : Bool) (text : String) (d : Delivery) (owner : ConnectionId)
    (c : Connection) :
    d.evicted ⊆ (deliverTo isStatus text d owner c).evicted ∧
      ((deliverTo isStatus text d owner c).hub = d.hub ∨
        ∃ m m', d.hub.mailboxes.get? owner = some m ∧ m.put? text = some m' ∧
          (deliverTo isStatus text d owner c).hub =
            { d.hub with mailboxes := d.hub.mailboxes.insert owner m' })
  := by
  unfold deliverTo
  split
  next => exact ⟨List.Subset.refl _, .inl rfl⟩
  next => exact ⟨List.Subset.refl _, .inl rfl⟩
  next =>
    split
    next => exact ⟨List.Subset.refl _, .inl rfl⟩
    next m found =>
      split
      next m' put => exact ⟨List.Subset.refl _, .inr ⟨m, m', found, put, rfl⟩⟩
      next =>
        split
        next => exact ⟨List.Subset.refl _, .inl rfl⟩
        next => exact ⟨List.subset_append_left _ _, .inl rfl⟩

/-- A connection that is given a text has it in its mailbox or keeps the mailbox as it was. -/
theorem exists_puts_deliverTo (isStatus : Bool) (text : String) (d : Delivery)
    (owner : ConnectionId) (c : Connection) :
    ∃ texts, (texts = [] ∨ owner = id ∧ texts = [text]) ∧
      Puts id texts d.hub (deliverTo isStatus text d owner c).hub
  := by
  obtain ⟨-, same | ⟨m, m', found, put, given⟩⟩ := deliverTo_cases isStatus text d owner c
  · use [], .inl rfl
    rw [same]
    apply puts_of_same rfl
  · rw [given]
    refine ⟨_, ?_, puts_insert found put⟩
    split
    next same => exact .inr ⟨same, rfl⟩
    next => exact .inl rfl

theorem Puts.evict (puts : Puts id texts h h') (evicted : List ConnectionId) :
    Puts id texts h (evicted.foldl (fun h id => (h.unregister id).2) h')
  := by
  have same : (evicted.foldl (fun h id => (h.unregister id).2) h').mailboxes = h'.mailboxes := by
    clear puts
    induction evicted generalizing h' with
    | nil => rfl
    | cons other evicted ih => apply ih
  unfold Puts
  rw [same]
  apply puts

/-- Some recipients are given a notification, one after the other. -/
def give (note : Rpc.Notification) (recipients : List (ConnectionId × Connection))
    (d : Delivery) : Delivery :=
  recipients.foldl (fun d r => deliverTo note.isStatusUpdate note.text d r.1 r.2) d

variable {note : Rpc.Notification} {d : Delivery} {recipients : List (ConnectionId × Connection)}

theorem hub_deliver (h : Hub) (target : Target) (note : Rpc.Notification) :
    (h.deliver target note).hub =
      let d := give note (h.recipients target) { hub := h }
      d.evicted.foldl (fun h id => (h.unregister id).2) d.hub
  := rfl

theorem exists_puts_give (note : Rpc.Notification)
    (recipients : List (ConnectionId × Connection)) (d : Delivery) (id : ConnectionId) :
    ∃ n, Puts id (List.replicate n note.text) d.hub (give note recipients d).hub
  := by
  induction recipients generalizing d with
  | nil => exact ⟨0, puts_of_same rfl⟩
  | cons recipient recipients ih =>
    obtain ⟨texts, once, first⟩ :=
      exists_puts_deliverTo note.isStatusUpdate note.text d recipient.1 recipient.2
    obtain ⟨n, others⟩ := ih (deliverTo note.isStatusUpdate note.text d recipient.1 recipient.2)
    obtain rfl | ⟨-, rfl⟩ := once
    · exact ⟨n, first.trans others⟩
    · exact ⟨n + 1, first.trans others⟩

/-- A delivery puts its text into a mailbox a number of times, and nothing else. -/
theorem exists_puts_deliver (h : Hub) (target : Target) (note : Rpc.Notification)
    (id : ConnectionId) :
    ∃ n, Puts id (List.replicate n note.text) h (h.deliver target note).hub
  := by
  obtain ⟨n, puts⟩ := exists_puts_give note (h.recipients target) { hub := h } id
  use n
  rw [hub_deliver]
  apply puts.evict

theorem puts_give_of_ne (differ : ∀ r ∈ recipients, r.1 ≠ id) :
    Puts id [] d.hub (give note recipients d).hub
  := by
  induction recipients generalizing d with
  | nil => apply puts_of_same rfl
  | cons recipient recipients ih =>
    obtain ⟨texts, once, first⟩ :=
      exists_puts_deliverTo note.isStatusUpdate note.text d recipient.1 recipient.2
    obtain rfl | ⟨same, -⟩ := once
    · apply first.trans (ih _)
      intro r mem
      apply differ r (List.mem_cons_of_mem _ mem)
    · apply absurd same (differ recipient List.mem_cons_self)

/-- A delivery to another connection changes nothing in the mailbox. -/
theorem puts_deliver_of_ne {owner : ConnectionId} (differs : owner ≠ id) :
    Puts id [] h (h.deliver (.connection owner) note).hub
  := by
  rw [hub_deliver]
  apply Puts.evict
  apply puts_give_of_ne (d := { hub := h })
  intro r mem
  obtain ⟨c, -, rfl⟩ := Option.map_eq_some_iff.1 (Option.mem_toList.1 mem)
  apply differs

/-! ### The text for a connection -/

theorem evicted_give :
    d.evicted ⊆ (give note recipients d).evicted
  := by
  induction recipients generalizing d with
  | nil => apply List.Subset.refl
  | cons recipient recipients ih =>
    apply List.Subset.trans (deliverTo_cases _ _ d recipient.1 recipient.2).1 ih

/-- Who is evicted is there no more, and all others stay. -/
theorem get?_connections_evict (evicted : List ConnectionId) (h : Hub) (id : ConnectionId) :
    (evicted.foldl (fun h id => (h.unregister id).2) h).connections.get? id =
      if id ∈ evicted then none else h.connections.get? id
  := by
  induction evicted generalizing h with
  | nil => simp
  | cons other evicted ih =>
    have erased : (h.unregister other).2.connections.get? id =
        if id = other then none else h.connections.get? id
      := SortedMap.get?_erase ..
    rw [List.foldl_cons, ih, erased]
    by_cases mem : id ∈ evicted <;> by_cases same : id = other <;> simp [mem, same]

theorem contains_evict {evicted : List ConnectionId} (mem : id ∈ evicted) :
    (evicted.foldl (fun h id => (h.unregister id).2) h).contains id = false
  := by
  rw [Bool.eq_false_iff, Ne, contains, SortedMap.contains_iff, get?_connections_evict, if_pos mem]
  simp

/-- To give a notification changes mailboxes only. -/
theorem exists_mailboxes_give (note : Rpc.Notification)
    (recipients : List (ConnectionId × Connection)) (d : Delivery) :
    ∃ mailboxes, (give note recipients d).hub = { d.hub with mailboxes }
  := by
  induction recipients generalizing d with
  | nil => exact ⟨_, rfl⟩
  | cons recipient recipients ih =>
    obtain ⟨mailboxes, others⟩ :=
      ih (deliverTo note.isStatusUpdate note.text d recipient.1 recipient.2)
    use mailboxes
    obtain ⟨-, same | ⟨m, m', -, -, given⟩⟩ :=
      deliverTo_cases note.isStatusUpdate note.text d recipient.1 recipient.2
    · exact others.trans (by rw [same])
    · exact others.trans (by rw [given])

/-- A delivery takes away the connections that it evicts. -/
theorem get?_connections_deliver (h : Hub) (target : Target) (note : Rpc.Notification)
    (id : ConnectionId) :
    (h.deliver target note).hub.connections.get? id =
      if id ∈ (h.deliver target note).evicted then none else h.connections.get? id
  := by
  obtain ⟨mailboxes, given⟩ := exists_mailboxes_give note (h.recipients target) { hub := h }
  rw [hub_deliver]
  dsimp only at given ⊢
  rw [given]
  apply get?_connections_evict

theorem ids_auth_deliver (h : Hub) (target : Target) (note : Rpc.Notification) :
    (h.deliver target note).hub.ids = h.ids ∧ (h.deliver target note).hub.auth = h.auth
  := by
  have evict (evicted : List ConnectionId) (h : Hub) :
      (evicted.foldl (fun h id => (h.unregister id).2) h).ids = h.ids ∧
        (evicted.foldl (fun h id => (h.unregister id).2) h).auth = h.auth
    := by
    induction evicted generalizing h with
    | nil => exact ⟨rfl, rfl⟩
    | cons other evicted ih => exact ih (h.unregister other).2
  obtain ⟨mailboxes, given⟩ := exists_mailboxes_give note (h.recipients target) { hub := h }
  rw [hub_deliver]
  dsimp only at given ⊢
  rw [given]
  apply evict

/-- A duplex connection gets the text or is evicted. -/
theorem puts_or_evicted {isStatus : Bool} {text : String} {c : Connection}
    (duplex : c.kind = .duplex) (sink : c.sink = .mailbox) :
    Puts id [text] d.hub (deliverTo isStatus text d id c).hub ∨
      id ∈ (deliverTo isStatus text d id c).evicted
  := by
  unfold deliverTo
  rw [sink]
  dsimp only
  split
  next absent =>
    left
    intro m found
    cases absent.symm.trans found
  next m found =>
    split
    next put =>
      left
      have puts := @puts_insert d.hub id _ _ _ _ found put
      rw [if_pos rfl] at puts
      apply puts
    next =>
      right
      simp [duplex, TransportKind.hasBackpressure]

/-- A connection that a notification is for is one recipient among others. -/
theorem exists_recipients {c : Connection} {target : Target}
    (connected : h.connections.get? id = some c)
    (included : target = .all ∨ target = .connection id) :
    ∃ before after, h.recipients target = before ++ (id, c) :: after ∧
      (∀ r ∈ before, r.1 ≠ id) ∧ ∀ r ∈ after, r.1 ≠ id
  := by
  obtain rfl | rfl := included
  · obtain ⟨before, after, same⟩ := List.append_of_mem (SortedMap.get?_eq_some_iff.1 connected)
    have ordered := h.connections.ordered
    rw [same] at ordered
    obtain ⟨-, rest, less⟩ := List.pairwise_append.1 ordered
    use before, after, same
    constructor
    · intro r mem
      apply UInt64.ne_of_lt (less r mem (id, c) List.mem_cons_self)
    · intro r mem
      apply (UInt64.ne_of_lt ((List.pairwise_cons.1 rest).1 r mem)).symm
  · use [], []
    simp [recipients, connected]

/-- A duplex connection that is still there after a notification for it has got its text once. -/
theorem puts_deliver_own {c : Connection} {target : Target}
    (connected : h.connections.get? id = some c) (duplex : c.kind = .duplex)
    (sink : c.sink = .mailbox) (included : target = .all ∨ target = .connection id)
    (stays : (h.deliver target note).hub.contains id = true) :
    Puts id [note.text] h (h.deliver target note).hub
  := by
  obtain ⟨before, after, split, differ, differ'⟩ := exists_recipients connected included
  let d := give note before { hub := h }
  let given := deliverTo note.isStatusUpdate note.text d id c
  have all : give note (h.recipients target) { hub := h } = give note after given := by
    rw [split, give, List.foldl_append]
    rfl
  rw [hub_deliver, all] at stays ⊢
  apply Puts.evict
  have earlier : Puts id [] h d.hub := puts_give_of_ne (d := { hub := h }) differ
  have own : Puts id [note.text] d.hub given.hub ∨ id ∈ given.evicted :=
    puts_or_evicted duplex sink
  cases own with
  | inl puts => apply (earlier.trans puts).trans (puts_give_of_ne differ')
  | inr evicted =>
    rw [contains_evict (evicted_give evicted)] at stays
    cases stays

end

end ControlRelay.Hub
