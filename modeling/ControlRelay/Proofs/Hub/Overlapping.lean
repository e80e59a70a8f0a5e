import ControlRelay.Proofs.Hub.Isolating
import Mathlib.Data.List.Perm.Basic
import Mathlib.Data.List.Nodup

/-!
# Deliveries that overlap

A delivery goes through the connections first, while others may do so as well but nobody can make
or drop a connection, and then it removes those that it evicts.  In between connections may come
and go, and other deliveries may remove the same ones.  Still every connection that was ever made
either lives, or was reported once as evicted, or was dropped by its owner.
-/

namespace ControlRelay

/-- A new client, as one of the transports makes it known. -/
inductive Client where
  | duplex (capacity : Nat)
  | topic (broker : Nat) (notification status : String)
  | requestResponse

/-- What else is done to the connections and their mailboxes. -/
inductive Upkeep where
  | watched (id : ConnectionId)
  | identified (id : ConnectionId) (identity : ClientIdentity) (token : Option String)
  /-- A session puts a reply into its mailbox. -/
  | replied (id : ConnectionId) (text : String)
  | took (id : ConnectionId) (count : Nat)
  | abandoned (id : ConnectionId)

namespace Upkeep

/-- Whether it changes a connection record. -/
def changesRecord : Upkeep → Bool
  | watched _ | identified _ _ _ => true
  | _ => false

/-- The hub afterwards. -/
def perform (h : Hub) : Upkeep → Hub
  | watched id => (h.watch id).2
  | identified id identity token => (h.identify id identity token).2
  | replied id text =>
    match h.mailboxes.get? id with
    | some m => { h with mailboxes := h.mailboxes.insert id (m.offered text) }
    | none => h
  | took id count => (h.take id count).2
  | abandoned id => h.abandon id

end Upkeep

/-- How far a delivery is. -/
inductive Delivering where
  /-- It goes through the connections and has these left. -/
  | reading (note : Rpc.Notification) (rest : List (ConnectionId × Connection))
    (evicted : List ConnectionId)
  /-- It is to remove those that it evicts. -/
  | dropping (evicted : List ConnectionId)
  | ended (evicted : List ConnectionId)

/-- Whether a delivery goes through the connections. -/
def Delivering.isReading : Delivering → Bool
  | reading _ _ _ => true
  | _ => false

/-- A hub in use. -/
structure Traffic where
  hub : Hub
  /-- All deliveries, the oldest first. -/
  deliveries : List Delivering := []
  /-- The ids given to connections. -/
  given : List ConnectionId := []
  /-- The connections dropped by their owners. -/
  unregistered : List ConnectionId := []
  /-- What was put on the channel of evictions. -/
  reported : List ConnectionId := []
  published : List (Nat × TopicMessage) := []

namespace Traffic

/-- What can happen.  Deliveries are numbered in the order in which they begin. -/
inductive Event where
  | registered (client : Client)
  | unregistered (id : ConnectionId)
  | tended (upkeep : Upkeep)
  | begun (target : Target) (note : Rpc.Notification)
  /-- A delivery gives the text to one of those that it has left. -/
  | handed (number place : Nat)
  /-- A delivery went through all connections. -/
  | parted (number : Nat)
  | dropped (number : Nat)

/-- Makes a connection for a client. -/
def register (h : Hub) : Client → ConnectionId × Hub
  | .duplex capacity => h.register .duplex .mailbox capacity
  | .topic broker notification status => h.register .topic (.topics broker notification status) 0
  | .requestResponse => h.register .requestResponse .detached 0

/-- Whether connection records may be changed: nobody goes through them. -/
def isFree (t : Traffic) : Bool := t.deliveries.all fun d => !d.isReading

/-- Removes a connection; it is reported if it was there. -/
def evict (t : Traffic) (id : ConnectionId) : Traffic :=
  let (removed, hub) := t.hub.unregister id
  if removed then { t with hub, reported := t.reported ++ [id] } else t

/-- The hub after an event.  One that has to wait does not happen. -/
def next (t : Traffic) : Event → Traffic
  | .registered client =>
    if t.isFree then
      let (id, hub) := register t.hub client
      { t with hub, given := t.given ++ [id] }
    else t
  | .unregistered id =>
    if t.isFree then
      let (removed, hub) := t.hub.unregister id
      if removed then { t with hub, unregistered := t.unregistered ++ [id] } else t
    else t
  | .tended upkeep =>
    if upkeep.changesRecord && !t.isFree then t else { t with hub := upkeep.perform t.hub }
  | .begun target note =>
    { t with deliveries := t.deliveries ++ [.reading note (t.hub.recipients target) []] }
  | .handed number place =>
    match t.deliveries[number]? with
    | some (.reading note rest evicted) =>
      match rest[place]? with
      | some (id, c) =>
        let d := Hub.deliverTo note.isStatusUpdate note.text ⟨t.hub, evicted, t.published⟩ id c
        { t with
          hub := d.hub
          published := d.published
          deliveries := t.deliveries.set number (.reading note (rest.eraseIdx place) d.evicted) }
      | none => t
    | _ => t
  | .parted number =>
    match t.deliveries[number]? with
    | some (.reading _ [] evicted) =>
      { t with deliveries := t.deliveries.set number (.dropping evicted) }
    | _ => t
  | .dropped number =>
    match t.deliveries[number]? with
    | some (.dropping evicted) =>
      if t.isFree then
        evicted.foldl evict { t with deliveries := t.deliveries.set number (.ended evicted) }
      else t
    | _ => t

/-- The hub after events. -/
def run (t : Traffic) (events : List Event) : Traffic := events.foldl next t

/-- A hub that knows no connection. -/
def fresh (auth : Config.AuthSettings) : Traffic := { hub := { auth } }

/-- Whether an event is that a delivery removes those that it evicts. -/
def Event.IsDropping (event : Event) : Prop := ∃ number, event = .dropped number

end Traffic

/-! ### Records and mailboxes that stay -/

namespace Hub

/-- No connection is made or carried otherwise, and no mailbox goes. -/
structure Keeps (h h' : Hub) : Prop where
  record : ∀ id c', h'.connections.get? id = some c' →
    ∃ c, h.connections.get? id = some c ∧ c'.kind = c.kind ∧ c'.sink = c.sink
  mailbox : ∀ id m, h.mailboxes.get? id = some m → ∃ m', h'.mailboxes.get? id = some m'
  ids : h'.ids = h.ids

section

variable {h h' h'' : Hub} {id : ConnectionId}

theorem Keeps.refl (h : Hub) :
    h.Keeps h
  := by
  constructor
  · intro id c found
    exact ⟨c, found, rfl, rfl⟩
  · intro id m found
    exact ⟨m, found⟩
  · rfl

theorem Keeps.fitted (keeps : h.Keeps h') (fitted : h.Fitted) :
    h'.Fitted
  := by
  intro id c' found'
  obtain ⟨c, found, kind', sink'⟩ := keeps.record id c' found'
  cases fitted id c found with
  | duplex kind sink mailbox =>
    obtain ⟨m', mailbox'⟩ := keeps.mailbox id _ mailbox
    exact .duplex (kind'.trans kind) (sink'.trans sink) mailbox'
  | topic kind sink => exact .topic (kind'.trans kind) (sink'.trans sink)
  | requestResponse kind sink => exact .requestResponse (kind'.trans kind) (sink'.trans sink)

/-- Another record of the same kind does not make a connection another one. -/
theorem keeps_record {c c' : Connection} (found : h.connections.get? id = some c)
    (kind : c'.kind = c.kind) (sink : c'.sink = c.sink) :
    h.Keeps { h with connections := h.connections.insert id c' }
  := by
  constructor
  · intro other c'' found''
    dsimp only at found''
    rw [SortedMap.get?_insert] at found''
    split at found''
    next same =>
      obtain rfl := Option.some.inj found''
      exact ⟨c, same ▸ found, kind, sink⟩
    next => exact ⟨c'', found'', rfl, rfl⟩
  · intro other m found
    exact ⟨m, found⟩
  · rfl

theorem keeps_mailbox (h : Hub) (id : ConnectionId) (m : Mailbox) :
    h.Keeps { h with mailboxes := h.mailboxes.insert id m }
  := by
  constructor
  · intro other c found
    exact ⟨c, found, rfl, rfl⟩
  · intro other m' found
    dsimp only
    rw [SortedMap.get?_insert]
    split
    next => exact ⟨m, rfl⟩
    next => exact ⟨m', found⟩
  · rfl

theorem keeps_unregister (h : Hub) (id : ConnectionId) :
    h.Keeps (h.unregister id).2
  := by
  constructor
  · intro other c found
    have found : (h.connections.erase id).get? other = some c := found
    rw [SortedMap.get?_erase, Option.ite_none_left_eq_some] at found
    exact ⟨c, found.2, rfl, rfl⟩
  · intro other m found
    exact ⟨m, found⟩
  · rfl

theorem keeps_deliverTo (isStatus : Bool) (text : String) (d : Delivery) (id : ConnectionId)
    (c : Connection) :
    d.hub.Keeps (deliverTo isStatus text d id c).hub ∧
      (deliverTo isStatus text d id c).hub.connections = d.hub.connections
  := by
  obtain ⟨-, same | ⟨m, m', -, -, given⟩⟩ := deliverTo_cases isStatus text d id c
  · rw [same]
    exact ⟨.refl _, rfl⟩
  · rw [given]
    exact ⟨keeps_mailbox d.hub id m', rfl⟩

/-- What is done between registrations keeps the records and the mailboxes, and drops no
connection. -/
theorem keeps_perform (h : Hub) (upkeep : Upkeep) :
    h.Keeps (upkeep.perform h) ∧ (upkeep.perform h).connections.keys.Perm h.connections.keys
  := by
  have record {id : ConnectionId} {c c' : Connection} (found : h.connections.get? id = some c)
      (kind : c'.kind = c.kind) (sink : c'.sink = c.sink) :
      h.Keeps { h with connections := h.connections.insert id c' } ∧
        (h.connections.insert id c').keys.Perm h.connections.keys
    := by
    use keeps_record found kind sink
    exact SortedMap.perm_keys_replace (SortedMap.mem_keys_iff.2 ⟨c, found⟩) c'
  cases upkeep with
  | watched id =>
    dsimp only [Upkeep.perform, watch]
    cases found : h.connections.get? id with
    | none => exact ⟨.refl h, .rfl⟩
    | some c => exact record found rfl rfl
  | identified id identity token =>
    dsimp only [Upkeep.perform, identify]
    cases found : h.connections.get? id with
    | none => exact ⟨.refl h, .rfl⟩
    | some c =>
      dsimp only
      split
      next => exact ⟨.refl h, .rfl⟩
      next => exact record found rfl rfl
  | replied id text =>
    dsimp only [Upkeep.perform]
    cases h.mailboxes.get? id with
    | none => exact ⟨.refl h, .rfl⟩
    | some m => exact ⟨keeps_mailbox h id _, .rfl⟩
  | took id count =>
    dsimp only [Upkeep.perform, take]
    cases h.mailboxes.get? id with
    | none => exact ⟨.refl h, .rfl⟩
    | some m => exact ⟨keeps_mailbox h id _, .rfl⟩
  | abandoned id =>
    dsimp only [Upkeep.perform, abandon]
    cases h.mailboxes.get? id with
    | none => exact ⟨.refl h, .rfl⟩
    | some m => exact ⟨keeps_mailbox h id _, .rfl⟩

end

end Hub

/-! ### What becomes of the connections -/

namespace Traffic

section

variable {t : Traffic} {h : Hub} {client : Client} {id : ConnectionId} {event : Event}

/-- A new connection takes the next id. -/
theorem register_eq (h : Hub) (client : Client) :
    (register h client).1 = h.ids.current ∧
      (register h client).2.ids = ⟨h.ids.current + 1⟩ ∧
      ∃ c, (register h client).2.connections = h.connections.insert h.ids.current c
  := by
  cases client with
  | duplex capacity => exact ⟨rfl, rfl, _, rfl⟩
  | topic broker notification status => exact ⟨rfl, rfl, _, rfl⟩
  | requestResponse => exact ⟨rfl, rfl, _, rfl⟩

theorem fitted_insert {h' : Hub} {c : Connection} (fitted : h.Fitted)
    (connections : h'.connections = h.connections.insert id c)
    (kept : ∀ id m, h.mailboxes.get? id = some m → ∃ m', h'.mailboxes.get? id = some m')
    (suits : h'.Suits id c) :
    h'.Fitted
  := by
  intro other c' found
  rw [connections, SortedMap.get?_insert] at found
  split at found
  next same =>
    obtain rfl := Option.some.inj found
    rw [same]
    exact suits
  next =>
    cases fitted other c' found with
    | duplex kind sink mailbox =>
      obtain ⟨m', mailbox'⟩ := kept other _ mailbox
      exact .duplex kind sink mailbox'
    | topic kind sink => exact .topic kind sink
    | requestResponse kind sink => exact .requestResponse kind sink

theorem fitted_register (fitted : h.Fitted) (client : Client) :
    (register h client).2.Fitted
  := by
  cases client with
  | duplex capacity =>
    apply fitted_insert fitted rfl
    · exact (Hub.keeps_mailbox h h.ids.current _).mailbox
    · exact .duplex rfl rfl (SortedMap.get?_insert_self ..)
  | topic broker notification status =>
    apply fitted_insert fitted rfl
    · exact (Hub.Keeps.refl h).mailbox
    · exact .topic rfl rfl
  | requestResponse =>
    apply fitted_insert fitted rfl
    · exact (Hub.Keeps.refl h).mailbox
    · exact .requestResponse rfl rfl

/-- Every id that was given is the id of a live connection, was reported or was given up by its
owner, and only one of these. -/
structure Accounted (t : Traffic) : Prop where
  fitted : t.hub.Fitted
  current : t.hub.ids.current = UInt64.ofNat (t.given.length + 1)
  inTurn : t.given = (List.range t.given.length).map fun n => UInt64.ofNat (n + 1)
  partition : (t.hub.connections.keys ++ t.reported ++ t.unregistered).Perm t.given

theorem accounted_fresh (auth : Config.AuthSettings) :
    (fresh auth).Accounted
  := by
  constructor
  · intro id c found
    cases found
  · rfl
  · rfl
  · exact .nil

theorem next_not_mem {n : Nat} (few : n + 1 < UInt64.size) :
    UInt64.ofNat (n + 1) ∉ (List.range n).map fun n => UInt64.ofNat (n + 1)
  := by
  intro mem
  obtain ⟨m, less, same⟩ := List.mem_map.1 mem
  have less := List.mem_range.1 less
  have same := congrArg UInt64.toNat same
  rw [UInt64.toNat_ofNat', UInt64.toNat_ofNat', Nat.mod_eq_of_lt few,
    Nat.mod_eq_of_lt (by omega)] at same
  omega

/-- Fewer than 2^64 ids are all different. -/
theorem Accounted.nodup_given (accounted : t.Accounted) (few : t.given.length < UInt64.size) :
    t.given.Nodup
  := by
  rw [accounted.inTurn]
  apply List.pairwise_map.2
  apply List.nodup_range.imp_of_mem
  intro m n mem mem' differ same
  have less := List.mem_range.1 mem
  have less' := List.mem_range.1 mem'
  have same := congrArg UInt64.toNat same
  rw [UInt64.toNat_ofNat', UInt64.toNat_ofNat', Nat.mod_eq_of_lt (Nat.lt_of_le_of_lt less few),
    Nat.mod_eq_of_lt (Nat.lt_of_le_of_lt less' few)] at same
  omega

theorem Accounted.registered (accounted : t.Accounted) (few : t.given.length + 1 < UInt64.size)
    (client : Client) :
    Accounted { t with
      hub := (register t.hub client).2
      given := t.given ++ [(register t.hub client).1] }
  := by
  obtain ⟨given, ids, c, connections⟩ := register_eq t.hub client
  have longer : (t.given ++ [(register t.hub client).1]).length = t.given.length + 1 :=
    List.length_append
  have taken : t.hub.ids.current ∉ t.given := by
    rw [accounted.current, accounted.inTurn, List.length_map, List.length_range]
    apply next_not_mem few
  have absent : t.hub.ids.current ∉ t.hub.connections.keys := by
    intro mem
    apply taken
    apply accounted.partition.subset
    simp [mem]
  constructor
  case fitted => apply fitted_register accounted.fitted
  case current =>
    dsimp only
    rw [longer, ids, accounted.current]
    exact (UInt64.ofNat_add ..).symm
  case inTurn =>
    dsimp only
    rw [longer, List.range_succ, List.map_append, ← accounted.inTurn, given, accounted.current]
    rfl
  case partition =>
    dsimp only
    rw [connections, given]
    have added := SortedMap.perm_keys_insert absent c
    apply ((added.append_right t.reported).append_right t.unregistered).trans
    exact (accounted.partition.cons _).trans (List.perm_append_singleton ..).symm

theorem Accounted.of_keeps (accounted : t.Accounted) (keeps : t.hub.Keeps h)
    (keys : h.connections.keys.Perm t.hub.connections.keys) :
    Accounted { t with hub := h }
  := by
  constructor
  case fitted => exact keeps.fitted accounted.fitted
  case current => exact (congrArg Sequence.current keeps.ids).trans accounted.current
  case inTurn => exact accounted.inTurn
  case partition =>
    exact ((keys.append_right t.reported).append_right t.unregistered).trans accounted.partition

/-- A connection that lives is removed, and is reported or given up by its owner. -/
theorem Accounted.removed (accounted : t.Accounted) (lives : t.hub.contains id = true)
    {reported unregistered : List ConnectionId}
    (moved : (reported ++ unregistered).Perm (id :: (t.reported ++ t.unregistered))) :
    Accounted { t with hub := (t.hub.unregister id).2, reported, unregistered }
  := by
  constructor
  case fitted => exact (Hub.keeps_unregister t.hub id).fitted accounted.fitted
  case current => exact accounted.current
  case inTurn => exact accounted.inTurn
  case partition =>
    have keys : t.hub.connections.keys.Perm (id :: (t.hub.connections.erase id).keys) :=
      SortedMap.perm_keys_erase (SortedMap.mem_keys_iff_contains.2 lives)
    have gone := (moved.append_left (t.hub.connections.erase id).keys).trans List.perm_middle
    have back := keys.symm.append_right (t.reported ++ t.unregistered)
    have partition := accounted.partition
    rw [List.append_assoc] at partition ⊢
    exact gone.trans (back.trans partition)

theorem evict_cases (t : Traffic) (id : ConnectionId) :
    t.hub.contains id = true ∧
        t.evict id = { t with
          hub := (t.hub.unregister id).2
          reported := t.reported ++ [id] } ∨
      t.hub.contains id = false ∧ t.evict id = t
  := by
  unfold evict Hub.unregister
  dsimp only
  cases t.hub.contains id with
  | true => exact .inl ⟨rfl, rfl⟩
  | false => exact .inr ⟨rfl, rfl⟩

theorem Accounted.foldl_evict (accounted : t.Accounted) (evicted : List ConnectionId) :
    (evicted.foldl evict t).Accounted
  := by
  induction evicted generalizing t with
  | nil => exact accounted
  | cons id evicted ih =>
    rw [List.foldl_cons]
    obtain ⟨lives, same⟩ | ⟨-, same⟩ := evict_cases t id
    · rw [same]
      apply ih (accounted.removed lives _)
      rw [List.append_assoc]
      exact List.perm_middle
    · rw [same]
      exact ih accounted

theorem Accounted.withDeliveries (accounted : t.Accounted) (deliveries : List Delivering)
    (published : List (Nat × TopicMessage)) :
    Accounted { t with deliveries, published }
  := ⟨accounted.fitted, accounted.current, accounted.inTurn, accounted.partition⟩

theorem accounted_next (accounted : t.Accounted) (event : Event)
    (few : (t.next event).given.length < UInt64.size) :
    (t.next event).Accounted
  := by
  cases event with
  | registered client =>
    dsimp only [next] at few ⊢
    split at few
    next free =>
      have longer : (t.given ++ [(register t.hub client).1]).length = t.given.length + 1 :=
        List.length_append
      rw [if_pos free]
      exact accounted.registered (longer ▸ few) client
    next held =>
      rw [if_neg held]
      exact accounted
  | unregistered id =>
    dsimp only [next, Hub.unregister]
    split
    next =>
      split
      next lives =>
        apply accounted.removed lives
        rw [← List.append_assoc]
        exact List.perm_append_singleton ..
      next => exact accounted
    next => exact accounted
  | tended upkeep =>
    obtain ⟨keeps, keys⟩ := Hub.keeps_perform t.hub upkeep
    dsimp only [next]
    split
    next => exact accounted
    next => exact accounted.of_keeps keeps keys
  | begun target note => exact accounted.withDeliveries _ _
  | handed number place =>
    dsimp only [next]
    split
    next note rest evicted _ =>
      split
      next id c _ =>
        obtain ⟨keeps, connections⟩ := Hub.keeps_deliverTo note.isStatusUpdate note.text
          ⟨t.hub, evicted, t.published⟩ id c
        exact (accounted.of_keeps keeps (by rw [connections])).withDeliveries _ _
      next => exact accounted
    next => exact accounted
  | parted number =>
    dsimp only [next]
    split
    next => exact accounted.withDeliveries _ _
    next => exact accounted
  | dropped number =>
    dsimp only [next]
    split
    next evicted _ =>
      split
      next => exact (accounted.withDeliveries _ _).foldl_evict evicted
      next => exact accounted
    next => exact accounted

theorem given_foldl_evict (t : Traffic) (evicted : List ConnectionId) :
    (evicted.foldl evict t).given = t.given
  := by
  induction evicted generalizing t with
  | nil => rfl
  | cons id evicted ih =>
    apply (ih _).trans
    obtain ⟨-, same⟩ | ⟨-, same⟩ := evict_cases t id <;> rw [same]

theorem given_next (t : Traffic) (event : Event) :
    t.given <+: (t.next event).given
  := by
  cases event with
  | registered client =>
    dsimp only [next]
    split
    next => exact List.prefix_append ..
    next => exact List.prefix_rfl
  | dropped number =>
    dsimp only [next]
    split
    next =>
      split
      next =>
        exact (given_foldl_evict ..).symm ▸ List.prefix_rfl
      next => exact List.prefix_rfl
    next => exact List.prefix_rfl
  | begun target note => exact List.prefix_rfl
  | _ =>
    dsimp only [next]
    (repeat' split) <;> exact List.prefix_rfl

theorem given_run (t : Traffic) (events : List Event) :
    t.given <+: (t.run events).given
  := by
  induction events generalizing t with
  | nil => exact List.prefix_rfl
  | cons event events ih => exact (t.given_next event).trans (ih (t.next event))

theorem accounted_run (accounted : t.Accounted) (events : List Event)
    (few : (t.run events).given.length < UInt64.size) :
    (t.run events).Accounted
  := by
  induction events generalizing t with
  | nil => exact accounted
  | cons event events ih =>
    apply ih _ few
    apply accounted_next accounted event
    exact Nat.lt_of_le_of_lt ((t.next event).given_run events).length_le few

/-! ### What is reported -/

theorem contains_evict_iff (t : Traffic) (other id : ConnectionId) :
    (t.evict other).hub.contains id = true ↔ t.hub.contains id = true ∧ id ≠ other
  := by
  obtain ⟨-, same⟩ | ⟨absent, same⟩ := evict_cases t other
  · rw [same]
    dsimp only [Hub.contains, Hub.unregister]
    rw [SortedMap.contains_iff, SortedMap.get?_erase, SortedMap.contains_iff]
    split
    next same => simp [same]
    next differ => simp [differ]
  · rw [same]
    constructor
    · intro lives
      use lives
      rintro rfl
      cases absent.symm.trans lives
    · exact And.left

theorem contains_foldl_evict (t : Traffic) (evicted : List ConnectionId) (id : ConnectionId) :
    (evicted.foldl evict t).hub.contains id = true ↔ t.hub.contains id = true ∧ id ∉ evicted
  := by
  induction evicted generalizing t with
  | nil => simp
  | cons other evicted ih =>
    rw [List.foldl_cons, ih, contains_evict_iff, List.mem_cons]
    grind

/-- Those are reported that are to be evicted and are still there. -/
theorem exists_reported_foldl (t : Traffic) (evicted : List ConnectionId) :
    ∃ new, (evicted.foldl evict t).reported = t.reported ++ new ∧
      ∀ id, id ∈ new ↔ t.hub.contains id = true ∧ id ∈ evicted
  := by
  induction evicted generalizing t with
  | nil => exact ⟨[], (List.append_nil _).symm, by simp⟩
  | cons other evicted ih =>
    obtain ⟨new, reported, mem⟩ := ih (t.evict other)
    simp only [contains_evict_iff] at mem
    rw [List.foldl_cons, reported]
    obtain ⟨lives, same⟩ | ⟨absent, same⟩ := evict_cases t other
    · use other :: new
      constructor
      · rw [same, List.append_assoc]
        rfl
      · intro id
        rw [List.mem_cons, mem, List.mem_cons]
        grind
    · use new
      constructor
      · rw [same]
      · intro id
        rw [mem, List.mem_cons]
        grind

/-- An event puts those on the channel of evictions that a delivery removes with it. -/
theorem exists_reported_next (t : Traffic) (event : Event) :
    ∃ new, (t.next event).reported = t.reported ++ new ∧
      ∀ id, id ∈ new ↔
        event.IsDropping ∧ t.hub.contains id = true ∧ (t.next event).hub.contains id = false
  := by
  have silent (same : (t.next event).reported = t.reported)
      (stays : event.IsDropping → t.next event = t) :
      ∃ new, (t.next event).reported = t.reported ++ new ∧
        ∀ id, id ∈ new ↔
          event.IsDropping ∧ t.hub.contains id = true ∧ (t.next event).hub.contains id = false
    := by
    use [], same.trans (List.append_nil _).symm
    intro id
    simp only [List.not_mem_nil, false_iff]
    rintro ⟨dropping, lives, gone⟩
    rw [stays dropping] at gone
    cases lives.symm.trans gone
  have unchanged (same : t.next event = t) := silent (congrArg reported same) fun _ => same
  cases event with
  | dropped number =>
    cases found : t.deliveries[number]? with
    | none => exact unchanged (by simp [next, found])
    | some delivery =>
      cases delivery with
      | reading note rest evicted => exact unchanged (by simp [next, found])
      | ended evicted => exact unchanged (by simp [next, found])
      | dropping evicted =>
        by_cases free : t.isFree = true
        · have dropped : t.next (.dropped number) =
              evicted.foldl evict { t with
                deliveries := t.deliveries.set number (.ended evicted) }
            := by simp [next, found, free]
          obtain ⟨new, reported, mem⟩ := exists_reported_foldl
            { t with deliveries := t.deliveries.set number (.ended evicted) } evicted
          use new
          rw [dropped]
          use reported
          intro id
          rw [mem, ← Bool.not_eq_true, contains_foldl_evict]
          constructor
          · rintro ⟨lives, mem⟩
            exact ⟨⟨number, rfl⟩, lives, fun stays => stays.2 mem⟩
          · rintro ⟨-, lives, gone⟩
            use lives
            by_contra absent
            exact gone ⟨lives, absent⟩
        · exact unchanged (by simp [next, found, free])
  | begun target note => exact silent rfl nofun
  | _ =>
    apply silent _ nofun
    dsimp only [next]
    (repeat' split) <;> rfl

/-! ### A delivery that nothing comes between -/

theorem deliverTo_after (isStatus : Bool) (text : String) (evicted : List ConnectionId)
    (published : List (Nat × TopicMessage)) (d : Delivery) (id : ConnectionId) (c : Connection) :
    Hub.deliverTo isStatus text ⟨d.hub, evicted ++ d.evicted, published ++ d.published⟩ id c =
      let d := Hub.deliverTo isStatus text d id c
      ⟨d.hub, evicted ++ d.evicted, published ++ d.published⟩
  := by
  unfold Hub.deliverTo
  dsimp only
  split
  next => rfl
  next => rw [List.append_assoc]
  next =>
    split
    next => rfl
    next =>
      split
      next => rfl
      next =>
        split
        next => rfl
        next => rw [List.append_assoc]

/-- What a delivery comes to does not depend on what was evicted and published before. -/
theorem give_after (note : Rpc.Notification) (recipients : List (ConnectionId × Connection))
    (evicted : List ConnectionId) (published : List (Nat × TopicMessage)) (d : Delivery) :
    Hub.give note recipients ⟨d.hub, evicted ++ d.evicted, published ++ d.published⟩ =
      let d := Hub.give note recipients d
      ⟨d.hub, evicted ++ d.evicted, published ++ d.published⟩
  := by
  induction recipients generalizing d with
  | nil => rfl
  | cons recipient recipients ih => rw [Hub.give_cons, deliverTo_after, ih, Hub.give_cons]

theorem run_append (t : Traffic) (events more : List Event) :
    t.run (events ++ more) = (t.run events).run more
  := List.foldl_append

/-- To go through all the connections is to give each of them the text. -/
theorem run_handed {note : Rpc.Notification} {rest : List (ConnectionId × Connection)}
    {evicted : List ConnectionId} {earlier : List Delivering}
    (begun : t.deliveries = earlier ++ [.reading note rest evicted]) :
    t.run (List.replicate rest.length (.handed earlier.length 0)) =
      let d := Hub.give note rest ⟨t.hub, evicted, t.published⟩
      { t with
        hub := d.hub
        published := d.published
        deliveries := earlier ++ [.reading note [] d.evicted] }
  := by
  induction rest generalizing t evicted with
  | nil =>
    obtain ⟨hub, deliveries, given, unregistered, reported, published⟩ := t
    cases begun
    rfl
  | cons recipient rest ih =>
    have handed : t.next (.handed earlier.length 0) =
        let d := Hub.deliverTo note.isStatusUpdate note.text ⟨t.hub, evicted, t.published⟩
          recipient.1 recipient.2
        { t with
          hub := d.hub
          published := d.published
          deliveries := earlier ++ [.reading note rest d.evicted] }
      := by simp [next, begun]
    rw [List.length_cons, List.replicate_succ, run, List.foldl_cons, ← run, handed, ih rfl]
    rfl

theorem foldl_evict_of_live {evicted : List ConnectionId}
    (live : ∀ id ∈ evicted, t.hub.contains id = true) (distinct : evicted.Nodup) :
    evicted.foldl evict t = { t with
      hub := evicted.foldl (fun h id => (h.unregister id).2) t.hub
      reported := t.reported ++ evicted }
  := by
  induction evicted generalizing t with
  | nil =>
    rw [List.append_nil]
    rfl
  | cons id evicted ih =>
    obtain ⟨lives, live⟩ := List.forall_mem_cons.1 live
    obtain ⟨absent, distinct⟩ := List.nodup_cons.1 distinct
    rw [List.foldl_cons, ih _ distinct]
    · obtain ⟨-, same⟩ | ⟨gone, -⟩ := evict_cases t id
      · rw [same, List.append_assoc]
        rfl
      · cases gone.symm.trans lives
    · intro other mem
      rw [contains_evict_iff]
      use live other mem
      rintro rfl
      exact absent mem

/-- The events of a delivery that nothing comes between. -/
def undisturbed (t : Traffic) (target : Target) (note : Rpc.Notification) : List Event :=
  let number := t.deliveries.length
  .begun target note :: List.replicate (t.hub.recipients target).length (.handed number 0) ++
    [.parted number, .dropped number]

/-- Such a delivery does what `Hub.deliver` does, and reports those that it evicts. -/
theorem run_undisturbed (free : t.isFree = true) (target : Target) (note : Rpc.Notification) :
    t.run (t.undisturbed target note) =
      let d := t.hub.deliver target note
      { t with
        hub := d.hub
        published := t.published ++ d.published
        reported := t.reported ++ d.evicted
        deliveries := t.deliveries ++ [.ended d.evicted] }
  := by
  let d := Hub.give note (t.hub.recipients target) { hub := t.hub }
  have gone : Hub.give note (t.hub.recipients target) ⟨t.hub, [], t.published⟩ =
      ⟨d.hub, d.evicted, t.published ++ d.published⟩
    := by
    have after := give_after note (t.hub.recipients target) [] t.published { hub := t.hub }
    rwa [List.append_nil t.published] at after
  have evicted : d.evicted = (t.hub.deliver target note).evicted := rfl
  have live : ∀ id ∈ d.evicted, d.hub.contains id = true := by
    obtain ⟨mailboxes, given⟩ :=
      Hub.exists_mailboxes_give note (t.hub.recipients target) { hub := t.hub }
    intro id mem
    rw [evicted, Hub.evicted_deliver] at mem
    obtain ⟨⟨id, c⟩, named, rfl⟩ := List.mem_map.1 mem
    obtain ⟨found, -⟩ := Hub.mem_recipients_iff.1 (List.mem_of_mem_filter named)
    rw [Hub.contains, SortedMap.contains_iff, given]
    exact ⟨c, found⟩
  have distinct : d.evicted.Nodup := by
    rw [evicted, Hub.evicted_deliver]
    exact List.pairwise_map.2 ((t.hub.distinct_recipients target).filter _)
  have handed : t.run (.begun target note ::
      List.replicate (t.hub.recipients target).length (.handed t.deliveries.length 0)) =
      { t with
        hub := d.hub
        published := t.published ++ d.published
        deliveries := t.deliveries ++ [.reading note [] d.evicted] }
    := by
    rw [run, List.foldl_cons, ← run, next, run_handed rfl, gone]
  let after (delivery : Delivering) : Traffic :=
    { t with
      hub := d.hub
      published := t.published ++ d.published
      deliveries := t.deliveries ++ [delivery] }
  have parted : (after (.reading note [] d.evicted)).next (.parted t.deliveries.length) =
      after (.dropping d.evicted)
    := by simp [after, next]
  have free' : (after (.dropping d.evicted)).isFree = true := by
    rw [isFree, List.all_append, ← isFree, free]
    rfl
  have dropped : (after (.dropping d.evicted)).next (.dropped t.deliveries.length) =
      d.evicted.foldl evict (after (.ended d.evicted))
    := by simp [after, next, free']
  calc
    t.run (t.undisturbed target note) =
        ((after (.reading note [] d.evicted)).next (.parted t.deliveries.length)).next
          (.dropped t.deliveries.length) := by
      rw [undisturbed, run_append, handed]
      rfl
    _ = d.evicted.foldl evict (after (.ended d.evicted)) := by
      rw [parted, dropped]
    _ = _ := by
      rw [foldl_evict_of_live live distinct]
      rfl

end

/-! ### Isolation -/

/-- A delivery treats every connection on its own, whatever the others are and however full their
mailboxes.  However registrations, removals and deliveries overlap, each of fewer than 2^64
connections has an id of its own, and it is reported as evicted at most once, exactly when a
delivery removes it. -/
theorem clients_isolated :
    (∀ h : Hub, h.Fitted → ∀ target note, h.Delivers target note (h.deliver target note)) ∧
      ∀ auth events, ((fresh auth).run events).given.length < UInt64.size →
        let t := (fresh auth).run events
        t.hub.Fitted ∧
          t.given.Nodup ∧
          (t.hub.connections.keys ++ t.reported ++ t.unregistered).Perm t.given ∧
          t.reported.Nodup ∧
          (∀ id, id ∈ t.unregistered → id ∉ t.reported) ∧
          (∀ event, ∃ new, (t.next event).reported = t.reported ++ new ∧
            ∀ id, id ∈ new ↔ event.IsDropping ∧ t.hub.contains id = true ∧
              (t.next event).hub.contains id = false) ∧
          (t.isFree = true → ∀ target note, t.run (t.undisturbed target note) =
            let d := t.hub.deliver target note
            { t with
              hub := d.hub
              published := t.published ++ d.published
              reported := t.reported ++ d.evicted
              deliveries := t.deliveries ++ [.ended d.evicted] })
  := by
  constructor
  · intro h fitted target note
    exact Hub.delivers_deliver fitted target note
  · intro auth events few t
    have accounted : t.Accounted := accounted_run (accounted_fresh auth) events few
    have given : t.given.Nodup := accounted.nodup_given few
    have apart := accounted.partition.nodup_iff.2 given
    obtain ⟨apart, -, foreign⟩ := List.nodup_append.1 apart
    obtain ⟨-, once, -⟩ := List.nodup_append.1 apart
    refine ⟨accounted.fitted, given, accounted.partition, once, ?_, t.exists_reported_next,
      fun free => run_undisturbed free⟩
    intro id dropped reported
    exact foreign id (List.mem_append_right _ reported) id dropped rfl

/-- Two deliveries overlap.  Both find the first mailbox full and the second one finds that the
first one filled the other mailbox; each of the two clients is reported once. -/
theorem clients_isolated_twice :
    let t := (fresh {}).run [.registered (.duplex 1), .registered (.topic 0 "notes" "status"),
      .registered .requestResponse, .registered (.duplex 1), .tended (.replied 1 "pong"),
      .begun .all .controlReady, .begun .all .controlReady, .handed 0 0, .handed 0 0, .handed 0 0,
      .handed 0 0, .handed 1 3, .handed 1 0, .handed 1 0, .handed 1 0, .parted 1, .parted 0,
      .dropped 0, .dropped 1]
    t.given.length < UInt64.size ∧ t.hub.Fitted ∧
      t.hub.Delivers .all .controlReady (t.hub.deliver .all .controlReady) ∧ t.given.Nodup ∧
      t.reported.Nodup ∧ t.reported = [1, 4] ∧ t.hub.connections.keys = [2, 3]
  := by
  intro t
  have few : t.given.length < UInt64.size := by decide +kernel
  obtain ⟨delivers, traffic⟩ := clients_isolated
  obtain ⟨fitted, given, -, once, -⟩ := traffic {} _ few
  refine ⟨few, fitted, delivers _ fitted _ _, given, once, ?_, ?_⟩
  · decide +kernel
  · decide +kernel

end Traffic

end ControlRelay
