import ControlRelay.Proofs.Process.Yielding
import ControlRelay.Proofs.Relay.Evicting
import ControlRelay.Proofs.Relay.Releasing

/-!
# Turns at the registry

A process works on the registry only while it has the lock, and writes what came of the registry
that it has read.  `Behaves` says this of a process, and that it takes care of every interest that
it leaves behind: when a step of it brings in the interest of a connection, or ends the connection
or takes it from the channel of evictions, it goes on to release that connection.
-/

namespace ControlRelay

open Program

namespace Relay

/-- Where a process is with regard to the lock of the registry. -/
inductive Standing where
  | free
  /-- It waits for its turn. -/
  | waits (ticket : Nat)
  /-- It has the lock. -/
  | inside (ticket : Nat)
  /-- It has the lock and has read the registry. -/
  | reads (ticket : Nat) (registry : Registry)

/-- The turn that it has or waits for. -/
def Standing.ticket? : Standing → Option Nat
  | free => none
  | waits ticket => some ticket
  | inside ticket => some ticket
  | reads ticket _ => some ticket

/-- The turn that it has. -/
def Standing.turn? : Standing → Option Nat
  | inside ticket => some ticket
  | reads ticket _ => some ticket
  | _ => none

/-- The standing of a process that asks for the lock. -/
def Standing.asking (l : Lock) : Standing :=
  match l.holder with
  | none => inside l.nextTicket
  | some _ => waits l.nextTicket

theorem Standing.free_ne_waits (ticket : Nat) :
    free ≠ waits ticket
  := nofun

/-- The registry is as it was read. -/
def Standing.Fits (r : Relay) : Standing → Prop
  | reads _ registry => r.registry = registry
  | _ => True

/-- How a process that works on the registry goes on. -/
inductive Moves (r r' : Relay) : Standing → Standing → Prop where
  | stays {s : Standing} (registry : r'.registry = r.registry)
      (registryLock : r'.registryLock = r.registryLock) :
      Moves r r' s s
  | asks (registry : r'.registry = r.registry)
      (registryLock : r'.registryLock = r.registryLock.ask.2)
      (free : r.registryLock.holder = none) :
      Moves r r' .free (.inside r.registryLock.nextTicket)
  | queues (registry : r'.registry = r.registry)
      (registryLock : r'.registryLock = r.registryLock.ask.2)
      (taken : r.registryLock.holder ≠ none) :
      Moves r r' .free (.waits r.registryLock.nextTicket)
  | enters {ticket : Nat} (same : r' = r) (granted : r.registryLock.holder = some ticket) :
      Moves r r' (.waits ticket) (.inside ticket)
  | looks {ticket : Nat} (same : r' = r) :
      Moves r r' (.inside ticket) (.reads ticket r.registry)
  | leaves {ticket : Nat} {registry : Registry}
      (registryLock : r'.registryLock = r.registryLock.release.2) :
      Moves r r' (.reads ticket registry) .free

/-- The kind of a live connection. -/
def kind? (r : Relay) (id : ConnectionId) : Option TransportKind :=
  (r.hub.connections.get? id).map (·.kind)

/-- The live connections are of these kinds. -/
def Kinds (kinds : ConnectionId → TransportKind) (r : Relay) : Prop :=
  ∀ id kind, r.kind? id = some kind → kind = kinds id

/-- Live connections were there before, or one was made with the next identifier. -/
structure Issues (r r' : Relay) : Prop where
  ids : r'.hub.ids = r.hub.ids ∨ r'.hub.ids = r.hub.ids.next.2
  kind : ∀ id kind, r'.kind? id = some kind → r.kind? id = some kind ∨
    id = r.hub.ids.next.1 ∧ r'.hub.ids = r.hub.ids.next.2

/-- The registry is left alone, and as long as the channel of evictions is read, connections are
lost only by evictions, which stay reported. -/
structure Passing (r r' : Relay) : Prop where
  registry : r'.registry = r.registry
  registryLock : r'.registryLock = r.registryLock
  reader : r'.evictions.hasReader = true → r.evictions.hasReader = true
  reported : r'.evictions.hasReader = true → ∀ id ∈ r.evictions.items, id ∈ r'.evictions.items
  lives : r'.evictions.hasReader = true → ∀ id, r.hub.contains id = true →
    r'.hub.contains id = true ∨ id ∈ r'.evictions.items
  issues : Issues r r'

/-- What a step does to connections and interests, where the process goes on as `p`.  An interest
there is of a live connection, or its connection is reported as evicted, or the process goes on to
release it, or else all was as bad before. -/
structure Tends (kinds : ConnectionId → TransportKind) (r r' : Relay) (p : RelayProcess) :
    Prop where
  reader : r'.evictions.hasReader = true → r.evictions.hasReader = true
  cared : r'.evictions.hasReader = true → ∀ id, r'.registry.HasEntry id →
    r'.hub.contains id = true ∨ id ∈ r'.evictions.items ∨ Releases id p ∨
      r.registry.HasEntry id ∧ r.hub.contains id = false ∧ id ∉ r.evictions.items
  pushed : ∀ id, r'.registry.HasEntry id → r.registry.HasEntry id ∨ (kinds id).supportsPush = true
  sound : r.registry.table.Sound → r'.registry.table.Sound
  issues : Issues r r'

/-- A process that goes about the registry in turns and cares for the interests it leaves behind, as
long as connections are of certain kinds. -/
inductive Behaves (kinds : ConnectionId → TransportKind) : Standing → RelayProcess → Prop where
  | done : Behaves kinds .free .done
  | enter (routine : Routine) : Behaves kinds .free (.enter routine)
  | step {s : Standing} {run : Relay → Relay × RelayProcess} (after : Relay → Standing)
      (moves : ∀ r : Relay, r.Kinds kinds → s.Fits r → Moves r (run r).1 s (after r))
      (tends : ∀ r : Relay, r.Kinds kinds → s.Fits r → Tends kinds r (run r).1 (run r).2)
      (next : ∀ r : Relay, r.Kinds kinds → s.Fits r → Behaves kinds (after r) (run r).2) :
      Behaves kinds s (.step run)
  | wait {s : Standing} {signals : List Signal} {deadline : Option Nat} {p : RelayProcess}
      (unqueued : ∀ ticket, s ≠ .waits ticket) (next : Behaves kinds s p) :
      Behaves kinds s (.wait signals deadline p)
  | queued {ticket : Nat} {deadline : Option Nat} {p : RelayProcess}
      (next : Behaves kinds (.inside ticket) p) :
      Behaves kinds (.waits ticket) (.wait [.granted ticket] deadline p)
  | fork {s : Standing} {child p : RelayProcess} (started : Behaves kinds .free child)
      (next : Behaves kinds s p) :
      Behaves kinds s (.fork child p)

section

variable {r r' : Relay} {kinds : ConnectionId → TransportKind} {id : ConnectionId}

theorem contains_iff :
    r.hub.contains id = true ↔ ∃ kind, r.kind? id = some kind
  := by
  unfold Hub.contains kind?
  rw [SortedMap.contains_iff]
  simp

theorem contains_congr (same : r'.kind? id = r.kind? id) :
    r'.hub.contains id = r.hub.contains id
  := by
  rw [Bool.eq_iff_iff, contains_iff, contains_iff, same]

/-! ### Steps that pass -/

theorem issues_of_same (ids : r'.hub.ids = r.hub.ids)
    (kind : ∀ id kind, r'.kind? id = some kind → r.kind? id = some kind) :
    Issues r r'
  := ⟨.inl ids, fun id k known => .inl (kind id k known)⟩

/-- The hub may learn something about its connections. -/
theorem passing_of_kinds (registry : r'.registry = r.registry)
    (registryLock : r'.registryLock = r.registryLock) (evictions : r'.evictions = r.evictions)
    (ids : r'.hub.ids = r.hub.ids) (kind : ∀ id, r'.kind? id = r.kind? id) :
    Passing r r'
  := by
  refine ⟨registry, registryLock, ?_, ?_, ?_, issues_of_same ids fun id k known => ?_⟩
  · rw [evictions]
    exact fun h => h
  · rw [evictions]
    exact fun _ _ h => h
  · intro _ id lives
    left
    rw [contains_congr (kind id), lives]
  · rw [← kind, known]

/-- Mailboxes may change. -/
theorem passing_of_connections (registry : r'.registry = r.registry)
    (registryLock : r'.registryLock = r.registryLock) (evictions : r'.evictions = r.evictions)
    (ids : r'.hub.ids = r.hub.ids) (connections : r'.hub.connections = r.hub.connections) :
    Passing r r'
  := by
  apply passing_of_kinds registry registryLock evictions ids
  intro id
  unfold kind?
  rw [connections]

theorem Aside.passing (aside : Aside r r') :
    Passing r r'
  := by
  apply passing_of_connections aside.registry aside.registryLock aside.evictions
  · rw [aside.hub]
  · rw [aside.hub]

theorem Evicts.passing {evicted : List ConnectionId} (evicts : Evicts evicted r r') :
    Passing r r'
  := by
  have reader : r'.evictions.hasReader = r.evictions.hasReader := by
    rw [evicts.evictions]
    unfold Inbox.sent
    split <;> rfl
  have sent (reads : r'.evictions.hasReader = true) :
      r'.evictions.items = r.evictions.items ++ evicted
    := by
    rw [reader] at reads
    rw [evicts.evictions]
    unfold Inbox.sent
    rw [if_pos reads]
  refine ⟨evicts.registry, evicts.registryLock, ?_, ?_, ?_, issues_of_same evicts.ids ?_⟩
  · rw [reader]
    exact fun h => h
  · intro reads id mem
    rw [sent reads]
    exact List.mem_append_left _ mem
  · intro reads id lives
    rw [sent reads]
    by_cases mem : id ∈ evicted
    · exact .inr (List.mem_append_right _ mem)
    · left
      rw [contains_iff] at lives ⊢
      unfold kind? at lives ⊢
      rw [evicts.connection, if_neg mem]
      exact lives
  · intro id kind known
    unfold kind? at known ⊢
    rw [evicts.connection] at known
    split at known
    next => cases known
    next => apply known

theorem Passing.tends (passing : Passing r r') (p : RelayProcess) :
    Tends kinds r r' p
  := by
  refine ⟨passing.reader, fun reads id entry => ?_, ?_, ?_, passing.issues⟩
  · rw [passing.registry] at entry
    cases lives : r.hub.contains id with
    | true => exact (passing.lives reads id lives).imp_right .inl
    | false =>
      by_cases mem : id ∈ r.evictions.items
      · exact .inr (.inl (passing.reported reads id mem))
      · exact .inr (.inr (.inr ⟨entry, rfl, mem⟩))
  · intro id entry
    rw [passing.registry] at entry
    exact .inl entry
  · rw [passing.registry]
    exact fun h => h

/-! ### Processes -/

theorem behaves_over {p : RelayProcess} (stops : p.isOver = true) :
    Behaves kinds .free p
  := by
  cases p with
  | done => apply Behaves.done
  | enter routine => apply Behaves.enter
  | _ => cases stops

/-- A step that passes leaves the standing as it is. -/
theorem behaves_pass {s : Standing} {run : Relay → Relay × RelayProcess}
    (passing : ∀ r, Passing r (run r).1)
    (next : ∀ r, r.Kinds kinds → s.Fits r → Behaves kinds s (run r).2) :
    Behaves kinds s (.step run)
  := by
  apply Behaves.step fun _ => s
  · intro r _ _
    exact .stays (passing r).registry (passing r).registryLock
  · intro r _ _
    apply (passing r).tends
  · apply next

/-- A process may take steps that pass at any time. -/
theorem behaves_of_keeps {s : Standing} (unqueued : ∀ ticket, s ≠ .waits ticket)
    {ends : RelayProcess → Prop} {p : RelayProcess}
    (keeps : Process.Keeps Passing (fun q => q.isOver = true) ends p)
    (next : ∀ q, ends q → Behaves kinds s q) :
    Behaves kinds s p
  := by
  induction keeps generalizing s with
  | ended here => apply next _ here
  | step passing _ ih => exact behaves_pass passing fun r _ _ => ih r unqueued next
  | wait _ ih => exact .wait unqueued (ih unqueued next)
  | fork _ _ started ih =>
    exact .fork (started Standing.free_ne_waits fun _ => behaves_over) (ih unqueued next)

end

end Relay

namespace Action

/-- An action that takes only steps that pass. -/
abbrev Passes {α : Type} (a : Action α) : Prop :=
  Program.Keeps Relay.Passing (fun q => q.isOver = true) a

/-- An action that leaves nothing behind that it does not care for, and has a result of which
something holds. -/
def Tidy {α : Type} (kinds : ConnectionId → TransportKind) (a : Action α) (post : α → Prop) :
    Prop :=
  ∀ k, (∀ x, post x → Relay.Behaves kinds .free (k x)) → Relay.Behaves kinds .free (a k)

section

variable {α β : Type} {kinds : ConnectionId → TransportKind} {id : ConnectionId}

theorem isOver_of_linkRests (p : RelayProcess) (rests : Relay.LinkRests p) :
    p.isOver = true
  := by
  cases p with
  | done => rfl
  | enter => rfl
  | _ => cases rests

theorem passes_of_links {a : Action α} (links : Links a) :
    Passes a
  := links.mono (fun _ _ step => step.aside.passing) isOver_of_linkRests

theorem behaves_of_links {p : RelayProcess} (links : Relay.LinkProcess p) :
    Relay.Behaves kinds .free p
  := by
  have keeps := links.mono (fun _ _ step => step.aside.passing) isOver_of_linkRests
    isOver_of_linkRests
  exact Relay.behaves_of_keeps Relay.Standing.free_ne_waits keeps fun _ => Relay.behaves_over

namespace Tidy

theorem of_passes {a : Action α} (passes : Passes a) :
    Tidy kinds a fun _ => True
  := by
  intro k next
  apply Relay.behaves_of_keeps Relay.Standing.free_ne_waits (passes k)
  rintro q ⟨x, rfl⟩
  exact next x trivial

theorem mono {a : Action α} {post post' : α → Prop} (tidy : Tidy kinds a post)
    (implies : ∀ x, post x → post' x) :
    Tidy kinds a post'
  := fun k next => tidy k fun x holds => next x (implies x holds)

theorem pure {post : α → Prop} {x : α} (holds : post x) :
    Tidy kinds (Pure.pure x) post
  := fun _ next => next x holds

theorem bind {a : Action α} {f : α → Action β} {first : α → Prop} {post : β → Prop}
    (begun : Tidy kinds a first) (after : ∀ x, first x → Tidy kinds (f x) post) :
    Tidy kinds (a >>= f) post
  := fun k next => begun _ fun x holds => after x holds k next

/-- What is inspected holds of every relay whose connections are of these kinds. -/
theorem inspect {f : Relay → α} {post : α → Prop}
    (holds : ∀ r : Relay, r.Kinds kinds → post (f r)) :
    Tidy kinds (Program.inspect f) post
  := by
  intro k next
  apply Relay.behaves_pass
  · intro r
    exact (Relay.Aside.refl r).passing
  · intro r known _
    exact next _ (holds r known)

theorem fork {child : RelayProcess} (started : Relay.Behaves kinds .free child) :
    Tidy kinds (Program.fork child) fun _ => True
  := fun _ next => .fork started (next () trivial)

theorem process {a : Action Unit} {post : Unit → Prop} (tidy : Tidy kinds a post) :
    Relay.Behaves kinds .free a.process
  := tidy _ fun _ _ => .done

theorem forM {p : α → Action Unit} (items : List α)
    (each : ∀ item, Tidy kinds (p item) fun _ => True) :
    Tidy kinds (items.forM p) fun _ => True
  := by
  induction items with
  | nil => exact pure trivial
  | cons item items ih => exact bind (each item) fun _ _ => ih

end Tidy

/-! ### Work on the registry -/

/-- What comes of the registry: interests that are brought in are of connections that can be pushed
to, and are cared for. -/
structure Changes (kinds : ConnectionId → TransportKind) (registry registry' : Registry)
    (p : RelayProcess) : Prop where
  sound : registry.table.Sound → registry'.table.Sound
  brought : ∀ id, registry'.HasEntry id → registry.HasEntry id ∨
    (kinds id).supportsPush = true ∧ Relay.Releases id p

theorem changes_of_same {registry registry' : Registry} {p : RelayProcess}
    (same : registry' = registry) :
    Changes kinds registry registry' p
  := by
  rw [same]
  exact ⟨fun h => h, fun _ => .inl⟩

/-- A step that changes the registry in this way and leaves the connections alone. -/
theorem Changes.tends {r r' : Relay} {p : RelayProcess}
    (changes : Changes kinds r.registry r'.registry p) (hub : r'.hub = r.hub)
    (evictions : r'.evictions = r.evictions) :
    Relay.Tends kinds r r' p
  := by
  refine ⟨?_, fun _ id entry => ?_, fun id entry => ?_, changes.sound, ?_⟩
  · rw [evictions]
    exact fun h => h
  · rw [hub, evictions]
    obtain kept | ⟨-, releases⟩ := changes.brought id entry
    · cases lives : r.hub.contains id with
      | true => exact .inl rfl
      | false =>
        by_cases mem : id ∈ r.evictions.items
        · exact .inr (.inl mem)
        · exact .inr (.inr (.inr ⟨kept, rfl, mem⟩))
    · exact .inr (.inr (.inl releases))
  · exact (changes.brought id entry).imp_right And.left
  · apply Relay.issues_of_same (congrArg Hub.ids hub)
    intro id kind known
    unfold Relay.kind? at known ⊢
    rwa [hub] at known

theorem unlocked_parts (r : Relay) (registry : Registry) :
    (unlocked { r with registry }).registry = registry ∧
      (unlocked { r with registry }).registryLock = r.registryLock.release.2 ∧
      (unlocked { r with registry }).hub = r.hub ∧
      (unlocked { r with registry }).evictions = r.evictions
  := by
  unfold unlocked
  dsimp only
  split <;> exact ⟨rfl, rfl, rfl, rfl⟩

/-- To wait for one's turn, unless it has come at once. -/
def awaitTurn : Option Nat → Action Unit
  | none => pure ()
  | some ticket => await [.granted ticket]

/-- To carry out a dialogue of the registry and to write what came of it. -/
def writeBack (dialogue : Control.Dialogue (Registry × α)) : Action α := do
  let result ← converse dialogue
  update fun r => unlocked { r with registry := result.1 }
  pure result.2

theorem withRegistry_eq (f : Registry → Control.Dialogue (Registry × α)) :
    withRegistry f = (do
      let ticket ← atomically fun r =>
        ({ r with registryLock := r.registryLock.ask.2 }, r.registryLock.ask.1)
      awaitTurn ticket
      let dialogue ← inspect fun r => f r.registry
      writeBack dialogue)
  := rfl

/-- Nobody else writes between the reading of the registry and the writing of what came of it. -/
theorem behaves_writeBack {registry : Registry} {dialogue : Control.Dialogue (Registry × α)}
    {k : α → RelayProcess}
    (changes : ∀ {exchanges registry' x}, dialogue.Ends exchanges (registry', x) →
      Changes kinds registry registry' (k x))
    (next : ∀ x, Relay.Behaves kinds .free (k x)) (ticket : Nat) :
    Relay.Behaves kinds (.reads ticket registry) (writeBack dialogue k)
  := by
  induction dialogue with
  | done result =>
    obtain ⟨registry', x⟩ := result
    have changed : Changes kinds registry registry' (k x) := by
      apply changes
      exact Control.Dialogue.ends_pure_iff.2 ⟨rfl, rfl⟩
    apply Relay.Behaves.step fun _ => .free
    · intro r _ _
      exact .leaves (unlocked_parts r registry').2.1
    · intro r _ fits
      obtain ⟨stored, -, hub, evictions⟩ := unlocked_parts r registry'
      obtain rfl : r.registry = registry := fits
      rw [← stored] at changed
      exact changed.tends hub evictions
    · intro r _ _
      apply next
  | ask c answered ih =>
    apply Relay.behaves_of_keeps (by rintro _ ⟨⟩) (passes_of_links (links_call c) _)
    rintro q ⟨reply, rfl⟩
    apply ih reply
    intro exchanges registry' x ends
    exact changes (Control.Dialogue.ends_ask_iff.2 ⟨reply, exchanges, rfl, ends⟩)

/-- Work on the registry that changes it in this way. -/
theorem behaves_withRegistry {f : Registry → Control.Dialogue (Registry × α)}
    {k : α → RelayProcess}
    (changes : ∀ {registry exchanges registry' x}, (f registry).Ends exchanges (registry', x) →
      Changes kinds registry registry' (k x))
    (next : ∀ x, Relay.Behaves kinds .free (k x)) :
    Relay.Behaves kinds .free (withRegistry f k)
  := by
  rw [withRegistry_eq]
  have works (ticket : Nat) : Relay.Behaves kinds (.inside ticket)
      ((inspect fun r => f r.registry) fun dialogue => writeBack dialogue k)
    := by
    apply Relay.Behaves.step fun r => .reads ticket r.registry
    · intro r _ _
      exact .looks rfl
    · intro r _ _
      exact (Relay.Aside.refl r).passing.tends _
    · intro r _ _
      exact behaves_writeBack changes next ticket
  apply Relay.Behaves.step fun r => .asking r.registryLock
  · intro r _ _
    unfold Relay.Standing.asking
    cases holder : r.registryLock.holder with
    | none => exact .asks rfl rfl holder
    | some ticket => exact .queues rfl rfl (by rw [holder]; nofun)
  · intro r _ _
    refine Changes.tends (changes_of_same ?_) ?_ ?_ <;> rfl
  · intro r _ _
    change Relay.Behaves kinds (.asking r.registryLock)
      (awaitTurn r.registryLock.ask.1 fun _ =>
        (inspect fun r => f r.registry) fun dialogue => writeBack dialogue k)
    unfold Relay.Standing.asking Lock.ask
    cases holder : r.registryLock.holder with
    | none => exact works _
    | some ticket => exact .queued (works _)

end

end Action

end ControlRelay
