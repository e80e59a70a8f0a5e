import ControlRelay.Proofs.Relay.Pool
import ControlRelay.Proofs.Relay.Tidying

/-!
# Processes side by side take turns at the registry

In a pool in which whoever waits for its turn at the registry goes on only when it has it, at most
one process at a time works on the registry, so the registry stays as that process has read it.
Hence every interest is of a live connection, or its connection is reported as evicted, or some
process releases it.
-/

namespace ControlRelay

open Program

namespace Relay

/-- The turn that a process waits for. -/
def awaited? : RelayProcess → Option Nat
  | .wait [.granted ticket] _ _ => some ticket
  | _ => none

/-- A process may go on unless it waits for its turn at the registry and does not have it. -/
def Lets (r : Relay) (p : RelayProcess) : Prop :=
  ∀ ticket ∈ awaited? p, r.registryLock.holder = some ticket

instance (r : Relay) (p : RelayProcess) : Decidable (r.Lets p) :=
  inferInstanceAs (Decidable (∀ ticket ∈ awaited? p, r.registryLock.holder = some ticket))

section

variable {r r' : Relay} {kinds : ConnectionId → TransportKind} {id : ConnectionId}
  {p : RelayProcess} {s s' : Standing}

/-- A process that releases a connection still does so when it goes on, unless the connection lives
or has no entry any more. -/
theorem Releases.goOn (releases : Releases id p) (lost : r.hub.contains id = false)
    (entry : (r.goOn p).1.registry.HasEntry id) :
    Releases id (r.goOn p).2.1
  := by
  cases releases with
  | step next => exact next r lost entry
  | wait next => exact next
  | fork next => exact next

/-- Whatever a process goes on with behaves as it did. -/
theorem exists_goOn (behaves : Behaves kinds s p) (known : r.Kinds kinds) (fits : s.Fits r)
    (lets : r.Lets p) :
    ∃ s', Moves r (r.goOn p).1 s s' ∧ Tends kinds r (r.goOn p).1 (r.goOn p).2.1 ∧
      Behaves kinds s' (r.goOn p).2.1 ∧ ∀ q ∈ (r.goOn p).2.2, Behaves kinds .free q
  := by
  have same := (Aside.refl r).passing
  cases behaves with
  | done => exact ⟨.free, .stays rfl rfl, same.tends _, .done, by rintro q ⟨⟩⟩
  | enter routine =>
    by_cases reader : ∃ wire, routine = .wireReader wire
    · obtain ⟨wire, rfl⟩ := reader
      exact ⟨.free, .stays rfl rfl, same.tends _, .enter _, by rintro q ⟨⟩⟩
    · have unread : ∀ wire, routine ≠ .wireReader wire := fun wire same => reader ⟨wire, same⟩
      rw [Pool.goOn_enter r unread]
      exact ⟨.free, .stays rfl rfl, same.tends _, Action.behaves_process unread, by rintro q ⟨⟩⟩
  | step after moves tends next =>
    exact ⟨after r, moves r known fits, tends r known fits, next r known fits, by rintro q ⟨⟩⟩
  | wait unqueued next => exact ⟨s, .stays rfl rfl, same.tends _, next, by rintro q ⟨⟩⟩
  | queued next => exact ⟨_, .enters rfl (lets _ rfl), same.tends _, next, by rintro q ⟨⟩⟩
  | fork started next =>
    refine ⟨s, .stays rfl rfl, same.tends _, next, ?_⟩
    intro q mem
    rw [List.mem_singleton.1 mem]
    exact started

/-! ### What happens apart from the processes -/

theorem aside_readStep (r : Relay) (wire : Nat) :
    Aside r (Action.readStep wire r).1
  := by
  have steps (f : Wire → Wire) (step : Link → Link.Step) :
      Aside r ((r.onWire wire f).onLink step)
    := by
    have wired : Aside r (r.onWire wire f) := ⟨rfl, rfl, rfl, rfl⟩
    exact wired.trans (aside_onLink _ step)
  unfold Action.readStep
  dsimp only
  split
  next => exact .refl r
  next =>
    split
    next =>
      dsimp only
      apply steps
    next =>
      split
      next => exact ⟨rfl, rfl, rfl, rfl⟩
      next =>
        split
        next =>
          have kept := aside_onLink r (·.lose (r.wire wire).generation)
          exact ⟨kept.hub, kept.registry, kept.registryLock, kept.evictions⟩
        next => exact ⟨rfl, rfl, rfl, rfl⟩

theorem passing_incident (r : Relay) (incident : Incident) :
    Passing r (incident.change r)
  := by
  cases incident with
  | abandoned who =>
    have kept : (r.hub.abandon who).ids = r.hub.ids ∧
        (r.hub.abandon who).connections = r.hub.connections
      := by
      unfold Hub.abandon
      split <;> exact ⟨rfl, rfl⟩
    exact passing_of_connections rfl rfl rfl kept.1 kept.2
  | switched switch isOn => cases isOn <;> exact passing_of_connections rfl rfl rfl rfl rfl
  | _ => exact passing_of_connections rfl rfl rfl rfl rfl

/-! ### The lock -/

theorem Standing.ticket_of_turn {ticket : Nat} (turn : s.turn? = some ticket) :
    s.ticket? = some ticket
  := by
  cases s with
  | inside => exact turn
  | reads => exact turn
  | _ => cases turn

theorem Standing.fits_of_turn (unturned : s.turn? = none) :
    s.Fits r
  := by
  cases s with
  | reads => cases unturned
  | _ => trivial

theorem nextTicket_ask (l : Lock) :
    l.ask.2.nextTicket = l.nextTicket + 1
  := by
  unfold Lock.ask
  split <;> rfl

theorem nextTicket_release (l : Lock) :
    l.release.2.nextTicket = l.nextTicket
  := by
  unfold Lock.release
  split <;> rfl

/-- The processes of these standings take turns at the registry. -/
structure TakeTurns (standing : Nat → Standing) (r : Relay) : Prop where
  holds : ∀ i ticket, (standing i).turn? = some ticket → r.registryLock.holder = some ticket
  fits : ∀ i, (standing i).Fits r
  apart : ∀ i j ticket, (standing i).ticket? = some ticket → (standing j).ticket? = some ticket →
    i = j
  issued : ∀ i ticket, (standing i).ticket? = some ticket → ticket < r.registryLock.nextTicket

variable {standing : Nat → Standing}

/-- What leaves the registry and its lock alone makes no difference. -/
theorem TakeTurns.of_same (turns : TakeTurns standing r) (registry : r'.registry = r.registry)
    (registryLock : r'.registryLock = r.registryLock) :
    TakeTurns standing r'
  := by
  refine ⟨?_, fun i => ?_, turns.apart, ?_⟩
  · rw [registryLock]
    exact turns.holds
  · have fits := turns.fits i
    generalize standing i = s at *
    cases s with
    | reads => exact registry.trans fits
    | _ => trivial
  · rw [registryLock]
    exact turns.issued

/-- At most one of them has its turn. -/
theorem TakeTurns.alone {i j : Nat} {ticket ticket' : Nat} (turns : TakeTurns standing r)
    (first : (standing i).turn? = some ticket) (second : (standing j).turn? = some ticket') :
    i = j
  := by
  have same := (turns.holds i ticket first).symm.trans (turns.holds j ticket' second)
  obtain rfl := Option.some.inj same
  exact turns.apart i j ticket (Standing.ticket_of_turn first) (Standing.ticket_of_turn second)

/-- One of them gets another standing, and the others keep theirs. -/
theorem TakeTurns.update (turns : TakeTurns standing r) {i : Nat}
    (own : ∀ ticket, s'.turn? = some ticket → r'.registryLock.holder = some ticket)
    (fits : s'.Fits r')
    (others : ∀ j ≠ i, ∀ ticket, (standing j).turn? = some ticket →
      r'.registryLock.holder = some ticket ∧ r'.registry = r.registry)
    (tickets : ∀ ticket, s'.ticket? = some ticket → (standing i).ticket? = some ticket ∨
      ticket = r.registryLock.nextTicket ∧ ticket < r'.registryLock.nextTicket)
    (grows : r.registryLock.nextTicket ≤ r'.registryLock.nextTicket) :
    TakeTurns (Function.update standing i s') r'
  := by
  -- the ticket of the one is its own from before or a new one, so no other has it
  have apart (j : Nat) (differs : j ≠ i) (ticket : Nat) (owned : s'.ticket? = some ticket) :
      (standing j).ticket? ≠ some ticket
    := by
    intro other
    obtain before | ⟨fresh, -⟩ := tickets ticket owned
    · exact differs (turns.apart j i ticket other before)
    · have issued := turns.issued j ticket other
      omega
  constructor
  · intro j ticket turn
    by_cases same : j = i
    · rw [same, Function.update_self] at turn
      exact own ticket turn
    · rw [Function.update_of_ne same] at turn
      exact (others j same ticket turn).1
  · intro j
    by_cases same : j = i
    · rw [same, Function.update_self]
      exact fits
    · rw [Function.update_of_ne same]
      cases turn : (standing j).turn? with
      | none => exact Standing.fits_of_turn turn
      | some ticket =>
        have before := turns.fits j
        have kept := (others j same ticket turn).2
        generalize standing j = other at *
        cases other with
        | reads => exact kept.trans before
        | _ => trivial
  · intro j k ticket first second
    by_cases here : j = i
    · by_cases there : k = i
      · rw [here, there]
      · rw [here, Function.update_self] at first
        rw [Function.update_of_ne there] at second
        exact absurd second (apart k there ticket first)
    · rw [Function.update_of_ne here] at first
      by_cases there : k = i
      · rw [there, Function.update_self] at second
        exact absurd first (apart j here ticket second)
      · rw [Function.update_of_ne there] at second
        exact turns.apart j k ticket first second
  · intro j ticket owned
    by_cases same : j = i
    · rw [same, Function.update_self] at owned
      obtain before | ⟨-, fresh⟩ := tickets ticket owned
      · exact (turns.issued i ticket before).trans_le grows
      · exact fresh
    · rw [Function.update_of_ne same] at owned
      exact (turns.issued j ticket owned).trans_le grows

/-- When one of them goes on, they still take turns. -/
theorem TakeTurns.moves {i : Nat} (turns : TakeTurns standing r)
    (moves : Moves r r' (standing i) s') :
    TakeTurns (Function.update standing i s') r'
  := by
  generalize before : standing i = s at moves
  have held (j : Nat) (ticket : Nat) (turn : (standing j).turn? = some ticket) :
      r.registryLock.holder = some ticket
    := turns.holds j ticket turn
  cases moves with
  | stays registry registryLock =>
    rw [← before, Function.update_eq_self]
    exact turns.of_same registry registryLock
  | asks registry registryLock free =>
    have holder : r'.registryLock.holder = some r.registryLock.nextTicket := by
      rw [registryLock]
      unfold Lock.ask
      rw [free]
    have nextTicket : r'.registryLock.nextTicket = r.registryLock.nextTicket + 1 := by
      rw [registryLock, nextTicket_ask]
    apply turns.update
    · rintro _ ⟨⟩
      exact holder
    · trivial
    · intro j _ ticket turn
      rw [free] at held
      cases held j ticket turn
    · rintro _ ⟨⟩
      exact .inr ⟨rfl, by omega⟩
    · omega
  | queues registry registryLock taken =>
    have holder : r'.registryLock.holder = r.registryLock.holder := by
      rw [registryLock]
      unfold Lock.ask
      split
      next free => exact absurd free taken
      next => rfl
    have nextTicket : r'.registryLock.nextTicket = r.registryLock.nextTicket + 1 := by
      rw [registryLock, nextTicket_ask]
    apply turns.update
    · rintro _ ⟨⟩
    · trivial
    · intro j _ ticket turn
      rw [holder]
      exact ⟨held j ticket turn, registry⟩
    · rintro _ ⟨⟩
      exact .inr ⟨rfl, by omega⟩
    · omega
  | enters same granted =>
    rw [same]
    apply turns.update
    · rintro _ ⟨⟩
      exact granted
    · trivial
    · exact fun j _ ticket turn => ⟨held j ticket turn, rfl⟩
    · intro ticket owned
      left
      rw [before]
      exact owned
    · exact le_rfl
  | looks same =>
    rw [same]
    apply turns.update
    · intro ticket turn
      apply held i
      rw [before]
      exact turn
    · rfl
    · exact fun j _ ticket turn => ⟨held j ticket turn, rfl⟩
    · intro ticket owned
      left
      rw [before]
      exact owned
    · exact le_rfl
  | leaves registryLock =>
    apply turns.update
    · rintro _ ⟨⟩
    · trivial
    · intro j differs ticket turn
      exact absurd (turns.alone turn (by rw [before]; rfl)) differs
    · rintro _ ⟨⟩
    · rw [registryLock, nextTicket_release]

end

end Relay

/-- Whether an errand is not that of a topic service with objects of its own. -/
def Errand.isPlain : Errand → Bool
  | runTopics s => s.settings.statusObjects.isEmpty
  | _ => true

namespace Pool

/-- All processes, the event loop first. -/
def processes (pool : Pool) : List RelayProcess := pool.loop :: pool.others

/-- Whoever goes on may do so.  Topic services have no objects of their own here. -/
def Admits (pool : Pool) : Happening → Prop
  | .reads _ => True
  | .loops => pool.relay.Lets pool.loop
  | .goes index => ∀ p ∈ pool.others[index]?, pool.relay.Lets p
  | .begins errand => errand.isPlain = true
  | .befalls _ => True

instance (pool : Pool) : (happening : Happening) → Decidable (pool.Admits happening)
  | .reads _ => isTrue trivial
  | .loops => inferInstanceAs (Decidable (pool.relay.Lets pool.loop))
  | .goes index => inferInstanceAs (Decidable (∀ p ∈ pool.others[index]?, pool.relay.Lets p))
  | .begins errand => inferInstanceAs (Decidable (errand.isPlain = true))
  | .befalls _ => isTrue trivial

/-- All of it happens as it may. -/
def Orderly (pool : Pool) : List Happening → Prop
  | [] => True
  | happening :: happenings => pool.Admits happening ∧ (pool.next happening).Orderly happenings

instance decidableOrderly (pool : Pool) :
    (happenings : List Happening) → Decidable (pool.Orderly happenings)
  | [] => isTrue trivial
  | happening :: happenings =>
    have := decidableOrderly (pool.next happening) happenings
    inferInstanceAs (Decidable (pool.Admits happening ∧ (pool.next happening).Orderly happenings))

theorem getElem?_set_append {α : Type*} {items fresh : List α} {i j : Nat} {a b : α}
    (inBounds : i < items.length) (found : (items.set i a ++ fresh)[j]? = some b) :
    j = i ∧ b = a ∨ j ≠ i ∧ items[j]? = some b ∨ items.length ≤ j ∧ b ∈ fresh
  := by
  by_cases old : j < items.length
  · rw [List.getElem?_append_left (by rwa [List.length_set])] at found
    by_cases same : j = i
    · rw [same, List.getElem?_set_self inBounds] at found
      exact .inl ⟨same, (Option.some.inj found).symm⟩
    · rw [List.getElem?_set_ne (Ne.symm same)] at found
      exact .inr (.inl ⟨same, found⟩)
  · rw [List.getElem?_append_right (by rw [List.length_set]; omega)] at found
    exact .inr (.inr ⟨by omega, List.mem_of_getElem? found⟩)

theorem orderly_concat {pool : Pool} {happenings : List Happening} {happening : Happening} :
    pool.Orderly (happenings ++ [happening]) ↔
      pool.Orderly happenings ∧ (pool.run happenings).Admits happening
  := by
  induction happenings generalizing pool with
  | nil => simp [Orderly, run]
  | cons first happenings ih =>
    rw [List.cons_append, Orderly, ih, Orderly, and_assoc]
    rfl

/-- The processes behave and take turns, and the interests there are cared for. -/
structure Kept (kinds : ConnectionId → TransportKind) (standing : Nat → Relay.Standing)
    (pool : Pool) : Prop where
  behaves : ∀ i p, pool.processes[i]? = some p → Relay.Behaves kinds (standing i) p
  absent : ∀ i, pool.processes.length ≤ i → standing i = .free
  turns : Relay.TakeTurns standing pool.relay
  cared : pool.relay.evictions.hasReader = true → ∀ id, pool.relay.registry.HasEntry id →
    pool.relay.hub.contains id = true ∨ id ∈ pool.relay.evictions.items ∨
      ∃ p ∈ pool.processes, Relay.Releases id p
  pushed : ∀ id, pool.relay.registry.HasEntry id → (kinds id).supportsPush = true
  sound : pool.relay.registry.table.Sound

section

variable {kinds : ConnectionId → TransportKind} {standing : Nat → Relay.Standing}
  {pool pool' : Pool}

/-- One of the processes goes on. -/
theorem Kept.exists_goOn (kept : Kept kinds standing pool) (known : pool.relay.Kinds kinds)
    {i : Nat} {p : RelayProcess} (here : pool.processes[i]? = some p) (lets : pool.relay.Lets p)
    (relay : pool'.relay = (pool.relay.goOn p).1)
    (processes : pool'.processes =
      pool.processes.set i (pool.relay.goOn p).2.1 ++ (pool.relay.goOn p).2.2) :
    (∃ standing', Kept kinds standing' pool') ∧ Relay.Issues pool.relay pool'.relay
  := by
  obtain ⟨s', moves, tends, goesOn, started⟩ :=
    Relay.exists_goOn (kept.behaves i p here) known (kept.turns.fits i) lets
  rw [← relay] at moves tends
  have inBounds : i < pool.processes.length := (List.getElem?_eq_some_iff.1 here).1
  refine ⟨⟨Function.update standing i s', ?_, ?_, ?_, ?_, ?_, ?_⟩, tends.issues⟩
  · intro j q found
    rw [processes] at found
    obtain ⟨rfl, rfl⟩ | ⟨differs, old⟩ | ⟨fresh, mem⟩ := getElem?_set_append inBounds found
    · rw [Function.update_self]
      exact goesOn
    · rw [Function.update_of_ne differs]
      exact kept.behaves j q old
    · rw [Function.update_of_ne (by omega), kept.absent j fresh]
      exact started q mem
  · intro j outside
    rw [processes, List.length_append, List.length_set] at outside
    rw [Function.update_of_ne (by omega)]
    exact kept.absent j (by omega)
  · exact kept.turns.moves moves
  · intro reads id entry
    have kept_of_mem {q : RelayProcess} (mem : q ∈ pool.processes) (other : q ≠ p) :
        q ∈ pool'.processes
      := by
      rw [processes]
      apply List.mem_append_left
      obtain ⟨j, found⟩ := List.mem_iff_getElem?.1 mem
      apply List.mem_iff_getElem?.2
      refine ⟨j, ?_⟩
      rw [List.getElem?_set_ne, found]
      rintro rfl
      rw [here] at found
      exact other (Option.some.inj found).symm
    have goOn_mem : (pool.relay.goOn p).2.1 ∈ pool'.processes := by
      rw [processes]
      exact List.mem_append_left _ (List.mem_set inBounds _)
    obtain lives | reported | releases | ⟨before, lost, unreported⟩ := tends.cared reads id entry
    · exact .inl lives
    · exact .inr (.inl reported)
    · exact .inr (.inr ⟨_, goOn_mem, releases⟩)
    · right
      right
      obtain lives | reported | ⟨q, mem, releases⟩ := kept.cared (tends.reader reads) id before
      · rw [lost] at lives
        cases lives
      · exact absurd reported unreported
      · by_cases same : q = p
        · rw [same] at releases
          rw [relay] at entry
          exact ⟨_, goOn_mem, releases.goOn lost entry⟩
        · exact ⟨q, kept_of_mem mem same, releases⟩
  · intro id entry
    exact (tends.pushed id entry).elim (kept.pushed id) fun h => h
  · exact tends.sound kept.sound

/-- The relay changes apart from the processes. -/
theorem Kept.of_passing (kept : Kept kinds standing pool)
    (passing : Relay.Passing pool.relay pool'.relay)
    (processes : pool'.processes = pool.processes) :
    Kept kinds standing pool'
  := by
  refine ⟨?_, ?_, kept.turns.of_same passing.registry passing.registryLock, ?_, ?_, ?_⟩
  · rw [processes]
    exact kept.behaves
  · rw [processes]
    exact kept.absent
  · intro reads id entry
    rw [passing.registry] at entry
    rw [processes]
    obtain lives | reported | releases := kept.cared (passing.reader reads) id entry
    · exact (passing.lives reads id lives).imp_right .inl
    · exact .inr (.inl (passing.reported reads id reported))
    · exact .inr (.inr releases)
  · rw [passing.registry]
    exact kept.pushed
  · rw [passing.registry]
    exact kept.sound

/-- Another process begins. -/
theorem Kept.begins (kept : Kept kinds standing pool) {p : RelayProcess}
    (behaves : Relay.Behaves kinds .free p) (relay : pool'.relay = pool.relay)
    (processes : pool'.processes = pool.processes ++ [p]) :
    Kept kinds standing pool'
  := by
  refine ⟨fun i q found => ?_, fun i outside => ?_, ?_, fun reads id entry => ?_, ?_, ?_⟩
  · rw [processes] at found
    by_cases old : i < pool.processes.length
    · rw [List.getElem?_append_left old] at found
      exact kept.behaves i q found
    · rw [List.getElem?_append_right (by omega)] at found
      rw [List.mem_singleton.1 (List.mem_of_getElem? found), kept.absent i (by omega)]
      exact behaves
  · rw [processes, List.length_append] at outside
    exact kept.absent i (by omega)
  · rw [relay]
    exact kept.turns
  · rw [relay] at reads entry ⊢
    obtain lives | reported | ⟨q, mem, releases⟩ := kept.cared reads id entry
    · exact .inl lives
    · exact .inr (.inl reported)
    · rw [processes]
      exact .inr (.inr ⟨q, List.mem_append_left _ mem, releases⟩)
  · rw [relay]
    exact kept.pushed
  · rw [relay]
    exact kept.sound

theorem behaves_errand {errand : Errand} (admitted : pool.Admits (.begins errand)) :
    Relay.Behaves kinds .free errand.process
  := by
  cases errand with
  | received id text => exact (Action.tidy_receiveText id text).process
  | openSession capacity =>
    exact Action.Tidy.of_passes (Action.passes_openSession capacity) _ fun _ _ => .done
  | takeMessage id =>
    exact Action.Tidy.of_passes (Action.passes_takeMessage id) _ fun _ _ => .done
  | closeSession id => exact (Action.tidy_disconnect id).process
  | exchange method target body => exact Action.tidy_exchange method target body _ fun _ _ => .done
  | attach wire =>
    exact (Action.Tidy.of_passes (Action.passes_of_links (Action.links_attach wire))).process
  | runLink service => apply Relay.Behaves.enter
  | runTopics service =>
    exact Action.behaves_continue? (Action.tidy_runTopics (List.isEmpty_iff.1 admitted))
  | listen kind service switch isTaken =>
    exact Action.Tidy.of_passes
      (Action.passes_of_links (Action.links_listen kind service switch isTaken)) _ fun _ _ => .done
  | registerScheduler => exact Action.tidy_registerScheduler.process

/-- Whatever happens next, the pool is kept. -/
theorem Kept.exists_next (kept : Kept kinds standing pool) (known : pool.relay.Kinds kinds)
    {happening : Happening} (admitted : pool.Admits happening) :
    (∃ standing', Kept kinds standing' (pool.next happening)) ∧
      Relay.Issues pool.relay (pool.next happening).relay
  := by
  cases happening with
  | reads wire =>
    have passing := (Relay.aside_readStep pool.relay wire).passing
    exact ⟨⟨standing, kept.of_passing passing rfl⟩, passing.issues⟩
  | loops => exact kept.exists_goOn (i := 0) known rfl admitted rfl rfl
  | goes index =>
    cases found : pool.others[index]? with
    | none =>
      rw [next_goes_of_none found]
      exact ⟨⟨standing, kept⟩, (Relay.Aside.refl _).passing.issues⟩
    | some p =>
      rw [next_goes found]
      exact kept.exists_goOn (i := index + 1) known found (admitted p found) rfl rfl
  | begins errand =>
    exact ⟨⟨standing, kept.begins (behaves_errand admitted) rfl rfl⟩,
      (Relay.Aside.refl _).passing.issues⟩
  | befalls incident =>
    have passing := Relay.passing_incident pool.relay incident
    exact ⟨⟨standing, kept.of_passing passing rfl⟩, passing.issues⟩

/-- Over a whole run the pool is kept, as long as the connections are of these kinds. -/
theorem Kept.exists_run (kept : Kept kinds standing pool) {happenings : List Happening}
    (orderly : pool.Orderly happenings)
    (known : ∀ p ∈ pool.states happenings, p.relay.Kinds kinds) :
    ∃ standing', Kept kinds standing' (pool.run happenings)
  := by
  induction happenings generalizing pool standing with
  | nil => exact ⟨standing, kept⟩
  | cons happening happenings ih =>
    obtain ⟨standing', kept'⟩ :=
      (kept.exists_next (known pool List.mem_cons_self) orderly.1).1
    exact ih kept' orderly.2 fun p mem => known p (List.mem_cons_of_mem _ mem)

end

end Pool

end ControlRelay
