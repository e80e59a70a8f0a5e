import ControlRelay.Proofs.Relay.Handing

/-!
# Processes side by side

A `Pool` is a relay with the processes that work on it: its event loop and any number of others.
They take their steps in any order, and whoever waits may go on at any time, so every order in which
a machine runs them is among those considered here.  Meanwhile clients and the control process do
something from outside, and more processes begin.  The processes that read the wires hand on the
frames of the control process, and are told apart for this.
-/

namespace ControlRelay

open Program

/-- What can be begun beside the event loop. -/
inductive Errand where
  /-- A text message of the client of a session comes in. -/
  | received (id : ConnectionId) (text : String)
  | openSession (capacity : Nat)
  /-- A session takes the next message for its client. -/
  | takeMessage (id : ConnectionId)
  | closeSession (id : ConnectionId)
  | exchange (method target : String) (body : List UInt8)
  | attach (wire : Nat)
  | runLink (service : LinkService)
  | runTopics (service : TopicService)
  | listen (kind : Action.ListenerKind) (service : Nat) (switch : Switch) (isTaken : Bool)
  | registerScheduler

/-- The process that carries an errand out. -/
def Errand.process : Errand → RelayProcess
  | received id text => (Action.receiveText id text).process
  | openSession capacity => Action.openSession capacity fun _ => .done
  | takeMessage id => Action.takeMessage id fun _ => .done
  | closeSession id => (Action.closeSession id).process
  | exchange method target body => Action.exchange method target body fun _ => .done
  | attach wire => (Action.attach wire).process
  | runLink service => .enter (.linkLoop service)
  | runTopics service => Action.continue? (Action.runTopics service)
  | listen kind service switch isTaken => Action.listen kind service switch isTaken fun _ => .done
  | registerScheduler => Action.registerScheduler.process

/-- What happens to a relay from outside. -/
inductive Incident where
  /-- The other end of a wire sends bytes. -/
  | sent (wire : Nat) (bytes : List UInt8)
  /-- The other end closes a wire. -/
  | closed (wire : Nat)
  /-- The other end takes no more bytes. -/
  | refused (wire : Nat)
  /-- There is another wire. -/
  | wired
  /-- The control process begins or stops to listen on its socket. -/
  | listens (isListening : Bool)
  /-- It accepts the connections that wait. -/
  | accepted
  /-- A client of the topic transport publishes a message. -/
  | published (broker : Nat) (message : TopicMessage)
  /-- A client stops taking messages. -/
  | abandoned (id : ConnectionId)
  /-- Time passes. -/
  | passed (clock : Nat) (timeOfDay : Float)
  | switched (switch : Switch) (isOn : Bool)
  /-- Those who wait for the signals of the last steps are told. -/
  | settled

/-- The relay after an incident. -/
def Incident.change (r : Relay) : Incident → Relay
  | sent wire bytes => (r.onWire wire (·.arrive bytes)).raise (.arrived wire)
  | closed wire => (r.onWire wire (·.close)).raise (.arrived wire)
  | refused wire => r.onWire wire fun w => { w with takesBytes := false }
  | wired => { r with wires := r.wires ++ [default] }
  | listens isListening => { r with isListening }
  | accepted => { r with backlog := [] }
  | published broker message => r.publish broker message
  | abandoned id => { r with hub := r.hub.abandon id }.raise (.room id)
  | passed clock timeOfDay => { r with clock, timeOfDay }
  | switched switch isOn => if isOn then r.switchOn switch else r.switchOff switch
  | settled => r.takeSignals.2

/-- A relay with its event loop and the other processes. -/
structure Pool where
  relay : Relay
  loop : RelayProcess
  others : List RelayProcess := []

/-- What can happen next. -/
inductive Happening where
  /-- The process that reads a wire takes its turn. -/
  | reads (wire : Nat)
  /-- The event loop goes on. -/
  | loops
  /-- One of the other processes goes on. -/
  | goes (index : Nat)
  | begins (errand : Errand)
  | befalls (incident : Incident)

/-- What a process does next: the relay after it, what it goes on with, and the processes that it
starts.  A process that reads a wire takes its turns elsewhere. -/
def Relay.goOn (r : Relay) : RelayProcess → Relay × RelayProcess × List RelayProcess
  | .done => (r, .done, [])
  | .step run => ((run r).1, (run r).2, [])
  | .wait _ _ next => (r, next, [])
  | .fork child next => (r, next, [child])
  | .enter (.wireReader wire) => (r, .enter (.wireReader wire), [])
  | .enter routine => (r, routine.process, [])

namespace Pool

/-- The pool after something has happened. -/
def next (pool : Pool) : Happening → Pool
  | .reads wire => { pool with relay := (Action.readStep wire pool.relay).1 }
  | .loops =>
    let (relay, loop, started) := pool.relay.goOn pool.loop
    ⟨relay, loop, pool.others ++ started⟩
  | .goes index =>
    match pool.others[index]? with
    | some p =>
      let (relay, p, started) := pool.relay.goOn p
      { pool with relay, others := pool.others.set index p ++ started }
    | none => pool
  | .begins errand => { pool with others := pool.others ++ [errand.process] }
  | .befalls incident => { pool with relay := incident.change pool.relay }

/-- The pool after a list of happenings. -/
def run (pool : Pool) (happenings : List Happening) : Pool := happenings.foldl next pool

/-- The pools from the first to the last. -/
def states (pool : Pool) : List Happening → List Pool
  | [] => [pool]
  | happening :: happenings => pool :: (pool.next happening).states happenings

/-- A relay whose event loop begins. -/
def started (relay : Relay) (s : EventService) (tick : Nat) : Pool where
  relay
  loop := .enter (.eventLoop s tick)

/-! ### Runs -/

theorem mem_states (pool : Pool) (happenings : List Happening) :
    pool ∈ pool.states happenings
  := by
  cases happenings <;> exact List.mem_cons_self

theorem run_concat (pool : Pool) (happenings : List Happening) (happening : Happening) :
    pool.run (happenings ++ [happening]) = (pool.run happenings).next happening
  := List.foldl_append

theorem states_concat (pool : Pool) (happenings : List Happening) (happening : Happening) :
    pool.states (happenings ++ [happening]) =
      pool.states happenings ++ [(pool.run happenings).next happening]
  := by
  induction happenings generalizing pool with
  | nil => rfl
  | cons first happenings ih =>
    rw [List.cons_append, states, ih, states, List.cons_append]
    rfl

theorem run_mem_states (pool : Pool) (happenings : List Happening) :
    pool.run happenings ∈ pool.states happenings
  := by
  cases happenings using List.reverseRecOn with
  | nil => exact List.mem_cons_self
  | append_singleton happenings happening =>
    rw [run_concat, states_concat]
    exact List.mem_append_right _ List.mem_cons_self

theorem run_append (pool : Pool) (first later : List Happening) :
    pool.run (first ++ later) = (pool.run first).run later
  := List.foldl_append

theorem mem_states_append {pool : Pool} {first later : List Happening} {p : Pool} :
    p ∈ pool.states (first ++ later) ↔ p ∈ pool.states first ∨ p ∈ (pool.run first).states later
  := by
  induction first generalizing pool with
  | nil =>
    rw [states, List.mem_singleton]
    constructor
    · exact .inr
    · rintro (rfl | mem)
      · apply mem_states
      · exact mem
  | cons happening first ih =>
    rw [List.cons_append, states, List.mem_cons, ih, states, List.mem_cons, or_assoc]
    rfl

/-! ### One of the processes -/

section

variable {pool : Pool} {index : Nat} {p : RelayProcess}

/-- One of the processes goes on. -/
theorem next_goes (found : pool.others[index]? = some p) :
    pool.next (.goes index) =
      { pool with
        relay := (pool.relay.goOn p).1
        others := pool.others.set index (pool.relay.goOn p).2.1 ++ (pool.relay.goOn p).2.2 }
  := by
  simp only [Pool.next, found]

theorem next_goes_of_none (absent : pool.others[index]? = none) :
    pool.next (.goes index) = pool
  := by
  simp only [Pool.next, absent]

/-- What one of the processes does next. -/
theorem at_next_goes (found : pool.others[index]? = some p) :
    (pool.next (.goes index)).relay = (pool.relay.goOn p).1 ∧
      (pool.next (.goes index)).others[index]? = some (pool.relay.goOn p).2.1
  := by
  have inBounds : index < pool.others.length := (List.getElem?_eq_some_iff.1 found).1
  rw [next_goes found]
  use rfl
  rw [List.getElem?_append_left (by rwa [List.length_set]), List.getElem?_set_self inBounds]

/-- A process that is started comes after all others. -/
theorem at_next_goes_fork {child q : RelayProcess}
    (found : pool.others[index]? = some (.fork child q)) :
    (pool.next (.goes index)).relay = pool.relay ∧
      (pool.next (.goes index)).others[pool.others.length]? = some child
  := by
  rw [next_goes found]
  use rfl
  rw [List.getElem?_append_right (by rw [List.length_set]), List.length_set, Nat.sub_self]
  rfl

/-- Whatever else happens next, a process is where it was. -/
theorem next_of_ne {happening : Happening} (found : pool.others[index]? = some p)
    (differs : happening ≠ .goes index) :
    (pool.next happening).others[index]? = some p
  := by
  have inBounds : index < pool.others.length := (List.getElem?_eq_some_iff.1 found).1
  have appended (started : List RelayProcess) : (pool.others ++ started)[index]? = some p := by
    rw [List.getElem?_append_left inBounds, found]
  cases happening with
  | reads => exact found
  | loops => apply appended
  | goes other =>
    have unlike : other ≠ index := fun same => differs (congrArg Happening.goes same)
    cases goes : pool.others[other]? with
    | none => rw [next_goes_of_none goes, found]
    | some =>
      rw [next_goes goes, List.getElem?_append_left (by rwa [List.length_set]),
        List.getElem?_set_ne unlike, found]
  | begins => apply appended
  | befalls => exact found

/-- Nothing but its own steps changes a process. -/
theorem run_of_notMem {later : List Happening} (found : pool.others[index]? = some p)
    (still : .goes index ∉ later) :
    (pool.run later).others[index]? = some p
  := by
  induction later generalizing pool with
  | nil => exact found
  | cons happening later ih =>
    have differs : happening ≠ .goes index := fun same => still (same ▸ List.mem_cons_self)
    exact ih (next_of_ne found differs) fun mem => still (List.mem_cons_of_mem _ mem)

end

section

variable {id : ConnectionId} {interest : Option Interest} {owed : Option String} {pool : Pool}

/-! ### Bystanders in a pool -/

theorem bystander_errand (errand : Errand) :
    Relay.Bystander id errand.process
  := by
  have done : Process.Keeps (Relay.Spares id) Relay.Rests Relay.Rests .done := .ended trivial
  cases errand with
  | received who text => exact (Action.spares_receiveText who text).process fun _ => done
  | openSession capacity => exact (Action.spares_openSession capacity).process fun _ => done
  | takeMessage who => exact (Action.spares_takeMessage who).process fun _ => done
  | closeSession who => exact (Action.spares_disconnect who).process fun _ => done
  | exchange method target body =>
    exact (Action.spares_exchange method target body).process fun _ => done
  | attach wire => exact (Action.spares_of_links (Action.links_attach wire)).process fun _ => done
  | runLink service => exact .ended trivial
  | runTopics service => apply Action.spares_runTopics
  | listen kind service switch isTaken =>
    exact (Action.spares_of_links (Action.links_listen kind service switch isTaken)).process
      fun _ => done
  | registerScheduler => exact Action.spares_registerScheduler.process fun _ => done

/-- A mailbox that nobody reads any more is empty. -/
theorem takes_abandon (h : Hub) (who : ConnectionId) :
    Hub.Takes id h (h.abandon who)
  := by
  unfold Hub.abandon
  split
  next =>
    apply Hub.takes_insert rfl
    intro m _
    exact ⟨m.waiting.length, List.drop_length.symm⟩
  next => exact Hub.takes_of_same rfl

theorem spares_incident (r : Relay) (incident : Incident) :
    Relay.Spares id r (incident.change r)
  := by
  cases incident with
  | abandoned who => exact Relay.spares_of_takes rfl (takes_abandon r.hub who)
  | switched switch isOn => cases isOn <;> exact Relay.spares_of_same rfl rfl
  | _ => exact Relay.spares_of_same rfl rfl

theorem goOn_enter (r : Relay) {routine : Routine} (unread : ∀ wire, routine ≠ .wireReader wire) :
    r.goOn (.enter routine) = (r, routine.process, [])
  := by
  cases routine with
  | wireReader wire => apply absurd rfl (unread wire)
  | _ => rfl

/-- A bystander goes on with a step that spares the client, and starts bystanders only. -/
theorem bystander_goOn {p : RelayProcess} (bystander : Relay.Bystander id p) (r : Relay) :
    Relay.Spares id r (r.goOn p).1 ∧ Relay.Bystander id (r.goOn p).2.1 ∧
      ∀ q ∈ (r.goOn p).2.2, Relay.Bystander id q
  := by
  cases bystander with
  | ended here =>
    cases p with
    | done => exact ⟨r.spares_refl, .ended trivial, by simp [Relay.goOn]⟩
    | enter routine =>
      by_cases reader : ∃ wire, routine = .wireReader wire
      · obtain ⟨wire, rfl⟩ := reader
        exact ⟨r.spares_refl, .ended trivial, by simp [Relay.goOn]⟩
      · have unread : ∀ wire, routine ≠ .wireReader wire := fun wire same => reader ⟨wire, same⟩
        rw [goOn_enter r unread]
        exact ⟨r.spares_refl, Action.bystander_process here unread, by simp⟩
    | _ => cases here
  | step spares next => exact ⟨spares r, next r, by simp [Relay.goOn]⟩
  | wait next => exact ⟨r.spares_refl, next, by simp [Relay.goOn]⟩
  | fork started next =>
    use r.spares_refl, next
    intro q mem
    rw [List.mem_singleton.1 mem]
    apply started

/-- The event loop goes on as it owes it, and starts bystanders only. -/
theorem exists_owes_goOn {p : RelayProcess} (owes : Relay.Owes id interest owed p) (r : Relay) :
    ∃ owed', (r.Serves id interest → (r.goOn p).1.Serves id interest →
        Relay.Advances id interest owed r (r.goOn p).1 owed') ∧
      Relay.Owes id interest owed' (r.goOn p).2.1 ∧
      ∀ q ∈ (r.goOn p).2.2, Relay.Bystander id q
  := by
  have stays : r.Serves id interest → r.Serves id interest →
      Relay.Advances id interest owed r r owed
    := fun _ _ => .spares r.spares_refl
  cases owes with
  | done => exact ⟨none, stays, .done, by simp [Relay.goOn]⟩
  | between s tick => exact ⟨none, stays, Action.owes_eventLoop s tick, by simp [Relay.goOn]⟩
  | step after advances next => exact ⟨after r, advances r, next r, by simp [Relay.goOn]⟩
  | wait next => exact ⟨owed, stays, next, by simp [Relay.goOn]⟩
  | fork started next =>
    use owed, stays, next
    intro q mem
    rw [List.mem_singleton.1 mem]
    apply started

/-- The event loop owes the client what it owes, and all others are bystanders. -/
structure Sound (id : ConnectionId) (interest : Option Interest) (owed : Option String)
    (pool : Pool) : Prop where
  loop : Relay.Owes id interest owed pool.loop
  others : ∀ p ∈ pool.others, Relay.Bystander id p

theorem sound_started (relay : Relay) (s : EventService) (tick : Nat) :
    Sound id interest none (started relay s tick)
  := by
  constructor
  · apply Relay.Owes.between
  · rintro p ⟨⟩

end

end Pool

end ControlRelay
