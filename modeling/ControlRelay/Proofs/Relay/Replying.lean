import ControlRelay.Proofs.Relay.FanOut
import ControlRelay.Proofs.Relay.Leftovers

/-!
# Responses among status updates

The session of a client puts the response to a subscription into the mailbox that the status updates
for the client go to.  The snapshot in it is read while the subscription has the lock of the
registry, but the response is put by the process of the request after that, and meanwhile the event
loop may handle further pushes.  What is in the mailbox before the response is told by what the
event loop has done in between.
-/

namespace ControlRelay

open Program

namespace Action

/-- The text of the response to a request that has come to an outcome. -/
def responseText (replyId : Json) : Except RelayError Json → String
  | .ok result => (Rpc.Response.success replyId result).text
  | .error e => (Rpc.Response.failure replyId e.body).text

/-- What the process of a request does once its subscription has released the registry. -/
def answering (id : ConnectionId) (replyId : Json) (answer : Except RelayError Snapshot) :
    RelayProcess :=
  confirm id answer fun outcome => .enter (.reply id (responseText replyId outcome))

/-- The id of a request to subscribe and the changes that it asks for, if a text is one. -/
def subscription? (text : String) : Option (Json × InterestChanges) := do
  let request ← (Rpc.parseRequest text).toOption
  if request.method = "objects.subscribe" then
    let replyId ← request.id
    let objects ← (objectsParam request.params).toOption
    let changes ← (parseSubscription objects).toOption
    pure (replyId, changes)
  else none

/-- The process of such a request works on the registry and answers. -/
def subscribing (id : ConnectionId) (replyId : Json) (changes : InterestChanges) : RelayProcess :=
  withRegistry (·.subscribe (.connection id) changes) (answering id replyId)

theorem exists_of_subscription? {text : String} {replyId : Json} {changes : InterestChanges}
    (subscribes : subscription? text = some (replyId, changes)) :
    ∃ params objects, Rpc.parseRequest text = .ok ⟨"objects.subscribe", params, some replyId⟩ ∧
      objectsParam params = .ok objects ∧ parseSubscription objects = .ok changes
  := by
  have ok_of_toOption {ε α : Type} {x : Except ε α} {a : α} (same : x.toOption = some a) :
      x = .ok a
    := by
    cases x with
    | error e => cases same
    | ok b => exact congrArg Except.ok (Option.some.inj same)
  obtain ⟨⟨method, params, reply?⟩, parsed, rest⟩ := Option.bind_eq_some_iff.1 subscribes
  obtain ⟨rfl, rest⟩ := Option.ite_none_right_eq_some.1 rest
  obtain ⟨_, rfl, rest⟩ := Option.bind_eq_some_iff.1 rest
  obtain ⟨objects, given, rest⟩ := Option.bind_eq_some_iff.1 rest
  obtain ⟨_, selected, rest⟩ := Option.bind_eq_some_iff.1 rest
  obtain ⟨rfl, rfl⟩ := Prod.mk.inj (Option.some.inj rest)
  exact ⟨params, objects, ok_of_toOption parsed, ok_of_toOption given, ok_of_toOption selected⟩

/-- The process of a request to subscribe first looks up its connection. -/
theorem exists_lookup {text : String} {replyId : Json} {changes : InterestChanges}
    (subscribes : subscription? text = some (replyId, changes)) (id : ConnectionId) :
    ∃ lookup : RelayProcess, (receiveText id text).process = .fork lookup .done ∧
      ∀ (r : Relay) (kind : TransportKind), r.hub.kind id = .ok kind → kind.supportsPush = true →
        r.goOn lookup = (r, subscribing id replyId changes, [])
  := by
  obtain ⟨params, objects, parsed, given, selected⟩ := exists_of_subscription? subscribes
  let replies (outcome : Except RelayError Json) : RelayProcess :=
    .enter (.reply id (responseText replyId outcome))
  use dispatch id "objects.subscribe" params replies
  constructor
  · unfold receiveText submitText
    rw [parsed]
    refine congrArg (fun next => Process.fork (dispatch id "objects.subscribe" params next) .done)
      (funext fun outcome => ?_)
    cases outcome <;> rfl
  · intro r kind found pushed
    have looks : r.goOn (dispatch id "objects.subscribe" params replies) =
        (r, dispatchTo id kind "objects.subscribe" params replies, [])
      := by
      change (r, _, []) = _
      dsimp only
      rw [found]
    have dispatched : dispatchTo id kind "objects.subscribe" params replies =
        subscribing id replyId changes
      := by
      change withParam (objectsParam params) (subscribeFor id kind) replies = _
      rw [given]
      change subscribeFor id kind objects replies = _
      rw [subscribeFor_eq, if_pos pushed]
      unfold subscribe
      rw [selected]
      rfl
    rw [looks, dispatched]

/-- The step that puts a reply into a mailbox, and whether it has to wait for room. -/
def replyStep (id : ConnectionId) (text : String) (r : Relay) : Relay × Bool :=
  match r.hub.mailboxes.get? id with
  | some m =>
    if !r.hub.contains id || !m.hasReader then (r, false)
    else
      match m.put? text with
      | some m =>
        let hub := { r.hub with mailboxes := r.hub.mailboxes.insert id m }
        ({ r with hub }.raise (.mail id), false)
      | none => (r, true)
  | none => (r, false)

theorem goOn_reply (r : Relay) (id : ConnectionId) (text : String) :
    r.goOn (Routine.reply id text).process =
      ((replyStep id text r).1,
        if (replyStep id text r).2 then .wait [.room id, .gone id] none (.enter (.reply id text))
        else .done, [])
  := by
  have steps : (Routine.reply id text).process = .step fun r =>
      ((replyStep id text r).1, continue? (if (replyStep id text r).2 then do
        await [.room id, .gone id]
        pure (some (.reply id text))
      else pure none))
    := rfl
  rw [steps]
  dsimp only [Relay.goOn]
  cases (replyStep id text r).2 <;> rfl

theorem goOn_answering (r : Relay) (id : ConnectionId) (replyId : Json)
    (answer : Except RelayError Snapshot) (lives : r.hub.contains id = true) :
    r.goOn (answering id replyId answer) =
      (r, .enter (.reply id (responseText replyId (snapshotAnswer answer))), [])
  := by
  have steps : answering id replyId answer = .step fun r =>
      (r, (if r.hub.contains id then pure (snapshotAnswer answer) else do
        let _ ← removeSubscriber (.connection id)
        pure (.error (.unknownClient id)) : Action (Except RelayError Json)) fun outcome =>
          .enter (.reply id (responseText replyId outcome)))
    := rfl
  rw [steps]
  dsimp only [Relay.goOn]
  rw [if_pos lives]
  rfl

/-- While a session takes messages, a reply is put into its mailbox, or has to wait. -/
theorem replyStep_cases {id : ConnectionId} {text : String} {r : Relay} {m : Mailbox}
    (found : r.hub.mailboxes.get? id = some m) (reader : m.hasReader = true)
    (lives : r.hub.contains id = true) :
    Hub.Puts id [text] r.hub (replyStep id text r).1.hub ∨ replyStep id text r = (r, true)
  := by
  unfold replyStep
  rw [found]
  dsimp only
  rw [lives, reader, if_neg (by decide)]
  cases put : m.put? text with
  | none => exact .inr rfl
  | some m' =>
    have puts : Hub.Puts id (if id = id then [text] else []) r.hub _ := Hub.puts_insert found put
    rw [if_pos rfl] at puts
    exact .inl puts

end Action

namespace Relay

/-- The messages that are put into a mailbox from one relay to the next. -/
def arrived (id : ConnectionId) (r r' : Relay) : List String :=
  (r'.queue id).drop (r.queue id).length

/-- A client is served, and its session takes the messages from its mailbox. -/
structure Attends (id : ConnectionId) (interest : Option Interest) (r : Relay) : Prop where
  serves : r.Serves id interest
  reader : (r.hub.mailboxes.get? id).any (·.hasReader) = true

instance (id : ConnectionId) (interest : Option Interest) (r : Relay) :
    Decidable (r.Attends id interest) :=
  decidable_of_iff
    (r.Serves id interest ∧ (r.hub.mailboxes.get? id).any (·.hasReader) = true)
    ⟨fun attends => ⟨attends.1, attends.2⟩, fun attends => ⟨attends.serves, attends.reader⟩⟩

/-- A process that is about to put a response into a mailbox. -/
inductive Replies (id : ConnectionId) (text : String) : RelayProcess → Prop where
  | looks {replyId : Json} {answer : Except RelayError Snapshot}
      (same : Action.responseText replyId (Action.snapshotAnswer answer) = text) :
      Replies id text (Action.answering id replyId answer)
  | enters : Replies id text (.enter (.reply id text))
  | puts : Replies id text (Routine.reply id text).process
  | waits {signals : List Signal} {deadline : Option Nat} :
      Replies id text (.wait signals deadline (.enter (.reply id text)))

/-- Whether a process has come to its end. -/
def isDone : RelayProcess → Bool
  | .done => true
  | _ => false

section

variable {id : ConnectionId} {interest : Option Interest} {text : String} {p : RelayProcess}
  {r : Relay}

theorem Attends.mailbox (attends : r.Attends id interest) :
    r.hub.mailboxes.contains id = true
  := by
  have reader := attends.reader
  cases found : r.hub.mailboxes.get? id with
  | none =>
    rw [found] at reader
    cases reader
  | some m => exact SortedMap.contains_iff.2 ⟨m, found⟩

theorem arrived_of_puts {r' : Relay} {texts : List String}
    (mailbox : r.hub.mailboxes.contains id = true) (puts : Hub.Puts id texts r.hub r'.hub) :
    arrived id r r' = texts
  := by
  obtain ⟨m, found, queued⟩ := exists_mailbox mailbox
  obtain ⟨m', found', waiting⟩ := puts m found
  rw [arrived, queued, queue, found', Option.map_some, Option.getD_some, waiting, List.drop_left]

theorem Replies.isDone (replies : Replies id text p) :
    isDone p = false
  := by
  cases replies <;> rfl

/-- While the client is attended, the process goes on to put the response into its mailbox. -/
theorem Replies.goOn (replies : Replies id text p) (attends : r.Attends id interest) :
    Replies id text (r.goOn p).2.1 ∨ Hub.Puts id [text] r.hub (r.goOn p).1.hub
  := by
  have lives : r.hub.contains id = true := by
    obtain ⟨c, found, -⟩ := attends.serves.connected
    exact SortedMap.contains_iff.2 ⟨c, found⟩
  cases replies with
  | looks same =>
    rw [Action.goOn_answering r id _ _ lives, same]
    exact .inl .enters
  | enters => exact .inl .puts
  | waits => exact .inl .enters
  | puts =>
    rw [Action.goOn_reply]
    obtain ⟨m, found, reader⟩ := (Option.any_eq_true _ _).1 attends.reader
    obtain puts | waits := Action.replyStep_cases found reader lives
    · exact .inr puts
    · rw [waits]
      exact .inl .waits

end

end Relay

namespace Pool

/-- The messages that are put into a mailbox during a list of happenings, in order. -/
def arrivedOf (id : ConnectionId) (pool : Pool) : List Happening → List String
  | [] => []
  | happening :: happenings =>
    Relay.arrived id pool.relay (pool.next happening).relay ++
      (pool.next happening).arrivedOf id happenings

section

variable {id : ConnectionId} {interest : Option Interest} {owed : Option String} {pool : Pool}
  {index : Nat} {p : RelayProcess} {text : String}

theorem putOf_eq_filter (id : ConnectionId) (pool : Pool) (happenings : List Happening) :
    pool.putOf id happenings = (pool.arrivedOf id happenings).filter Rpc.isUpdateText
  := by
  induction happenings generalizing pool with
  | nil => rfl
  | cons happening happenings ih =>
    rw [putOf, arrivedOf, List.filter_append, ih]
    rfl

theorem arrivedOf_append (id : ConnectionId) (pool : Pool) (first later : List Happening) :
    pool.arrivedOf id (first ++ later) =
      pool.arrivedOf id first ++ (pool.run first).arrivedOf id later
  := by
  induction first generalizing pool with
  | nil => rfl
  | cons happening first ih =>
    rw [List.cons_append, arrivedOf, ih, arrivedOf, List.append_assoc]
    rfl

theorem handedOf_append (pool : Pool) (first later : List Happening) :
    pool.handedOf (first ++ later) = pool.handedOf first ++ (pool.run first).handedOf later
  := by
  induction first generalizing pool with
  | nil => rfl
  | cons happening first ih =>
    rw [List.cons_append, handedOf, ih, handedOf, List.append_assoc]
    rfl

theorem Unnamed.first {first later : List Happening} (unnamed : pool.Unnamed (first ++ later)) :
    pool.Unnamed first
  := by
  refine ⟨unnamed.1, fun outcome mem => unnamed.2 outcome ?_⟩
  rw [handedOf_append]
  exact List.mem_append_left _ mem

/-! ### The process of a request -/

/-- While the client is attended, the response waits to be put, or it has been put after what came
before that. -/
theorem exists_reply {later : List Happening} (found : pool.others[index]? = some p)
    (replies : Relay.Replies id text p)
    (attends : ∀ p ∈ pool.states later, p.relay.Attends id interest) :
    (∃ q, (pool.run later).others[index]? = some q ∧ Relay.Replies id text q) ∨
      ∃ first rest, later = first ++ .goes index :: rest ∧
        pool.arrivedOf id later = pool.arrivedOf id first ++
          text :: ((pool.run first).next (.goes index)).arrivedOf id rest
  := by
  induction later generalizing pool p with
  | nil => exact .inl ⟨p, found, replies⟩
  | cons happening later ih =>
    have attended : pool.relay.Attends id interest := attends pool List.mem_cons_self
    have goesOn {q : RelayProcess} (found' : (pool.next happening).others[index]? = some q)
        (replies' : Relay.Replies id text q) :
        (∃ q, (pool.run (happening :: later)).others[index]? = some q ∧ Relay.Replies id text q) ∨
          ∃ first rest, happening :: later = first ++ .goes index :: rest ∧
            pool.arrivedOf id (happening :: later) = pool.arrivedOf id first ++
              text :: ((pool.run first).next (.goes index)).arrivedOf id rest
      := by
      obtain waits | ⟨first, rest, rfl, arrives⟩ :=
        ih found' replies' fun p mem => attends p (List.mem_cons_of_mem _ mem)
      · exact .inl waits
      · right
        use happening :: first, rest, rfl
        rw [arrivedOf, arrives, arrivedOf, List.append_assoc]
        rfl
    by_cases own : happening = .goes index
    · obtain ⟨relay, found'⟩ := at_next_goes found
      obtain replies' | puts := replies.goOn attended
      · rw [← own] at found'
        exact goesOn found' replies'
      · right
        use [], later
        rw [own]
        use rfl
        rw [← relay] at puts
        exact congrArg (· ++ (pool.next (.goes index)).arrivedOf id later)
          (Relay.arrived_of_puts attended.mailbox puts)
    · exact goesOn (next_of_ne found own) replies

/-- A subscription that finds the registry free and calls nobody has released it after three
steps. -/
theorem released_of_covered {replyId : Json} {changes : InterestChanges} {registry : Registry}
    {answer : Except RelayError Snapshot}
    (here : pool.others[index]? = some (Action.subscribing id replyId changes))
    (free : pool.relay.registryLock.holder = none)
    (covered : pool.relay.registry.subscribe (.connection id) changes = .done (registry, answer)) :
    (pool.run [.goes index, .goes index, .goes index]).others[index]? =
      some (Action.answering id replyId answer)
  := by
  let works (registry : Registry) := registry.subscribe (.connection id) changes
  let replies := Action.answering id replyId
  let locked (r : Relay) : Relay := { r with registryLock := r.registryLock.ask.2 }
  let reads : RelayProcess :=
    (inspect fun r => works r.registry) fun dialogue => Action.writeBack dialogue replies
  have asks : pool.relay.goOn (Action.subscribing id replyId changes) =
      (locked pool.relay, reads, [])
    := by
    have entered : pool.relay.registryLock.ask.1 = none := by
      unfold Lock.ask
      rw [free]
    change (locked pool.relay,
      Action.awaitTurn pool.relay.registryLock.ask.1 fun _ => reads, []) = _
    rw [entered]
    rfl
  have looks (r : Relay) : (r.goOn reads).2.1 = Action.writeBack (works r.registry) replies := rfl
  have writes (r : Relay) : (r.goOn (Action.writeBack (.done (registry, answer)) replies)).2.1 =
      Action.answering id replyId answer
    := rfl
  have same : (locked pool.relay).registry = pool.relay.registry := rfl
  obtain ⟨relay₁, found₁⟩ := at_next_goes here
  rw [asks] at relay₁ found₁
  obtain ⟨-, found₂⟩ := at_next_goes found₁
  rw [looks, relay₁, same, show works pool.relay.registry = _ from covered] at found₂
  obtain ⟨-, found₃⟩ := at_next_goes found₂
  rw [writes] at found₃
  exact found₃

/-- Let anything happen from the moment when the subscription of a client has released the registry,
as long as the client is served and its session takes messages.  Then the response waits to be put
into the mailbox, or it has been put there, after some messages and before the others.  The status
updates among the former are the one that the event loop owed at that moment for the push that it
had in hand, if any, and those for the pushes that it has handled in the meantime.  So the response
comes before all status updates for pushes that are taken up after the subscription exactly if none
of those that are handled before the response is put has a part for the client. -/
theorem response_first_iff {replyId : Json} {answer : Except RelayError Snapshot}
    {later : List Happening} (sound : Sound id interest owed pool)
    (released : pool.others[index]? = some (Action.answering id replyId answer))
    (attends : ∀ p ∈ pool.states later, p.relay.Attends id interest)
    (unnamed : pool.Unnamed later) :
    (∃ q, (pool.run later).others[index]? = some q ∧
      Relay.Replies id (Action.responseText replyId (Action.snapshotAnswer answer)) q) ∨
      ∃ first rest begun handled waiting, later = first ++ .goes index :: rest ∧
        pool.arrivedOf id later = pool.arrivedOf id first ++
          Action.responseText replyId (Action.snapshotAnswer answer) ::
            ((pool.run first).next (.goes index)).arrivedOf id rest ∧
        pool.relay.pushes ++ (pool.handedOf first).filterMap StatusPush.ofOutcome? =
          handled ++ waiting ∧
        (begun = owed ∨ begun = none) ∧
        (pool.arrivedOf id first).filter Rpc.isUpdateText =
          Option.toList begun ++ handled.filterMap (·.textFor? interest) ∧
        ((pool.arrivedOf id first).filter Rpc.isUpdateText <+: owed.toList ↔
          ∀ push ∈ handled, push.partFor? interest = none)
  := by
  obtain waits | ⟨first, rest, split, arrives⟩ := exists_reply released (.looks rfl) attends
  · exact .inl waits
  · have attended (p : Pool) (mem : p ∈ pool.states first) : p.relay.Attends id interest := by
      apply attends
      rw [split, mem_states_append]
      exact .inl mem
    have mailbox : pool.relay.hub.mailboxes.contains id = true :=
      (attended pool (mem_states _ _)).mailbox
    rw [split] at unnamed
    obtain ⟨begun, handled, waiting, pushes, put, begins, -⟩ :=
      sound.exists_pushes mailbox (fun p mem => (attended p mem).serves) unnamed.first
    rw [putOf_eq_filter] at put begins
    have named : begun = owed ∨ begun = none := begins.imp_right And.left
    right
    refine ⟨first, rest, begun, handled, waiting, split, arrives, pushes, named, put, ?_⟩
    have no_text : handled.filterMap (·.textFor? interest) = [] ↔
        ∀ push ∈ handled, push.partFor? interest = none
      := by
      simp only [List.filterMap_eq_nil_iff, StatusPush.textFor?, Option.map_eq_none_iff]
    rw [← no_text]
    constructor
    · intro paid
      obtain same | ⟨-, nothing⟩ := begins
      · rw [put, same] at paid
        have short := paid.length_le
        rw [List.length_append] at short
        exact List.eq_nil_of_length_eq_zero (by omega)
      · rw [nothing] at put
        exact (List.append_eq_nil_iff.1 put.symm).2
    · intro none_more
      rw [put, none_more, List.append_nil]
      obtain rfl | rfl := named
      · exact List.prefix_rfl
      · exact List.nil_prefix

end

/-! ### A push that overtakes a snapshot -/

/-- A relay that reads a wire, with two clients.  The second one wants the speed of the fan, which
was low. -/
def coveredRelay : Relay where
  wires := [{ isRead := true }]
  hub := {
    connections := SortedMap.ofList
      [(1, { kind := .duplex, sink := .mailbox }), (2, { kind := .duplex, sink := .mailbox })]
    mailboxes := SortedMap.ofList [(1, { capacity := 4 }), (2, { capacity := 4 })] }
  registry := {
    table := ⟨SortedMap.ofList [(.connection 2, speedInterest)], speedInterest⟩
    cache := { objects := SortedMap.ofList [("fan", SortedMap.ofList [("speed", .string "low")])] }
    synced := some speedInterest
    controlReady := true }

/-- The first client asks for the speed of the fan as well, and its subscription works on the
registry and releases it. -/
def covering : List Happening :=
  [.begins (.received 1 subscriptionText), .goes 0, .goes 1, .goes 1, .goes 1, .goes 1]

def coveredPool : Pool := (started coveredRelay fanService 0).run covering

/-- The control process pushes the new speed, and the event loop handles it. -/
def overtaking : List Happening :=
  [.befalls (.sent 0 fanBytes), .reads 0, .reads 0, .loops, .loops, .loops, .loops, .loops, .loops,
    .loops]

/-- The request of the first client is answered after that. -/
def overtaken : List Happening := overtaking ++ [.goes 1, .goes 1, .goes 1]

/-- The changes that the first client asks for. -/
def speedChanges : InterestChanges :=
  SortedMap.ofList [("fan", some (AttributeSet.ofNames ["speed"]))]

/-- The speed in the answer to a subscription that calls nobody. -/
def speedIn? : Control.Dialogue (Registry × Except RelayError Snapshot) → Option String
  | .done (_, .ok snapshot) => (snapshot.status.valueOf? "fan" "speed").map Json.text
  | _ => none

theorem exists_of_speedIn? {dialogue : Control.Dialogue (Registry × Except RelayError Snapshot)}
    {speed : String} (answers : speedIn? dialogue = some speed) :
    ∃ registry snapshot, dialogue = .done (registry, .ok snapshot) ∧
      (snapshot.status.valueOf? "fan" "speed").map Json.text = some speed
  := by
  cases dialogue with
  | ask => cases answers
  | done result =>
    obtain ⟨registry, answer⟩ := result
    cases answer with
    | error => cases answers
    | ok snapshot => exact ⟨registry, snapshot, rfl, answers⟩

/-- In the snapshot that the first client is going to get, the speed is low. -/
theorem exists_released_covered :
    ∃ replyId snapshot, coveredPool.others[1]? = some (Action.answering 1 replyId (.ok snapshot)) ∧
      (snapshot.status.valueOf? "fan" "speed").map Json.text = some "\"low\""
  := by
  have asked : (Action.subscription? subscriptionText).map Prod.snd = some speedChanges := by
    decide +kernel
  have answers : speedIn? (coveredRelay.registry.subscribe (.connection 1) speedChanges) =
      some "\"low\""
    := by
    decide +kernel
  obtain ⟨⟨replyId, changes⟩, subscribes, rfl⟩ := Option.map_eq_some_iff.1 asked
  obtain ⟨registry, snapshot, covered, speed⟩ := exists_of_speedIn? answers
  obtain ⟨lookup, receives, looks⟩ := Action.exists_lookup subscribes 1
  let begun := (started coveredRelay fanService 0).next (.begins (.received 1 subscriptionText))
  have received : begun.others[0]? = some (.fork lookup .done) := congrArg some receives
  obtain ⟨relay₁, found₁⟩ := at_next_goes_fork received
  obtain ⟨relay₂, found₂⟩ := at_next_goes found₁
  rw [relay₁, looks begun.relay .duplex rfl rfl] at relay₂ found₂
  have unchanged : ((begun.next (.goes 0)).next (.goes 1)).relay = coveredRelay := relay₂
  have found : ((begun.next (.goes 0)).next (.goes 1)).others[1]? =
      some (Action.subscribing 1 replyId speedChanges)
    := found₂
  have free : ((begun.next (.goes 0)).next (.goes 1)).relay.registryLock.holder = none := by
    rw [unchanged]
    rfl
  have reached : coveredPool =
      ((begun.next (.goes 0)).next (.goes 1)).run [.goes 1, .goes 1, .goes 1]
    := rfl
  rw [← unchanged] at covered
  use replyId, snapshot
  rw [reached]
  exact ⟨released_of_covered found free covered, speed⟩

/-- When the subscription has released the registry, the event loop is between two turns, and no
push waits. -/
theorem between_covered :
    isBetween coveredPool.loop = true ∧ coveredPool.relay.pushes.isEmpty = true
  := by decide +kernel

theorem sound_covered :
    Sound 1 (some speedInterest) none coveredPool
  := by
  obtain ⟨owed, sound⟩ :=
    (@sound_started 1 (some speedInterest) coveredRelay fanService 0).exists_run covering
  obtain rfl := owed_of_isBetween sound.loop between_covered.1
  exact sound

/-- The first client is attended until its request is answered, and gets two messages. -/
theorem attends_overtaken :
    (∀ p ∈ coveredPool.states overtaken, p.relay.Attends 1 (some speedInterest)) ∧
      coveredPool.Unnamed overtaken ∧
      ((coveredPool.run overtaken).others[1]?).any Relay.isDone = true ∧
      (coveredPool.arrivedOf 1 overtaken).length = 2
  := by decide +kernel

/-- The response is not put before the event loop has handled the new speed. -/
theorem goes_notMem_overtaking :
    Happening.goes 1 ∉ overtaking
  := by
  simp [overtaking]

/-- The first client gets the new speed while its request is not answered yet. -/
theorem exists_arrived_overtaking :
    ∃ push part, (coveredPool.handedOf overtaking).filterMap StatusPush.ofOutcome? = [push] ∧
      push.partFor? (some speedInterest) = some part ∧
      (Json.ofFields part).text = "\x7b\"fan\":\x7b\"speed\":\"full\"\x7d\x7d" ∧
      coveredPool.arrivedOf 1 overtaking =
        [(Rpc.Notification.statusUpdate part push.eventtime).text]
  := by
  obtain ⟨handled, between, alone, texts⟩ :
      (coveredPool.run overtaking).relay.pushes.isEmpty = true ∧
      isBetween (coveredPool.run overtaking).loop = true ∧
      (coveredPool.arrivedOf 1 overtaking).length = 1 ∧
      ((coveredPool.handedOf overtaking).filterMap StatusPush.ofOutcome?).map (fun push =>
          (push.partFor? (some speedInterest)).map fun part => (Json.ofFields part).text) =
        [some "\x7b\"fan\":\x7b\"speed\":\"full\"\x7d\x7d"]
    := by
    decide +kernel
  obtain ⟨attends, unnamed, -⟩ := attends_overtaken
  have serves (p : Pool) (mem : p ∈ coveredPool.states overtaking) :
      p.relay.Serves 1 (some speedInterest)
    := (attends p (mem_states_append.2 (.inl mem))).serves
  have mailbox := (attends _ (mem_states _ _)).mailbox
  obtain ⟨begun, taken, waiting, pushes, put, begins, waits⟩ :=
    sound_covered.exists_pushes mailbox serves unnamed.first
  rw [List.isEmpty_iff.1 between_covered.2, List.nil_append, waits between,
    List.isEmpty_iff.1 handled, List.append_nil] at pushes
  rw [pushes] at texts
  obtain ⟨push, rfl, text⟩ := List.map_eq_singleton_iff.1 texts
  obtain ⟨part, found, text⟩ := Option.map_eq_some_iff.1 text
  refine ⟨push, part, pushes, found, text, ?_⟩
  have none_before : begun = none := begins.elim id And.left
  have owed : [push].filterMap (·.textFor? (some speedInterest)) =
      [(Rpc.Notification.statusUpdate part push.eventtime).text]
    := by
    rw [List.filterMap_cons, StatusPush.textFor?, found]
    rfl
  rw [putOf_eq_filter, none_before, owed, Option.toList_none, List.nil_append] at put
  have all : (coveredPool.arrivedOf 1 overtaking).filter Rpc.isUpdateText =
      coveredPool.arrivedOf 1 overtaking
    := List.filter_sublist.eq_of_length (by rw [put, alone, List.length_singleton])
  rw [← all, put]

/-- Though the first client is served all the time, its session takes messages, and everyone goes on
only when it may, the client gets the new speed before the response, where the speed is still
low. -/
theorem update_before_snapshot :
    ∃ replyId snapshot push part,
      coveredPool.others[1]? = some (Action.answering 1 replyId (.ok snapshot)) ∧
      (snapshot.status.valueOf? "fan" "speed").map Json.text = some "\"low\"" ∧
      (coveredPool.handedOf overtaken).filterMap StatusPush.ofOutcome? = [push] ∧
      push.partFor? (some speedInterest) = some part ∧
      (Json.ofFields part).text = "\x7b\"fan\":\x7b\"speed\":\"full\"\x7d\x7d" ∧
      coveredPool.arrivedOf 1 overtaken =
        [(Rpc.Notification.statusUpdate part push.eventtime).text,
          Action.responseText replyId (Action.snapshotAnswer (.ok snapshot))] ∧
      isBetween coveredPool.loop = true ∧ coveredPool.relay.pushes = [] ∧
      (started coveredRelay fanService 0).Orderly (covering ++ overtaken) ∧
      ∀ p ∈ coveredPool.states overtaken, p.relay.Attends 1 (some speedInterest)
  := by
  obtain ⟨replyId, snapshot, released, low⟩ := exists_released_covered
  obtain ⟨push, part, pushes, found, full, update⟩ := exists_arrived_overtaking
  have handed : (coveredPool.run overtaking).handedOf [.goes 1, .goes 1, .goes 1] = [] := rfl
  obtain ⟨attends, -, answered, two⟩ := attends_overtaken
  refine ⟨replyId, snapshot, push, part, released, low, ?_, found, full, ?_, between_covered.1,
    List.isEmpty_iff.1 between_covered.2, by decide +kernel, attends⟩
  · rw [overtaken, handedOf_append, handed, List.append_nil, pushes]
  · have still := run_of_notMem released goes_notMem_overtaking
    have attends_last (p : Pool)
        (mem : p ∈ (coveredPool.run overtaking).states [.goes 1, .goes 1, .goes 1]) :
        p.relay.Attends 1 (some speedInterest)
      := attends p (mem_states_append.2 (.inr mem))
    rw [overtaken, arrivedOf_append, update, List.singleton_append] at two ⊢
    congr 1
    obtain ⟨q, found, replies⟩ | ⟨first, rest, -, arrives⟩ :=
      exists_reply still (.looks rfl) attends_last
    · rw [overtaken, run_append, found] at answered
      cases replies.isDone.symm.trans answered
    · have mem : Action.responseText replyId (Action.snapshotAnswer (.ok snapshot)) ∈
          (coveredPool.run overtaking).arrivedOf 1 [.goes 1, .goes 1, .goes 1]
        := by
        rw [arrives]
        exact List.mem_append_right _ List.mem_cons_self
      exact ((List.singleton_sublist.2 mem).eq_of_length (Nat.succ.inj two).symm).symm

/-- The response of the first client comes after a status update, for a push that was handled before
it was put. -/
theorem response_first_iff_overtaken :
    ∃ replyId answer first rest handled waiting, overtaken = first ++ .goes 1 :: rest ∧
      coveredPool.arrivedOf 1 overtaken = coveredPool.arrivedOf 1 first ++
        Action.responseText replyId (Action.snapshotAnswer answer) ::
          ((coveredPool.run first).next (.goes 1)).arrivedOf 1 rest ∧
      coveredPool.relay.pushes ++ (coveredPool.handedOf first).filterMap StatusPush.ofOutcome? =
        handled ++ waiting ∧
      (coveredPool.arrivedOf 1 first).filter Rpc.isUpdateText =
        handled.filterMap (·.textFor? (some speedInterest)) ∧
      ∃ push ∈ handled, push.partFor? (some speedInterest) ≠ none
  := by
  obtain ⟨replyId, snapshot, released, -⟩ := exists_released_covered
  obtain ⟨push, part, -, -, -, update⟩ := exists_arrived_overtaking
  obtain ⟨attends, unnamed, answered, -⟩ := attends_overtaken
  obtain ⟨q, found, replies⟩ | ⟨first, rest, begun, handled, waiting, split, arrives, pushes, named,
      put, exact_when⟩ :=
    response_first_iff sound_covered released attends unnamed
  · rw [found] at answered
    cases replies.isDone.symm.trans answered
  · obtain rfl : begun = none := named.elim id id
    refine ⟨replyId, .ok snapshot, first, rest, handled, waiting, split, arrives, pushes, put, ?_⟩
    by_contra no_part
    have no_text := List.eq_nil_of_prefix_nil
      (exact_when.2 fun push mem => not_not.1 fun some => no_part ⟨push, mem, some⟩)
    obtain ⟨more, rfl⟩ : overtaking <+: first := by
      obtain ⟨more, same, -⟩ | ⟨more, same, own⟩ := List.append_eq_append_iff.1 split
      · exact ⟨more, same.symm⟩
      · cases more with
        | nil => exact ⟨[], by rw [same, List.append_nil, List.append_nil]⟩
        | cons happening more =>
          obtain ⟨rfl, -⟩ := List.cons.inj own
          apply absurd _ goes_notMem_overtaking
          rw [same]
          exact List.mem_append_right _ List.mem_cons_self
    rw [arrivedOf_append, update, List.singleton_append, List.filter_cons_of_pos] at no_text
    · cases no_text
    · rw [Rpc.isUpdateText_text]
      rfl

end Pool

end ControlRelay
