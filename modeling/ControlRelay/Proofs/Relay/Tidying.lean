import ControlRelay.Proofs.Relay.Locking

/-!
# Actions that leave no interest behind

Whatever processes of a relay do, they care for the interests that they bring in and for the
connections that they end: a subscription looks whether its connection still lives, the end of a
connection drops its interest, and so does the event loop for every eviction that it reads.
-/

namespace ControlRelay

open Program

namespace Action

section

variable {α : Type} {kinds : ConnectionId → TransportKind} {id : ConnectionId}
  {registry registry' : Registry} {p : RelayProcess}

/-! ### Changes of the registry -/

theorem changes_of_table (table : registry'.table = registry.table) :
    Changes kinds registry registry' p
  := by
  refine ⟨?_, fun other entry => .inl ?_⟩
  · rw [table]
    exact fun sound => sound
  · unfold Registry.HasEntry at entry ⊢
    rwa [table] at entry

theorem changes_of_remove {who : Subscriber}
    (table : registry'.table = (registry.table.removeClient who).2) :
    Changes kinds registry registry' p
  := by
  refine ⟨fun sound => ?_, fun other entry => .inl ?_⟩
  · rw [table]
    exact sound.perform (.removeClient who)
  · unfold Registry.HasEntry at entry ⊢
    rw [table] at entry
    by_cases same : Subscriber.connection other = who
    · rw [same, SubscriptionTable.interest?_removeClient_self] at entry
      cases entry
    · rwa [SubscriptionTable.interest?_removeClient_of_ne _ same] at entry

/-- A subscription brings in the interest of the subscriber at most. -/
theorem changes_of_apply {who : Subscriber} {changes : InterestChanges}
    (table : registry'.table = (registry.table.apply who changes).2)
    (cared : ∀ id, who = .connection id → (kinds id).supportsPush = true ∧ Relay.Releases id p) :
    Changes kinds registry registry' p
  := by
  refine ⟨fun sound => ?_, fun other entry => ?_⟩
  · rw [table]
    exact sound.perform (.apply who changes)
  · by_cases same : Subscriber.connection other = who
    · exact .inr (cared other same.symm)
    · left
      unfold Registry.HasEntry at entry ⊢
      rw [table] at entry
      rwa [SubscriptionTable.interest?_apply_of_ne _ _ same] at entry

/-- Work on the registry that brings in no interest. -/
theorem tidy_withRegistry {f : Registry → Control.Dialogue (Registry × α)}
    (changes : ∀ {registry exchanges registry' x p}, (f registry).Ends exchanges (registry', x) →
      Changes kinds registry registry' p) :
    Tidy kinds (withRegistry f) fun _ => True
  := fun _ next => behaves_withRegistry changes fun x => next x trivial

theorem tidy_removeSubscriber (who : Subscriber) :
    Tidy kinds (removeSubscriber who) fun _ => True
  := tidy_withRegistry fun ends => changes_of_remove (Registry.settles_of_remove ends).table_eq

theorem tidy_answerQuery (request : Except InterestError Interest) :
    Tidy kinds (answerQuery request) fun _ => True
  := by
  cases request with
  | error e => exact .pure trivial
  | ok request =>
    apply Tidy.bind
    · apply tidy_withRegistry
      intro registry exchanges registry' x p ends
      obtain ⟨rfl, -⟩ := Prod.mk.inj (Control.Dialogue.ends_pure_iff.1 ends).2
      exact changes_of_table rfl
    · intro part _
      exact .of_passes (passes_of_links (links_converse _))

/-! ### Steps that pass -/

theorem passes_atomically {f : Relay → Relay × α} (passing : ∀ r, Relay.Passing r (f r).1) :
    Passes (atomically f)
  := Keeps.atomically passing

theorem passes_schedule (f : Relay → Scheduler.Step × α) :
    Passes (schedule f)
  := by
  apply Keeps.bind
  · apply Keeps.atomically
    intro r
    obtain ⟨evicted, evicts⟩ := r.exists_evicts_carriedOut (f r).1.1 (f r).1.2
    exact evicts.passing
  · rintro ⟨epochs, a⟩
    apply Keeps.bind
    · apply Keeps.forM
      intro epoch _
      exact Keeps.fork (.ended rfl)
    · intro
      apply Keeps.pure

theorem passes_connect (kind : TransportKind) (sink : Sink) (capacity : Nat) :
    Passes (connect kind sink capacity)
  := by
  apply Keeps.atomically
  intro r
  have kinds_eq (id : ConnectionId) :
      Relay.kind? { r with hub := (r.hub.register kind sink capacity).2 } id =
        if id = r.hub.ids.next.1 then some kind else r.kind? id
    := by
    unfold Relay.kind?
    dsimp only [Hub.register]
    rw [SortedMap.get?_insert]
    split <;> rfl
  refine ⟨rfl, rfl, fun reads => reads, fun _ _ mem => mem, fun _ id lives => .inl ?_, .inr rfl, ?_⟩
  · rw [Relay.contains_iff] at lives ⊢
    dsimp only
    rw [kinds_eq]
    split
    next => exact ⟨kind, rfl⟩
    next => exact lives
  · intro id known found
    dsimp only at found
    rw [kinds_eq] at found
    split at found
    next same => exact .inr ⟨same, rfl⟩
    next => exact .inl found

/-- The hub may learn something about a connection. -/
theorem kind?_insert {r : Relay} {hub : Hub} {c c' : Connection}
    (connections : hub.connections = r.hub.connections.insert id c')
    (found : r.hub.connections.get? id = some c) (kind : c'.kind = c.kind)
    (other : ConnectionId) :
    Relay.kind? { r with hub } other = r.kind? other
  := by
  unfold Relay.kind?
  dsimp only
  rw [connections, SortedMap.get?_insert]
  split
  next same => rw [same, found, Option.map_some, Option.map_some, kind]
  next => rfl

theorem passing_identify (r : Relay) (who : ConnectionId) (identity : ClientIdentity)
    (token : Option String) :
    Relay.Passing r { r with hub := (r.hub.identify who identity token).2 }
  := by
  unfold Hub.identify
  split
  next => exact (Relay.Aside.refl r).passing
  next c found =>
    split
    next => exact (Relay.Aside.refl r).passing
    next => exact Relay.passing_of_kinds rfl rfl rfl rfl (kind?_insert rfl found rfl)

theorem passing_watch (r : Relay) (who : ConnectionId) :
    Relay.Passing r { r with hub := (r.hub.watch who).2 }
  := by
  unfold Hub.watch
  split
  next c found => exact Relay.passing_of_kinds rfl rfl rfl rfl (kind?_insert rfl found rfl)
  next => exact (Relay.Aside.refl r).passing

/-! ### Delivery and connections -/

theorem tidy_deliver (target : Target) (note : Rpc.Notification) :
    Tidy kinds (deliver target note) fun _ => True
  := by
  apply Tidy.bind
  · apply Tidy.of_passes
    apply passes_atomically
    intro r
    exact (r.evicts_deliver target note).passing
  · intro evicted _
    apply Tidy.forM
    intro id
    exact (tidy_removeSubscriber _).bind fun _ _ => .pure trivial

/-- Whoever ends a connection goes on to drop its interest. -/
theorem tidy_disconnect (id : ConnectionId) :
    Tidy kinds (disconnect id) fun _ => True
  := by
  intro k next
  have removes : Relay.Behaves kinds .free
      ((removeSubscriber (.connection id)) fun _ => k ())
    := tidy_removeSubscriber _ _ fun _ _ => next () trivial
  have releases := Relay.releases_removeSubscriber id fun _ => k ()
  have kinds_eq (r : Relay) (other : ConnectionId) :
      (r.unregister id).kind? other = if other = id then none else r.kind? other
    := by
    unfold Relay.kind?
    rw [(r.unregister_parts id).1, Hub.unregister, SortedMap.get?_erase]
    split <;> rfl
  apply Relay.Behaves.step fun _ => .free
  · intro r _ _
    obtain ⟨-, registry, registryLock, -⟩ := r.unregister_parts id
    exact .stays registry registryLock
  · intro r _ _
    obtain ⟨hub, registry, -, evictions⟩ := r.unregister_parts id
    dsimp only
    refine ⟨?_, fun _ other entry => ?_, fun other entry => ?_, ?_, ?_⟩
    · rw [evictions]
      exact fun reads => reads
    · rw [registry] at entry
      by_cases same : other = id
      · rw [same]
        exact .inr (.inr (.inl releases))
      · have contains : (r.unregister id).hub.contains other = r.hub.contains other := by
          apply Relay.contains_congr
          rw [kinds_eq, if_neg same]
        rw [evictions, contains]
        cases lives : r.hub.contains other with
        | true => exact .inl rfl
        | false =>
          by_cases mem : other ∈ r.evictions.items
          · exact .inr (.inl mem)
          · exact .inr (.inr (.inr ⟨entry, rfl, mem⟩))
    · rw [registry] at entry
      exact .inl entry
    · rw [registry]
      exact fun sound => sound
    · apply Relay.issues_of_same
      · rw [hub]
        rfl
      · intro other kind known
        rw [kinds_eq] at known
        split at known
        next => cases known
        next => apply known
  · intro r _ _
    exact removes

/-! ### Requests -/

theorem tidy_confirm (answer : Except RelayError Snapshot) :
    Tidy kinds (confirm id answer) fun _ => True
  := by
  apply (Tidy.of_passes (passes_of_links (links_inspect _))).bind
  intro lives _
  cases lives with
  | true => exact .pure trivial
  | false => exact (tidy_removeSubscriber _).bind fun _ _ => .pure trivial

/-- A subscription that has brought in the interest of a connection goes on to confirm it. -/
theorem tidy_subscribeFor (objects : Json) :
    Tidy kinds (subscribeFor id (kinds id) objects) fun _ => True
  := by
  rw [subscribeFor_eq]
  cases pushed : (kinds id).supportsPush with
  | false =>
    rw [if_neg Bool.false_ne_true]
    exact (tidy_answerQuery _).bind fun _ _ => .pure trivial
  | true =>
    rw [if_pos rfl]
    intro k next
    have confirms (answer : Except RelayError Snapshot) :
        Relay.Behaves kinds .free (confirm id answer k)
      := tidy_confirm answer k next
    change Relay.Behaves kinds .free (subscribe (.connection id) objects fun answer =>
      confirm id answer k)
    unfold subscribe
    cases parseSubscription objects with
    | error e => exact confirms _
    | ok changes =>
      apply behaves_withRegistry _ confirms
      intro registry exchanges registry' answer ends
      apply changes_of_apply (Registry.settles_of_subscribe ends).table_eq
      rintro _ ⟨⟩
      exact ⟨pushed, Relay.releases_confirm id answer k⟩

theorem tidy_unsubscribe (params : Json) :
    Tidy kinds (unsubscribe id params) fun _ => True
  := by
  unfold unsubscribe
  dsimp only
  split
  next => exact .pure trivial
  next target _ =>
    apply Tidy.bind
    · exact .of_passes (passes_of_links (links_inspect _))
    · intro allowed _
      cases allowed with
      | error e => exact .pure trivial
      | ok => exact (tidy_removeSubscriber _).bind fun _ _ => .pure trivial

theorem tidy_withParam (param : Except RelayError α) {f : α → Action (Except RelayError Json)}
    (tidy : ∀ a, Tidy kinds (f a) fun _ => True) :
    Tidy kinds (withParam param f) fun _ => True
  := by
  cases param with
  | error e => exact .pure trivial
  | ok a => apply tidy a

theorem tidy_dispatchTo (method : String) (params : Json) :
    Tidy kinds (dispatchTo id (kinds id) method params) fun _ => True
  := by
  have schedules (f : Scheduler → Float → Except RelayError Scheduler.Step) :
      Tidy kinds (scheduleRequest f) fun _ => True
    := .of_passes (passes_schedule _)
  unfold dispatchTo
  split
  next => exact .of_passes (passes_of_links (links_converse _))
  next =>
    apply tidy_withParam
    intro objects
    exact (tidy_answerQuery _).bind fun _ _ => .pure trivial
  next => exact tidy_withParam _ tidy_subscribeFor
  next => apply tidy_unsubscribe
  next =>
    apply tidy_withParam
    rintro ⟨identity, token⟩
    apply Tidy.bind
    · apply Tidy.of_passes
      apply passes_atomically
      intro r
      exact passing_identify r id identity token
    · intro outcome _
      exact .pure trivial
  next => exact .of_passes (passes_of_links (links_inspect _))
  next => exact schedules _
  next => exact tidy_withParam _ fun _ => schedules _
  next => exact tidy_withParam _ fun _ => schedules _
  next => exact schedules _
  next => exact schedules _
  next => exact tidy_withParam _ fun _ => schedules _
  next => exact .pure trivial

/-- The kind of the connection is the one that is looked up. -/
theorem tidy_submit (id : ConnectionId) (request : Rpc.Request) :
    Tidy kinds (submit id request) fun _ => True
  := by
  refine Tidy.bind (?_ : Tidy kinds _ fun _ => True) ?_
  · have looks : Tidy kinds (inspect fun r => r.hub.kind id) fun found =>
        ∀ kind, found = .ok kind → kind = kinds id
      := by
      apply Tidy.inspect
      intro r known kind found
      apply known id
      unfold Hub.kind at found
      unfold Relay.kind?
      split at found
      next c here =>
        rw [here]
        exact congrArg some (Except.ok.inj found)
      next => cases found
    apply looks.bind
    intro kind same
    cases kind with
    | error e => exact .pure trivial
    | ok kind =>
      dsimp only
      rw [same kind rfl]
      apply tidy_dispatchTo
  · intro outcome _
    exact .pure trivial

theorem tidy_submitText (id : ConnectionId) (text : String) :
    Tidy kinds (submitText id text) fun _ => True
  := by
  unfold submitText
  split
  next => exact .pure trivial
  next => apply tidy_submit

/-! ### Sessions and exchanges -/

theorem passes_openSession (capacity : Nat) :
    Passes (openSession capacity)
  := by
  apply Keeps.bind (passes_connect _ _ _)
  intro who
  apply Keeps.bind
  · apply Keeps.update
    intro r
    exact passing_watch r who
  · intro
    apply Keeps.pure

theorem tidy_receiveText (id : ConnectionId) (text : String) :
    Tidy kinds (receiveText id text) fun _ => True
  := by
  apply Tidy.fork
  apply tidy_submitText
  intro response _
  cases response with
  | none => apply Relay.Behaves.done
  | some response => apply Relay.Behaves.enter

theorem passes_takeMessage (id : ConnectionId) :
    Passes (takeMessage id)
  := by
  apply Keeps.atomically
  intro r
  have kept : (r.hub.take id 1).2.ids = r.hub.ids ∧
      (r.hub.take id 1).2.connections = r.hub.connections
    := by
    unfold Hub.take
    split <;> exact ⟨rfl, rfl⟩
  exact Relay.passing_of_connections rfl rfl rfl kept.1 kept.2

theorem tidy_exchange (method target : String) (body : List UInt8) :
    Tidy kinds (exchange method target body) fun _ => True
  := by
  unfold exchange
  split
  next => exact .pure trivial
  next =>
    split
    next => exact .pure trivial
    next request _ =>
      apply (Tidy.of_passes (passes_connect _ _ _)).bind
      intro who _
      apply (tidy_submit who request).bind
      intro response _
      apply (tidy_disconnect who).bind
      intro _ _
      cases response with
      | none => exact .pure trivial
      | some response => exact .pure trivial

/-! ### The event loop -/

theorem tidy_handleEvent (event : ControlEvent) :
    Tidy kinds (handleEvent event) fun _ => True
  := by
  cases event with
  | connected => exact .pure trivial
  | stateChanged status =>
    apply Tidy.bind
    · apply tidy_withRegistry
      intro registry exchanges registry' x p ends
      obtain ⟨r₁, changed, same⟩ := Control.Dialogue.ends_of_last (fun _ => ⟨_, rfl⟩) ends
      obtain ⟨rfl, -⟩ := Prod.mk.inj (Control.Dialogue.done.inj same)
      exact changes_of_table (Registry.table_of_controlChanged changed)
    · intro _ _
      apply (Tidy.of_passes (passes_schedule _)).bind
      intro _ _
      cases stateNotification? status with
      | none => exact .pure trivial
      | some note => apply tidy_deliver
  | status status eventtime =>
    apply Tidy.bind
    · apply tidy_withRegistry
      intro registry exchanges registry' x p ends
      obtain ⟨rfl, -⟩ := Prod.mk.inj (Control.Dialogue.ends_pure_iff.1 ends).2
      exact changes_of_table rfl
    · intro parts _
      apply Tidy.forM
      rintro ⟨who, part⟩
      cases who with
      | connection id => apply tidy_deliver
      | scheduler =>
        exact .of_passes (passes_schedule fun r => (r.scheduler.statusChanged part, ()))
  | gcodeResponse text => apply tidy_deliver
  | other method params => apply tidy_deliver

theorem tidy_resync :
    Tidy kinds resync fun _ => True
  := tidy_withRegistry fun ends => changes_of_table (Registry.settles_of_resync ends).table_eq

/-- What the event loop does in a turn. -/
def takeTurn (s : EventService) (tick : Nat) : EventTurn → Action (Option Routine)
  | .event event => do
    handleEvent event
    pure (some (.eventLoop s tick))
  | .evicted id => do
    let _ ← removeSubscriber (.connection id)
    pure (some (.eventLoop s tick))
  | .tick true next => do
    let _ ← resync
    pure (some (.eventLoop s next))
  | .tick false _ => do
    update (eventsEnded s)
    pure none
  | .closed => do
    update (eventsEnded s)
    pure none
  | .idle => do
    await [.events, .evicted] (some tick)
    pure (some (.eventLoop s tick))

theorem eventLoop_eq (s : EventService) (tick : Nat) :
    eventLoop s tick = atomically (chooseTurn s tick) >>= takeTurn s tick
  := rfl

theorem passing_eventsEnded (s : EventService) (r : Relay) :
    Relay.Passing r (eventsEnded s r)
  := by
  have kept : (eventsEnded s r).registry = r.registry ∧
      (eventsEnded s r).registryLock = r.registryLock ∧ (eventsEnded s r).hub = r.hub
    := by
    unfold eventsEnded
    dsimp only
    split <;> exact ⟨rfl, rfl, rfl⟩
  have read (reads : (eventsEnded s r).evictions.hasReader = true) :
      (eventsEnded s r).evictions = r.evictions
    := by
    unfold eventsEnded at reads ⊢
    dsimp only at reads ⊢
    split at reads
    next => cases reads
    next unread => rw [if_neg unread]; rfl
  obtain ⟨registry, registryLock, hub⟩ := kept
  refine ⟨registry, registryLock, fun reads => ?_, fun reads id mem => ?_, fun _ id lives => ?_, ?_⟩
  · rw [← read reads, reads]
  · rw [read reads]
    exact mem
  · rw [hub]
    exact .inl lives
  · apply Relay.issues_of_same
    · rw [hub]
    · intro id kind known
      unfold Relay.kind? at known ⊢
      rwa [hub] at known

theorem tidy_takeTurn (s : EventService) (tick : Nat) (turn : EventTurn) :
    Tidy kinds (takeTurn s tick turn) fun _ => True
  := by
  have ends : Tidy kinds (update (eventsEnded s)) fun _ => True :=
    .of_passes (Keeps.update (passing_eventsEnded s))
  cases turn with
  | event event => exact (tidy_handleEvent event).bind fun _ _ => .pure trivial
  | evicted id => exact (tidy_removeSubscriber _).bind fun _ _ => .pure trivial
  | tick isOn next =>
    cases isOn with
    | true => exact tidy_resync.bind fun _ _ => .pure trivial
    | false => exact ends.bind fun _ _ => .pure trivial
  | closed => exact ends.bind fun _ _ => .pure trivial
  | idle => exact (Tidy.of_passes (Keeps.await _ _)).bind fun _ _ => .pure trivial

theorem chooseTurn_evicted (s : EventService) (tick : Nat) (r : Relay) :
    Relay.Passing r (chooseTurn s tick r).1 ∨
      ∃ id items, r.evictions.items = id :: items ∧
        chooseTurn s tick r = ({ r with evictions := { r.evictions with items } }, .evicted id)
  := by
  have same := (Relay.Aside.refl r).passing
  unfold chooseTurn
  split
  next => exact .inl (Relay.passing_of_kinds rfl rfl rfl rfl fun _ => rfl)
  next =>
    split
    next => exact .inl same
    next =>
      split
      next id items reported _ => exact .inr ⟨id, items, reported, rfl⟩
      next => split <;> exact .inl same

/-- Whoever goes on with a routine, if at all, does not leave anything behind. -/
theorem behaves_continue? {a : Action (Option Routine)} {post : Option Routine → Prop}
    (tidy : Tidy kinds a post) :
    Relay.Behaves kinds .free (continue? a)
  := by
  apply tidy
  intro routine _
  cases routine with
  | none => apply Relay.Behaves.done
  | some routine => apply Relay.Behaves.enter

/-- Whoever takes an eviction from the channel goes on to drop the interest. -/
theorem behaves_eventLoop (s : EventService) (tick : Nat) :
    Relay.Behaves kinds .free (continue? (eventLoop s tick))
  := by
  rw [eventLoop_eq]
  apply Relay.Behaves.step fun _ => .free
  · intro r _ _
    obtain passing | ⟨id, items, reported, chosen⟩ := chooseTurn_evicted s tick r
    · exact .stays passing.registry passing.registryLock
    · dsimp only
      rw [chosen]
      exact .stays rfl rfl
  · intro r _ _
    obtain passing | ⟨id, items, reported, chosen⟩ := chooseTurn_evicted s tick r
    · apply passing.tends
    · dsimp only
      rw [chosen]
      have releases (k : Option Routine → RelayProcess) :
          Relay.Releases id (takeTurn s tick (.evicted id) k)
        := Relay.releases_removeSubscriber id _
      refine ⟨fun reads => reads, fun _ other entry => ?_, fun _ => .inl, fun sound => sound, ?_⟩
      · by_cases same : other = id
        · rw [same]
          exact .inr (.inr (.inl (releases _)))
        · dsimp only
          rw [reported]
          cases lives : r.hub.contains other with
          | true => exact .inl rfl
          | false =>
            by_cases mem : other ∈ items
            · exact .inr (.inl mem)
            · refine .inr (.inr (.inr ⟨entry, rfl, ?_⟩))
              rw [List.mem_cons, not_or]
              exact ⟨same, mem⟩
      · exact Relay.issues_of_same rfl fun _ _ known => known
  · intro r _ _
    exact behaves_continue? (tidy_takeTurn s tick (chooseTurn s tick r).2)

/-! ### Named programs -/

theorem tidy_loadChain (epoch : Nat) (stage : LoadStage) :
    Tidy kinds (loadChain epoch stage) fun _ => True
  := by
  apply (Tidy.of_passes (passes_of_links (links_inspect _))).bind
  intro settings _
  cases stage.action settings with
  | stop => exact .pure trivial
  | proceed next => exact .pure trivial
  | call c => exact (Tidy.of_passes (passes_of_links (links_call c))).bind fun _ _ => .pure trivial
  | wait nanos =>
    apply (Tidy.of_passes (passes_of_links (links_inspect _))).bind
    intro now _
    exact (Tidy.of_passes (Keeps.await _ _)).bind fun _ _ => .pure trivial
  | step => exact (Tidy.of_passes (passes_schedule _)).bind fun _ _ => .pure trivial

theorem tidy_answerByTopic (s : TopicService) (id : ConnectionId) (payload : String) :
    Tidy kinds (answerByTopic s id payload) fun _ => True
  := by
  apply (tidy_submitText id payload).bind
  intro response _
  cases response with
  | none => exact .pure trivial
  | some response =>
    apply Tidy.of_passes
    apply Keeps.update
    intro r
    exact Relay.passing_of_connections rfl rfl rfl rfl rfl

theorem tidy_topicLoop (s : TopicService) (id : ConnectionId) (position : Nat) :
    Tidy kinds (topicLoop s id position) fun _ => True
  := by
  apply (Tidy.of_passes (passes_of_links (links_inspect _))).bind
  rintro ⟨next, now⟩ _
  dsimp only
  split
  next => exact .pure trivial
  next message position =>
    split
    next =>
      apply (Tidy.fork (tidy_answerByTopic s id message.payload).process).bind
      intro _ _
      exact .pure trivial
    next => exact .pure trivial
  next =>
    apply (Tidy.of_passes (Keeps.await _ _)).bind
    intro _ _
    apply (Tidy.of_passes (passes_of_links (links_inspect _))).bind
    rintro ⟨hasMessage, isOn⟩ _
    dsimp only
    split
    next => exact .pure trivial
    next =>
      apply (tidy_disconnect id).bind
      intro _ _
      apply (Tidy.of_passes (passes_of_links (links_finish _ _))).bind
      intro _ _
      exact .pure trivial

theorem passes_reply (id : ConnectionId) (text : String) :
    Passes (reply id text)
  := by
  apply Keeps.bind
  · apply Keeps.atomically
    intro r
    have same := (Relay.Aside.refl r).passing
    dsimp only
    split
    next =>
      split
      next => exact same
      next =>
        split
        next => exact Relay.passing_of_connections rfl rfl rfl rfl rfl
        next => exact same
    next => exact same
  · intro waits
    cases waits with
    | true => exact Keeps.bind (Keeps.await _ _) fun _ => Keeps.pure _
    | false => exact Keeps.pure _

/-- Whatever process goes on by name, apart from the reading of a wire, leaves nothing behind. -/
theorem behaves_process {routine : Routine} (unread : ∀ wire, routine ≠ .wireReader wire) :
    Relay.Behaves kinds .free routine.process
  := by
  cases routine with
  | loadChain epoch stage => exact behaves_continue? (tidy_loadChain epoch stage)
  | eventLoop s tick => exact behaves_eventLoop s tick
  | wireReader wire => exact absurd rfl (unread wire)
  | wireWriter wire => exact behaves_of_links (links_wireWriter wire)
  | linkLoop s => exact behaves_of_links (links_linkLoop s)
  | linkWatch s wire => exact behaves_of_links (links_linkWatch s wire)
  | topicLoop s id position => exact behaves_continue? (tidy_topicLoop s id position)
  | listener service switch time => exact behaves_of_links (links_listener service switch time)
  | reply id text => exact behaves_continue? (.of_passes (passes_reply id text))

/-- Whoever serves the topics without objects of its own leaves nothing behind. -/
theorem tidy_runTopics {s : TopicService} (plain : s.settings.statusObjects = []) :
    Tidy kinds (runTopics s) fun _ => True
  := by
  apply (Tidy.of_passes (passes_of_links (links_inspect _))).bind
  intro position _
  apply (Tidy.of_passes (passes_connect _ _ _)).bind
  intro id _
  unfold subscribeStatically
  rw [plain]
  exact .pure trivial

theorem tidy_registerScheduler :
    Tidy kinds registerScheduler fun _ => True
  := by
  refine Tidy.bind (?_ : Tidy kinds _ fun _ => True) fun _ _ => .pure trivial
  unfold subscribe
  split
  next => exact .pure trivial
  next =>
    apply tidy_withRegistry
    intro registry exchanges registry' x p ends
    apply changes_of_apply (Registry.settles_of_subscribe ends).table_eq
    rintro _ ⟨⟩

end

end Action

end ControlRelay
