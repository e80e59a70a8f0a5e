import ControlRelay.Proofs.Relay.Sparing

/-!
# Bystanders

Whatever processes of a relay do, apart from the event loop and the reading of wires, brings no
status update for any client.  This goes for calls of the control process, work on the registry,
steps of the scheduler with what they announce, requests of clients and the replies to them,
connections that are made and ended, and the services.
-/

namespace ControlRelay

open Program

/-- Whether a named program leaves it to others to bring status updates. -/
def Routine.IsBystander : Routine → Prop
  | .eventLoop _ _ => False
  | .reply _ text => Rpc.isUpdateText text = false
  | _ => True

namespace Relay

/-- Where a bystander is over or goes on by name. -/
def Rests : RelayProcess → Prop
  | .done => True
  | .enter routine => routine.IsBystander
  | _ => False

/-- A process that takes only steps that spare a client. -/
abbrev Bystander (id : ConnectionId) : RelayProcess → Prop := Process.Keeps (Spares id) Rests Rests

end Relay

namespace Action

/-- An action that takes only steps that spare a client. -/
abbrev Spares {α : Type} (id : ConnectionId) (a : Action α) : Prop :=
  Program.Keeps (Relay.Spares id) Relay.Rests a

section

variable {id : ConnectionId}

theorem spares_inspect {α : Type} (f : Relay → α) :
    Spares id (inspect f)
  := Keeps.inspect Relay.spares_refl f

/-! ### The link -/

theorem rests_of_linkRests (p : RelayProcess) (rests : Relay.LinkRests p) :
    Relay.Rests p
  := by
  cases p with
  | done => trivial
  | enter routine => cases routine <;> trivial
  | _ => cases rests

/-- Actions at the link spare every client. -/
theorem spares_of_links {α : Type} {a : Action α} (links : Links a) :
    Spares id a
  := links.mono (fun _ _ step => step.spares) rests_of_linkRests

theorem bystander_of_links {p : RelayProcess} (links : Relay.LinkProcess p) :
    Relay.Bystander id p
  := links.mono (fun _ _ step => step.spares) rests_of_linkRests rests_of_linkRests

/-! ### The registry -/

theorem spares_lockRegistry :
    Spares id lockRegistry
  := by
  apply Keeps.bind
  · apply Keeps.atomically
    intro r
    exact Relay.spares_of_same rfl rfl
  · intro ticket
    cases ticket with
    | none => apply Keeps.pure
    | some ticket => apply Keeps.await

theorem spares_unlocked (r : Relay) (registry : Registry) :
    Relay.Spares id r (unlocked { r with registry })
  := by
  unfold unlocked
  dsimp only
  split
  next => exact Relay.spares_of_same rfl rfl
  next => exact Relay.spares_of_same rfl rfl

theorem spares_withRegistry {α : Type} (f : Registry → Control.Dialogue (Registry × α)) :
    Spares id (withRegistry f)
  := by
  apply Keeps.bind spares_lockRegistry
  intro
  apply Keeps.bind (spares_inspect _)
  intro dialogue
  apply Keeps.bind (spares_of_links (links_converse dialogue))
  rintro ⟨registry, a⟩
  apply Keeps.bind
  · apply Keeps.update
    intro r
    apply spares_unlocked
  · intro
    apply Keeps.pure

theorem spares_subscribe (who : Subscriber) (objects : Json) :
    Spares id (subscribe who objects)
  := by
  unfold subscribe
  split
  next => apply Keeps.pure
  next => apply spares_withRegistry

theorem spares_answerQuery (request : Except InterestError Interest) :
    Spares id (answerQuery request)
  := by
  cases request with
  | error e => apply Keeps.pure
  | ok request =>
    apply Keeps.bind (spares_withRegistry _)
    intro part
    apply spares_of_links (links_converse _)

theorem spares_removeSubscriber (who : Subscriber) :
    Spares id (removeSubscriber who)
  := spares_withRegistry _

/-! ### The scheduler -/

theorem spares_schedule {α : Type} (f : Relay → Scheduler.Step × α) :
    Spares id (schedule f)
  := by
  apply Keeps.bind
  · apply Keeps.atomically
    intro r
    apply (r.tells_carriedOut _ _).spares
  · rintro ⟨epochs, a⟩
    apply Keeps.bind
    · apply Keeps.forM
      intro epoch _
      apply Keeps.fork (.ended trivial)
    · intro
      apply Keeps.pure

theorem spares_scheduleStep (f : Scheduler → Scheduler.Step) :
    Spares id (scheduleStep f)
  := spares_schedule _

theorem spares_scheduleRequest (f : Scheduler → Float → Except RelayError Scheduler.Step) :
    Spares id (scheduleRequest f)
  := spares_schedule _

/-! ### Delivery and connections -/

theorem spares_evicting (evicted : List ConnectionId) :
    Spares id (evicted.forM fun id => do
      let _ ← removeSubscriber (.connection id))
  := by
  apply Keeps.forM
  intro other _
  apply Keeps.bind (spares_removeSubscriber _)
  intro
  apply Keeps.pure

/-- A delivery spares a client if every step that delivers does. -/
theorem spares_deliver_of {target : Target} {note : Rpc.Notification}
    (spared : ∀ r : Relay, Relay.Spares id r (r.deliver target note).2) :
    Spares id (deliver target note)
  := by
  apply Keeps.bind
  · apply Keeps.atomically spared
  · intro evicted
    apply spares_evicting

theorem spares_deliver (target : Target) {note : Rpc.Notification}
    (other : note.isStatusUpdate = false) :
    Spares id (deliver target note)
  := by
  apply spares_deliver_of
  intro r
  apply (r.tells_deliver target other).spares

theorem spares_deliver_of_ne {owner : ConnectionId} (differs : owner ≠ id)
    (note : Rpc.Notification) :
    Spares id (deliver (.connection owner) note)
  := by
  apply spares_deliver_of
  intro r
  apply r.spares_deliver_of_ne note differs

/-- A new mailbox is empty, so nothing was put into it. -/
theorem takes_register (h : Hub) (kind : TransportKind) (sink : Sink) (capacity : Nat) :
    Hub.Takes id h (h.register kind sink capacity).2
  := by
  cases sink with
  | mailbox =>
    apply Hub.takes_insert rfl
    intro m _
    exact ⟨m.waiting.length, List.drop_length.symm⟩
  | _ => exact Hub.takes_of_same rfl

theorem spares_connect (kind : TransportKind) (sink : Sink) (capacity : Nat) :
    Spares id (connect kind sink capacity)
  := by
  apply Keeps.atomically
  intro r
  exact Relay.spares_of_takes rfl (takes_register r.hub kind sink capacity)

theorem spares_unregister (r : Relay) (other : ConnectionId) :
    Relay.Spares id r (r.unregister other)
  := by
  unfold Relay.unregister
  dsimp only
  split
  next => split <;> exact Relay.spares_of_same rfl rfl
  next => exact Relay.spares_of_same rfl rfl

theorem spares_disconnect (other : ConnectionId) :
    Spares id (disconnect other)
  := by
  apply Keeps.bind
  · apply Keeps.update
    intro r
    apply spares_unregister
  · intro
    apply Keeps.bind (spares_removeSubscriber _)
    intro
    apply Keeps.pure

/-! ### Requests -/

theorem spares_subscribeFor (who : ConnectionId) (kind : TransportKind) (objects : Json) :
    Spares id (subscribeFor who kind objects)
  := by
  unfold subscribeFor
  split
  next =>
    apply Keeps.bind (spares_subscribe _ _)
    intro answer
    apply Keeps.bind (spares_inspect _)
    intro lives
    split
    next => apply Keeps.pure
    next =>
      apply Keeps.bind (spares_removeSubscriber _)
      intro
      apply Keeps.pure
  next =>
    apply Keeps.bind (spares_answerQuery _)
    intro answer
    apply Keeps.pure

theorem spares_unsubscribe (who : ConnectionId) (params : Json) :
    Spares id (unsubscribe who params)
  := by
  unfold unsubscribe
  dsimp only
  split
  next => apply Keeps.pure
  next target _ =>
    apply Keeps.bind (spares_inspect _)
    intro allowed
    cases allowed with
    | error e => apply Keeps.pure
    | ok =>
      apply Keeps.bind (spares_removeSubscriber _)
      intro
      apply Keeps.pure

theorem spares_withParam {α : Type} (param : Except RelayError α)
    {f : α → Action (Except RelayError Json)} (spared : ∀ a, Spares id (f a)) :
    Spares id (withParam param f)
  := by
  cases param with
  | error e => apply Keeps.pure
  | ok a => apply spared a

theorem mailboxes_identify (h : Hub) (who : ConnectionId) (identity : ClientIdentity)
    (token : Option String) :
    (h.identify who identity token).2.mailboxes = h.mailboxes
  := by
  unfold Hub.identify
  split
  next => rfl
  next =>
    split
    next => rfl
    next => rfl

theorem spares_dispatchTo (who : ConnectionId) (kind : TransportKind) (method : String)
    (params : Json) :
    Spares id (dispatchTo who kind method params)
  := by
  unfold dispatchTo
  split
  next => apply spares_of_links (links_converse _)
  next =>
    apply spares_withParam
    intro objects
    apply Keeps.bind (spares_answerQuery _)
    intro answer
    apply Keeps.pure
  next =>
    apply spares_withParam
    apply spares_subscribeFor
  next => apply spares_unsubscribe
  next =>
    apply spares_withParam
    rintro ⟨identity, token⟩
    apply Keeps.bind
    · apply Keeps.atomically
      intro r
      exact Relay.spares_of_same rfl (mailboxes_identify r.hub who identity token)
    · intro outcome
      apply Keeps.pure
  next => apply spares_inspect
  next => apply spares_scheduleRequest
  next =>
    apply spares_withParam
    intro filenames
    apply spares_scheduleRequest
  next =>
    apply spares_withParam
    intro selection
    apply spares_scheduleRequest
  next => apply spares_scheduleRequest
  next => apply spares_scheduleRequest
  next =>
    apply spares_withParam
    intro job
    apply spares_scheduleRequest
  next => apply Keeps.pure

theorem spares_dispatch (who : ConnectionId) (method : String) (params : Json) :
    Spares id (dispatch who method params)
  := by
  apply Keeps.bind (spares_inspect _)
  intro kind
  cases kind with
  | error e => apply Keeps.pure
  | ok kind => apply spares_dispatchTo

theorem spares_submit (who : ConnectionId) (request : Rpc.Request) :
    Spares id (submit who request)
  := by
  apply Keeps.bind (spares_dispatch who request.method request.params)
  intro outcome
  apply Keeps.pure

theorem spares_submitText (who : ConnectionId) (text : String) :
    Spares id (submitText who text)
  := by
  unfold submitText
  split
  next => apply Keeps.pure
  next => apply spares_submit

/-! ### Sessions and exchanges -/

theorem spares_openSession (capacity : Nat) :
    Spares id (openSession capacity)
  := by
  apply Keeps.bind (spares_connect _ _ _)
  intro who
  apply Keeps.bind
  · apply Keeps.update
    intro r
    have kept : (r.hub.watch who).2.mailboxes = r.hub.mailboxes := by
      unfold Hub.watch
      split <;> rfl
    exact Relay.spares_of_same rfl kept
  · intro
    apply Keeps.pure

/-- The reply to a request is no status update, so a session may put it into any mailbox. -/
theorem spares_receiveText (who : ConnectionId) (text : String) :
    Spares id (receiveText who text)
  := by
  apply Keeps.fork
  apply Keeps.process (spares_submitText who text)
  intro response
  cases response with
  | none => exact .ended trivial
  | some response => exact .ended (response.opens_text _)

theorem takes_take (h : Hub) (who : ConnectionId) (count : Nat) :
    Hub.Takes id h (h.take who count).2
  := by
  unfold Hub.take
  split
  next other found =>
    apply Hub.takes_insert rfl
    intro m found'
    obtain rfl : other = m := Option.some.inj (found.symm.trans found')
    exact ⟨count, rfl⟩
  next => exact Hub.takes_of_same rfl

theorem spares_takeMessage (who : ConnectionId) :
    Spares id (takeMessage who)
  := by
  apply Keeps.atomically
  intro r
  exact Relay.spares_of_takes rfl (takes_take r.hub who 1)

theorem spares_exchange (method target : String) (body : List UInt8) :
    Spares id (exchange method target body)
  := by
  unfold exchange
  split
  next => apply Keeps.pure
  next =>
    split
    next => apply Keeps.pure
    next request _ =>
      apply Keeps.bind (spares_connect _ _ _)
      intro who
      apply Keeps.bind (spares_submit who request)
      intro response
      apply Keeps.bind (spares_disconnect who)
      intro
      cases response with
      | some response => apply Keeps.pure
      | none => apply Keeps.pure

/-! ### Connecting to the control process -/

/-! ### Services -/

theorem spares_runTopics (s : TopicService) :
    Relay.Bystander id (continue? (runTopics s))
  := by
  apply Keeps.process_bind (spares_inspect _)
  intro position
  apply Keeps.process_bind (spares_connect _ _ _)
  intro who
  apply Keeps.process_bind
  · unfold subscribeStatically
    split
    next => apply Keeps.pure
    next =>
      apply Keeps.bind (spares_subscribe _ _)
      intro answer
      apply Keeps.pure
  · intro
    exact .ended trivial

theorem spares_answerByTopic (s : TopicService) (who : ConnectionId) (payload : String) :
    Spares id (answerByTopic s who payload)
  := by
  apply Keeps.bind (spares_submitText who payload)
  intro response
  cases response with
  | none => apply Keeps.pure
  | some response =>
    apply Keeps.update
    intro r
    exact Relay.spares_of_same rfl rfl

theorem spares_registerScheduler :
    Spares id registerScheduler
  := by
  apply Keeps.bind (spares_subscribe _ _)
  intro
  apply Keeps.pure

/-! ### Named programs -/

theorem bystander_loadChain (epoch : Nat) (stage : LoadStage) :
    Relay.Bystander id (continue? (loadChain epoch stage))
  := by
  apply Keeps.process_bind (spares_inspect _)
  intro settings
  generalize stage.action settings = action
  cases action with
  | stop => exact .ended trivial
  | proceed next => exact .ended trivial
  | call c =>
    apply Keeps.process_bind (spares_of_links (links_call c))
    intro reply
    exact .ended trivial
  | wait nanos =>
    apply Keeps.process_bind (spares_inspect _)
    intro now
    exact .wait (.ended trivial)
  | step =>
    apply Keeps.process_bind (spares_schedule _)
    intro next
    exact .ended trivial

theorem bystander_topicLoop (s : TopicService) (who : ConnectionId) (position : Nat) :
    Relay.Bystander id (continue? (topicLoop s who position))
  := by
  apply Keeps.process_bind (spares_inspect _)
  rintro ⟨next, now⟩
  dsimp only
  split
  next => exact .ended trivial
  next message position =>
    split
    next =>
      apply Keeps.process_bind
      · apply Keeps.fork
        apply Keeps.process (spares_answerByTopic s who message.payload)
        intro
        exact .ended trivial
      · intro
        exact .ended trivial
    next => exact .ended trivial
  next =>
    apply Keeps.process_bind (Keeps.await _ _)
    intro
    apply Keeps.process_bind (spares_inspect _)
    rintro ⟨hasMessage, isOn⟩
    dsimp only
    split
    next => exact .ended trivial
    next =>
      apply Keeps.process_bind (spares_disconnect who)
      intro
      apply Keeps.process_bind
      · apply spares_of_links (links_finish _ _)
      · intro
        exact .ended trivial

/-- A reply is put into the mailbox once, when there is room. -/
theorem bystander_reply (who : ConnectionId) {text : String}
    (other : Rpc.isUpdateText text = false) :
    Relay.Bystander id (continue? (reply who text))
  := by
  apply Keeps.process_bind
  · apply Keeps.atomically
    intro r
    dsimp only
    split
    next m found =>
      split
      next => apply Relay.spares_refl
      next =>
        split
        next put =>
          apply Relay.Tells.spares
          refine ⟨rfl, _, Hub.puts_insert found put, ?_⟩
          intro other_text mem
          split at mem
          next => rw [List.mem_singleton.1 mem, other]
          next => cases mem
        next => apply Relay.spares_refl
    next => apply Relay.spares_refl
  · intro waits
    cases waits with
    | true => exact .wait (.ended other)
    | false => exact .ended trivial

/-- Whatever a bystander goes on with is a bystander, apart from the reading of a wire. -/
theorem bystander_process {routine : Routine} (bystander : routine.IsBystander)
    (unread : ∀ k, routine ≠ .wireReader k) :
    Relay.Bystander id routine.process
  := by
  cases routine with
  | loadChain epoch stage => apply bystander_loadChain
  | eventLoop s tick => cases bystander
  | wireReader k => apply absurd rfl (unread k)
  | wireWriter k => exact bystander_of_links (links_wireWriter k)
  | linkLoop s => exact bystander_of_links (links_linkLoop s)
  | linkWatch s k => exact bystander_of_links (links_linkWatch s k)
  | topicLoop s who position => apply bystander_topicLoop
  | listener service switch time => exact bystander_of_links (links_listener service switch time)
  | reply who text => apply bystander_reply who bystander

end

end Action

end ControlRelay
