import ControlRelay.Proofs.Link.System
import Mathlib.Data.List.Destutter

/-!
# What a link reports

A link passes pushes on as events, one each, and takes in the states that it is told: by a push,
by the answer to a call that asked for the state and still waits, or by the loss of the connection.
`told?` says which status an event tells, and `passed?` which event is passed on for it.  The status
of a link is the one told last, and a change of state is reported exactly when the state told is
another one than before.
-/

namespace ControlRelay

/-- The event, if this is one. -/
def LinkOutput.event? : LinkOutput → Option ControlEvent
  | .outcome _ _ => none
  | .event e => some e

namespace ControlEvent

/-- The status to which the control process changed, if this reports a change of its state. -/
def change? : ControlEvent → Option ControlStatus
  | .stateChanged s => some s
  | _ => none

/-- Whether a push is passed on as this event. -/
def isPush : ControlEvent → Bool
  | .status _ _ => true
  | .gcodeResponse _ => true
  | .other _ _ => true
  | _ => false

/-- The event as which a push is passed on; a push of the state is none. -/
def ofPush? : Control.Push → Option ControlEvent
  | .stateChanged _ => none
  | .status fields eventtime => some (.status fields eventtime)
  | .gcodeResponse text => some (.gcodeResponse text)
  | .other method params => some (.other method params)

/-- The event as which a frame is passed on, if it is a push other than one of the state. -/
def ofFrame? : Except Frame.Error Frame → Option ControlEvent
  | .ok frame =>
    match Control.Message.ofFrame frame with
    | .ok (.push push) => ofPush? push
    | _ => none
  | .error _ => none

end ControlEvent

namespace Link

/-- The events among what comes out of a link. -/
def reported (outputs : List LinkOutput) : List ControlEvent := outputs.filterMap LinkOutput.event?

/-- The report of a status that was told, which there is if the state is another one than
before. -/
def news (before : ControlStatus) : Option ControlStatus → List ControlEvent
  | some status => if before.state = status.state then [] else [.stateChanged status]
  | none => []

/-- A step takes in a status and passes on an event, or does less. -/
structure Hears (l : Link) (step : Step) (told : Option ControlStatus)
    (passed : Option ControlEvent) : Prop where
  status : step.1.status = told.getD l.status
  reports : reported step.2 = passed.toList ++ news l.status told

section

variable {l l' : Link} {step : Step} {told : Option ControlStatus} {passed : Option ControlEvent}

theorem reported_dropping (calls : List PendingCall) :
    reported (dropping calls) = []
  := by
  simp [reported, dropping, LinkOutput.event?]

/-- Calls that are dropped are no events. -/
theorem Hears.dropping_append (hears : Hears l step told passed) (dropped : List PendingCall) :
    Hears l (step.1, dropping dropped ++ step.2) told passed
  := by
  constructor
  · apply hears.status
  · rw [reported, List.filterMap_append, ← reported, ← reported, reported_dropping]
    apply hears.reports

/-- The end of a call is no event. -/
theorem Hears.append_outcome (hears : Hears l step told passed) (number : Nat)
    (outcome : CallOutcome) :
    Hears l (step.1, step.2 ++ [.outcome number outcome]) told passed
  := by
  constructor
  · apply hears.status
  · rw [reported, List.filterMap_append, ← reported, hears.reports]
    apply List.append_nil

/-- What is heard depends on the status that was known. -/
theorem Hears.of_status (hears : Hears l' step told passed) (same : l'.status = l.status) :
    Hears l step told passed
  := by
  constructor
  · rw [hears.status, same]
  · rw [hears.reports, same]

theorem hears_nothing (same : step.1.status = l.status) (silent : reported step.2 = []) :
    Hears l step none none
  := by
  constructor
  · apply same
  · apply silent

theorem hears_setStatus (l : Link) (status : ControlStatus) :
    Hears l (l.setStatus status) (some status) none
  := by
  unfold setStatus
  constructor
  · split <;> rfl
  · rw [news]
    split <;> rfl

theorem hears_receivePush (l : Link) (push : Control.Push) :
    Hears l (l.receivePush push)
      (match push with
      | .stateChanged status => some status
      | _ => none)
      (ControlEvent.ofPush? push)
  := by
  cases push with
  | stateChanged status => apply hears_setStatus
  | _ => constructor <;> rfl

/-- The status that the answer to a call of this method holds, if it asked for one. -/
def answered? (method : String) (answer : Except Control.Fault Json) : Option ControlStatus :=
  if method = Control.infoMethod then
    answer.toOption.bind fun result => (Control.stateOfParams result).toOption
  else none

theorem hears_adoptStatus (l : Link) (method : String) (answer : Except Control.Fault Json) :
    Hears l (l.adoptStatus method answer) (answered? method answer) none
  := by
  unfold adoptStatus answered?
  split
  next =>
    cases answer with
    | error fault => exact hears_nothing rfl rfl
    | ok result =>
      dsimp only
      split
      next status read =>
        rw [Except.toOption, Option.bind_some, read]
        apply hears_setStatus
      next reason refused =>
        rw [Except.toOption, Option.bind_some, refused]
        exact hears_nothing rfl rfl
  next => exact hears_nothing rfl rfl

end

/-- What comes to the link with an event. -/
def Event.outcome? : Event → Option (Except Frame.Error Frame)
  | .received outcome => some outcome
  | _ => none

namespace System

/-! ### What an event tells -/

/-- Whether a call that asked for the state waits under this id. -/
def asks (sys : System) (id : UInt64) : Bool :=
  sys.calls.any fun c =>
    c.id = id && c.method = Control.infoMethod &&
      match c.progress with
      | .waiting => true
      | _ => false

/-- The status that a message tells: a push of it, or the answer to a call that asked for it and
waits. -/
def toldBy? (sys : System) : Control.Message → Option ControlStatus
  | .push (.stateChanged status) => some status
  | .response id (.ok result) =>
    if sys.asks id then (Control.stateOfParams result).toOption else none
  | _ => none

/-- The status that an event tells. -/
def told? (sys : System) : Event → Option ControlStatus
  | .received (.ok frame) =>
    match Control.Message.ofFrame frame with
    | .ok message => sys.toldBy? message
    | .error _ => none
  | .lost generation =>
    if sys.link.writer.isSome && generation = sys.link.generation then some .disconnected else none
  | _ => none

/-- Where a frame holds a state that the link takes in: a push of the state in its parameters, and
the answer to a call that asked for the state and waits in its result. -/
def stateIn? (sys : System) (frame : Frame) : Option Json :=
  match frame.get? "id" with
  | some id =>
    match id.nat?, frame.get? "error" with
    | some id, none => if sys.asks id then some ((frame.get? "result").getD .null) else none
    | _, _ => none
  | none =>
    if (frame.get? "method").bind Json.string? = some Control.stateChangedPush then
      some ((frame.get? "params").getD .null)
    else none

/-- The event that is passed on. -/
def passed? (sys : System) : Event → Option ControlEvent
  | .received frame => ControlEvent.ofFrame? frame
  | .attached _ => if sys.link.writer = none then some (.connected sys.link.generation) else none
  | _ => none

/-- What comes out of the link with an event. -/
def outputs (sys : System) : Event → List LinkOutput
  | .called call takesFrames =>
    (sys.link.call call.method call.params fun _ => takesFrames).1.2
  | .received frame => (sys.link.receiveFrame frame).2
  | .looked _ => []
  | .lost generation => (sys.link.lose generation).2
  | .attached connection =>
    if sys.link.writer = none then (sys.link.attach connection).2 else []

/-- What the link reports with an event. -/
def reports (sys : System) (event : Event) : List ControlEvent := reported (sys.outputs event)

/-- What the link reports during a list of events, in order. -/
def reportsOf (sys : System) : List Event → List ControlEvent
  | [] => []
  | event :: events => sys.reports event ++ (sys.next event).reportsOf events

/-- The statuses told during a list of events, in order. -/
def toldOf (sys : System) : List Event → List ControlStatus
  | [] => []
  | event :: events => (sys.told? event).toList ++ (sys.next event).toldOf events

section

variable {sys : System}

theorem asks_iff {id : UInt64} :
    sys.asks id = true ↔ ∃ (number generation : Nat),
      sys.calls[number]? = some ⟨id, generation, Control.infoMethod, .waiting⟩
  := by
  unfold asks
  rw [List.any_eq_true]
  constructor
  · rintro ⟨⟨id', generation, method, progress⟩, mem, asked⟩
    obtain ⟨number, found⟩ := List.getElem?_of_mem mem
    cases progress with
    | waiting =>
      simp only [Bool.and_true, Bool.and_eq_true, decide_eq_true_eq] at asked
      obtain ⟨rfl, rfl⟩ := asked
      use number, generation
    | _ => simp at asked
  · rintro ⟨number, generation, found⟩
    use ⟨id, generation, Control.infoMethod, .waiting⟩, List.mem_of_getElem? found
    simp

/-- The call that waits under an id is the one that the link lists. -/
theorem Matched.asks_iff_of_listed (matched : Matched sys) {id : UInt64} {call : PendingCall}
    (listed : sys.link.pending.get? id = some call) :
    sys.asks id = true ↔ call.method = Control.infoMethod
  := by
  rw [asks_iff]
  constructor
  · rintro ⟨number, generation, found⟩
    have same := (matched.lists id ⟨number, generation, Control.infoMethod⟩).2 found
    obtain rfl := Option.some.inj (listed.symm.trans same)
    rfl
  · intro asked
    use call.number, call.generation
    rw [(matched.lists id call).1 listed, asked]

theorem Matched.asks_eq_false (matched : Matched sys) {id : UInt64}
    (free : sys.link.pending.get? id = none) :
    sys.asks id = false
  := by
  rw [Bool.eq_false_iff, Ne, asks_iff]
  rintro ⟨number, generation, found⟩
  cases free.symm.trans ((matched.lists id ⟨number, generation, _⟩).2 found)

/-- The status that an answer tells is the one that its call asked for. -/
theorem Matched.toldBy?_response (matched : Matched sys) {id : UInt64} {call : PendingCall}
    (listed : sys.link.pending.get? id = some call) (answer : Except Control.Fault Json) :
    sys.toldBy? (.response id answer) = answered? call.method answer
  := by
  cases answer with
  | error fault =>
    rw [answered?]
    split <;> rfl
  | ok result =>
    simp only [toldBy?, answered?, matched.asks_iff_of_listed listed]
    rfl

/-- A frame tells the status that it holds where it may tell one. -/
theorem told?_received_ok (sys : System) (frame : Frame) :
    sys.told? (.received (.ok frame)) =
      (sys.stateIn? frame).bind fun params => (Control.stateOfParams params).toOption
  := by
  dsimp only [told?, stateIn?, Control.Message.ofFrame]
  cases frame.get? "id" with
  | some id =>
    dsimp only
    cases id.nat? with
    | none => rfl
    | some id =>
      dsimp only
      cases frame.get? "error" with
      | some fault => rfl
      | none =>
        dsimp only [toldBy?]
        split <;> rfl
  | none =>
    dsimp only
    cases (frame.get? "method").bind Json.string? with
    | none => rfl
    | some method =>
      dsimp only [Control.Push.of]
      by_cases same : method = Control.stateChangedPush
      · rw [if_pos same, if_pos (congrArg some same), Option.bind_some]
        cases Control.stateOfParams ((frame.get? "params").getD .null) <;> rfl
      · rw [if_neg same, if_neg fun equal => same (Option.some.inj equal), Option.bind_none]
        by_cases values : method = Control.statusUpdatePush
        · rw [if_pos values]
          cases (((frame.get? "params").getD .null).get? "status").bind Json.fields? <;> rfl
        · rw [if_neg values]
          by_cases text : method = Control.gcodeResponsePush
          · rw [if_pos text]
            rfl
          · rw [if_neg text]
            rfl

theorem toldBy?_push (sys : System) (push : Control.Push) :
    sys.toldBy? (.push push) =
      match push with
      | .stateChanged status => some status
      | _ => none
  := by
  cases push <;> rfl

theorem Matched.hears_receiveFrame (matched : Matched sys) (frame : Except Frame.Error Frame) :
    Hears sys.link (sys.link.receiveFrame frame) (sys.told? (.received frame))
      (ControlEvent.ofFrame? frame)
  := by
  unfold receiveFrame
  cases frame with
  | error e => exact hears_nothing rfl rfl
  | ok frame =>
    dsimp only [told?, ControlEvent.ofFrame?]
    cases Control.Message.ofFrame frame with
    | error reason => exact hears_nothing rfl rfl
    | ok message =>
      cases message with
      | push push =>
        dsimp only
        rw [toldBy?_push]
        apply hears_receivePush
      | response id answer =>
        dsimp only [receive, receiveResponse]
        cases listed : sys.link.pending.get? id with
        | none =>
          have untold : sys.toldBy? (.response id answer) = none := by
            cases answer <;> simp [toldBy?, matched.asks_eq_false listed]
          rw [untold]
          exact hears_nothing rfl rfl
        | some call =>
          dsimp only
          rw [if_neg (not_not.2 (matched.current id call listed)),
            matched.toldBy?_response listed]
          apply Hears.append_outcome
          apply (hears_adoptStatus _ call.method answer).of_status
          rfl

theorem hears_lose (l : Link) (generation : Nat) :
    Hears l (l.lose generation)
      (if l.writer.isSome && generation = l.generation then some .disconnected else none) none
  := by
  by_cases stale : generation ≠ l.generation ∨ l.writer = none
  · have untold : (l.writer.isSome && generation = l.generation) = false := by
      obtain differs | detached := stale
      · simp [differs]
      · simp [detached]
    rw [lose_of_stale stale, untold]
    exact hears_nothing rfl rfl
  · obtain ⟨same, attached⟩ := not_or.1 stale
    obtain rfl := not_not.1 same
    have told : (l.writer.isSome && l.generation = l.generation) = true := by
      simpa [Option.isSome_iff_ne_none] using attached
    rw [told, lose, if_neg (by simpa using attached)]
    apply Hears.dropping_append
    apply (hears_setStatus _ ControlStatus.disconnected).of_status
    rfl

theorem hears_call (l : Link) (call : Control.Call) (canSend : Nat → Bool) :
    Hears l (l.call call.method call.params canSend).1 none none
  := by
  unfold Link.call
  dsimp only
  split
  next => exact hears_nothing rfl rfl
  next =>
    split
    next => exact hears_nothing rfl (reported_dropping _)
    next => exact hears_nothing rfl (reported_dropping _)

/-- With every event the link hears the status that it tells and passes on what is to be passed
on. -/
theorem Matched.hears (matched : Matched sys) (event : Event) :
    Hears sys.link ((sys.next event).link, sys.outputs event) (sys.told? event) (sys.passed? event)
  := by
  cases event with
  | called call takesFrames => apply hears_call
  | received frame => apply matched.hears_receiveFrame
  | looked number =>
    apply hears_nothing _ rfl
    dsimp only [System.next, look]
    split <;> rfl
  | lost generation => apply hears_lose
  | attached connection =>
    dsimp only [System.next, outputs, told?, passed?]
    split
    next => constructor <;> rfl
    next => exact hears_nothing rfl rfl

/-! ### Runs -/

theorem Matched.status_run (matched : Matched sys) (events : List Event) :
    (sys.run events).link.status = (sys.toldOf events).getLastD sys.link.status
  := by
  induction events generalizing sys with
  | nil => rfl
  | cons event events ih =>
    have status := (matched.hears event).status
    have rest := ih (matched.next event)
    rw [toldOf, run, List.foldl_cons, ← run, rest]
    cases told : sys.told? event with
    | none =>
      rw [told] at status
      rw [status]
      rfl
    | some told_status =>
      rw [told] at status
      rw [status]
      apply (List.getLastD_cons ..).symm

theorem isPush_of_ofFrame? {frame : Except Frame.Error Frame} {event : ControlEvent}
    (passed : ControlEvent.ofFrame? frame = some event) :
    event.isPush = true ∧ event.change? = none
  := by
  unfold ControlEvent.ofFrame? at passed
  split at passed
  next =>
    split at passed
    next push _ =>
      cases push <;> cases passed <;> trivial
    next => cases passed
  next => cases passed

theorem filter_isPush_news (before : ControlStatus) (told : Option ControlStatus) :
    (news before told).filter ControlEvent.isPush = []
  := by
  unfold news
  split
  next => split <;> rfl
  next => rfl

theorem Matched.pushes_reports (matched : Matched sys) (event : Event) :
    (sys.reports event).filter ControlEvent.isPush =
      (event.outcome?.bind ControlEvent.ofFrame?).toList
  := by
  rw [reports, (matched.hears event).reports, List.filter_append, filter_isPush_news,
    List.append_nil]
  cases event with
  | received frame =>
    dsimp only [passed?, Event.outcome?, Option.bind_some]
    cases passed : ControlEvent.ofFrame? frame with
    | none => rfl
    | some event => simp [(isPush_of_ofFrame? passed).1]
  | attached connection =>
    dsimp only [passed?]
    split <;> rfl
  | _ => rfl

theorem change?_of_passed? {event : Event} {passed : ControlEvent}
    (found : sys.passed? event = some passed) :
    passed.change? = none
  := by
  cases event with
  | received frame => apply (isPush_of_ofFrame? found).2
  | attached connection =>
    obtain ⟨-, same⟩ := Option.ite_none_right_eq_some.1 found
    obtain rfl := Option.some.inj same
    rfl
  | _ => cases found

theorem filterMap_news (before : ControlStatus) (told : Option ControlStatus) :
    (news before told).filterMap ControlEvent.change? =
      told.toList.filter fun status => before.state ≠ status.state
  := by
  cases told with
  | none => rfl
  | some status =>
    by_cases same : before.state = status.state
    · simp [news, same]
    · simp [news, same, ControlEvent.change?]

theorem Matched.changes_reports (matched : Matched sys) (event : Event) :
    (sys.reports event).filterMap ControlEvent.change? =
      (sys.told? event).toList.filter fun status => sys.link.status.state ≠ status.state
  := by
  rw [reports, (matched.hears event).reports, List.filterMap_append, filterMap_news]
  cases found : sys.passed? event with
  | none => rfl
  | some passed => simp [change?_of_passed? found]

/-- The pushes of a run are passed on in order, one each. -/
theorem Matched.pushes_reportsOf (matched : Matched sys) (events : List Event) :
    (sys.reportsOf events).filter ControlEvent.isPush =
      (events.filterMap Event.outcome?).filterMap ControlEvent.ofFrame?
  := by
  rw [List.filterMap_filterMap]
  induction events generalizing sys with
  | nil => rfl
  | cons event events ih =>
    rw [reportsOf, List.filter_append, matched.pushes_reports, ih (matched.next event),
      List.filterMap_cons]
    cases event.outcome?.bind ControlEvent.ofFrame? <;> rfl

/-- Whether a state is another one. -/
def Differs (a b : ControlStatus) : Prop := a.state ≠ b.state

instance : DecidableRel Differs := fun a b => inferInstanceAs (Decidable (a.state ≠ b.state))

/-- The changes that are reported are what is left of the statuses told when every one whose state
is that of the one before is left out. -/
theorem Matched.changes_reportsOf (matched : Matched sys) {before : ControlStatus}
    (known : before.state = sys.link.status.state) (events : List Event) :
    before :: (sys.reportsOf events).filterMap ControlEvent.change? =
      (sys.toldOf events).destutter' Differs before
  := by
  induction events generalizing sys before with
  | nil => rfl
  | cons event events ih =>
    have status := (matched.hears event).status
    have matched' := matched.next event
    rw [reportsOf, toldOf, List.filterMap_append, matched.changes_reports]
    cases told : sys.told? event with
    | none =>
      rw [told] at status
      apply ih matched'
      rw [known, status]
      rfl
    | some told_status =>
      rw [told, Option.getD_some] at status
      dsimp only at status
      rw [Option.toList_some, List.singleton_append, List.destutter'_cons]
      by_cases differs : Differs before told_status
      · have changed : before.state ≠ told_status.state := differs
        rw [if_pos differs, ← ih matched' (by rw [status])]
        simp [← known, changed]
      · have unchanged : before.state = told_status.state := not_not.1 differs
        rw [if_neg differs, ← ih matched' (unchanged.trans (by rw [status]))]
        simp [← known, unchanged]

/-- The state is that of the last change. -/
theorem Matched.state_run (matched : Matched sys) (events : List Event) :
    (sys.run events).link.status.state =
      (((sys.reportsOf events).filterMap ControlEvent.change?).getLastD sys.link.status).state
  := by
  induction events generalizing sys with
  | nil => rfl
  | cons event events ih =>
    have status := (matched.hears event).status
    rw [reportsOf, List.filterMap_append, matched.changes_reports, run, List.foldl_cons, ← run,
      ih (matched.next event)]
    generalize (System.reportsOf _ events).filterMap ControlEvent.change? = changes
    cases told : sys.told? event with
    | none =>
      rw [told] at status
      rw [status]
      rfl
    | some told_status =>
      rw [told, Option.getD_some] at status
      dsimp only at status
      rw [status]
      by_cases same : sys.link.status.state = told_status.state
      · rw [Option.toList_some, List.filter_cons_of_neg (by simp [same])]
        cases changes with
        | nil => apply same.symm
        | cons change changes => simp only [List.filter_nil, List.nil_append, List.getLastD_cons]
      · rw [Option.toList_some, List.filter_cons_of_pos (by simp [same])]
        simp only [List.filter_nil, List.singleton_append, List.getLastD_cons]

end

end System

end Link

end ControlRelay
