import ControlRelay.Proofs.Link.Reporting

/-!
# What frames say

What a frame says is stated here by its members alone, with every name spelled out: which parameters
hold a status, which frames are pushes and which are answers, and as which event a push is passed
on.  The functions that read frames agree with it, in what they find and in what they refuse.  A
status is told to the link by a push of one, by the answer to a call that asked for it and waits,
and by the loss of the connection.
-/

namespace ControlRelay

/-! ### What values are -/

namespace Json

/-- The text that a value is; without a value, or if it is no string, the text is empty. -/
inductive IsText : Option Json → String → Prop where
  | text (text : String) : IsText (some (.string text)) text
  | empty {v : Option Json} (textless : ∀ text, v ≠ some (.string text)) : IsText v ""

/-- The time that a value is; without a value, or if it is no number, the time is zero. -/
inductive IsTime : Option Json → Float → Prop where
  | integer (i : Int) : IsTime (some (.number (.integer i))) (Float.ofInt i)
  | float (x : Float) : IsTime (some (.number (.float x))) x
  | zero {v : Option Json} (numberless : ∀ n, v ≠ some (.number n)) : IsTime v 0.0

/-- The line of text that parameters hold: the text of the member `response`, or else the text that
they are. -/
inductive HasLine : Json → String → Prop where
  | response {params : Json} {text : String}
      (response : params.get? "response" = some (.string text)) : HasLine params text
  | bare (text : String) : HasLine (.string text) text
  | empty {params : Json} (unresponsive : ∀ text, params.get? "response" ≠ some (.string text))
      (textless : ∀ text, params ≠ .string text) : HasLine params ""

variable {v : Option Json} {params : Json}

theorem isText_iff {text : String} :
    IsText v text ↔ (v.bind string?).getD "" = text
  := by
  constructor
  · rintro (_ | textless)
    · rfl
    · cases found : v.bind string? with
      | none => rfl
      | some text => cases textless text (bind_string?_eq_some_iff.1 found)
  · rintro rfl
    cases found : v.bind string? with
    | none =>
      apply IsText.empty
      rintro text rfl
      cases found
    | some text =>
      rw [bind_string?_eq_some_iff.1 found]
      apply IsText.text

theorem isTime_iff {time : Float} :
    IsTime v time ↔ (v.bind float?).getD 0.0 = time
  := by
  constructor
  · rintro (_ | _ | numberless)
    · rfl
    · rfl
    · match v with
      | some (.number n) => cases numberless n rfl
      | some .null | some (.bool _) | some (.string _) | some (.array _) | some (.object _) => rfl
      | none => rfl
  · rintro rfl
    match v with
    | some (.number (.integer i)) => apply IsTime.integer
    | some (.number (.float x)) => apply IsTime.float
    | some .null | some (.bool _) | some (.string _) | some (.array _) | some (.object _) | none =>
      apply IsTime.zero
      rintro n ⟨⟩

theorem hasLine_iff {text : String} :
    HasLine params text ↔ ((params.getString? "response").or params.string?).getD "" = text
  := by
  constructor
  · rintro (response | _ | ⟨unresponsive, textless⟩)
    · rw [getString?, bind_string?_eq_some_iff.2 response]
      rfl
    · rfl
    · have unread : params.getString? "response" = none := by
        cases found : params.getString? "response" with
        | none => rfl
        | some text => cases unresponsive text (bind_string?_eq_some_iff.1 found)
      rw [unread]
      cases params with
      | string text => cases textless text rfl
      | _ => rfl
  · rintro rfl
    cases found : params.getString? "response" with
    | some text => apply HasLine.response (bind_string?_eq_some_iff.1 found)
    | none =>
      cases params with
      | string text => apply HasLine.bare
      | _ =>
        apply HasLine.empty
        · intro text response
          rw [getString?, response] at found
          cases found
        · rintro text ⟨⟩

end Json

/-! ### Statuses -/

/-- The names of the states. -/
inductive ControlState.Named : ControlState → String → Prop where
  | starting : Named .starting "starting"
  | startup : Named .starting "startup"
  | ready : Named .ready "ready"
  | shutdown : Named .shutdown "shutdown"
  | errored : Named .errored "error"
  | disconnected : Named .disconnected "disconnected"

theorem ControlState.ofName?_eq_some_iff {name : String} {state : ControlState} :
    ofName? name = some state ↔ state.Named name
  := by
  constructor
  · intro read
    unfold ofName? at read
    split at read
    next startup =>
      cases read
      rw [startup]
      apply Named.startup
    next =>
      have same := List.find?_some read
      rw [← of_decide_eq_true same]
      cases state <;> constructor
  · rintro ⟨⟩ <;> decide

/-- Parameters hold a status: the member `state` is the name of its state, and its text is the
member `message`, or `state_message` where there is no `message`. -/
structure ControlStatus.In (params : Json) (status : ControlStatus) : Prop where
  state : ∃ name, params.get? "state" = some (.string name) ∧ status.state.Named name
  message : Json.IsText ((params.get? "message").or (params.get? "state_message")) status.message

namespace Control

variable {params : Json} {status : ControlStatus} {method : String} {push : Push} {frame : Frame}
  {message : Message}

theorem stateOfParams_eq_ok_iff :
    stateOfParams params = .ok status ↔ status.In params
  := by
  unfold stateOfParams
  constructor
  · intro read
    split at read
    next => cases read
    next name named =>
      split at read
      next => cases read
      next state known =>
        cases read
        constructor
        · use name, Json.bind_string?_eq_some_iff.1 named
          apply ControlState.ofName?_eq_some_iff.1 known
        · apply Json.isText_iff.2 rfl
  · rintro ⟨⟨name, named, known⟩, text⟩
    rw [Json.getString?, Json.bind_string?_eq_some_iff.2 named]
    dsimp only
    rw [ControlState.ofName?_eq_some_iff.2 known]
    dsimp only
    rw [Json.isText_iff.1 text]

/-- What a push with a method and parameters tells. -/
inductive Push.In : Push → String → Json → Prop where
  | stateChanged {status : ControlStatus} {params : Json} (held : status.In params) :
      In (.stateChanged status) "state_changed" params
  | status {members : List (String × Json)} {eventtime : Float} {params : Json}
      (status : params.get? "status" = some (.object members))
      (time : Json.IsTime (params.get? "eventtime") eventtime) :
      In (.status (.ofList members) eventtime) "process_status_update" params
  | gcodeResponse {text : String} {params : Json} (line : Json.HasLine params text) :
      In (.gcodeResponse text) "process_gcode_response" params
  | other {method : String} {params : Json}
      (uninterpreted : method ∉
        ["state_changed", "process_status_update", "process_gcode_response"]) :
      In (.other method params) method params

theorem Push.uninterpreted_iff :
    method ∉ ["state_changed", "process_status_update", "process_gcode_response"] ↔
      method ≠ stateChangedPush ∧ method ≠ statusUpdatePush ∧ method ≠ gcodeResponsePush
  := by
  simp only [List.mem_cons, List.not_mem_nil, or_false, not_or]
  rfl

theorem Push.of_eq_ok_iff :
    Push.of method params = .ok push ↔ push.In method params
  := by
  constructor
  · intro read
    unfold Push.of at read
    split at read
    next state =>
      cases held : stateOfParams params with
      | error reason =>
        rw [held] at read
        cases read
      | ok status =>
        rw [held] at read
        cases read
        rw [state]
        apply In.stateChanged (stateOfParams_eq_ok_iff.1 held)
    next not_state =>
      split at read
      next values =>
        split at read
        next => cases read
        next fields found =>
          obtain ⟨value, held, same⟩ := Option.bind_eq_some_iff.1 found
          cases value with
          | object members =>
            cases same
            cases read
            rw [values]
            apply In.status held (Json.isTime_iff.2 rfl)
          | _ => cases same
      next not_values =>
        split at read
        next line =>
          cases read
          rw [line]
          apply In.gcodeResponse (Json.hasLine_iff.2 rfl)
        next not_line =>
          cases read
          apply In.other (uninterpreted_iff.2 ⟨not_state, not_values, not_line⟩)
  · rintro (held | ⟨status, time⟩ | line | uninterpreted)
    · have interpreted : "state_changed" = stateChangedPush := rfl
      rw [Push.of, if_pos interpreted, stateOfParams_eq_ok_iff.2 held]
      rfl
    · have interpreted : "process_status_update" = statusUpdatePush := rfl
      rw [Push.of, if_neg (by decide), if_pos interpreted, status, Json.isTime_iff.1 time]
      rfl
    · have interpreted : "process_gcode_response" = gcodeResponsePush := rfl
      rw [Push.of, if_neg (by decide), if_neg (by decide), if_pos interpreted,
        Json.hasLine_iff.1 line]
    · obtain ⟨not_state, not_values, not_line⟩ := uninterpreted_iff.1 uninterpreted
      rw [Push.of, if_neg not_state, if_neg not_values, if_neg not_line]

/-- What a frame tells.  One with an `id` is an answer, which is an error if there is a member
`error`, and one without is a push; a result or parameters that are left out are `null`. -/
inductive Message.In (frame : Frame) : Message → Prop where
  | fault {id : UInt64} {error : Json}
      (numbered : frame.get? "id" = some (.number (.integer id.toNat)))
      (failed : frame.get? "error" = some error) : In frame (.response id (.error (.ofJson error)))
  | result {id : UInt64} (numbered : frame.get? "id" = some (.number (.integer id.toNat)))
      (succeeded : frame.get? "error" = none) :
      In frame (.response id (.ok ((frame.get? "result").getD .null)))
  | push {method : String} {push : Push} (unnumbered : frame.get? "id" = none)
      (named : frame.get? "method" = some (.string method))
      (held : push.In method ((frame.get? "params").getD .null)) : In frame (.push push)

theorem Message.ofFrame_eq_ok_iff :
    Message.ofFrame frame = .ok message ↔ message.In frame
  := by
  unfold Message.ofFrame
  constructor
  · intro read
    split at read
    next value found =>
      split at read
      next => cases read
      next id is_id =>
        have numbered := Json.bind_nat?_eq_some_iff.1 (Option.bind_eq_some_iff.2 ⟨_, found, is_id⟩)
        split at read
        next error failed =>
          cases read
          apply In.fault numbered failed
        next succeeded =>
          cases read
          apply In.result numbered succeeded
    next unnumbered =>
      split at read
      next => cases read
      next method named =>
        cases held : Push.of method ((frame.get? "params").getD .null) with
        | error reason =>
          rw [held] at read
          cases read
        | ok push =>
          rw [held] at read
          cases read
          apply In.push unnumbered (Json.bind_string?_eq_some_iff.1 named)
          apply Push.of_eq_ok_iff.1 held
  · rintro (⟨numbered, failed⟩ | ⟨numbered, succeeded⟩ | ⟨unnumbered, named, held⟩)
    · obtain ⟨value, numbered, is_id⟩ :=
        Option.bind_eq_some_iff.1 (Json.bind_nat?_eq_some_iff.2 numbered)
      simp only [numbered, is_id, failed]
    · obtain ⟨value, numbered, is_id⟩ :=
        Option.bind_eq_some_iff.1 (Json.bind_nat?_eq_some_iff.2 numbered)
      simp only [numbered, is_id, succeeded]
    · rw [unnumbered]
      dsimp only
      rw [Json.bind_string?_eq_some_iff.2 named]
      dsimp only
      rw [Push.of_eq_ok_iff.2 held]
      rfl

end Control

/-! ### Runs -/

/-- What the members of a list give, each what it is related to, if there is such a thing, and in
order. -/
inductive EachGives {α β : Type} (R : α → β → Prop) : List α → List β → Prop where
  | nil : EachGives R [] []
  | given {a : α} {b : β} {as : List α} {bs : List β} (related : R a b)
      (rest : EachGives R as bs) : EachGives R (a :: as) (b :: bs)
  | nothing {a : α} {as : List α} {bs : List β} (unrelated : ∀ b, ¬R a b)
      (rest : EachGives R as bs) : EachGives R (a :: as) bs

theorem eachGives_filterMap {α β : Type} {R : α → β → Prop} {f : α → Option β}
    (gives : ∀ a b, f a = some b ↔ R a b) (as : List α) :
    EachGives R as (as.filterMap f)
  := by
  induction as with
  | nil => apply EachGives.nil
  | cons a as ih =>
    cases found : f a with
    | none =>
      rw [List.filterMap_cons_none found]
      apply EachGives.nothing _ ih
      intro b related
      cases found.symm.trans ((gives a b).2 related)
    | some b =>
      rw [List.filterMap_cons_some found]
      apply EachGives.given ((gives a b).1 found) ih

namespace ControlEvent

/-- What comes to the link is passed on as an event: it is a push, and not one of the state. -/
inductive Passes : Except Frame.Error Frame → ControlEvent → Prop where
  | status {frame : Frame} {fields : Fields} {eventtime : Float}
      (held : Control.Message.In frame (.push (.status fields eventtime))) :
      Passes (.ok frame) (.status fields eventtime)
  | gcodeResponse {frame : Frame} {text : String}
      (held : Control.Message.In frame (.push (.gcodeResponse text))) :
      Passes (.ok frame) (.gcodeResponse text)
  | other {frame : Frame} {method : String} {params : Json}
      (held : Control.Message.In frame (.push (.other method params))) :
      Passes (.ok frame) (.other method params)

theorem ofFrame?_eq_some_iff {outcome : Except Frame.Error Frame} {event : ControlEvent} :
    ofFrame? outcome = some event ↔ Passes outcome event
  := by
  constructor
  · intro passed
    unfold ofFrame? at passed
    split at passed
    next frame =>
      split at passed
      next push read =>
        have held := Control.Message.ofFrame_eq_ok_iff.1 read
        cases push with
        | stateChanged => cases passed
        | status =>
          cases passed
          apply Passes.status held
        | gcodeResponse =>
          cases passed
          apply Passes.gcodeResponse held
        | other =>
          cases passed
          apply Passes.other held
      next => cases passed
    next => cases passed
  · rintro (held | held | held) <;>
      rw [ofFrame?, Control.Message.ofFrame_eq_ok_iff.2 held] <;> rfl

end ControlEvent

namespace Link.System

/-- A call of a method waits under an id for its answer. -/
def Waits (sys : System) (id : UInt64) (method : String) : Prop :=
  ∃ (number generation : Nat), sys.calls[number]? = some ⟨id, generation, method, .waiting⟩

/-- An event tells a status: a push of it comes, or the answer to a call that asked for it and
waits, or the connection is lost. -/
inductive Tells (sys : System) : Event → ControlStatus → Prop where
  | push {frame : Frame} {status : ControlStatus}
      (held : Control.Message.In frame (.push (.stateChanged status))) :
      Tells sys (.received (.ok frame)) status
  | answer {frame : Frame} {id : UInt64} {result : Json} {status : ControlStatus}
      (held : Control.Message.In frame (.response id (.ok result))) (asked : sys.Waits id "info")
      (told : status.In result) : Tells sys (.received (.ok frame)) status
  | loss (attached : sys.link.writer ≠ none) : Tells sys (.lost sys.link.generation) .disconnected

/-- What comes to the link is unusable: it is malformed, it holds no message, or it answers no call
that waits. -/
inductive Unusable (sys : System) : Except Frame.Error Frame → Prop where
  | malformed (e : Frame.Error) : Unusable sys (.error e)
  | unreadable {frame : Frame} (empty : ∀ message, ¬Control.Message.In frame message) :
      Unusable sys (.ok frame)
  | unasked {frame : Frame} {id : UInt64} {answer : Except Control.Fault Json}
      (held : Control.Message.In frame (.response id answer))
      (unknown : ∀ method, ¬sys.Waits id method) : Unusable sys (.ok frame)

/-- The events of a run, each with the system to which it comes. -/
def moments (sys : System) : List Event → List (System × Event)
  | [] => []
  | event :: events => (sys, event) :: (sys.next event).moments events

variable {sys : System}

theorem told?_eq_some_iff {event : Event} {status : ControlStatus} :
    sys.told? event = some status ↔ sys.Tells event status
  := by
  constructor
  · intro told
    unfold told? at told
    split at told
    next frame =>
      split at told
      next message read =>
        have held := Control.Message.ofFrame_eq_ok_iff.1 read
        unfold toldBy? at told
        split at told
        next =>
          cases told
          apply Tells.push held
        next id result =>
          obtain ⟨asked, found⟩ := Option.ite_none_right_eq_some.1 told
          apply Tells.answer held (asks_iff.1 asked)
          apply Control.stateOfParams_eq_ok_iff.1
          cases read : Control.stateOfParams result with
          | error reason =>
            rw [read] at found
            cases found
          | ok status =>
            rw [read] at found
            cases found
            rfl
        next => cases told
      next => cases told
    next generation =>
      obtain ⟨current, lost⟩ := Option.ite_none_right_eq_some.1 told
      cases lost
      obtain ⟨attached, same⟩ := Bool.and_eq_true_iff.1 current
      rw [of_decide_eq_true same]
      apply Tells.loss (Option.isSome_iff_ne_none.1 attached)
    next => cases told
  · rintro (held | ⟨held, asked, told⟩ | attached)
    · rw [told?, Control.Message.ofFrame_eq_ok_iff.2 held]
      rfl
    · rw [told?, Control.Message.ofFrame_eq_ok_iff.2 held]
      dsimp only [toldBy?]
      rw [if_pos (asks_iff.2 asked), Control.stateOfParams_eq_ok_iff.2 told]
      rfl
    · simp [told?, Option.isSome_iff_ne_none.2 attached]

theorem toldOf_eq (events : List Event) :
    sys.toldOf events = (sys.moments events).filterMap fun moment => moment.1.told? moment.2
  := by
  induction events generalizing sys with
  | nil => rfl
  | cons event events ih =>
    rw [toldOf, moments, List.filterMap_cons, ih]
    dsimp only
    cases sys.told? event <;> rfl

theorem Matched.of_mem_moments (matched : Matched sys) {events : List Event}
    {moment : System × Event} (mem : moment ∈ sys.moments events) :
    Matched moment.1
  := by
  induction events generalizing sys with
  | nil => cases mem
  | cons event events ih =>
    cases mem with
    | head => apply matched
    | tail _ later => apply ih (matched.next event) later

/-- A change is reported with just the events that tell a status whose state is another one than
before. -/
theorem Matched.stateChanged_mem_reports_iff (matched : Matched sys) {event : Event}
    {status : ControlStatus} :
    .stateChanged status ∈ sys.reports event ↔
      sys.Tells event status ∧ sys.link.status.state ≠ status.state
  := by
  have reported : .stateChanged status ∈ sys.reports event ↔
      status ∈ (sys.reports event).filterMap ControlEvent.change?
    := by
    rw [List.mem_filterMap]
    constructor
    · intro mem
      use .stateChanged status, mem
      rfl
    · rintro ⟨change, mem, found⟩
      cases change with
      | stateChanged =>
        cases found
        apply mem
      | _ => cases found
  rw [reported, matched.changes_reports, List.mem_filter, Option.mem_toList, told?_eq_some_iff,
    decide_eq_true_eq]

/-- What is unusable changes nothing. -/
theorem Matched.receiveFrame_of_unusable (matched : Matched sys)
    {outcome : Except Frame.Error Frame} (unusable : sys.Unusable outcome) :
    sys.link.receiveFrame outcome = (sys.link, [])
  := by
  cases unusable with
  | malformed e => rfl
  | @unreadable frame empty =>
    rw [receiveFrame]
    cases read : Control.Message.ofFrame frame with
    | error reason => rfl
    | ok message => cases empty message (Control.Message.ofFrame_eq_ok_iff.1 read)
  | @unasked frame id answer held unknown =>
    have free : sys.link.pending.get? id = none := by
      cases listed : sys.link.pending.get? id with
      | none => rfl
      | some call =>
        have waits := (matched.lists id call).1 listed
        cases unknown call.method ⟨call.number, call.generation, waits⟩
    rw [receiveFrame, Control.Message.ofFrame_eq_ok_iff.2 held]
    dsimp only [receive, receiveResponse]
    rw [free]

end Link.System

end ControlRelay
