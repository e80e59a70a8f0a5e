import ControlRelay.Proofs.SortedMap
import ControlRelay.Relay.Action
import Mathlib.Data.List.Induction

/-!
# A link with its calls

A `System` is a link together with all calls that were begun on it, in this order.  Callers, the
control process and whoever serves the connection take turns in any order: in each `Event` one of
them takes one step as a whole.  A connection is attached only while there is none, as the link
service does; frames come on the connection that is attached or was attached last.  Every list of
events is a run, and what holds after every list of events holds for every order in which they can
come.
-/

namespace ControlRelay

namespace Link

/-- How far a call has come. -/
inductive Progress where
  /-- It was sent and waits for its answer. -/
  | waiting
  /-- It has ended, and its caller has not looked yet. -/
  | ended (outcome : CallOutcome)
  /-- Its caller has its outcome. -/
  | returned (outcome : CallOutcome)

/-- The outcome of a call that has come so far, if it has one. -/
def Progress.outcome? : Progress → Option CallOutcome
  | waiting => none
  | ended outcome => some outcome
  | returned outcome => some outcome

/-- A call that was begun. -/
structure CallRecord where
  id : UInt64
  /-- The generation of the link when it was begun. -/
  generation : Nat
  method : String
  progress : Progress

/-- The call when it has come to something else. -/
def CallRecord.to (progress : Progress) (c : CallRecord) : CallRecord := { c with progress }

@[simp]
theorem CallRecord.to_to (progress earlier : Progress) (c : CallRecord) :
    (c.to earlier).to progress = c.to progress
  := rfl

/-- The outcome of a call, if it has one. -/
def CallRecord.outcome? (c : CallRecord) : Option CallOutcome := c.progress.outcome?

/-- What can happen next. -/
inductive Event where
  /-- A call is begun; the connection, if there is one, may not take frames any more. -/
  | called (call : Control.Call) (takesFrames : Bool)
  /-- A frame comes, or something that cannot be used. -/
  | received (frame : Except Frame.Error Frame)
  /-- The caller of a call looks for the outcome, and gives up if there is none. -/
  | looked (number : Nat)
  /-- The end of the connection of this generation is reported. -/
  | lost (generation : Nat)
  | attached (connection : Nat)

/-- A link and the calls that were begun on it, in this order. -/
structure System where
  link : Link := {}
  calls : List CallRecord := []

namespace System

/-- The calls after something has come out of the link. -/
def noted (calls : List CallRecord) : LinkOutput → List CallRecord
  | .outcome number outcome => calls.modify number (.to (.ended outcome))
  | .event _ => calls

/-- The system after a step of its link. -/
def stepped (sys : System) (step : Step) : System where
  link := step.1
  calls := step.2.foldl noted sys.calls

/-- The system after a call was begun. -/
def begin (sys : System) (call : Control.Call) (takesFrames : Bool) : System :=
  let (step, begun) := sys.link.call call.method call.params fun _ => takesFrames
  let progress := match begun with
    | .ok _ => .waiting
    | .error error => .returned (.error error)
  let sys' := sys.stepped step
  { sys' with
    calls := sys'.calls ++ [⟨sys.link.ids.current, sys.link.generation, call.method, progress⟩] }

/-- The system after the caller of a call has looked for its outcome. -/
def look (sys : System) (number : Nat) : System :=
  match sys.calls[number]? with
  | some ⟨id, _, method, .waiting⟩ =>
    ⟨sys.link.expire id, sys.calls.modify number (.to (.returned (.error (.timeout method))))⟩
  | some ⟨_, _, _, .ended outcome⟩ =>
    { sys with calls := sys.calls.modify number (.to (.returned outcome)) }
  | _ => sys

/-- The system after an event. -/
def next (sys : System) : Event → System
  | .called call takesFrames => sys.begin call takesFrames
  | .received frame => sys.stepped (sys.link.receiveFrame frame)
  | .looked number => sys.look number
  | .lost generation => sys.stepped (sys.link.lose generation)
  | .attached connection =>
    if sys.link.writer = none then sys.stepped (sys.link.attach connection) else sys

/-- The system after a list of events. -/
def run (sys : System) (events : List Event) : System := events.foldl next sys

/-- The system to which a list of events leads. -/
def after (events : List Event) : System := run {} events

theorem after_append (first rest : List Event) :
    after (first ++ rest) = (after first).run rest
  := List.foldl_append

theorem after_concat (earlier : List Event) (last : Event) :
    after (earlier ++ [last]) = (after earlier).next last
  := after_append earlier [last]

/-! ### Calls that end -/

section

variable {pending : SortedMap UInt64 PendingCall} {calls : List CallRecord} {c d : CallRecord}
  {number : Nat} {id : UInt64} {call : PendingCall} {progress : Progress}

theorem getElem?_concat_iff :
    (calls ++ [c])[number]? = some d ↔
      calls[number]? = some d ∨ number = calls.length ∧ c = d
  := by
  obtain inside | rfl | outside := Nat.lt_trichotomy number calls.length
  · rw [List.getElem?_append_left inside]
    simp [Nat.ne_of_lt inside]
  · simp
  · rw [List.getElem?_eq_none (Nat.le_of_lt outside),
      List.getElem?_eq_none (by simpa using Nat.succ_le_of_lt outside)]
    simp [Nat.ne_of_gt outside]

theorem getElem?_modify_iff {f : CallRecord → CallRecord} {n : Nat} :
    (calls.modify n f)[number]? = some d ↔
      if n = number then ∃ c, calls[number]? = some c ∧ f c = d else calls[number]? = some d
  := by
  rw [List.getElem?_modify]
  split <;> simp

/-- The calls that are dropped end, and the others stay as they are. -/
theorem getElem?_dropping (dropped : List PendingCall) (calls : List CallRecord) (number : Nat) :
    ((dropping dropped).foldl noted calls)[number]? =
      if number ∈ dropped.map PendingCall.number then
        calls[number]?.map (.to (.ended (.error .disconnected)))
      else calls[number]?
  := by
  induction dropped generalizing calls with
  | nil => rfl
  | cons call dropped ih =>
    rw [dropping, List.map_cons, List.foldl_cons, ← dropping, ih, noted, List.getElem?_modify,
      List.map_cons]
    by_cases same : call.number = number
    · simp [same, Function.comp_def]
    · simp [same, Ne.symm same]

/-- The map of a link lists the calls that wait. -/
def Lists (pending : SortedMap UInt64 PendingCall) (calls : List CallRecord) : Prop :=
  ∀ id call, pending.get? id = some call ↔
    calls[call.number]? = some ⟨id, call.generation, call.method, .waiting⟩

/-- A call that has its outcome at once is not listed. -/
theorem Lists.concat (lists : Lists pending calls) (settled : c.progress ≠ .waiting) :
    Lists pending (calls ++ [c])
  := by
  intro id call
  rw [lists id call, getElem?_concat_iff]
  constructor
  · apply Or.inl
  · rintro (found | ⟨-, rfl⟩)
    · apply found
    · apply absurd rfl settled

/-- A call that is sent is listed. -/
theorem Lists.insert (lists : Lists pending calls) (free : pending.get? id = none)
    (generation : Nat) (method : String) :
    Lists (pending.insert id ⟨calls.length, generation, method⟩)
      (calls ++ [⟨id, generation, method, .waiting⟩])
  := by
  intro id' call
  rw [getElem?_concat_iff, ← lists id' call, SortedMap.get?_insert]
  split
  next same =>
    rw [same, free]
    constructor
    · rintro ⟨⟩
      right
      trivial
    · rintro (⟨⟨⟩⟩ | ⟨number, record⟩)
      obtain ⟨-, rfl, rfl, -⟩ := CallRecord.mk.inj record
      rw [← number]
  next differ =>
    constructor
    · apply Or.inl
    · rintro (found | ⟨-, record⟩)
      · apply found
      · apply absurd (CallRecord.mk.inj record).1.symm differ

/-- A call that ends is taken off the list. -/
theorem Lists.erase (lists : Lists pending calls) (found : pending.get? id = some call)
    (settled : progress ≠ .waiting) :
    Lists (pending.erase id) (calls.modify call.number (.to progress))
  := by
  have record := (lists id call).1 found
  intro id' other
  rw [getElem?_modify_iff, SortedMap.get?_erase]
  split
  next same =>
    rw [same]
    constructor
    · rintro ⟨⟩
    · intro waits
      split at waits
      next =>
        obtain ⟨c, -, moved⟩ := waits
        apply absurd (congrArg CallRecord.progress moved) settled
      next other_ne =>
        obtain rfl := Option.some.inj (found.symm.trans ((lists id other).2 waits))
        contradiction
  next differ =>
    rw [lists id' other]
    constructor
    · intro left
      rw [if_neg, left]
      intro same
      rw [same, left] at record
      apply differ (CallRecord.mk.inj (Option.some.inj record)).1
    · intro waits
      split at waits
      next =>
        obtain ⟨c, -, moved⟩ := waits
        apply absurd (congrArg CallRecord.progress moved) settled
      next => apply waits

/-- To take off an id that is not listed changes nothing. -/
theorem erase_of_free (free : pending.get? id = none) :
    pending.erase id = pending
  := by
  apply SortedMap.ext_get?
  intro id'
  rw [SortedMap.get?_erase]
  split
  next same => rw [same, free]
  next => rfl

theorem get?_of_erase {id' : UInt64} (left : (pending.erase id).get? id' = some call) :
    pending.get? id' = some call
  := by
  rw [SortedMap.get?_erase] at left
  split at left
  next => cases left
  next => apply left

theorem insert_erase (pending : SortedMap UInt64 PendingCall) (id : UInt64) (call : PendingCall) :
    (pending.erase id).insert id call = pending.insert id call
  := by
  apply SortedMap.ext_get?
  intro id'
  rw [SortedMap.get?_insert, SortedMap.get?_insert, SortedMap.get?_erase]
  split <;> rfl

/-- A call that has ended is not listed, whatever becomes of it. -/
theorem Lists.modify (lists : Lists pending calls) (found : calls[number]? = some c)
    (ended : c.progress ≠ .waiting) (settled : progress ≠ .waiting) :
    Lists pending (calls.modify number (.to progress))
  := by
  intro id call
  rw [lists id call, getElem?_modify_iff]
  split
  next same =>
    rw [← same, found]
    constructor
    · rintro ⟨⟩
      contradiction
    · rintro ⟨c', -, moved⟩
      apply absurd (congrArg CallRecord.progress moved) settled
  next => rfl

/-- A call that is dropped is taken off the list. -/
theorem Lists.drop (lists : Lists pending calls) (id : UInt64) :
    Lists (pending.erase id) ((dropping (pending.get? id).toList).foldl noted calls)
  := by
  cases found : pending.get? id with
  | none =>
    rw [erase_of_free found]
    apply lists
  | some call =>
    have settled : Progress.ended (.error .disconnected) ≠ .waiting := nofun
    apply lists.erase found settled

/-- When all calls are dropped, none waits. -/
theorem Lists.clear (lists : Lists pending calls) :
    Lists ∅ ((dropping pending.values).foldl noted calls)
  := by
  intro id call
  rw [getElem?_dropping]
  constructor
  · rintro ⟨⟩
  · intro waits
    split at waits
    next =>
      obtain ⟨c, -, settled⟩ := Option.map_eq_some_iff.1 waits
      cases congrArg CallRecord.progress settled
    next kept =>
      apply absurd _ kept
      apply List.mem_map_of_mem
      apply SortedMap.mem_values_iff.2
      use id, (lists id call).2 waits

end

/-! ### What an event does to a system -/

/-- A step that no call hears of: only the state of the control process may be another one. -/
structure Quiet (l : Link) (step : Step) : Prop where
  link : ∃ status, step.1 = { l with status }
  silent : ∀ number outcome, .outcome number outcome ∉ step.2

section

variable {l : Link} {sys : System}

theorem quiet_nothing (l : Link) :
    Quiet l (l, [])
  := by
  constructor
  · use l.status
  · rintro number outcome ⟨⟩

theorem quiet_event (l : Link) (event : ControlEvent) :
    Quiet l (l, [.event event])
  := by
  constructor
  · use l.status
  · rintro number outcome ⟨⟩
    contradiction

theorem quiet_setStatus (l : Link) (status : ControlStatus) :
    Quiet l (l.setStatus status)
  := by
  unfold setStatus
  constructor
  · use status
    split <;> rfl
  · intro number outcome
    split <;> simp

theorem foldl_noted_of_silent {outputs : List LinkOutput}
    (silent : ∀ number outcome, .outcome number outcome ∉ outputs) (calls : List CallRecord) :
    outputs.foldl noted calls = calls
  := by
  induction outputs with
  | nil => rfl
  | cons output outputs ih =>
    cases output with
    | outcome number outcome => apply absurd List.mem_cons_self (silent number outcome)
    | event =>
      apply ih
      intro number outcome mem
      apply silent number outcome (List.mem_cons_of_mem _ mem)

theorem Quiet.calls {step : Step} (quiet : Quiet l step) (calls : List CallRecord) :
    step.2.foldl noted calls = calls
  := foldl_noted_of_silent quiet.silent calls

theorem quiet_adoptStatus (l : Link) (method : String) (answer : Except Control.Fault Json) :
    Quiet l (l.adoptStatus method answer)
  := by
  unfold adoptStatus
  split
  next =>
    split
    next =>
      split
      next => apply quiet_setStatus
      next => apply quiet_nothing
    next => apply quiet_nothing
  next => apply quiet_nothing

theorem quiet_receivePush (l : Link) (push : Control.Push) :
    Quiet l (l.receivePush push)
  := by
  cases push with
  | stateChanged status => apply quiet_setStatus
  | _ => apply quiet_event

/-- What an event does to a system whose calls all wait on the connection that is attached. -/
inductive Goes (sys : System) : Event → System → Prop where
  | aside {event : Event} (status : ControlStatus) :
      Goes sys event ⟨{ sys.link with status }, sys.calls⟩
  /-- There is no connection. -/
  | refused {call : Control.Call} {takesFrames : Bool} (detached : sys.link.writer = none) :
      Goes sys (.called call takesFrames)
        ⟨{ sys.link with ids := sys.link.ids.next.2, count := sys.link.count + 1 },
          sys.calls ++ [⟨sys.link.ids.current, sys.link.generation, call.method,
            .returned (.error .disconnected)⟩]⟩
  /-- The connection does not take frames. -/
  | unsent {call : Control.Call} {connection : Nat}
      (attached : sys.link.writer = some connection) :
      Goes sys (.called call false)
        ⟨{ sys.link with
            ids := sys.link.ids.next.2
            count := sys.link.count + 1
            pending := sys.link.pending.erase sys.link.ids.current },
          (dropping (sys.link.pending.get? sys.link.ids.current).toList).foldl noted sys.calls ++
            [⟨sys.link.ids.current, sys.link.generation, call.method,
              .returned (.error .disconnected)⟩]⟩
  | sent {call : Control.Call} {connection : Nat}
      (attached : sys.link.writer = some connection) :
      Goes sys (.called call true)
        ⟨{ sys.link with
            ids := sys.link.ids.next.2
            count := sys.link.count + 1
            pending := sys.link.pending.insert sys.link.ids.current
              ⟨sys.link.count, sys.link.generation, call.method⟩ },
          (dropping (sys.link.pending.get? sys.link.ids.current).toList).foldl noted sys.calls ++
            [⟨sys.link.ids.current, sys.link.generation, call.method, .waiting⟩]⟩
  | answered {frame : Frame} {id : UInt64} {answer : Except Control.Fault Json}
      {call : PendingCall} (message : Control.Message.ofFrame frame = .ok (.response id answer))
      (found : sys.link.pending.get? id = some call) (status : ControlStatus) :
      Goes sys (.received (.ok frame))
        ⟨{ sys.link with pending := sys.link.pending.erase id, status },
          sys.calls.modify call.number (.to (.ended (answer.mapError .controlFault)))⟩
  | expired {number : Nat} {c : CallRecord} (found : sys.calls[number]? = some c)
      (waits : c.progress = .waiting) :
      Goes sys (.looked number)
        ⟨sys.link.expire c.id,
          sys.calls.modify number (.to (.returned (.error (.timeout c.method))))⟩
  | looked {number : Nat} {c : CallRecord} {outcome : CallOutcome}
      (found : sys.calls[number]? = some c) (ended : c.progress = .ended outcome) :
      Goes sys (.looked number) ⟨sys.link, sys.calls.modify number (.to (.returned outcome))⟩
  | lost (attached : sys.link.writer ≠ none) (status : ControlStatus) :
      Goes sys (.lost sys.link.generation)
        ⟨{ sys.link with
            writer := none
            generation := sys.link.generation + 1
            pending := ∅
            status },
          (dropping sys.link.pending.values).foldl noted sys.calls⟩
  | attached {connection : Nat} (detached : sys.link.writer = none) :
      Goes sys (.attached connection)
        ⟨{ sys.link with writer := some connection }, sys.calls⟩

theorem Quiet.goes {step : Step} (quiet : Quiet sys.link step) (event : Event) :
    Goes sys event (sys.stepped step)
  := by
  obtain ⟨status, link⟩ := quiet.link
  rw [stepped, link, quiet.calls]
  apply Goes.aside

theorem goes_called (call : Control.Call) (takesFrames : Bool) :
    Goes sys (.called call takesFrames) (sys.begin call takesFrames)
  := by
  obtain ⟨⟨ids, count, generation, writer, pending, status⟩, calls⟩ := sys
  cases writer with
  | none => apply Goes.refused rfl
  | some connection =>
    cases takesFrames with
    | false => apply Goes.unsent rfl
    | true => apply Goes.sent rfl

theorem goes_received
    (current : ∀ id call, sys.link.pending.get? id = some call →
      call.generation = sys.link.generation)
    (frame : Except Frame.Error Frame) :
    Goes sys (.received frame) (sys.stepped (sys.link.receiveFrame frame))
  := by
  unfold receiveFrame
  split
  next frame =>
    split
    next message classified =>
      cases message with
      | push push => apply (quiet_receivePush _ _).goes
      | response id answer =>
        dsimp only [receive, receiveResponse]
        split
        next => apply (quiet_nothing _).goes
        next call found =>
          rw [if_neg (not_not.2 (current id call found))]
          have quiet := quiet_adoptStatus { sys.link with pending := sys.link.pending.erase id }
            call.method answer
          obtain ⟨status, link⟩ := quiet.link
          rw [stepped, List.foldl_append, quiet.calls, link]
          apply Goes.answered classified found
    next => apply (quiet_nothing _).goes
  next => apply (quiet_nothing _).goes

theorem goes_looked (number : Nat) :
    Goes sys (.looked number) (sys.look number)
  := by
  unfold look
  split
  next id generation method found => apply Goes.expired found rfl
  next found => apply Goes.looked found rfl
  next => apply Goes.aside sys.link.status

/-- A report of another generation, or while there is no connection, changes nothing, and nothing
comes out of the link. -/
theorem lose_of_stale {generation : Nat}
    (stale : generation ≠ l.generation ∨ l.writer = none) :
    l.lose generation = (l, [])
  := by
  apply if_pos
  apply stale.imp_left Ne.symm

/-- The loss of the connection ends its generation, and all calls that wait are dropped. -/
theorem exists_stepped_lose (attached : sys.link.writer ≠ none) :
    ∃ status, sys.stepped (sys.link.lose sys.link.generation) =
      ⟨{ sys.link with
          writer := none
          generation := sys.link.generation + 1
          pending := ∅
          status },
        (dropping sys.link.pending.values).foldl noted sys.calls⟩
  := by
  have current : ¬(sys.link.generation ≠ sys.link.generation ∨ sys.link.writer = none) := by
    simpa using attached
  have quiet := quiet_setStatus
    { sys.link with writer := none, generation := sys.link.generation + 1, pending := ∅ }
    .disconnected
  obtain ⟨status, link⟩ := quiet.link
  use status
  rw [lose, if_neg current]
  dsimp only
  rw [stepped, List.foldl_append, quiet.calls, link]

theorem goes_lost (generation : Nat) :
    Goes sys (.lost generation) (sys.stepped (sys.link.lose generation))
  := by
  by_cases stale : generation ≠ sys.link.generation ∨ sys.link.writer = none
  · rw [lose_of_stale stale]
    apply (quiet_nothing _).goes
  · obtain ⟨same, attached⟩ := not_or.1 stale
    obtain rfl := not_not.1 same
    obtain ⟨status, lost⟩ := exists_stepped_lose attached
    rw [lost]
    apply Goes.lost attached

theorem goes_attached (connection : Nat) :
    Goes sys (.attached connection) (sys.next (.attached connection))
  := by
  dsimp only [next]
  split
  next detached => apply Goes.attached detached
  next => apply Goes.aside sys.link.status

/-- Every event goes one of these ways. -/
theorem goes_next
    (current : ∀ id call, sys.link.pending.get? id = some call →
      call.generation = sys.link.generation)
    (event : Event) :
    Goes sys event (sys.next event)
  := by
  cases event with
  | called call takesFrames => apply goes_called
  | received frame => apply goes_received current
  | looked number => apply goes_looked
  | lost generation => apply goes_lost
  | attached connection => apply goes_attached

/-! ### The calls that wait -/

/-- The link counts its calls, and it lists those that wait: all of them were sent on the
connection that is attached. -/
structure Matched (sys : System) : Prop where
  count : sys.link.count = sys.calls.length
  lists : Lists sys.link.pending sys.calls
  current : ∀ id call, sys.link.pending.get? id = some call →
    call.generation = sys.link.generation
  detached : sys.link.writer = none → sys.link.pending = ∅

theorem length_noted (calls : List CallRecord) (outputs : List LinkOutput) :
    (outputs.foldl noted calls).length = calls.length
  := by
  induction outputs generalizing calls with
  | nil => rfl
  | cons output outputs ih =>
    rw [List.foldl_cons, ih]
    cases output with
    | outcome => apply List.length_modify
    | event => rfl

theorem Matched.goes {sys' : System} {event : Event} (matched : Matched sys)
    (goes : Goes sys event sys') :
    Matched sys'
  := by
  cases goes with
  | aside => use matched.count, matched.lists, matched.current, matched.detached
  | refused detached =>
    constructor
    · simp [matched.count]
    · apply matched.lists.concat
      rintro ⟨⟩
    · apply matched.current
    · apply matched.detached
  | unsent attached =>
    constructor
    · simp [matched.count, length_noted]
    · apply (matched.lists.drop _).concat
      rintro ⟨⟩
    · intro id call left
      apply matched.current id call (get?_of_erase left)
    · intro detached
      cases attached.symm.trans detached
  | @sent asked connection attached =>
    constructor
    · simp [matched.count, length_noted]
    · have sent := (matched.lists.drop sys.link.ids.current).insert
        (SortedMap.get?_erase_self _ _) sys.link.generation asked.method
      rw [length_noted, insert_erase, ← matched.count] at sent
      apply sent
    · intro id call found
      rw [SortedMap.get?_insert] at found
      split at found
      next =>
        obtain rfl := Option.some.inj found
        rfl
      next => apply matched.current id call found
    · intro detached
      cases attached.symm.trans detached
  | @answered frame id answer call message found status =>
    constructor
    · simp [matched.count]
    · apply matched.lists.erase found
      rintro ⟨⟩
    · intro id' other left
      apply matched.current id' other (get?_of_erase left)
    · intro detached
      rw [matched.detached detached]
      rfl
  | @expired number c found waits =>
    obtain ⟨id, generation, method, progress⟩ := c
    obtain rfl : progress = .waiting := waits
    have listed := (matched.lists id ⟨number, generation, method⟩).2 found
    constructor
    · simp [matched.count, expire]
    · apply matched.lists.erase listed
      rintro ⟨⟩
    · intro id' other left
      apply matched.current id' other (get?_of_erase left)
    · intro detached
      rw [expire, matched.detached detached]
      rfl
  | looked found ended =>
    constructor
    · simp [matched.count]
    · apply matched.lists.modify found
      · rw [ended]
        rintro ⟨⟩
      · rintro ⟨⟩
    · apply matched.current
    · apply matched.detached
  | lost attached =>
    constructor
    · simp [matched.count, length_noted]
    · apply matched.lists.clear
    · rintro id call ⟨⟩
    · intro
      rfl
  | attached detached =>
    constructor
    · apply matched.count
    · apply matched.lists
    · apply matched.current
    · rintro ⟨⟩

theorem Matched.next (matched : Matched sys) (event : Event) :
    Matched (sys.next event)
  := matched.goes (goes_next matched.current event)

theorem matched_after (events : List Event) :
    Matched (after events)
  := by
  induction events using List.reverseRecOn with
  | nil =>
    constructor
    · rfl
    · intro id call
      constructor <;> rintro ⟨⟩
    · rintro id call ⟨⟩
    · intro
      rfl
  | append_singleton earlier event ih =>
    rw [after_concat]
    apply ih.next

end

end System

end Link

end ControlRelay
