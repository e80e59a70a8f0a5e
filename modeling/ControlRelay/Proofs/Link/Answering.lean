import ControlRelay.Proofs.Link.System

/-!
# How calls end

A call ends once: with the answer that came under its id on the connection on which it was sent,
with a timeout, or because it was dropped.  An answer ends one call at most, and neither it nor a
timeout concerns any other call.
-/

namespace ControlRelay.Link

/-- A call comes from one record to a later one: once it has an outcome it keeps it, and once its
caller has that nothing changes. -/
structure CallRecord.Leads (c later : CallRecord) : Prop where
  same : later.id = c.id ∧ later.generation = c.generation ∧ later.method = c.method
  outcome : ∀ outcome, c.outcome? = some outcome → later.outcome? = some outcome
  returned : ∀ outcome, c.progress = .returned outcome → later = c

theorem CallRecord.Leads.refl (c : CallRecord) :
    c.Leads c
  := by
  constructor
  · trivial
  · intro outcome came
    apply came
  · intros
    rfl

theorem CallRecord.Leads.trans {c between later : CallRecord} (first : c.Leads between)
    (rest : between.Leads later) :
    c.Leads later
  := by
  obtain ⟨id, generation, method⟩ := first.same
  constructor
  · rw [← id, ← generation, ← method]
    apply rest.same
  · intro outcome came
    apply rest.outcome outcome (first.outcome outcome came)
  · intro outcome returned
    obtain rfl := first.returned outcome returned
    apply rest.returned outcome returned

/-- A call that waits can come to everything. -/
theorem CallRecord.leads_of_waiting {c : CallRecord} (waits : c.progress = .waiting)
    (progress : Progress) :
    c.Leads (c.to progress)
  := by
  constructor
  · trivial
  · intro outcome came
    rw [CallRecord.outcome?, waits] at came
    cases came
  · intro outcome returned
    cases waits.symm.trans returned

namespace System

/-- What becomes of a call with an event. -/
inductive Becomes (sys : System) (number : Nat) (c : CallRecord) : Event → CallRecord → Prop where
  | kept {event : Event} : Becomes sys number c event c
  | answered {frame : Frame} {answer : Except Control.Fault Json} (waits : c.progress = .waiting)
      (message : Control.Message.ofFrame frame = .ok (.response c.id answer)) :
      Becomes sys number c (.received (.ok frame))
        (c.to (.ended (answer.mapError .controlFault)))
  /-- The id of the call is given to another one. -/
  | dropped {call : Control.Call} {takesFrames : Bool} (waits : c.progress = .waiting)
      (again : c.id = sys.link.ids.current) :
      Becomes sys number c (.called call takesFrames) (c.to (.ended (.error .disconnected)))
  | lost (waits : c.progress = .waiting) (attached : sys.link.writer ≠ none) :
      Becomes sys number c (.lost sys.link.generation) (c.to (.ended (.error .disconnected)))
  | expired (waits : c.progress = .waiting) :
      Becomes sys number c (.looked number) (c.to (.returned (.error (.timeout c.method))))
  | looked {outcome : CallOutcome} (ended : c.progress = .ended outcome) :
      Becomes sys number c (.looked number) (c.to (.returned outcome))

section

variable {sys sys' : System} {event : Event} {number : Nat} {c later : CallRecord}

theorem Becomes.leads (becomes : Becomes sys number c event later) :
    c.Leads later
  := by
  cases becomes with
  | kept => apply CallRecord.Leads.refl
  | looked ended =>
    constructor
    · trivial
    · intro outcome came
      rw [CallRecord.outcome?, ended] at came
      apply came
    · intro outcome returned
      cases ended.symm.trans returned
  | _ => apply CallRecord.leads_of_waiting (by assumption)

theorem getElem?_modify_of_some {calls : List CallRecord} (made : calls[number]? = some c)
    (n : Nat) (progress : Progress) :
    (calls.modify n (.to progress))[number]? = some (if n = number then c.to progress else c)
  := by
  rw [List.getElem?_modify, made]
  rfl

/-- A call that is listed waits under this id. -/
theorem Matched.waits_of_listed (matched : Matched sys) {id : UInt64} {call : PendingCall}
    (listed : sys.link.pending.get? id = some call) (made : sys.calls[call.number]? = some c) :
    c.progress = .waiting ∧ c.id = id ∧ c.generation = sys.link.generation
  := by
  have record := (matched.lists id call).1 listed
  obtain rfl := Option.some.inj (made.symm.trans record)
  use rfl, rfl, matched.current id call listed

theorem exists_becomes_of_dropping {dropped : List PendingCall}
    (made : sys.calls[number]? = some c)
    (drops : ∀ call ∈ dropped, call.number = number →
      Becomes sys number c event (c.to (.ended (.error .disconnected)))) :
    ∃ later, ((dropping dropped).foldl noted sys.calls)[number]? = some later ∧
      Becomes sys number c event later
  := by
  rw [getElem?_dropping, made]
  split
  next mem =>
    obtain ⟨call, found, same⟩ := List.mem_map.1 mem
    use c.to (.ended (.error .disconnected)), rfl
    apply drops call found same
  next => use c, rfl, .kept

theorem exists_becomes_of_modify (made : sys.calls[number]? = some c) {n : Nat}
    {progress : Progress} (moves : n = number → Becomes sys number c event (c.to progress)) :
    ∃ later, (sys.calls.modify n (.to progress))[number]? = some later ∧
      Becomes sys number c event later
  := by
  use if n = number then c.to progress else c, getElem?_modify_of_some made n progress
  split
  next same => apply moves same
  next => apply Becomes.kept

/-- A call is dropped when its id is given to another one. -/
theorem Matched.becomes_dropped (matched : Matched sys) (made : sys.calls[number]? = some c)
    (call : Control.Call) (takesFrames : Bool) :
    ∃ later, ((dropping (sys.link.pending.get? sys.link.ids.current).toList).foldl noted
        sys.calls)[number]? = some later ∧
      Becomes sys number c (.called call takesFrames) later
  := by
  apply exists_becomes_of_dropping made
  rintro call found rfl
  obtain ⟨waits, again, -⟩ := matched.waits_of_listed (Option.mem_toList.1 found) made
  apply Becomes.dropped waits again

theorem Goes.becomes (goes : Goes sys event sys') (matched : Matched sys)
    (made : sys.calls[number]? = some c) :
    ∃ later, sys'.calls[number]? = some later ∧ Becomes sys number c event later
  := by
  cases goes with
  | aside => use c, made, .kept
  | refused => use c, getElem?_concat_iff.2 (.inl made), .kept
  | @unsent call =>
    obtain ⟨later, found, becomes⟩ := matched.becomes_dropped made call false
    use later, getElem?_concat_iff.2 (.inl found)
  | @sent call =>
    obtain ⟨later, found, becomes⟩ := matched.becomes_dropped made call true
    use later, getElem?_concat_iff.2 (.inl found)
  | answered message found =>
    apply exists_becomes_of_modify made
    rintro rfl
    obtain ⟨waits, rfl, -⟩ := matched.waits_of_listed found made
    apply Becomes.answered waits message
  | expired found waits =>
    apply exists_becomes_of_modify made
    rintro rfl
    obtain rfl := Option.some.inj (made.symm.trans found)
    apply Becomes.expired waits
  | looked found ended =>
    apply exists_becomes_of_modify made
    rintro rfl
    obtain rfl := Option.some.inj (made.symm.trans found)
    apply Becomes.looked ended
  | lost attached =>
    apply exists_becomes_of_dropping made
    rintro call listed rfl
    obtain ⟨id, listed⟩ := SortedMap.mem_values_iff.1 listed
    apply Becomes.lost (matched.waits_of_listed listed made).1 attached
  | attached => use c, made, .kept

theorem Matched.becomes (matched : Matched sys) (made : sys.calls[number]? = some c)
    (event : Event) :
    ∃ later, (sys.next event).calls[number]? = some later ∧ Becomes sys number c event later
  := (goes_next matched.current event).becomes matched made

theorem exists_of_length {calls more : List CallRecord} (same : calls.length = more.length)
    (made : calls[number]? = some later) :
    ∃ c, more[number]? = some c
  := by
  obtain ⟨inside, -⟩ := List.getElem?_eq_some_iff.1 made
  rw [same] at inside
  use more[number], List.getElem?_eq_getElem inside

/-- A call of a longer list is the last one, or there was one at its place before. -/
theorem exists_or_eq_of_concat {calls more : List CallRecord} (same : calls.length = more.length)
    (made : (calls ++ [c])[number]? = some later) :
    (∃ c, more[number]? = some c) ∨ later = c
  := by
  cases getElem?_concat_iff.1 made with
  | inl found =>
    left
    apply exists_of_length same found
  | inr last =>
    right
    apply last.2.symm

/-- A call that is new waits, or could not be sent. -/
theorem Goes.origin (goes : Goes sys event sys') (made : sys'.calls[number]? = some later) :
    (∃ c, sys.calls[number]? = some c) ∨ later.progress = .waiting ∨
      later.progress = .returned (.error .disconnected)
  := by
  cases goes with
  | refused =>
    apply (exists_or_eq_of_concat rfl made).imp_right
    rintro rfl
    right
    rfl
  | unsent =>
    apply (exists_or_eq_of_concat (length_noted _ _) made).imp_right
    rintro rfl
    right
    rfl
  | sent =>
    apply (exists_or_eq_of_concat (length_noted _ _) made).imp_right
    rintro rfl
    left
    rfl
  | lost =>
    left
    apply exists_of_length (length_noted _ _) made
  | aside =>
    left
    use later
  | attached =>
    left
    use later
  | _ =>
    left
    apply exists_of_length (List.length_modify _ _ _) made

/-! ### Runs -/

/-- Whatever happens, a call keeps its outcome. -/
theorem Matched.leads (matched : Matched sys) (made : sys.calls[number]? = some c)
    (events : List Event) :
    ∃ later, (sys.run events).calls[number]? = some later ∧ c.Leads later
  := by
  induction events generalizing sys c with
  | nil => exact ⟨c, made, .refl c⟩
  | cons event events ih =>
    obtain ⟨between, found, becomes⟩ := matched.becomes made event
    obtain ⟨later, found, leads⟩ := ih (matched.next event) found
    exact ⟨later, found, becomes.leads.trans leads⟩

theorem mapError_ne (answer : Except Control.Fault Json) {error : LinkError}
    (other : ∀ fault, error ≠ .controlFault fault) :
    answer.mapError .controlFault ≠ .error error
  := by
  cases answer with
  | ok value => rintro ⟨⟩
  | error fault =>
    intro same
    apply other fault (Except.error.inj same).symm

theorem mapError_injective {answer answer' : Except Control.Fault Json}
    (same : answer.mapError LinkError.controlFault = answer'.mapError .controlFault) :
    answer = answer'
  := by
  cases answer <;> cases answer' <;> cases same <;> rfl

/-- The frame answers the call of this record, on the connection on which it was sent. -/
structure Answers (sys : System) (number : Nat) (c : CallRecord) (frame : Frame)
    (answer : Except Control.Fault Json) : Prop where
  message : Control.Message.ofFrame frame = .ok (.response c.id answer)
  waits : sys.calls[number]? = some (c.to .waiting)
  attached : sys.link.writer ≠ none
  current : sys.link.generation = c.generation

theorem Matched.answers (matched : Matched sys) (made : sys.calls[number]? = some c)
    (waits : c.progress = .waiting) {frame : Frame} {answer : Except Control.Fault Json}
    (message : Control.Message.ofFrame frame = .ok (.response c.id answer)) (progress : Progress) :
    Answers sys number (c.to progress) frame answer
  := by
  obtain ⟨id, generation, method, progress'⟩ := c
  obtain rfl : progress' = .waiting := waits
  have listed := (matched.lists id ⟨number, generation, method⟩).2 made
  constructor
  · apply message
  · apply made
  · intro detached
    rw [matched.detached detached] at listed
    cases listed
  · apply (matched.current _ _ listed).symm

/-- A call that has ended with an answer got it from a frame of its own. -/
theorem exists_answers {events : List Event} {answer : Except Control.Fault Json}
    (made : (after events).calls[number]? = some c)
    (came : c.outcome? = some (answer.mapError .controlFault)) :
    ∃ earlier frame, earlier ++ [.received (.ok frame)] <+: events ∧
      Answers (after earlier) number c frame answer
  := by
  induction events using List.reverseRecOn generalizing c with
  | nil => cases made
  | append_singleton earlier event ih =>
    have matched := matched_after earlier
    rw [after_concat] at made
    obtain ⟨c', made'⟩ | waits | refused := (goes_next matched.current event).origin made
    · obtain ⟨later, found, becomes⟩ := matched.becomes made' event
      obtain rfl := Option.some.inj (found.symm.trans made)
      have before (came : c'.outcome? = some (answer.mapError .controlFault)) :
          ∃ first frame, first ++ [.received (.ok frame)] <+: earlier ++ [event] ∧
            Answers (after first) number c' frame answer
        := by
        obtain ⟨first, frame, start, answers⟩ := ih made' came
        use first, frame, start.trans (List.prefix_append _ _)
      cases becomes with
      | kept => apply before came
      | answered waits message =>
        obtain rfl := mapError_injective (Option.some.inj came)
        refine ⟨earlier, _, List.prefix_refl _, matched.answers made' waits message _⟩
      | dropped => apply absurd (Option.some.inj came).symm (mapError_ne answer nofun)
      | lost => apply absurd (Option.some.inj came).symm (mapError_ne answer nofun)
      | expired => apply absurd (Option.some.inj came).symm (mapError_ne answer nofun)
      | looked ended =>
        have earlier : c'.outcome? = some (answer.mapError .controlFault) := by
          rw [CallRecord.outcome?, ended]
          apply came
        obtain ⟨first, frame, start, answers⟩ := before earlier
        use first, frame, start, answers.message, answers.waits, answers.attached, answers.current
    · rw [CallRecord.outcome?, waits] at came
      cases came
    · rw [CallRecord.outcome?, refused] at came
      apply absurd (Option.some.inj came).symm (mapError_ne answer nofun)

/-- A call gets its outcome with an event. -/
def Ends (sys : System) (event : Event) (number : Nat) (outcome : CallOutcome) : Prop :=
  ∃ c later, sys.calls[number]? = some c ∧ c.outcome? = none ∧
    (sys.next event).calls[number]? = some later ∧ later.outcome? = some outcome

/-- An event leaves alone all calls but one, and the connection. -/
structure LeavesOthers (sys sys' : System) (number : Nat) : Prop where
  calls : ∀ other, other ≠ number → sys'.calls[other]? = sys.calls[other]?
  pending : ∀ id call, call.number ≠ number →
    (sys'.link.pending.get? id = some call ↔ sys.link.pending.get? id = some call)
  connection : sys'.link.writer = sys.link.writer ∧ sys'.link.generation = sys.link.generation

theorem get?_erase_iff {pending : SortedMap UInt64 PendingCall} {id : UInt64}
    {call : PendingCall} (found : pending.get? id = some call) {id' : UInt64} {other : PendingCall}
    (differs : other.number ≠ call.number) :
    (pending.erase id).get? id' = some other ↔ pending.get? id' = some other
  := by
  rw [SortedMap.get?_erase]
  split
  next same =>
    rw [same, found]
    constructor
    · rintro ⟨⟩
    · rintro ⟨⟩
      contradiction
  next => rfl

theorem getElem?_modify_of_ne {calls : List CallRecord} {n : Nat} (differs : number ≠ n)
    (progress : Progress) :
    (calls.modify n (.to progress))[number]? = calls[number]?
  := by
  rw [List.getElem?_modify]
  simp [differs.symm]

/-- A frame concerns one call at most, and so does a caller who looks for an outcome. -/
theorem Goes.exists_leavesOthers (goes : Goes sys event sys') (matched : Matched sys)
    (single : (∃ frame, event = .received frame) ∨ ∃ n, event = .looked n) :
    ∃ n, LeavesOthers sys sys' n
  := by
  cases goes with
  | aside =>
    use 0
    constructor <;> intros <;> trivial
  | @answered frame id answer call message found =>
    use call.number
    constructor
    · intro other differs
      apply getElem?_modify_of_ne differs
    · intro id' other differs
      apply get?_erase_iff found differs
    · trivial
  | @expired n c found waits =>
    obtain ⟨id, generation, method, progress⟩ := c
    obtain rfl : progress = .waiting := waits
    have listed := (matched.lists id ⟨n, generation, method⟩).2 found
    use n
    constructor
    · intro other differs
      apply getElem?_modify_of_ne differs
    · intro id' other differs
      apply get?_erase_iff listed differs
    · trivial
  | @looked n c outcome found ended =>
    use n
    constructor
    · intro other differs
      apply getElem?_modify_of_ne differs
    · intros
      rfl
    · trivial
  | _ => obtain ⟨_, ⟨⟩⟩ | ⟨_, ⟨⟩⟩ := single

theorem LeavesOthers.eq {n : Nat} (leaves : LeavesOthers sys sys' n)
    (changed : sys'.calls[number]? ≠ sys.calls[number]?) :
    number = n
  := by
  by_contra differs
  apply changed (leaves.calls number differs)

/-- A frame ends one call at most. -/
theorem Matched.eq_of_received (matched : Matched sys) {frame : Except Frame.Error Frame}
    {other : Nat} (changed : (sys.next (.received frame)).calls[number]? ≠ sys.calls[number]?)
    (changed' : (sys.next (.received frame)).calls[other]? ≠ sys.calls[other]?) :
    number = other
  := by
  obtain ⟨n, leaves⟩ := (goes_next matched.current (.received frame)).exists_leavesOthers matched
    (.inl ⟨frame, rfl⟩)
  rw [leaves.eq changed, leaves.eq changed']

/-- A call that ends with an answer, a fault or a timeout concerns no other call. -/
theorem Matched.leavesOthers (matched : Matched sys) {outcome : CallOutcome}
    (ends : Ends sys event number outcome) (answered : outcome ≠ .error .disconnected) :
    LeavesOthers sys (sys.next event) number
  := by
  obtain ⟨c, later, made, unended, found, came⟩ := ends
  have single : (∃ frame, event = .received frame) ∨ ∃ n, event = .looked n := by
    obtain ⟨later', found', becomes⟩ := matched.becomes made event
    obtain rfl := Option.some.inj (found'.symm.trans found)
    cases becomes with
    | kept => cases unended.symm.trans came
    | answered waits message => exact .inl ⟨_, rfl⟩
    | expired => exact .inr ⟨_, rfl⟩
    | looked => exact .inr ⟨_, rfl⟩
    | _ => apply absurd (Option.some.inj came).symm answered
  obtain ⟨n, leaves⟩ := (goes_next matched.current event).exists_leavesOthers matched single
  have changed : (sys.next event).calls[number]? ≠ sys.calls[number]? := by
    rw [found, made]
    intro same
    rw [Option.some.inj same, unended] at came
    cases came
  rw [leaves.eq changed]
  apply leaves

/-- Along every run a call that has an outcome keeps it, and so does its caller.  An answer or a
fault came in a frame with the id of the call, on the connection on which the call was sent, while
it waited.  No frame ends two calls, and what ends a call with an answer, a fault or a timeout
leaves alone all others.  The link lists the calls that were sent and have no outcome, each under
its id, and nothing else. -/
theorem calls_end_once (events : List Event) :
    let now := after events
    (∀ (more : List Event) (number : Nat) (c : CallRecord), now.calls[number]? = some c →
        ∃ later, (now.run more).calls[number]? = some later ∧ c.Leads later) ∧
      (∀ number c answer, now.calls[number]? = some c →
        c.outcome? = some (answer.mapError .controlFault) →
          ∃ earlier frame, earlier ++ [.received (.ok frame)] <+: events ∧
            Answers (after earlier) number c frame answer) ∧
      (∀ (frame : Except Frame.Error Frame) (number other : Nat),
        let heard := now.next (.received frame)
        heard.calls[number]? ≠ now.calls[number]? → heard.calls[other]? ≠ now.calls[other]? →
          number = other) ∧
      (∀ event number outcome, Ends now event number outcome →
        outcome ≠ .error .disconnected → LeavesOthers now (now.next event) number) ∧
      ∀ id call, now.link.pending.get? id = some call ↔
        now.calls[call.number]? = some ⟨id, call.generation, call.method, .waiting⟩
  := by
  intro now
  have matched : Matched now := matched_after events
  and_intros
  · intro more number c made
    apply matched.leads made
  · intro number c answer made came
    apply exists_answers made came
  · intro frame number other heard changed changed'
    apply matched.eq_of_received changed changed'
  · intro event number outcome ends answered
    apply matched.leavesOthers ends answered
  · apply matched.lists

end

/-- The answer to the second call. -/
def secondAnswer : Frame := SortedMap.ofList [("id", .ofNat 2), ("result", .null)]

/-- Two calls are sent, and the second one is answered first. -/
def answersSecond : List Event :=
  [.attached 0, .called ⟨"slow", .null⟩ true, .called ⟨"quick", .null⟩ true,
    .received (.ok secondAnswer)]

/-- The second call was answered, and the first one is given up without harm to it. -/
theorem calls_end_once_answersSecond :
    let now := after answersSecond
    let quick : CallRecord := ⟨2, 0, "quick", .ended (.ok .null)⟩
    now.calls[1]? = some quick ∧
      (∃ earlier frame, earlier ++ [.received (.ok frame)] <+: answersSecond ∧
        Answers (after earlier) 1 quick frame (.ok .null)) ∧
      Ends now (.looked 0) 0 (.error (.timeout "slow")) ∧
      (now.next (.looked 0)).calls[1]? = some quick
  := by
  intro now quick
  have answered : now.calls[1]? = some quick := rfl
  have ends : Ends now (.looked 0) 0 (.error (.timeout "slow")) := ⟨_, _, rfl, rfl, rfl, rfl⟩
  obtain ⟨-, own, -, others, -⟩ := calls_end_once answersSecond
  and_intros
  · apply answered
  · apply own 1 quick (.ok .null) answered rfl
  · apply ends
  · rw [← answered]
    apply (others _ _ _ ends nofun).calls
    decide

end System

end ControlRelay.Link
