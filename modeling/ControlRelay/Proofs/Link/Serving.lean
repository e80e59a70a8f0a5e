import ControlRelay.Proofs.Link.System
import ControlRelay.Relay.Connecting

/-!
# The link of a relay

A relay takes the steps of its link for callers and for whoever serves a wire, and keeps the
outcomes of the calls that have ended until their callers look.  Each of these actions does to the
link and to the outcomes what the event of the system does: the beginning of a call, the look of
its caller, and every step for a wire.
-/

namespace ControlRelay

namespace Link

/-- The outcome at which the caller has not looked. -/
def CallRecord.unread? (c : CallRecord) : Option CallOutcome :=
  match c.progress with
  | .ended outcome => some outcome
  | _ => none

namespace System

section

variable {sys : System}

/-- All calls that have ended according to these outputs were begun. -/
def Known (sys : System) (outputs : List LinkOutput) : Prop :=
  ∀ number outcome, .outcome number outcome ∈ outputs → number < sys.calls.length

theorem Matched.lt_length (matched : Matched sys) {id : UInt64} {call : PendingCall}
    (listed : sys.link.pending.get? id = some call) :
    call.number < sys.calls.length
  := by
  obtain ⟨inside, -⟩ := List.getElem?_eq_some_iff.1 ((matched.lists id call).1 listed)
  apply inside

theorem Matched.known_dropping (matched : Matched sys) {dropped : List PendingCall}
    (listed : ∀ call ∈ dropped, ∃ id, sys.link.pending.get? id = some call) :
    Known sys (dropping dropped)
  := by
  intro number outcome mem
  obtain ⟨call, found, same⟩ := List.mem_map.1 mem
  obtain ⟨rfl, -⟩ := LinkOutput.outcome.inj same
  obtain ⟨id, listed⟩ := listed call found
  apply matched.lt_length listed

theorem known_of_silent {outputs : List LinkOutput}
    (silent : ∀ number outcome, .outcome number outcome ∉ outputs) :
    Known sys outputs
  := fun number outcome mem => absurd mem (silent number outcome)

theorem Known.append {outputs more : List LinkOutput} (known : Known sys outputs)
    (rest : Known sys more) :
    Known sys (outputs ++ more)
  := by
  intro number outcome mem
  cases List.mem_append.1 mem with
  | inl mem => apply known number outcome mem
  | inr mem => apply rest number outcome mem

theorem Matched.known_receiveFrame (matched : Matched sys) (frame : Except Frame.Error Frame) :
    Known sys (sys.link.receiveFrame frame).2
  := by
  unfold receiveFrame
  split
  next =>
    split
    next message _ =>
      cases message with
      | push push => apply known_of_silent (quiet_receivePush _ _).silent
      | response id answer =>
        dsimp only [receive, receiveResponse]
        split
        next => apply known_of_silent (quiet_nothing sys.link).silent
        next call listed =>
          rw [if_neg (not_not.2 (matched.current id call listed))]
          apply (known_of_silent (quiet_adoptStatus _ _ _).silent).append
          rintro number outcome mem
          obtain ⟨rfl, -⟩ := LinkOutput.outcome.inj (List.mem_singleton.1 mem)
          apply matched.lt_length listed
    next => apply known_of_silent (quiet_nothing sys.link).silent
  next => apply known_of_silent (quiet_nothing sys.link).silent

theorem Matched.known_lose (matched : Matched sys) (generation : Nat) :
    Known sys (sys.link.lose generation).2
  := by
  unfold lose
  split
  next => apply known_of_silent (quiet_nothing sys.link).silent
  next =>
    apply Known.append _ (known_of_silent (quiet_setStatus _ _).silent)
    apply matched.known_dropping
    intro call listed
    apply SortedMap.mem_values_iff.1 listed

theorem Matched.known_call (matched : Matched sys) (method : String) (params : Json)
    (canSend : Nat → Bool) :
    Known sys (sys.link.call method params canSend).1.2
  := by
  have known : Known sys (dropping (sys.link.pending.get? sys.link.ids.current).toList) := by
    apply matched.known_dropping
    intro call listed
    use sys.link.ids.current, Option.mem_toList.1 listed
  unfold Link.call
  dsimp only
  split
  next => apply known_of_silent (quiet_nothing sys.link).silent
  next =>
    split
    next => apply known
    next => apply known

end

end System

end Link

namespace Relay

open Link.System

/-- The outcome kept for a call. -/
def outcomeOf? (r : Relay) (number : Nat) : Option CallOutcome :=
  (r.outcomes.find? (·.1 = number)).map (·.2)

/-- The relay has the link of a system and keeps the outcomes at which callers have not looked. -/
structure Shows (r : Relay) (sys : Link.System) : Prop where
  link : r.link = sys.link
  outcomes : ∀ number, r.outcomeOf? number = sys.calls[number]?.bind Link.CallRecord.unread?

section

variable {r : Relay} {sys : Link.System}

theorem Shows.linkOutput (shows : Shows r sys) {output : LinkOutput}
    (known : Known sys [output]) :
    Shows (r.linkOutput output) ⟨sys.link, noted sys.calls output⟩
  := by
  cases output with
  | outcome n outcome =>
    have inside : n < sys.calls.length := known n outcome List.mem_cons_self
    constructor
    · apply shows.link
    · intro number
      have before := shows.outcomes number
      rw [noted, List.getElem?_modify]
      by_cases same : n = number
      · rw [← same] at before ⊢
        rw [List.getElem?_eq_getElem inside]
        simp [outcomeOf?, Relay.linkOutput, raise]
        rfl
      · simpa [outcomeOf?, Relay.linkOutput, raise, same] using before
  | event event =>
    rw [Relay.linkOutput]
    split
    next => use shows.link, shows.outcomes
    next => use shows.link, shows.outcomes

theorem Shows.linkOutputs {outputs : List LinkOutput} (shows : Shows r sys)
    (known : Known sys outputs) :
    Shows (outputs.foldl Relay.linkOutput r) ⟨sys.link, outputs.foldl noted sys.calls⟩
  := by
  induction outputs generalizing r sys with
  | nil => apply shows
  | cons output outputs ih =>
    have first : Known sys [output] := by
      intro number outcome mem
      obtain rfl := List.mem_singleton.1 mem
      apply known number outcome List.mem_cons_self
    apply ih (shows.linkOutput first)
    intro number outcome mem
    apply Nat.lt_of_lt_of_eq (known number outcome (List.mem_cons_of_mem _ mem))
    apply (length_noted sys.calls [output]).symm

theorem Shows.onWire (shows : Shows r sys) (wire : Nat) (f : Wire → Wire) :
    Shows (r.onWire wire f) sys
  := ⟨shows.link, shows.outcomes⟩

theorem Shows.raise (shows : Shows r sys) (signal : Signal) :
    Shows (r.raise signal) sys
  := ⟨shows.link, shows.outcomes⟩

/-- A step of the link for a wire is the step of the system. -/
theorem Shows.onLink (shows : Shows r sys) (step : Link → Link.Step)
    (known : Known sys (step sys.link).2) :
    Shows (r.onLink step) (sys.stepped (step sys.link))
  := by
  have moved : Shows { r with link := (step sys.link).1 } ⟨(step sys.link).1, sys.calls⟩ :=
    ⟨rfl, shows.outcomes⟩
  have shown := moved.linkOutputs known
  unfold Relay.onLink
  rw [shows.link]
  dsimp only
  split
  next =>
    split
    next => apply shown
    next => apply shown.raise
  next => apply shown

/-- A call that waits, or whose caller has its outcome, is nothing to look at. -/
theorem Shows.concat {link : Link} {calls : List Link.CallRecord} {c : Link.CallRecord}
    (shows : Shows r ⟨link, calls⟩) (unread : c.unread? = none) :
    Shows r ⟨link, calls ++ [c]⟩
  := by
  constructor
  · apply shows.link
  · intro number
    rw [shows.outcomes number, List.getElem?_append, List.getElem?_singleton]
    split
    next => rfl
    next outside =>
      rw [List.getElem?_eq_none (Nat.not_lt.1 outside)]
      split
      next => apply unread.symm
      next => rfl

theorem exists_takesFrames (r : Relay) (l : Link) (call : Control.Call) :
    ∃ takesFrames, l.call call.method call.params (fun w => (r.wire w).isWritten) =
      l.call call.method call.params fun _ => takesFrames
  := by
  cases writer : l.writer with
  | none =>
    use true
    simp [Link.call, writer]
  | some w =>
    use (r.wire w).isWritten
    simp [Link.call, writer]

theorem sent_of_call {l : Link} {call : Control.Call} {canSend : Nat → Bool} {sent : SentCall}
    (sends : (l.call call.method call.params canSend).2 = .ok sent) :
    sent.number = l.count ∧ sent.request = ⟨l.ids.current, call.method, call.params⟩
  := by
  unfold Link.call at sends
  dsimp only at sends
  split at sends
  next => cases sends
  next =>
    split at sends
    next =>
      cases sends
      constructor <;> rfl
    next => cases sends

/-- To begin a call on a relay is to begin it in the system, and its caller knows its record. -/
theorem Shows.beginCall (shows : Shows r sys) (matched : Matched sys) (call : Control.Call)
    (timeout : Nat) :
    ∃ takesFrames,
      let begun := Action.beginCall r call timeout
      let sys' := sys.begin call takesFrames
      Shows begun.1 sys' ∧
        (∀ sent deadline, begun.2 = .ok (sent, deadline) →
          sys'.calls[sent.number]? =
            some ⟨sent.request.id, sys.link.generation, sent.request.method, .waiting⟩) ∧
        ∀ error, begun.2 = .error error →
          sys'.calls[sys.calls.length]? =
            some ⟨sys.link.ids.current, sys.link.generation, call.method,
              .returned (.error error)⟩
  := by
  obtain ⟨takesFrames, same⟩ := exists_takesFrames r sys.link call
  use takesFrames
  have known := matched.known_call call.method call.params fun _ => takesFrames
  have sends {sent : SentCall} := @sent_of_call sys.link call (fun _ => takesFrames) sent
  unfold Action.beginCall Link.System.begin
  rw [shows.link, same]
  generalize sys.link.call call.method call.params _ = result at known sends ⊢
  obtain ⟨⟨link, outputs⟩, begun⟩ := result
  have moved : Shows { r with link } ⟨link, sys.calls⟩ := ⟨rfl, shows.outcomes⟩
  have shown := moved.linkOutputs known
  cases begun with
  | error e =>
    refine ⟨shown.concat rfl, ?_, ?_⟩
    · rintro sent deadline ⟨⟩
    · rintro error ⟨⟩
      apply getElem?_concat_iff.2
      right
      use (length_noted _ _).symm
  | ok sent =>
    refine ⟨(shown.onWire _ _).raise _ |>.concat rfl, ?_, ?_⟩
    · rintro sent deadline ⟨⟩
      obtain ⟨number, request⟩ := sends rfl
      rw [number, request, matched.count]
      apply getElem?_concat_iff.2
      right
      use (length_noted _ _).symm
    · rintro error ⟨⟩

theorem find?_filter_ne (outcomes : List (Nat × CallOutcome)) (number other : Nat) :
    (outcomes.filter (·.1 ≠ number)).find? (·.1 = other) =
      if number = other then none else outcomes.find? (·.1 = other)
  := by
  rw [List.find?_filter]
  split
  next same =>
    apply List.find?_eq_none.2
    intro kept _
    simp [same]
  next differs =>
    congr 1
    funext kept
    by_cases found : kept.1 = other
    · simp [found, Ne.symm differs]
    · simp [found]

/-- A record whose caller has its outcome is nothing to look at. -/
theorem unread?_modify_returned (calls : List Link.CallRecord) (number other : Nat)
    (outcome : CallOutcome) :
    (calls.modify number (.to (.returned outcome)))[other]?.bind Link.CallRecord.unread? =
      if number = other then none else calls[other]?.bind Link.CallRecord.unread?
  := by
  rw [List.getElem?_modify]
  split
  next =>
    cases calls[other]? <;> rfl
  next =>
    cases calls[other]? <;> rfl

/-- When a caller looks, it gets the outcome that its record then holds. -/
theorem Shows.takeOutcome (shows : Shows r sys) {sent : SentCall} {generation : Nat}
    {progress : Link.Progress}
    (made : sys.calls[sent.number]? =
      some ⟨sent.request.id, generation, sent.request.method, progress⟩)
    (unread : ∀ outcome, progress ≠ .returned outcome) :
    let taken := Action.takeOutcome r sent
    Shows taken.1 (sys.look sent.number) ∧
      (sys.look sent.number).calls[sent.number]? =
        some ⟨sent.request.id, generation, sent.request.method, .returned taken.2⟩
  := by
  have kept := shows.outcomes sent.number
  rw [made] at kept
  cases progress with
  | waiting =>
    have absent : r.outcomes.find? (·.1 = sent.number) = none := Option.map_eq_none_iff.1 kept
    simp only [Action.takeOutcome, absent, Link.System.look, made]
    constructor
    · constructor
      · rw [shows.link]
      · intro number
        rw [unread?_modify_returned]
        split
        next same =>
          rw [← same]
          apply kept
        next => apply shows.outcomes
    · rw [List.getElem?_modify, made]
      simp [Link.CallRecord.to]
  | ended outcome =>
    obtain ⟨entry, found, same⟩ := Option.map_eq_some_iff.1 kept
    simp only [Action.takeOutcome, found, Link.System.look, made]
    constructor
    · constructor
      · apply shows.link
      · intro number
        rw [unread?_modify_returned, outcomeOf?, find?_filter_ne]
        split
        next => rfl
        next => apply shows.outcomes
    · rw [List.getElem?_modify, made]
      simp [Link.CallRecord.to, same]
  | returned outcome => apply absurd rfl (unread outcome)

/-- The process that reads a wire hands a frame to the link, reports the loss of the connection,
or does nothing that concerns calls. -/
theorem Shows.readStep (shows : Shows r sys) (matched : Matched sys) (wire : Nat) :
    ∃ events, (events = [] ∨ (∃ frame, events = [.received frame]) ∨
        events = [.lost (r.wire wire).generation]) ∧
      Shows (Action.readStep wire r).1 (sys.run events)
  := by
  dsimp only [Action.readStep]
  split
  next => exact ⟨[], .inl rfl, shows⟩
  next =>
    split
    next result decoder _ =>
      use [.received result], .inr (.inl ⟨result, rfl⟩)
      apply (shows.onWire wire _).onLink (·.receiveFrame result)
      apply matched.known_receiveFrame
    next =>
      split
      next => exact ⟨[], .inl rfl, shows.onWire wire _⟩
      next =>
        split
        next =>
          use [.lost (r.wire wire).generation], .inr (.inr rfl)
          have lost := shows.onLink (·.lose (r.wire wire).generation) (matched.known_lose _)
          exact ⟨lost.link, lost.outcomes⟩
        next => exact ⟨[], .inl rfl, shows.onWire wire _⟩

end

end Relay

end ControlRelay
