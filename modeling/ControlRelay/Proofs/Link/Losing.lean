import ControlRelay.Proofs.Link.Answering

/-!
# The loss of a connection

When the connection is lost, its generation ends and every call that waits on it fails.  A loss is
reported by its generation, so a report that comes again, or after the next connection was made,
changes nothing.  Without a connection every call fails at once.
-/

namespace ControlRelay.Link.System

section

variable {sys sys' : System} {event : Event} {number : Nat} {c : CallRecord}

/-! ### Reports of a loss -/

theorem next_lost_of_stale {generation : Nat}
    (stale : generation ≠ sys.link.generation ∨ sys.link.writer = none) :
    sys.next (.lost generation) = sys
  := by
  rw [next, lose_of_stale stale]
  rfl

/-- The link that has lost its connection. -/
structure Lost (sys sys' : System) : Prop where
  generation : sys'.link.generation = sys.link.generation + 1
  detached : sys'.link.writer = none
  pending : sys'.link.pending = ∅
  calls : sys'.calls = (dropping sys.link.pending.values).foldl noted sys.calls

theorem lost_next (attached : sys.link.writer ≠ none) :
    Lost sys (sys.next (.lost sys.link.generation))
  := by
  obtain ⟨status, lost⟩ := exists_stepped_lose attached
  rw [next, lost]
  constructor <;> rfl

/-- A call that waits ends with the loss of its connection. -/
theorem Lost.getElem?_calls (lost : Lost sys sys') (matched : Matched sys) {id : UInt64}
    {call : PendingCall} (listed : sys.link.pending.get? id = some call) :
    sys'.calls[call.number]? =
      some ⟨id, call.generation, call.method, .ended (.error .disconnected)⟩
  := by
  have mem : call.number ∈ sys.link.pending.values.map PendingCall.number := by
    apply List.mem_map_of_mem
    apply SortedMap.mem_values_iff.2
    use id
  rw [lost.calls, getElem?_dropping, if_pos mem, (matched.lists id call).1 listed]
  rfl

/-- The calls that are listed are all different ones. -/
theorem Matched.nodup_numbers (matched : Matched sys) :
    (sys.link.pending.values.map PendingCall.number).Nodup
  := by
  have ordered := sys.link.pending.ordered
  rw [SortedMap.values, List.map_map]
  apply List.pairwise_map.2
  apply List.Pairwise.imp_of_mem _ ordered
  rintro ⟨id, call⟩ ⟨id', call'⟩ mem mem' less same
  have record := (matched.lists id call).1 (SortedMap.get?_eq_some_iff.2 mem)
  have record' := (matched.lists id' call').1 (SortedMap.get?_eq_some_iff.2 mem')
  rw [show call.number = call'.number from same, record'] at record
  obtain rfl : id' = id := (CallRecord.mk.inj (Option.some.inj record)).1
  apply UInt64.lt_irrefl _ less

/-! ### Generations -/

theorem Goes.generation_le (goes : Goes sys event sys') :
    sys.link.generation ≤ sys'.link.generation
  := by
  cases goes with
  | lost => apply Nat.le_succ
  | _ => apply Nat.le_refl

theorem Matched.generation_le (matched : Matched sys) (events : List Event) :
    sys.link.generation ≤ (sys.run events).link.generation
  := by
  induction events generalizing sys with
  | nil => apply Nat.le_refl
  | cons event events ih =>
    apply Nat.le_trans (goes_next matched.current event).generation_le
    apply ih (matched.next event)

/-- Whether a connection is made with an event. -/
def connects (sys : System) : Event → Bool
  | .attached _ => sys.link.writer = none
  | _ => false

/-- How many connections are made during a list of events. -/
def connections (sys : System) : List Event → Nat
  | [] => 0
  | event :: events => (sys.connects event).toNat + (sys.next event).connections events

/-- How many connections were lost or are attached. -/
def attachments (sys : System) : Nat := sys.link.generation + sys.link.writer.toList.length

theorem Matched.attachments_next (matched : Matched sys) (event : Event) :
    (sys.next event).attachments = sys.attachments + (sys.connects event).toNat
  := by
  have goes := goes_next matched.current event
  cases event with
  | attached connection =>
    dsimp only [System.next, connects]
    cases writer : sys.link.writer with
    | none => simp [attachments, stepped, attach, writer]
    | some => simp
  | lost generation =>
    generalize sys.next (.lost generation) = sys' at goes ⊢
    cases goes with
    | aside => rfl
    | lost attached =>
      obtain ⟨connection, writer⟩ := Option.ne_none_iff_exists'.1 attached
      simp [attachments, connects, writer]
  | _ =>
    generalize sys.next _ = sys' at goes ⊢
    cases goes <;> rfl

/-- Every connection that is made is attached until it is lost, and it is lost once. -/
theorem Matched.attachments_run (matched : Matched sys) (events : List Event) :
    (sys.run events).attachments = sys.attachments + sys.connections events
  := by
  induction events generalizing sys with
  | nil => rfl
  | cons event events ih =>
    rw [connections, ← Nat.add_assoc, ← matched.attachments_next event]
    apply ih (matched.next event)

/-! ### Calls without a connection -/

theorem next_called_of_detached (detached : sys.link.writer = none) (call : Control.Call)
    (takesFrames : Bool) :
    sys.next (.called call takesFrames) =
      ⟨{ sys.link with ids := sys.link.ids.next.2, count := sys.link.count + 1 },
        sys.calls ++ [⟨sys.link.ids.current, sys.link.generation, call.method,
          .returned (.error .disconnected)⟩]⟩
  := by
  obtain ⟨⟨ids, count, generation, writer, pending, status⟩, calls⟩ := sys
  obtain rfl : writer = none := detached
  rfl

/-! ### Callers -/

/-- A caller who looks gets the outcome that has come. -/
theorem look_of_outcome {outcome : CallOutcome} (made : sys.calls[number]? = some c)
    (came : c.outcome? = some outcome) :
    (sys.next (.looked number)).calls[number]? = some (c.to (.returned outcome))
  := by
  obtain ⟨id, generation, method, progress⟩ := c
  cases progress with
  | waiting => cases came
  | ended =>
    obtain rfl := Option.some.inj came
    simp only [next, look, made]
    rw [getElem?_modify_of_some made, if_pos rfl]
  | returned =>
    obtain rfl := Option.some.inj came
    simp only [next, look, made]
    rfl

/-- A call that waited has failed, and its caller hears of that, whatever comes in between. -/
theorem Lost.fails (lost : Lost sys sys') (matched : Matched sys) (matched' : Matched sys')
    {id : UInt64} {call : PendingCall} (listed : sys.link.pending.get? id = some call)
    (more : List Event) :
    ∃ c, (sys'.run more).calls[call.number]? = some c ∧
      c.outcome? = some (.error .disconnected) ∧
      ((sys'.run more).next (.looked call.number)).calls[call.number]? =
        some (c.to (.returned (.error .disconnected)))
  := by
  obtain ⟨c, found, leads⟩ := matched'.leads (lost.getElem?_calls matched listed) more
  have failed := leads.outcome _ rfl
  use c, found, failed
  apply look_of_outcome found failed

/-- A late report of the loss changes nothing. -/
theorem Lost.next_late (lost : Lost sys sys') (matched' : Matched sys') {earlier : Nat}
    (le : earlier ≤ sys.link.generation) (more : List Event) :
    (sys'.run more).next (.lost earlier) = sys'.run more
  := by
  apply next_lost_of_stale
  left
  have above := matched'.generation_le more
  rw [lost.generation] at above
  apply Nat.ne_of_lt (Nat.lt_of_le_of_lt le above)

/-- For every state to which a run leads: when the connection of generation `g` is lost, the next
generation is `g + 1`, there is no connection and no call waits.  Every call that waited, each of
another caller, has failed, and its caller hears of that, whatever comes in between.  A report of
another generation changes nothing, nor does any while there is no connection, nor a late one of
this or an earlier generation.  So the generation counts the connections that were lost.  Without a
connection every call fails at once and none waits. -/
theorem lost_once (events : List Event) :
    let now := after events
    let generation := now.link.generation
    let lost := now.next (.lost generation)
    (now.link.writer ≠ none →
      lost.link.generation = generation + 1 ∧ lost.link.writer = none ∧ lost.link.pending = ∅ ∧
        (now.link.pending.values.map PendingCall.number).Nodup ∧
        (∀ (id : UInt64) (call : PendingCall), now.link.pending.get? id = some call →
          ∀ more : List Event, ∃ c, (lost.run more).calls[call.number]? = some c ∧
            c.outcome? = some (.error .disconnected) ∧
            ((lost.run more).next (.looked call.number)).calls[call.number]? =
              some (c.to (.returned (.error .disconnected)))) ∧
        ∀ (more : List Event) (earlier : Nat), earlier ≤ generation →
          (lost.run more).next (.lost earlier) = lost.run more) ∧
      (∀ other, other ≠ generation ∨ now.link.writer = none →
        now.link.lose other = (now.link, []) ∧ now.next (.lost other) = now) ∧
      generation + now.link.writer.toList.length = connections {} events ∧
      (now.link.writer = none →
        now.link.pending = ∅ ∧ ∀ (call : Control.Call) (takesFrames : Bool),
          let refused := now.next (.called call takesFrames)
          refused.link.writer = none ∧ refused.link.pending = ∅ ∧
            refused.calls = now.calls ++ [⟨now.link.ids.current, generation, call.method,
              .returned (.error .disconnected)⟩])
  := by
  intro now generation lost
  have matched : Matched now := matched_after events
  refine ⟨?_, ?_, ?_, ?_⟩
  · intro attached
    have loses : Lost now lost := lost_next attached
    have matched' : Matched lost := matched.next _
    refine ⟨loses.generation, loses.detached, loses.pending, matched.nodup_numbers, ?_, ?_⟩
    · intro id call listed more
      apply loses.fails matched matched' listed
    · intro more earlier le
      apply loses.next_late matched' le
  · intro other stale
    use lose_of_stale stale, next_lost_of_stale stale
  · have attachments : now.attachments = 0 + connections {} events :=
      (matched_after []).attachments_run events
    rw [Nat.zero_add] at attachments
    apply attachments
  · intro detached
    have none := matched.detached detached
    use none
    intro call takesFrames
    simp only [next_called_of_detached detached]
    exact ⟨detached, none, rfl⟩

end

/-- Two calls are sent. -/
def twoCalls : List Event :=
  [.attached 0, .called ⟨"slow", .null⟩ true, .called ⟨"quick", .null⟩ true]

/-- The next connection is made, the second call is answered on it, and the loss of the first
connection is reported again. -/
def reconnects : List Event := [.attached 1, .received (.ok secondAnswer), .lost 0]

/-- A call that has failed is not answered on the next connection. -/
theorem lost_once_reconnects :
    let now := after twoCalls
    let lost := now.next (.lost 0)
    let again := lost.run reconnects
    now.link.writer ≠ none ∧ now.link.pending.get? 2 = some ⟨1, 0, "quick"⟩ ∧
      lost.link.pending = ∅ ∧ again.link.writer = some 1 ∧ again.link.generation = 1 ∧
      ∃ c, again.calls[1]? = some c ∧ c.outcome? = some (.error .disconnected)
  := by
  intro now lost again
  have attached : now.link.writer ≠ none := nofun
  have listed : now.link.pending.get? 2 = some ⟨1, 0, "quick"⟩ := rfl
  obtain ⟨-, -, pending, -, fails, -⟩ := (lost_once twoCalls).1 attached
  obtain ⟨c, found, failed, -⟩ := fails 2 _ listed reconnects
  and_intros
  · apply attached
  · apply listed
  · apply pending
  · rfl
  · rfl
  · use c, found

end ControlRelay.Link.System
