import ControlRelay.Proofs.Link.Reading
import ControlRelay.Proofs.Link.Serving

/-!
# The wires of a relay

The process that reads a wire takes the turns of a life, and what the link reports goes to the
channel of events, in order and all at once with the step that reports it.
-/

namespace ControlRelay

/-- The channel when more was sent; what nobody can take any more is dropped. -/
def Inbox.sent {α : Type} (inbox : Inbox α) (items : List α) : Inbox α :=
  if inbox.hasReader then { inbox with items := inbox.items ++ items } else inbox

theorem Inbox.sent_nil {α : Type} (inbox : Inbox α) :
    inbox.sent [] = inbox
  := by
  unfold sent
  split
  next => rw [List.append_nil]
  next => rfl

theorem Inbox.sent_append {α : Type} (inbox : Inbox α) (items more : List α) :
    inbox.sent (items ++ more) = (inbox.sent items).sent more
  := by
  obtain ⟨waiting, hasReader, hasSender⟩ := inbox
  cases hasReader with
  | false => rfl
  | true => simp [sent]

namespace Relay

open Link

section

variable {r : Relay} {k : Nat} {life : Life}

theorem foldl_linkOutput (r : Relay) (outputs : List LinkOutput) :
    (outputs.foldl linkOutput r).wires = r.wires ∧
      (outputs.foldl linkOutput r).events = r.events.sent (reported outputs)
  := by
  induction outputs generalizing r with
  | nil => exact ⟨rfl, r.events.sent_nil.symm⟩
  | cons output outputs ih =>
    obtain ⟨wires, events⟩ := ih (r.linkOutput output)
    have first : (r.linkOutput output).wires = r.wires ∧
        (r.linkOutput output).events = r.events.sent (reported [output])
      := by
      cases output with
      | outcome => exact ⟨rfl, r.events.sent_nil.symm⟩
      | event event =>
        cases reads : r.events.hasReader <;>
          simp [linkOutput, Inbox.sent, reads, reported, LinkOutput.event?, raise]
    rw [List.foldl_cons, wires, events, first.1, first.2, ← Inbox.sent_append]
    constructor
    · rfl
    · rw [reported, reported, reported, ← List.filterMap_append]
      rfl

/-- A step of the link sends what it reports. -/
theorem onLink_wires_events (r : Relay) (step : Link → Link.Step) :
    (r.onLink step).wires = r.wires ∧
      (r.onLink step).events = r.events.sent (reported (step r.link).2)
  := by
  have sends := foldl_linkOutput { r with link := (step r.link).1 } (step r.link).2
  unfold onLink
  dsimp only
  split
  next =>
    split <;> exact sends
  next => exact sends

/-- The relay reads a wire as the life reads its last connection. -/
structure Reads (r : Relay) (k : Nat) (life : Life) : Prop where
  shows : Shows r life.sys
  inside : k < r.wires.length
  isRead : (r.wire k).isRead = decide (life.last.stage = .goesOn)
  generation : (r.wire k).generation = life.last.generation
  decoder : (r.wire k).decoder = life.last.decoder

theorem wire_onWire (inside : k < r.wires.length) (f : Wire → Wire) :
    (r.onWire k f).wire k = f (r.wire k)
  := by
  simp [wire, onWire, List.getD, inside]

/-- The relay reads on when one wire was changed as the life's last connection was. -/
theorem reads_of_wires {r' : Relay} (inside : k < r.wires.length) (shows : Shows r' life.sys)
    (f : Wire → Wire) (wires : r'.wires = (r.onWire k f).wires)
    (isRead : (f (r.wire k)).isRead = decide (life.last.stage = .goesOn))
    (generation : (f (r.wire k)).generation = life.last.generation)
    (decoder : (f (r.wire k)).decoder = life.last.decoder) :
    Reads r' k life
  := by
  have same : r'.wire k = f (r.wire k) := by
    rw [← wire_onWire inside f, wire, wires, wire]
  use shows
  · rw [wires, onWire, List.length_modify]
    apply inside
  · rw [same, isRead]
  · rw [same, generation]
  · rw [same, decoder]

section

variable (reads : Reads r k life)

include reads

/-- What comes next is handed to the link. -/
theorem Reads.handed (orderly : life.Orderly) {result : Frame.Outcome}
    (given : life.last.outcome? = some result) :
    let r' := (r.onWire k fun w => { w with decoder := life.last.decoder.next.2 }).onLink
      (·.receiveFrame result)
    Reads r' k (life.run [.handed]) ∧
      r'.events = r.events.sent (life.sys.reportsOf (life.eventsOf [.handed]))
  := by
  intro r'
  have events : life.events .handed = [.received result] := by rw [Life.events, given]; rfl
  have last : (life.next .handed).last = life.last.hand result := by
    rw [Life.last_next rfl, Reading.after, given]
    rfl
  obtain ⟨wires, sends⟩ := onLink_wires_events
    (r.onWire k fun w => { w with decoder := life.last.decoder.next.2 }) (·.receiveFrame result)
  have shows : Shows r' (life.next .handed).sys := by
    rw [Life.next, events]
    apply (reads.shows.onWire k _).onLink (·.receiveFrame result)
    apply orderly.matched.known_receiveFrame
  constructor
  · apply reads_of_wires reads.inside shows _ wires
    · rw [reads.isRead, last, Reading.hand]
    · rw [reads.generation, last, Reading.hand]
    · rw [last, Reading.hand]
  · rw [sends, Life.eventsOf, events]
    simp [System.reportsOf, Life.eventsOf, System.reports, System.outputs, onWire, reads.shows.link]

/-- More bytes are read, or none. -/
theorem Reads.arrived (drained : life.last.isDrained = true) (bytes : List UInt8)
    (f : Wire → Wire) (isRead : (f (r.wire k)).isRead = (r.wire k).isRead)
    (generation : (f (r.wire k)).generation = (r.wire k).generation)
    (decoder : (f (r.wire k)).decoder = life.last.decoder.next.2.extend bytes) :
    Reads (r.onWire k f) k (life.run [.arrived bytes])
  := by
  have last : (life.next (.arrived bytes)).last = life.last.read bytes := by
    rw [Life.last_next rfl, Reading.after, if_pos drained]
  have shows : Shows (r.onWire k f) (life.next (.arrived bytes)).sys := reads.shows.onWire k f
  apply reads_of_wires reads.inside shows f rfl
  · rw [isRead, reads.isRead, last, Reading.read]
  · rw [generation, reads.generation, last, Reading.read]
  · rw [decoder, last, Reading.read]

/-- The end of the wire is read. -/
theorem Reads.ended (orderly : life.Orderly) (drained : life.last.isDrained = true) :
    let r' := ((r.onLink (·.lose (r.wire k).generation)).onWire k
      fun w => { w with isRead := false }).raise (.unread k)
    Reads r' k (life.run [.ended]) ∧
      r'.events = r.events.sent (life.sys.reportsOf (life.eventsOf [.ended]))
  := by
  intro r'
  have events : life.events .ended = [.lost (r.wire k).generation] := by
    rw [reads.generation, Life.events, if_pos drained]
  have last : (life.next .ended).last = { life.last with stage := .ended } := by
    rw [Life.last_next rfl, Reading.after, if_pos drained]
  obtain ⟨wires, sends⟩ := onLink_wires_events r (·.lose (r.wire k).generation)
  have shows : Shows r' (life.next .ended).sys := by
    have lost := reads.shows.onLink (·.lose (r.wire k).generation) (orderly.matched.known_lose _)
    rw [Life.next, events]
    apply (lost.onWire k _).raise
  constructor
  · apply reads_of_wires reads.inside shows fun w => { w with isRead := false }
    · dsimp only [r', raise, onWire]
      rw [wires]
    · rw [last]
      rfl
    · rw [reads.generation, last]
    · rw [reads.decoder, last]
  · rw [Life.eventsOf, events]
    apply sends.trans
    simp [System.reportsOf, Life.eventsOf, System.reports, System.outputs, reads.shows.link]

/-- The process that reads the wire takes a turn of the life at most, and what the link reports is
sent. -/
theorem Reads.readStep (orderly : life.Orderly) :
    ∃ turns, turns.length ≤ 1 ∧ Reads (Action.readStep k r).1 k (life.run turns) ∧
      (Action.readStep k r).1.events = r.events.sent (life.sys.reportsOf (life.eventsOf turns))
  := by
  dsimp only [Action.readStep]
  split
  next closed =>
    use [], Nat.zero_le 1, reads
    apply (Inbox.sent_nil _).symm
  next opened =>
    have going : life.last.stage = .goesOn := by simpa [reads.isRead] using opened
    rw [reads.decoder]
    split
    next result rest next =>
      have given : life.last.outcome? = some result := by rw [Reading.outcome?, if_pos going, next]
      obtain rfl : life.last.decoder.next.2 = rest := by rw [next]
      exact ⟨[.handed], Nat.le_refl 1, reads.handed orderly given⟩
    next rest next =>
      have drained : life.last.isDrained = true := by simp [Reading.isDrained, going, next]
      obtain rfl : life.last.decoder.next.2 = rest := by rw [next]
      split
      next =>
        use [.arrived ((r.wire k).incoming.take Wire.chunkSize)], Nat.le_refl 1
        exact ⟨reads.arrived drained _ _ rfl rfl rfl, (Inbox.sent_nil _).symm⟩
      next =>
        split
        next => exact ⟨[.ended], Nat.le_refl 1, reads.ended orderly drained⟩
        next =>
          use [.arrived []], Nat.le_refl 1
          constructor
          · apply reads.arrived drained _ _ rfl rfl
            rw [Frame.Decoder.extend, List.append_nil]
          · apply (Inbox.sent_nil _).symm

end

end

end Relay

end ControlRelay
