import ControlRelay.Proofs.Frame.RoundTrip
import ControlRelay.Proofs.Link.Losing
import ControlRelay.Proofs.Link.Meaning
import ControlRelay.Relay.Connecting

/-!
# What a link makes of the bytes it reads

In the life of a link its connections are read one after the other.  The bytes of a connection come
in chunks of any size; its decoder gives out their frames, which are handed to the link one by one
before more is read, while callers take their turns in between.  A `Reading` keeps all that came on
one connection and all that was handed on, and a `Turn` of the life is an event of the system, or
none.
-/

namespace ControlRelay.Link

open ControlRelay.Frame

/-- How far the reading of a connection has come. -/
inductive Stage where
  | goesOn
  /-- Nothing more comes, and all that came was handed on. -/
  | ended
  /-- It was given up before that. -/
  | abandoned
  deriving DecidableEq

/-- What is read on one connection. -/
structure Reading where
  /-- The generation of the link when the connection was attached. -/
  generation : Nat := 0
  decoder : Decoder := default
  stage : Stage := .goesOn
  /-- The bytes that have come. -/
  stream : List UInt8 := []
  /-- What was handed to the link. -/
  handed : List Outcome := []

/-- What can happen next. -/
inductive Turn where
  | called (call : Control.Call) (takesFrames : Bool)
  | looked (number : Nat)
  | attached (connection : Nat)
  /-- Bytes of the connection are read. -/
  | arrived (bytes : List UInt8)
  /-- The next outcome is handed to the link. -/
  | handed
  /-- The end of the connection is read. -/
  | ended
  /-- The connection is given up. -/
  | abandoned

namespace Reading

/-- What the connection gives next. -/
def outcome? (c : Reading) : Option Outcome :=
  if c.stage = .goesOn then c.decoder.next.1 else none

/-- Whether more is to be read. -/
def isDrained (c : Reading) : Bool := c.stage = .goesOn && c.decoder.next.1.isNone

/-- More bytes are read. -/
def read (c : Reading) (bytes : List UInt8) : Reading :=
  { c with decoder := c.decoder.next.2.extend bytes, stream := c.stream ++ bytes }

/-- What comes next is handed on. -/
def hand (c : Reading) (outcome : Outcome) : Reading :=
  { c with decoder := c.decoder.next.2, handed := c.handed ++ [outcome] }

/-- The reading after a turn. -/
def after (c : Reading) : Turn → Reading
  | .arrived bytes => if c.isDrained then c.read bytes else c
  | .handed => (c.outcome?.map c.hand).getD c
  | .ended => if c.isDrained then { c with stage := .ended } else c
  | .abandoned => if c.stage = .goesOn then { c with stage := .abandoned } else c
  | _ => c

/-- The connection is read as its decoder says: what was handed on came of the bytes it has looked
at, and the end was not read before all was handed on. -/
structure Sound (c : Reading) : Prop where
  limit : c.decoder.limit = defaultLimit
  decoded : ∃ looked, c.stream = looked ++ c.decoder.fresh ∧
    Read defaultLimit looked c.handed c.decoder.scanned.reverse
  ended : c.stage = .ended → c.decoder.next.1 = none

section

variable {c : Reading} {outcome : Outcome}

theorem sound_new (generation : Nat) (stage : Stage) :
    Sound { generation, stage }
  := by
  constructor
  · rfl
  · use [], rfl
    apply read_nil
  · intro
    rfl

/-- To look for the next outcome is to look at more of the bytes that have come. -/
theorem Sound.look (sound : Sound c) :
    c.decoder.next.2.limit = defaultLimit ∧
      (∃ looked, c.stream = looked ++ c.decoder.next.2.fresh ∧
        Read defaultLimit looked (c.handed ++ c.decoder.next.1.toList)
          c.decoder.next.2.scanned.reverse) ∧
      (c.decoder.next.1 = none → c.decoder.next.2.fresh = [])
  := by
  have next : c.decoder.next = (c.decoder.next.1, c.decoder.next.2) := rfl
  obtain ⟨looked, stream, read⟩ := sound.decoded
  rw [← sound.limit] at read
  obtain ⟨limit, ⟨more, fresh, read⟩, finished⟩ := Decoder.read_advance next read
  rw [sound.limit] at limit read
  use limit, ⟨looked ++ more, by rw [stream, fresh, List.append_assoc], read⟩
  intro nothing
  apply (finished nothing).1

theorem Sound.read (sound : Sound c) (drained : c.isDrained = true) (bytes : List UInt8) :
    Sound (c.read bytes)
  := by
  obtain ⟨going, nothing⟩ := Bool.and_eq_true_iff.1 drained
  obtain ⟨limit, ⟨looked, stream, read⟩, finished⟩ := sound.look
  rw [Option.isNone_iff_eq_none.1 nothing] at finished read
  constructor
  · apply limit
  · use c.stream
    dsimp only [Reading.read, Decoder.extend]
    rw [finished rfl, List.append_nil] at stream
    rw [Option.toList_none, List.append_nil] at read
    rw [finished rfl, stream]
    exact ⟨rfl, read⟩
  · intro ended
    cases (of_decide_eq_true going).symm.trans ended

theorem Sound.hand (sound : Sound c) (next : c.outcome? = some outcome) :
    Sound (c.hand outcome)
  := by
  obtain ⟨going, given⟩ := Option.ite_none_right_eq_some.1 next
  obtain ⟨limit, ⟨looked, stream, read⟩, -⟩ := sound.look
  rw [given] at read
  constructor
  · apply limit
  · exact ⟨looked, stream, read⟩
  · intro ended
    cases going.symm.trans ended

theorem Sound.after (sound : Sound c) (turn : Turn) :
    Sound (c.after turn)
  := by
  cases turn with
  | arrived bytes =>
    dsimp only [Reading.after]
    split
    next drained => apply sound.read drained
    next => apply sound
  | handed =>
    dsimp only [Reading.after]
    cases next : c.outcome? with
    | none => apply sound
    | some outcome => apply sound.hand next
  | ended =>
    dsimp only [Reading.after]
    split
    next drained =>
      use sound.limit, sound.decoded
      intro
      apply Option.isNone_iff_eq_none.1 (Bool.and_eq_true_iff.1 drained).2
    next => apply sound
  | abandoned =>
    dsimp only [Reading.after]
    split
    next =>
      use sound.limit, sound.decoded
      rintro ⟨⟩
    next => apply sound
  | _ => apply sound

/-- If the segments that have come fit into the decoder, what was handed on, together with what the
decoder still gives, are the outcomes of the segments, each read alone. -/
theorem Sound.handed_append_drain (sound : Sound c)
    (fits : ∀ segment ∈ segments c.stream, segment.length ≤ defaultLimit)
    (rest_fits : (unterminated c.stream).length ≤ defaultLimit) :
    c.handed ++ c.decoder.drain.1 =
      (segments c.stream).flatMap fun segment => alone segment terminator
  := by
  obtain ⟨looked, stream, read⟩ := sound.decoded
  have drained := (Decoder.settled_drain sound.limit read).read
  rw [← stream] at drained
  obtain ⟨groups, dropped, given, yields, -, -, overlong⟩ := drained
  have none_dropped : dropped = 0 := by
    by_contra some_dropped
    apply Nat.not_lt.2 rest_fits (overlong some_dropped)
  have each := (List.forall₂_and_left _ _).2 ⟨fits, yields⟩
  have same : List.Forall₂ (· = ·)
      ((segments c.stream).map fun segment => alone segment terminator) groups
    := by
    apply List.forall₂_map_left_iff.2
    apply each.imp
    rintro segment group ⟨short, yields⟩
    symm
    apply yields.1 short terminator rfl
  rw [List.forall₂_eq_eq_eq] at same
  rw [given, none_dropped, List.flatMap, same]
  apply List.append_nil

end

end Reading

/-- A link with its calls and the connections that were made to it. -/
structure Life where
  sys : System := {}
  /-- The connections before the last one, in order. -/
  past : List Reading := []
  /-- The last connection; before the first one is made, nothing is read. -/
  last : Reading := { stage := .ended }

namespace Life

/-- The events of the system for a turn. -/
def events (life : Life) : Turn → List Event
  | .called call takesFrames => [.called call takesFrames]
  | .looked number => [.looked number]
  | .attached connection => if life.sys.link.writer = none then [.attached connection] else []
  | .arrived _ => []
  | .handed => life.last.outcome?.toList.map .received
  | .ended => if life.last.isDrained then [.lost life.last.generation] else []
  | .abandoned => if life.last.stage = .goesOn then [.lost life.sys.link.generation] else []

/-- Whether a connection is made with a turn. -/
def connects (life : Life) : Turn → Bool
  | .attached _ => life.sys.link.writer = none
  | _ => false

/-- All connections, in order. -/
def readings (life : Life) : List Reading := life.past ++ [life.last]

/-- The life after a turn. -/
def next (life : Life) (turn : Turn) : Life where
  sys := life.sys.run (life.events turn)
  past := if life.connects turn then life.readings else life.past
  last :=
    if life.connects turn then { generation := life.sys.link.generation }
    else life.last.after turn

/-- The life after a list of turns. -/
def run (life : Life) (turns : List Turn) : Life := turns.foldl next life

/-- The events of the system during a list of turns. -/
def eventsOf (life : Life) : List Turn → List Event
  | [] => []
  | turn :: turns => life.events turn ++ (life.next turn).eventsOf turns

/-- What was handed to the link on all connections, in order. -/
def handed (life : Life) : List Outcome := life.readings.flatMap Reading.handed

/-- The link has a connection exactly while it reads one, in its own generation, and it reads as its
decoders say. -/
structure Orderly (life : Life) : Prop where
  matched : life.sys.Matched
  sound : ∀ c ∈ life.readings, c.Sound
  attached : life.last.stage = .goesOn ↔ life.sys.link.writer ≠ none
  generation : life.last.stage = .goesOn → life.last.generation = life.sys.link.generation

section

variable {life : Life}

theorem sys_run (turns : List Turn) :
    (life.run turns).sys = life.sys.run (life.eventsOf turns)
  := by
  induction turns generalizing life with
  | nil => rfl
  | cons turn turns ih =>
    rw [eventsOf, System.run, List.foldl_append, ← System.run, ← System.run, run, List.foldl_cons,
      ← run, ih]
    rfl

theorem matched_run {sys : System} (matched : sys.Matched) (events : List Event) :
    (sys.run events).Matched
  := by
  induction events generalizing sys with
  | nil => apply matched
  | cons event events ih => apply ih (matched.next event)

theorem Orderly.sound_next (orderly : Orderly life) (turn : Turn) :
    ∀ c ∈ (life.next turn).readings, c.Sound
  := by
  have last : life.last.Sound := orderly.sound _ (List.mem_append_right _ List.mem_cons_self)
  intro c mem
  dsimp only [readings, next] at mem
  split at mem
  next =>
    cases List.mem_append.1 mem with
    | inl earlier => apply orderly.sound c earlier
    | inr new =>
      rw [List.mem_singleton.1 new]
      apply Reading.sound_new
  next =>
    cases List.mem_append.1 mem with
    | inl earlier => apply orderly.sound c (List.mem_append_left _ earlier)
    | inr new =>
      rw [List.mem_singleton.1 new]
      apply last.after

/-- Whether an event leaves the connection alone. -/
def sparesConnection : Event → Bool
  | .lost _ => false
  | .attached _ => false
  | _ => true

theorem attachment_next {sys : System} (matched : sys.Matched) (event : Event)
    (spares : sparesConnection event = true) :
    (sys.next event).link.writer = sys.link.writer ∧
      (sys.next event).link.generation = sys.link.generation
  := by
  have goes := System.goes_next matched.current event
  generalize sys.next event = sys' at goes ⊢
  cases goes with
  | lost => cases spares
  | attached => cases spares
  | _ => constructor <;> rfl

theorem last_next {turn : Turn} (unconnected : life.connects turn = false) :
    (life.next turn).last = life.last.after turn
  := by
  rw [Life.next, unconnected]
  rfl

theorem Orderly.matched_next (orderly : Orderly life) (turn : Turn) :
    (life.next turn).sys.Matched
  := matched_run orderly.matched _

/-- As long as nothing is attached or lost, the connection is read on. -/
theorem Orderly.next_of_same (orderly : Orderly life) {turn : Turn}
    (attachment : (life.next turn).sys.link.writer = life.sys.link.writer ∧
      (life.next turn).sys.link.generation = life.sys.link.generation)
    (reading : (life.next turn).last.stage = life.last.stage ∧
      (life.next turn).last.generation = life.last.generation) :
    Orderly (life.next turn)
  := by
  use orderly.matched_next turn, orderly.sound_next turn
  · rw [attachment.1, reading.1]
    apply orderly.attached
  · rw [attachment.2, reading.1, reading.2]
    apply orderly.generation

/-- Without a connection nothing is read. -/
theorem Orderly.next_of_lost (orderly : Orderly life) {turn : Turn}
    (detached : (life.next turn).sys.link.writer = none)
    (unread : (life.next turn).last.stage ≠ .goesOn) :
    Orderly (life.next turn)
  := by
  use orderly.matched_next turn, orderly.sound_next turn
  · exact ⟨fun going => absurd going unread, fun attached => absurd detached attached⟩
  · intro going
    apply absurd going unread

/-- Where nothing was attached, a connection is attached and read from its beginning. -/
theorem Orderly.next_of_attached (orderly : Orderly life) (connection : Nat)
    (detached : life.sys.link.writer = none) :
    Orderly (life.next (.attached connection))
  := by
  have connects : life.connects (.attached connection) = true := decide_eq_true detached
  have attached : (life.next (.attached connection)).sys =
      life.sys.stepped (life.sys.link.attach connection) := by
    simp [Life.next, events, System.run, System.next, detached]
  have last : (life.next (.attached connection)).last =
      { generation := life.sys.link.generation } := by
    rw [Life.next, connects]
    rfl
  use orderly.matched_next _, orderly.sound_next _
  · rw [attached, last]
    exact ⟨fun _ => Option.some_ne_none connection, fun _ => rfl⟩
  · rw [attached, last]
    intro
    rfl

theorem Orderly.next (orderly : Orderly life) (turn : Turn) :
    Orderly (life.next turn)
  := by
  cases turn with
  | called call takesFrames =>
    apply orderly.next_of_same
    · apply attachment_next orderly.matched (.called call takesFrames) rfl
    · exact ⟨rfl, rfl⟩
  | looked number =>
    apply orderly.next_of_same
    · apply attachment_next orderly.matched (.looked number) rfl
    · exact ⟨rfl, rfl⟩
  | attached connection =>
    by_cases detached : life.sys.link.writer = none
    · apply orderly.next_of_attached connection detached
    · have connects : life.connects (.attached connection) = false := decide_eq_false detached
      apply orderly.next_of_same
      · simp [Life.next, events, System.run, detached]
      · rw [last_next connects]
        exact ⟨rfl, rfl⟩
  | arrived bytes =>
    apply orderly.next_of_same
    · exact ⟨rfl, rfl⟩
    · rw [last_next rfl, Reading.after]
      split <;> exact ⟨rfl, rfl⟩
  | handed =>
    cases given : life.last.outcome? with
    | none =>
      apply orderly.next_of_same
      · simp [Life.next, events, given, System.run]
      · rw [last_next rfl]
        simp [Reading.after, given]
    | some outcome =>
      apply orderly.next_of_same
      · have attachment := attachment_next orderly.matched (.received outcome) rfl
        simpa [Life.next, events, given, System.run] using attachment
      · rw [last_next rfl]
        simp [Reading.after, given, Reading.hand]
  | ended =>
    by_cases drained : life.last.isDrained = true
    · have going : life.last.stage = .goesOn := of_decide_eq_true (Bool.and_eq_true_iff.1 drained).1
      have lost := System.lost_next (orderly.attached.1 going)
      apply orderly.next_of_lost
      · simpa [Life.next, events, drained, System.run, orderly.generation going] using lost.detached
      · rw [last_next rfl]
        simp [Reading.after, drained]
    · apply orderly.next_of_same
      · simp [Life.next, events, drained, System.run]
      · rw [last_next rfl]
        simp [Reading.after, drained]
  | abandoned =>
    by_cases going : life.last.stage = .goesOn
    · have lost := System.lost_next (orderly.attached.1 going)
      apply orderly.next_of_lost
      · simpa [Life.next, events, going, System.run] using lost.detached
      · rw [last_next rfl]
        simp [Reading.after, going]
    · apply orderly.next_of_same
      · simp [Life.next, events, going, System.run]
      · rw [last_next rfl]
        simp [Reading.after, going]

theorem orderly_new :
    Orderly {}
  := by
  use System.matched_after []
  · intro c mem
    rw [List.mem_singleton.1 mem]
    apply Reading.sound_new
  · exact ⟨nofun, nofun⟩
  · nofun

theorem Orderly.run (orderly : Orderly life) (turns : List Turn) :
    Orderly (life.run turns)
  := by
  induction turns generalizing life with
  | nil => apply orderly
  | cons turn turns ih => apply ih (orderly.next turn)

/-! ### What is handed on -/

theorem handed_eq (life : Life) :
    life.handed = life.past.flatMap Reading.handed ++ life.last.handed
  := by
  rw [handed, readings, List.flatMap_append, List.flatMap_singleton]

theorem handed_next_of_unconnected {turn : Turn} (unconnected : life.connects turn = false)
    {outcomes : List Outcome} (more : (life.last.after turn).handed = life.last.handed ++ outcomes) :
    (life.next turn).handed = life.handed ++ outcomes
  := by
  have past : (life.next turn).past = life.past := by
    rw [Life.next, unconnected]
    rfl
  rw [handed_eq, handed_eq, past, last_next unconnected, more, List.append_assoc]

/-- What a turn hands on is what comes to the link. -/
theorem handed_next (turn : Turn) :
    (life.next turn).handed = life.handed ++ (life.events turn).filterMap Event.outcome?
  := by
  cases turn with
  | attached connection =>
    by_cases detached : life.sys.link.writer = none
    · have connects : life.connects (.attached connection) = true := decide_eq_true detached
      rw [handed_eq, Life.next, connects, events, if_pos detached]
      rfl
    · have connects : life.connects (.attached connection) = false := decide_eq_false detached
      apply handed_next_of_unconnected connects
      rw [events, if_neg detached]
      apply (List.append_nil _).symm
  | arrived bytes =>
    apply handed_next_of_unconnected rfl
    rw [Reading.after]
    split <;> apply (List.append_nil _).symm
  | handed =>
    apply handed_next_of_unconnected rfl
    dsimp only [events, Reading.after]
    cases life.last.outcome? with
    | none => apply (List.append_nil _).symm
    | some outcome => rfl
  | ended =>
    apply handed_next_of_unconnected rfl
    dsimp only [events, Reading.after]
    split <;> apply (List.append_nil _).symm
  | abandoned =>
    apply handed_next_of_unconnected rfl
    dsimp only [events, Reading.after]
    split <;> apply (List.append_nil _).symm
  | called call takesFrames =>
    apply handed_next_of_unconnected rfl
    apply (List.append_nil _).symm
  | looked number =>
    apply handed_next_of_unconnected rfl
    apply (List.append_nil _).symm

theorem handed_run (turns : List Turn) :
    (life.run turns).handed = life.handed ++ (life.eventsOf turns).filterMap Event.outcome?
  := by
  induction turns generalizing life with
  | nil => apply (List.append_nil _).symm
  | cons turn turns ih =>
    rw [eventsOf, List.filterMap_append, ← List.append_assoc, ← handed_next]
    apply ih

/-- For every life of a link, whatever the chunks in which the bytes of its connections come and
whatever its callers do meanwhile:

* What was handed on of a connection whose segments fit into the decoder, together with what the
  decoder still gives, are the outcomes of the segments, in order and each read alone, and all of
  them were handed on before the end was read.  What comes to the link is what was handed on.
* A segment that is the text of an object gives the frame with just its members.
* The events passed on are the pushes that were handed on, one each and in order.
* What is malformed or unusable changes nothing, nor does an answer that no call waits for.
* As long as a connection is read, its end tells the link that it is disconnected.
* A change of state is reported with just the events that tell a status whose state is another one
  than before: with a push of it, the answer to a call that asked for it and waits, or the loss of
  the connection.
* So the changes are what is left of the statuses told when each is left out whose state is that of
  the one before, and no two in a row have the same state.
* The status of the link is the one told last, and its state is that of the last change. -/
theorem reports_what_is_read (turns : List Turn) :
    let life := run {} turns
    let events := eventsOf {} turns
    let handed := life.readings.flatMap Reading.handed
    let moments := System.moments {} events
    let reports := System.reportsOf {} events
    let changes := reports.filterMap ControlEvent.change?
    life.sys = System.after events ∧
      (∀ c ∈ life.readings, (∀ segment ∈ segments c.stream, segment.length ≤ defaultLimit) →
        (unterminated c.stream).length ≤ defaultLimit →
          let outcomes := (segments c.stream).flatMap fun segment => alone segment terminator
          c.handed ++ c.decoder.drain.1 = outcomes ∧ (c.stage = .ended → c.handed = outcomes)) ∧
      events.filterMap Event.outcome? = handed ∧
      (∀ fields, (Json.ofFields fields).Portable →
        alone (Json.ofFields fields).text.toUTF8.toList terminator = [.ok fields]) ∧
      EachGives ControlEvent.Passes handed (reports.filter ControlEvent.isPush) ∧
      (∀ outcome, life.sys.Unusable outcome →
        life.sys.link.receiveFrame outcome = (life.sys.link, [])) ∧
      (life.last.stage = .goesOn → life.last.generation = life.sys.link.generation ∧
        life.sys.Tells (.lost life.last.generation) .disconnected) ∧
      (∀ moment ∈ moments, ∀ status, .stateChanged status ∈ moment.1.reports moment.2 ↔
        moment.1.Tells moment.2 status ∧ moment.1.link.status.state ≠ status.state) ∧
      (.disconnected :: changes).IsChain System.Differs ∧
      ∃ told, EachGives (fun moment => moment.1.Tells moment.2) moments told ∧
        .disconnected :: changes = told.destutter' System.Differs .disconnected ∧
        life.sys.link.status = told.getLastD .disconnected ∧
        life.sys.link.status.state = (changes.getLastD .disconnected).state
  := by
  intro life events handed moments reports changes
  have orderly : Orderly life := orderly_new.run turns
  have matched : System.Matched {} := System.matched_after []
  have sys : life.sys = System.after events := sys_run turns
  have came : handed = events.filterMap Event.outcome? := handed_run turns
  have destutters : .disconnected :: changes =
      (System.toldOf {} events).destutter' System.Differs .disconnected :=
    matched.changes_reportsOf rfl events
  and_intros
  · apply sys
  · intro c mem fits rest_fits outcomes
    have sound := orderly.sound c mem
    have all := sound.handed_append_drain fits rest_fits
    use all
    intro ended
    have nothing : c.decoder.next = (none, c.decoder.next.2) := Prod.ext (sound.ended ended) rfl
    rw [Decoder.drain_of_none nothing, List.append_nil] at all
    apply all
  · apply came.symm
  · intro fields portable
    rw [Json.text, Json.toList_toUTF8_ofList]
    apply alone_chars portable
  · have pushes := matched.pushes_reportsOf events
    rw [← came] at pushes
    rw [pushes]
    apply eachGives_filterMap fun _ _ => ControlEvent.ofFrame?_eq_some_iff
  · intro outcome
    apply orderly.matched.receiveFrame_of_unusable
  · intro going
    have generation := orderly.generation going
    use generation
    rw [generation]
    apply System.Tells.loss (orderly.attached.1 going)
  · intro moment mem status
    apply (matched.of_mem_moments mem).stateChanged_mem_reports_iff
  · rw [destutters]
    apply List.isChain_destutter'
  · use System.toldOf {} events
    and_intros
    · rw [System.toldOf_eq]
      apply eachGives_filterMap fun _ _ => System.told?_eq_some_iff
    · apply destutters
    · rw [sys]
      apply matched.status_run
    · rw [sys]
      apply matched.state_run

end

end Life

end ControlRelay.Link
