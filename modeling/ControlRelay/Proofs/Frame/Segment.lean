import ControlRelay.Frame.Basic
import Mathlib.Data.List.Induction
import Mathlib.Tactic.Common

/-!
# The segments of a stream

A stream of bytes falls into segments at its terminators.  `segments` are those that a
terminator ends, without it, and `unterminated` is what follows the last terminator.  One more
byte either ends the last segment or makes it longer.  `alone` is what decoding one segment
gives.
-/

namespace ControlRelay.Frame

/-- What a decoder gives: a frame, or what is wrong. -/
abbrev Outcome := Except Error Frame

/-! ### Cutting a stream -/

/-- The segments of a stream that are ended by a terminator, without it. -/
def segments (stream : List UInt8) : List (List UInt8) :=
  (stream.splitOnP isTerminator).dropLast

/-- The bytes after the last terminator of a stream. -/
def unterminated (stream : List UInt8) : List UInt8 :=
  (stream.splitOnP isTerminator).getLastD []

@[simp]
theorem segments_nil :
    segments [] = []
  := rfl

@[simp]
theorem unterminated_nil :
    unterminated [] = []
  := rfl

/-- The segments and the rest are all the parts of the stream. -/
theorem splitOnP_eq (stream : List UInt8) :
    stream.splitOnP isTerminator = segments stream ++ [unterminated stream]
  := by
  have filled := List.splitOnP_ne_nil isTerminator stream
  unfold segments unterminated
  rw [List.getLastD_eq_getLast?, List.getLast?_eq_some_getLast filled]
  symm
  apply List.dropLast_concat_getLast filled

/-- The parts of the stream tell its segments and the rest. -/
theorem segments_of_splitOnP {stream last : List UInt8} (parts : List (List UInt8))
    (h : stream.splitOnP isTerminator = parts ++ [last]) :
    segments stream = parts ∧ unterminated stream = last
  := by
  unfold segments unterminated
  rw [h]
  simp

/-- A terminator ends the last segment. -/
theorem segments_append_terminator (stream : List UInt8) {b : UInt8}
    (h : isTerminator b = true) :
    segments (stream ++ [b]) = segments stream ++ [unterminated stream] ∧
      unterminated (stream ++ [b]) = []
  := by
  apply segments_of_splitOnP
  rw [List.splitOnP_append_cons stream [] h, splitOnP_eq]
  rfl

/-- Any other byte makes the last segment longer. -/
theorem segments_append_other (stream : List UInt8) {b : UInt8} (h : isTerminator b = false) :
    segments (stream ++ [b]) = segments stream ∧
      unterminated (stream ++ [b]) = unterminated stream ++ [b]
  := by
  apply segments_of_splitOnP
  induction stream with
  | nil => simp [List.splitOnP_cons_eq_if_modifyHead, h]
  | cons head rest ih =>
    have parts : (head :: rest).splitOnP isTerminator =
        if isTerminator head then [] :: (segments rest ++ [unterminated rest])
        else (segments rest ++ [unterminated rest]).modifyHead (List.cons head)
      := by
      rw [List.splitOnP_cons_eq_if_modifyHead, splitOnP_eq]
    rw [List.cons_append, List.splitOnP_cons_eq_if_modifyHead, ih]
    cases terminated : isTerminator head with
    | true =>
      rw [terminated] at parts
      obtain ⟨cut, last⟩ := segments_of_splitOnP ([] :: segments rest) parts
      rw [cut, last]
      rfl
    | false =>
      rw [terminated] at parts
      cases more : segments rest with
      | nil =>
        rw [more] at parts
        obtain ⟨cut, last⟩ := segments_of_splitOnP [] parts
        rw [cut, last]
        rfl
      | cons first others =>
        rw [more] at parts
        obtain ⟨cut, last⟩ := segments_of_splitOnP ((head :: first) :: others) parts
        rw [cut, last]
        rfl

/-- No byte of a segment is a terminator. -/
def Clean (segment : List UInt8) : Prop := ∀ b ∈ segment, isTerminator b = false

/-- All parts of a stream are clean. -/
theorem clean_parts (stream : List UInt8) :
    (∀ segment ∈ segments stream, Clean segment) ∧ Clean (unterminated stream)
  := by
  induction stream using List.reverseRecOn with
  | nil =>
    constructor
    · nofun
    · nofun
  | append_singleton stream b ih =>
    obtain ⟨clean, last_clean⟩ := ih
    cases terminated : isTerminator b with
    | true =>
      obtain ⟨more, nothing_left⟩ := segments_append_terminator stream terminated
      rw [more, nothing_left]
      constructor
      · intro segment mem
        rcases List.mem_append.1 mem with mem | mem
        · apply clean segment mem
        · rwa [List.mem_singleton.1 mem]
      · nofun
    | false =>
      obtain ⟨same, longer⟩ := segments_append_other stream terminated
      rw [same, longer]
      use clean
      intro c mem
      rcases List.mem_append.1 mem with mem | mem
      · apply last_clean c mem
      · rwa [List.mem_singleton.1 mem]

/-- A stream that begins with a clean segment and its terminator has that segment first. -/
theorem segments_clean_append {segment : List UInt8} (clean : Clean segment) {t : UInt8}
    (h : isTerminator t = true) (rest : List UInt8) :
    segments (segment ++ t :: rest) = segment :: segments rest ∧
      unterminated (segment ++ t :: rest) = unterminated rest
  := by
  apply segments_of_splitOnP
  rw [List.splitOnP_append_cons segment rest h, List.splitOnP_eq_singleton clean, splitOnP_eq]
  rfl

/-! ### Decoding one segment -/

/-- What decoding a segment alone gives, ended by the terminator `t`: nothing if the segment is
blank. -/
def alone (segment : List UInt8) (t : UInt8) : List Outcome :=
  if segment.all isAsciiBlank then [] else [(decode (segment ++ [t])).map (·.1)]

/-- Of a stream the bytes before the first terminator are read, whatever follows it. -/
theorem decode_clean_append {segment : List UInt8} (clean : Clean segment) {t : UInt8}
    (h : isTerminator t = true) (rest : List UInt8) :
    decode (segment ++ t :: rest) = (ofSegment segment).map (·, segment.length + 1)
  := by
  have before : (segment ++ t :: rest).takeWhile (fun b => !isTerminator b) = segment := by
    rw [List.takeWhile_append_of_pos fun b mem => by rw [clean b mem]; rfl]
    simp [h]
  have after : (segment ++ t :: rest).dropWhile (fun b => !isTerminator b) = t :: rest := by
    rw [List.dropWhile_append_of_pos fun b mem => by rw [clean b mem]; rfl]
    simp [h]
  unfold decode
  rw [before, after]

/-- Decoding a segment with its terminator is reading what stands before the terminator. -/
theorem decode_segment {segment : List UInt8} {t : UInt8} (clean : Clean segment)
    (h : isTerminator t = true) :
    decode (segment ++ [t]) = (ofSegment segment).map (·, segment.length + 1)
  := decode_clean_append clean h []

/-- A segment is empty, malformed or a frame. -/
theorem ofSegment_cases (segment : List UInt8) :
    segment.all isAsciiBlank = true ∧
        ofSegment segment = .error (.emptyFrame (segment.length + 1)) ∨
      segment.all isAsciiBlank = false ∧ ((∃ frame, ofSegment segment = .ok frame) ∨
        ∃ reason, ofSegment segment = .error (.malformed (segment.length + 1) reason))
  := by
  unfold ofSegment
  dsimp only
  split
  next blank => simp [blank]
  next filled =>
    right
    use Bool.eq_false_iff.2 filled
    split
    next e _ =>
      right
      use .notJson e
    next v _ =>
      split
      next fields _ =>
        left
        use fields
      next =>
        right
        use .notObject v

theorem alone_of_clean {segment : List UInt8} {t : UInt8} (clean : Clean segment)
    (h : isTerminator t = true) :
    alone segment t = if segment.all isAsciiBlank then [] else [ofSegment segment]
  := by
  unfold alone
  rw [decode_segment clean h]
  cases ofSegment segment with
  | ok frame => rfl
  | error e => rfl

/-- Alone, a segment gives nothing if it is blank, and otherwise its frame or one error. -/
theorem alone_cases {segment : List UInt8} {t : UInt8} (clean : Clean segment)
    (h : isTerminator t = true) :
    (segment.all isAsciiBlank = true ∧ alone segment t = []) ∨
    (∃ frame, decode (segment ++ [t]) = .ok (frame, segment.length + 1) ∧
      alone segment t = [.ok frame]) ∨
    ∃ reason, decode (segment ++ [t]) = .error (.malformed (segment.length + 1) reason) ∧
      alone segment t = [.error (.malformed (segment.length + 1) reason)]
  := by
  rw [alone_of_clean clean h, decode_segment clean h]
  obtain ⟨blank, -⟩ | ⟨filled, ⟨frame, read⟩ | ⟨reason, read⟩⟩ := ofSegment_cases segment
  · left
    use blank, if_pos blank
  · right
    left
    rw [read, filled]
    use frame, rfl
    rfl
  · right
    right
    rw [read, filled]
    use reason, rfl
    rfl

end ControlRelay.Frame
