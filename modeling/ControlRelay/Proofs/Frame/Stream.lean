import ControlRelay.Frame.Decoder
import ControlRelay.Proofs.Frame.Segment
import Mathlib.Data.List.Forall2

/-!
# What a decoder gives for a stream

A decoder is drained when it is asked for the next outcome until there is none, and fed with a
chunk when it is drained after it got the bytes.  However a stream is cut into chunks, its
segments give their outcomes in order, each on its own: `Yields` says which ones.  The invariant
is `Read`, which relates the bytes looked at, the outcomes given and the bytes kept; `advance`
keeps it byte by byte.
-/

namespace ControlRelay.Frame

/-- The outcome for an unfinished frame that was dropped. -/
def tooLarge (limit : Nat) : Outcome := .error (.tooLarge limit)

/-- What a decoder gives for a segment that a terminator ends.  Up to the limit it is what
decoding the segment alone gives; of a longer one, pieces may be dropped as too large before the
rest is decoded. -/
def Yields (limit : Nat) (segment : List UInt8) (outcomes : List Outcome) : Prop :=
  (segment.length ≤ limit → ∀ t, isTerminator t = true → outcomes = alone segment t) ∧
  (limit < segment.length → ∃ dropped rest, rest <:+ segment ∧
    ∀ t, isTerminator t = true → outcomes = List.replicate dropped (tooLarge limit) ++ alone rest t)

/-- Of a stream a decoder has given `outcomes` and keeps `kept`: the outcomes of its segments,
then one for each piece dropped from the unterminated bytes, of which `kept` is the end. -/
def Read (limit : Nat) (stream : List UInt8) (outcomes : List Outcome) (kept : List UInt8) :
    Prop :=
  ∃ groups dropped,
    outcomes = groups.flatten ++ List.replicate dropped (tooLarge limit) ∧
    List.Forall₂ (Yields limit) (segments stream) groups ∧
    kept <:+ unterminated stream ∧ (dropped = 0 → kept = unterminated stream) ∧
    (dropped ≠ 0 → limit < (unterminated stream).length)

theorem read_nil (limit : Nat) :
    Read limit [] [] []
  := by
  use [], 0, rfl, List.Forall₂.nil, List.suffix_rfl
  simp

/-- Bytes kept hold no terminator. -/
theorem Read.clean {limit : Nat} {stream kept : List UInt8} {outcomes : List Outcome}
    (h : Read limit stream outcomes kept) :
    Clean kept
  := by
  obtain ⟨-, -, -, -, ends, -⟩ := h
  intro b mem
  apply (clean_parts stream).2 b (ends.subset mem)

/-- A byte that is no terminator is kept. -/
theorem Read.keep {limit : Nat} {stream kept : List UInt8} {outcomes : List Outcome}
    (h : Read limit stream outcomes kept) {b : UInt8} (other : isTerminator b = false) :
    Read limit (stream ++ [b]) outcomes (kept ++ [b])
  := by
  obtain ⟨groups, dropped, given, yields, ends, whole, overlong⟩ := h
  obtain ⟨same, longer⟩ := segments_append_other stream other
  use groups, dropped, given
  rw [same, longer]
  use yields
  and_intros
  · obtain ⟨front, split⟩ := ends
    use front
    rw [← split, List.append_assoc]
  · intro nothing
    rw [whole nothing]
  · intro some_dropped
    have := overlong some_dropped
    rw [List.length_append]
    omega

/-- A terminator ends the segment with the outcome of the bytes kept. -/
theorem Read.terminate {limit : Nat} {stream kept : List UInt8} {outcomes : List Outcome}
    (h : Read limit stream outcomes kept) {b : UInt8} (ended : isTerminator b = true) :
    Read limit (stream ++ [b]) (outcomes ++ alone kept b) []
  := by
  have clean := h.clean
  obtain ⟨groups, dropped, rfl, yields, ends, whole, overlong⟩ := h
  obtain ⟨more, nothing_left⟩ := segments_append_terminator stream ended
  have same_alone : ∀ t, isTerminator t = true → alone kept b = alone kept t := by
    intro t ht
    rw [alone_of_clean clean ended, alone_of_clean clean ht]
  use groups ++ [List.replicate dropped (tooLarge limit) ++ alone kept b], 0
  rw [more, nothing_left]
  and_intros
  · simp
  · apply List.rel_append yields
    apply List.Forall₂.cons _ List.Forall₂.nil
    constructor
    · intro short t ht
      have none_dropped : dropped = 0 := by
        by_contra some_dropped
        have := overlong some_dropped
        omega
      rw [none_dropped, ← whole none_dropped, ← same_alone t ht]
      rfl
    · intro _
      use dropped, kept, ends
      intro t ht
      rw [same_alone t ht]
  · apply List.suffix_rfl
  · intro _
    rfl
  · intro absurd
    apply (absurd rfl).elim

/-- Too many bytes kept are dropped. -/
theorem Read.drop {limit : Nat} {stream kept : List UInt8} {outcomes : List Outcome}
    (h : Read limit stream outcomes kept) (overfull : limit < kept.length) :
    Read limit stream (outcomes ++ [tooLarge limit]) []
  := by
  obtain ⟨groups, dropped, rfl, yields, ends, -, -⟩ := h
  use groups, dropped + 1
  and_intros
  · rw [List.append_assoc, List.replicate_succ']
  · apply yields
  · apply List.nil_suffix
  · intro absurd
    nomatch absurd
  · intro _
    have := ends.length_le
    omega

/-- If all segments fit the limit and no bytes follow them, the outcomes are those of the segments
alone, and nothing is kept. -/
theorem Read.of_fitting {limit : Nat} {stream kept : List UInt8} {outcomes : List Outcome}
    (h : Read limit stream outcomes kept)
    (fitting : ∀ segment ∈ segments stream, segment.length ≤ limit)
    (ended : unterminated stream = []) :
    outcomes = (segments stream).flatMap (alone · terminator) ∧ kept = []
  := by
  obtain ⟨groups, dropped, rfl, yields, ends, -, overlong⟩ := h
  rw [ended] at ends overlong
  have none_dropped : dropped = 0 := by
    by_contra some_dropped
    exact Nat.not_lt_zero _ (overlong some_dropped)
  have same : groups = (segments stream).map (alone · terminator) := by
    generalize segments stream = parts at yields fitting ⊢
    induction yields with
    | nil => rfl
    | cons yield _ ih =>
      obtain ⟨fits, fitting⟩ := List.forall_mem_cons.1 fitting
      rw [List.map_cons, yield.1 fits terminator rfl, ih fitting]
  rw [none_dropped, same, List.replicate_zero, List.append_nil]
  exact ⟨rfl, List.suffix_nil.1 ends⟩

namespace Decoder

/-! ### Looking for the next outcome -/

/-- A terminator brings the outcome of the bytes before it, unless these are blank. -/
theorem advance_terminator {limit : Nat} {scanned : List UInt8} {count : Nat}
    {h : count = scanned.length} {b : UInt8} (fresh : List UInt8) (ended : isTerminator b = true) :
    advance limit scanned count h (b :: fresh) =
      if scanned.reverse.all isAsciiBlank then advance limit [] 0 rfl fresh
      else (some (ofSegment scanned.reverse), (withLimit limit).extend fresh)
  := by
  rw [advance, if_pos ended]
  obtain ⟨blank, empty⟩ | ⟨filled, ⟨frame, read⟩ | ⟨reason, read⟩⟩ :=
    ofSegment_cases scanned.reverse
  · rw [empty, if_pos blank]
  · rw [read, filled]
    rfl
  · rw [read, filled]
    rfl

theorem advance_other {limit : Nat} {scanned : List UInt8} {count : Nat}
    {h : count = scanned.length} {b : UInt8} (fresh : List UInt8)
    (other : isTerminator b = false) :
    advance limit scanned count h (b :: fresh) =
      advance limit (b :: scanned) (count + 1) (by rw [h, List.length_cons]) fresh
  := by
  rw [advance, other]
  rfl

/-- Looking for the next outcome looks at bytes and gives at most one outcome for them; if it
gives none, it has looked at all bytes and keeps no more than the limit. -/
theorem read_advance {limit : Nat} {stream : List UInt8} {outcomes : List Outcome}
    {scanned : List UInt8} {count : Nat} {h : count = scanned.length} {fresh : List UInt8}
    {outcome : Option Outcome} {d : Decoder}
    (given : advance limit scanned count h fresh = (outcome, d))
    (read : Read limit stream outcomes scanned.reverse) :
    d.limit = limit ∧
    (∃ looked, fresh = looked ++ d.fresh ∧
      Read limit (stream ++ looked) (outcomes ++ outcome.toList) d.scanned.reverse) ∧
    (outcome = none → d.fresh = [] ∧ d.scannedCount ≤ limit)
  := by
  induction fresh generalizing stream scanned count with
  | nil =>
    unfold advance at given
    split at given
    next overfull =>
      cases given
      have dropped := read.drop (by rwa [List.length_reverse, ← h])
      use rfl, ⟨[], rfl, by rwa [List.append_nil]⟩, nofun
    next fits =>
      cases given
      use rfl, ⟨[], rfl, by simpa using read⟩
      intro _
      use rfl, Nat.le_of_not_lt fits
  | cons b fresh ih =>
    cases ended : isTerminator b with
    | true =>
      have ended_read := read.terminate ended
      rw [alone_of_clean read.clean ended] at ended_read
      rw [advance_terminator fresh ended] at given
      split at given
      next blank =>
        rw [if_pos blank, List.append_nil] at ended_read
        obtain ⟨same, ⟨looked, bytes, read⟩, finished⟩ := ih given ended_read
        use same, ⟨b :: looked, by rw [bytes]; rfl, by rwa [List.append_cons]⟩, finished
      next filled =>
        cases given
        rw [if_neg filled] at ended_read
        use rfl, ⟨[b], rfl, ended_read⟩, nofun
    | false =>
      have kept_read := read.keep ended
      rw [← List.reverse_cons] at kept_read
      rw [advance_other fresh ended] at given
      obtain ⟨same, ⟨looked, bytes, read⟩, finished⟩ := ih given kept_read
      use same, ⟨b :: looked, by rw [bytes]; rfl, by rwa [List.append_cons]⟩, finished

/-- An outcome costs a terminator, or leaves nothing to look at. -/
theorem countP_fresh_advance {limit : Nat} {scanned : List UInt8} {count : Nat}
    {h : count = scanned.length} {fresh : List UInt8} {outcome : Outcome} {d : Decoder}
    (given : advance limit scanned count h fresh = (some outcome, d)) :
    d.scanned = [] ∧ (d.fresh.countP isTerminator < fresh.countP isTerminator ∨ d.fresh = [])
  := by
  induction fresh generalizing scanned count with
  | nil =>
    unfold advance at given
    split at given
    next =>
      cases given
      use rfl, Or.inr rfl
    next => nomatch given
  | cons b fresh ih =>
    cases ended : isTerminator b with
    | true =>
      rw [List.countP_cons_of_pos ended]
      rw [advance_terminator fresh ended] at given
      split at given
      next =>
        obtain ⟨start, fewer | done⟩ := ih given
        · use start, Or.inl (Nat.lt_succ_of_lt fewer)
        · use start, Or.inr done
      next =>
        cases given
        use rfl, Or.inl (Nat.lt_succ_self _)
    | false =>
      rw [List.countP_cons_of_neg (by simp [ended])]
      rw [advance_other fresh ended] at given
      apply ih given

/-- An outcome makes the decoder keep fewer bytes. -/
theorem buffered_advance_lt {limit : Nat} {scanned : List UInt8} {count : Nat}
    {h : count = scanned.length} {fresh : List UInt8} {outcome : Outcome} {d : Decoder}
    (given : advance limit scanned count h fresh = (some outcome, d)) :
    d.buffered < count + fresh.length
  := by
  induction fresh generalizing scanned count with
  | nil =>
    unfold advance at given
    split at given
    next overfull =>
      cases given
      apply Nat.zero_lt_of_lt overfull
    next => nomatch given
  | cons b fresh ih =>
    rw [List.length_cons]
    cases ended : isTerminator b with
    | true =>
      rw [advance_terminator fresh ended] at given
      split at given
      next =>
        have := ih given
        omega
      next =>
        cases given
        have only_fresh : ((withLimit limit).extend fresh).buffered = fresh.length := by
          simp [buffered, withLimit, extend]
        omega
    | false =>
      rw [advance_other fresh ended] at given
      have := ih given
      omega

theorem buffered_next_lt {d d' : Decoder} {outcome : Outcome}
    (h : d.next = (some outcome, d')) :
    d'.buffered < d.buffered
  := buffered_advance_lt h

/-! ### Draining and feeding -/

/-- Asks for the next outcome until there is none; gives the outcomes in order. -/
def drain (d : Decoder) : List Outcome × Decoder :=
  match _ : d.next with
  | (none, d') => ([], d')
  | (some outcome, d') =>
    let (outcomes, last) := d'.drain
    (outcome :: outcomes, last)
termination_by d.buffered
decreasing_by
  apply buffered_next_lt
  assumption

/-- Appends bytes of the stream and drains the decoder. -/
def feed (d : Decoder) (chunk : List UInt8) : List Outcome × Decoder := (d.extend chunk).drain

/-- Feeds one chunk after the other; gives the outcomes of all. -/
def feedAll (d : Decoder) : List (List UInt8) → List Outcome × Decoder
  | [] => ([], d)
  | chunk :: chunks =>
    let (outcomes, d) := d.feed chunk
    let (more, d) := d.feedAll chunks
    (outcomes ++ more, d)

theorem drain_of_none {d d' : Decoder} (h : d.next = (none, d')) :
    d.drain = ([], d')
  := by
  rw [drain]
  split
  next last => rw [h] at last; cases last; rfl
  next other => rw [h] at other; nomatch other

theorem drain_of_some {d d' : Decoder} {outcome : Outcome} (h : d.next = (some outcome, d')) :
    d.drain = (outcome :: d'.drain.1, d'.drain.2)
  := by
  rw [drain]
  split
  next other => rw [h] at other; nomatch other
  next same => rw [h] at same; cases same; rfl

/-- What has been drained: the decoder has looked at all of the stream and keeps no more than
the limit. -/
structure Settled (limit : Nat) (stream : List UInt8) (outcomes : List Outcome) (d : Decoder) :
    Prop where
  limit_eq : d.limit = limit
  fresh_eq : d.fresh = []
  count_le : d.scannedCount ≤ limit
  read : Read limit stream outcomes d.scanned.reverse

theorem settled_withLimit (limit : Nat) :
    Settled limit [] [] (withLimit limit)
  where
  limit_eq := rfl
  fresh_eq := rfl
  count_le := Nat.zero_le limit
  read := read_nil limit

theorem settled_drain {limit : Nat} {stream : List UInt8} {outcomes : List Outcome} {d : Decoder}
    (same : d.limit = limit) (read : Read limit stream outcomes d.scanned.reverse) :
    Settled limit (stream ++ d.fresh) (outcomes ++ d.drain.1) d.drain.2
  := by
  induction d using drain.induct generalizing stream outcomes with
  | case1 d d' given =>
    subst same
    obtain ⟨same, ⟨looked, bytes, read⟩, finished⟩ := read_advance given read
    obtain ⟨done, fits⟩ := finished rfl
    rw [drain_of_none given]
    constructor
    · apply same
    · apply done
    · apply fits
    · rw [done, List.append_nil] at bytes
      rwa [bytes]
  | case2 d outcome d' given _ _ _ ih =>
    subst same
    obtain ⟨same, ⟨looked, bytes, read⟩, -⟩ := read_advance given read
    rw [drain_of_some given, bytes, ← List.append_assoc, List.append_cons]
    apply ih same read

theorem Settled.feed {limit : Nat} {stream : List UInt8} {outcomes : List Outcome} {d : Decoder}
    (h : Settled limit stream outcomes d) (chunk : List UInt8) :
    Settled limit (stream ++ chunk) (outcomes ++ (d.feed chunk).1) (d.feed chunk).2
  := by
  have all_fresh : (d.extend chunk).fresh = chunk := by
    unfold extend
    rw [h.fresh_eq]
    rfl
  have drained := settled_drain (d := d.extend chunk) h.limit_eq h.read
  rwa [all_fresh] at drained

theorem Settled.feedAll {limit : Nat} {stream : List UInt8} {outcomes : List Outcome}
    {d : Decoder} (h : Settled limit stream outcomes d) (chunks : List (List UInt8)) :
    Settled limit (stream ++ chunks.flatten) (outcomes ++ (d.feedAll chunks).1)
      (d.feedAll chunks).2
  := by
  induction chunks generalizing stream outcomes d with
  | nil => simpa [Decoder.feedAll] using h
  | cons chunk chunks ih =>
    rw [List.flatten_cons, ← List.append_assoc]
    dsimp only [Decoder.feedAll]
    rw [← List.append_assoc]
    apply ih (h.feed chunk)

/-! ### How long a drain takes -/

theorem drain_of_empty {d : Decoder} (nothing_kept : d.scanned = []) (nothing_new : d.fresh = []) :
    d.drain.1 = []
  := by
  have no_count : d.scannedCount = 0 := by rw [d.scannedCount_eq, nothing_kept]; rfl
  have given : d.next = (none, d) := by
    obtain ⟨limit, scanned, count, fresh, h⟩ := d
    subst nothing_new
    unfold next advance
    rw [if_neg (by omega)]
  rw [drain_of_none given]

/-- A drain gives at most one outcome more than there are terminators. -/
theorem length_drain_le (d : Decoder) :
    d.drain.1.length ≤ d.fresh.countP isTerminator + 1
  := by
  induction d using drain.induct with
  | case1 d d' given =>
    rw [drain_of_none given]
    apply Nat.zero_le
  | case2 d outcome d' given _ _ _ ih =>
    rw [drain_of_some given, List.length_cons]
    obtain ⟨start, fewer | done⟩ := countP_fresh_advance given
    · omega
    · rw [drain_of_empty start done]
      apply Nat.le_add_left

end Decoder

open Decoder

/-! ### Streams -/

/-- However a stream is cut into chunks, feeding them to a decoder gives the outcomes of its
segments in order, each as `Yields` says, and then only what was dropped of the unterminated
bytes, which is nothing unless they pass the limit.  Alone, a segment gives nothing, its frame or
one error.  Afterwards the decoder keeps no more than the limit, an end of the unterminated bytes
and all of them if they fit.  Draining the next chunk ends with the second call after those that
pass terminators at the latest. -/
theorem feedAll_withLimit (limit : Nat) (chunks : List (List UInt8)) :
    ∃ outcomes d, (withLimit limit).feedAll chunks = (outcomes, d) ∧
      (∃ groups dropped,
        outcomes = groups.flatten ++ List.replicate dropped (tooLarge limit) ∧
        List.Forall₂ (Yields limit) (segments chunks.flatten) groups ∧
        ((unterminated chunks.flatten).length ≤ limit → dropped = 0)) ∧
      (∀ segment ∈ segments chunks.flatten, ∀ t, isTerminator t = true →
        (segment.all isAsciiBlank = true ∧ alone segment t = []) ∨
        (∃ frame, decode (segment ++ [t]) = .ok (frame, segment.length + 1) ∧
          alone segment t = [.ok frame]) ∨
        ∃ reason, decode (segment ++ [t]) = .error (.malformed (segment.length + 1) reason) ∧
          alone segment t = [.error (.malformed (segment.length + 1) reason)]) ∧
      (d.buffered ≤ limit ∧ d.buffer <:+ unterminated chunks.flatten ∧
        ((unterminated chunks.flatten).length ≤ limit →
          d.buffer = unterminated chunks.flatten)) ∧
      ∀ chunk, (d.feed chunk).1.length + 1 ≤ (d.extend chunk).buffer.countP isTerminator + 2
  := by
  have settled := (settled_withLimit limit).feedAll chunks
  rw [List.nil_append, List.nil_append] at settled
  cases given : (withLimit limit).feedAll chunks with
  | mk outcomes d =>
    rw [given] at settled
    have kept : d.buffer = d.scanned.reverse := by
      unfold buffer
      rw [settled.fresh_eq, List.append_nil]
    obtain ⟨groups, dropped, read, yields, ends, whole, overlong⟩ := settled.read
    have none_dropped (fits : (unterminated chunks.flatten).length ≤ limit) : dropped = 0 := by
      by_contra some_dropped
      have := overlong some_dropped
      omega
    use outcomes, d, rfl
    and_intros
    · use groups, dropped
    · intro segment mem t ended
      apply alone_cases ((clean_parts chunks.flatten).1 segment mem) ended
    · rw [← length_buffer, kept, List.length_reverse, ← d.scannedCount_eq]
      apply settled.count_le
    · rwa [kept]
    · intro fits
      rw [kept]
      apply whole (none_dropped fits)
    · intro chunk
      have few := length_drain_le (d.extend chunk)
      have counted : (d.extend chunk).fresh.countP isTerminator
          ≤ (d.extend chunk).buffer.countP isTerminator
        := by
        unfold buffer
        rw [List.countP_append]
        apply Nat.le_add_left
      unfold feed
      omega

end ControlRelay.Frame
