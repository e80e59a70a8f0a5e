import ControlRelay.Control.Message
import ControlRelay.Proofs.Frame.Stream
import ControlRelay.Proofs.Json.ReadingBack

/-!
# Frames are read back

The text of an object holds no control character, so no terminator but the last byte of its frame,
and the object is read back from it.  So a stream of frames falls into the texts of their objects,
and a decoder whose limit none of them exceeds gives the objects in order and keeps nothing.
-/

namespace ControlRelay

open Json (bytesOf)

/-- What a frame can hold so that it is read back: the keys of objects are in order, all numbers
are integers of 64 bits, and there are at most 127 levels of arrays and objects. -/
structure Json.Portable (v : Json) : Prop where
  canonical : v.Canonical
  integral : v.Integral
  nesting_le : v.nesting ≤ 127

namespace Frame

/-! ### One frame -/

theorem encode_eq (v : Json) :
    encode v = bytesOf v.chars ++ [terminator]
  := by
  rw [encode, Json.text, Json.toList_toUTF8_ofList]

/-- Neither terminator is in the text of a value. -/
theorem clean_chars {v : Json} (integral : v.Integral) :
    Clean (bytesOf v.chars)
  := by
  intro b mem
  obtain ⟨c, mem, of_char⟩ := List.mem_flatMap.1 mem
  have printed : 0x20 ≤ b := (Json.printed_chars v integral c mem).le of_char
  rw [isTerminator, Bool.or_eq_false_iff, beq_eq_false_iff_ne, beq_eq_false_iff_ne]
  constructor
  · rintro rfl
    exact absurd printed (by decide)
  · rintro rfl
    exact absurd printed (by decide)

theorem not_blank_chars (fields : Fields) :
    ¬ (bytesOf (Json.ofFields fields).chars).all isAsciiBlank = true
  := by
  have opened : ∃ rest, bytesOf (Json.ofFields fields).chars = 0x7b :: rest := by
    obtain ⟨members, ordered⟩ := fields
    cases members with
    | nil => exact ⟨_, rfl⟩
    | cons member members => exact ⟨_, rfl⟩
  obtain ⟨rest, opened⟩ := opened
  rw [opened]
  exact Bool.false_ne_true

/-- The text of an object is worth that object. -/
theorem ofSegment_chars {fields : Fields} (portable : (Json.ofFields fields).Portable) :
    ofSegment (bytesOf (Json.ofFields fields).chars) = .ok fields
  := by
  unfold ofSegment
  dsimp only
  rw [if_neg (not_blank_chars fields),
    Json.read_bytesOf_chars portable.canonical portable.integral portable.nesting_le]
  dsimp only
  rw [Json.fields?_ofFields]

/-- A segment that is the text of an object gives that object. -/
theorem alone_chars {fields : Fields} (portable : (Json.ofFields fields).Portable) :
    alone (bytesOf (Json.ofFields fields).chars) terminator = [.ok fields]
  := by
  rw [alone_of_clean (clean_chars portable.integral) rfl, if_neg (not_blank_chars fields),
    ofSegment_chars portable]

/-- A frame is decoded to the object it was encoded from, whatever follows it. -/
theorem decode_encode_append {fields : Fields} (portable : (Json.ofFields fields).Portable)
    (rest : List UInt8) :
    decode (encode (Json.ofFields fields) ++ rest) =
      .ok (fields, (encode (Json.ofFields fields)).length)
  := by
  rw [encode_eq, List.append_assoc, List.singleton_append,
    decode_clean_append (clean_chars portable.integral) rfl, ofSegment_chars portable,
    List.length_append]
  rfl

/-! ### Streams of frames -/

/-- The bytes of objects, each as a frame. -/
def wire (frames : List Fields) : List UInt8 :=
  frames.flatMap fun fields => encode (.ofFields fields)

/-- The segments of the frames are the texts of the objects. -/
theorem segments_wire {frames : List Fields}
    (portable : ∀ fields ∈ frames, (Json.ofFields fields).Portable) :
    segments (wire frames) = frames.map (fun fields => bytesOf (Json.ofFields fields).chars) ∧
      unterminated (wire frames) = []
  := by
  induction frames with
  | nil => exact ⟨rfl, rfl⟩
  | cons fields frames ih =>
    obtain ⟨first, portable⟩ := List.forall_mem_cons.1 portable
    have ended : isTerminator terminator = true := rfl
    have cut := segments_clean_append (clean_chars first.integral) ended (wire frames)
    obtain ⟨further, nothing⟩ := ih portable
    rw [further, nothing] at cut
    rw [wire, List.flatMap_cons, encode_eq, List.append_assoc, List.singleton_append]
    exact cut

/-- A decoder whose limit no frame exceeds gives the objects of the frames in order and keeps
nothing, however the stream is cut. -/
theorem feedAll_wire {frames : List Fields}
    (portable : ∀ fields ∈ frames, (Json.ofFields fields).Portable) {limit : Nat}
    (fitting : ∀ fields ∈ frames, (encode (.ofFields fields)).length ≤ limit + 1)
    {chunks : List (List UInt8)} (whole : chunks.flatten = wire frames) :
    ∃ d, (Decoder.withLimit limit).feedAll chunks = (frames.map .ok, d) ∧ d.buffer = []
  := by
  have settled := (Decoder.settled_withLimit limit).feedAll chunks
  rw [List.nil_append, List.nil_append, whole] at settled
  obtain ⟨cut, nothing⟩ := segments_wire portable
  have short : ∀ segment ∈ segments (wire frames), segment.length ≤ limit := by
    rw [cut, List.forall_mem_map]
    intro fields mem
    have fits := fitting fields mem
    rw [encode_eq, List.length_append] at fits
    exact Nat.le_of_succ_le_succ fits
  obtain ⟨given, kept⟩ := settled.read.of_fitting short nothing
  have each : ∀ fields ∈ frames,
      alone (bytesOf (Json.ofFields fields).chars) terminator = [.ok fields]
    := by
    intro fields mem
    apply alone_chars (portable fields mem)
  rw [cut, List.flatMap_map, List.flatMap_congr each, ← List.map_eq_flatMap] at given
  refine ⟨_, Prod.ext given rfl, ?_⟩
  rw [Decoder.buffer, kept, settled.fresh_eq]
  rfl

/-! ### Requests -/

/-- The members of a request are in the order of their names. -/
theorem ordered_request (id method params : Json) :
    Entries.Ordered [("id", id), ("method", method), ("params", params)]
  := by
  have names : ["id", "method", "params"].Pairwise (· < ·) := by decide
  exact (List.pairwise_map (f := Prod.fst)).1 names

theorem toJson_request (r : Control.Request) :
    r.toJson =
      .object [("id", .ofNat r.id.toNat), ("method", .string r.method), ("params", r.params)]
  := by
  rw [Control.Request.toJson, Json.ofMembers,
    SortedMap.entries_ofList_of_ordered (ordered_request _ _ _)]

/-- A request can be held by a frame if its parameters can, one level deeper. -/
theorem portable_request {r : Control.Request} (canonical : r.params.Canonical)
    (integral : r.params.Integral) (levels : r.params.nesting < 127) :
    r.toJson.Portable
  := by
  rw [toJson_request]
  constructor
  · exact ⟨ordered_request _ _ _, trivial, trivial, canonical, trivial⟩
  · have fits : r.id.toNat < 2 ^ 64 := r.id.toNat_lt
    have word : Json.Number.IsWord r.id.toNat := by constructor <;> omega
    exact ⟨word, trivial, integral, trivial⟩
  · have deepest : r.params.nesting + 1 ≤ 127 := levels
    simpa [Json.nesting, Json.nestingMembers, Json.ofNat] using deepest

/-- The id of a request is found in its frame. -/
theorem id_of_request {r : Control.Request} {fields : Fields}
    (same : Json.ofFields fields = r.toJson) :
    (fields.get? "id").bind Json.nat? = some r.id
  := by
  rw [toJson_request] at same
  rw [SortedMap.get?, Json.object.inj same, Json.bind_nat?_eq_some_iff]
  apply Entries.get?_cons_self

/-! ### Reading back -/

/-- Objects whose numbers are integers of 64 bits and which are nested no deeper than 127 levels are
read back from their frames.  The frame of such an object has no terminator but its last byte, which
is the one that is written, and whatever follows the frame, decoding gives the object and the length
of the frame.  From the frames of any list of such objects, cut into chunks anywhere, a decoder
whose limit none of them exceeds gives the objects in order and keeps no byte.  The id of a request
is found in what its frame is decoded to, whichever it is. -/
theorem frames_read_back :
    (∀ fields : Fields, (Json.ofFields fields).Portable →
      (∃ text, encode (.ofFields fields) = text ++ [terminator] ∧ Clean text) ∧
      ∀ rest, decode (encode (.ofFields fields) ++ rest) =
        .ok (fields, (encode (.ofFields fields)).length)) ∧
    (∀ (frames : List Fields) (limit : Nat) (chunks : List (List UInt8)),
      (∀ fields ∈ frames, (Json.ofFields fields).Portable ∧
        (encode (.ofFields fields)).length ≤ limit + 1) →
      chunks.flatten = (frames.map fun fields => encode (.ofFields fields)).flatten →
      ∃ d, (Decoder.withLimit limit).feedAll chunks = (frames.map .ok, d) ∧ d.buffer = [] ∧
        d.buffered = 0) ∧
    ∀ r : Control.Request, r.params.Canonical → r.params.Integral →
      r.params.nesting < 127 → ∀ rest,
      ∃ fields, Json.ofFields fields = r.toJson ∧
        decode (encode r.toJson ++ rest) = .ok (fields, (encode r.toJson).length) ∧
        (fields.get? "id").bind Json.nat? = some r.id
  := by
  and_intros
  · intro fields portable
    constructor
    · use bytesOf (Json.ofFields fields).chars, encode_eq _
      exact clean_chars portable.integral
    · exact decode_encode_append portable
  · intro frames limit chunks good whole
    have portable := fun fields mem => (good fields mem).1
    obtain ⟨d, given, nothing⟩ := feedAll_wire portable (fun fields mem => (good fields mem).2)
      (whole.trans List.flatMap_def.symm)
    use d, given, nothing
    rw [← Decoder.length_buffer, nothing]
    rfl
  · intro r canonical integral levels rest
    have portable := portable_request canonical integral levels
    obtain ⟨fields, same⟩ : ∃ fields, Json.ofFields fields = r.toJson := ⟨_, rfl⟩
    use fields, same
    constructor
    · rw [← same] at portable ⊢
      exact decode_encode_append portable rest
    · exact id_of_request same

/-- A request with the greatest id and a terminator inside a text is read back, alone and twice in a
stream that is cut inside the second frame. -/
theorem frames_read_back_script :
    let r : Control.Request :=
      ⟨18446744073709551615, "gcode/script", .object [("script", .string "G28\n\x03")]⟩
    ∃ fields d,
      Json.ofFields fields = r.toJson ∧
      decode (encode r.toJson ++ [terminator]) = .ok (fields, (encode r.toJson).length) ∧
      (fields.get? "id").bind Json.nat? = some 18446744073709551615 ∧
      (∃ text, encode r.toJson = text ++ [terminator] ∧ Clean text) ∧
      (Decoder.withLimit 90).feedAll
          [encode r.toJson ++ (encode r.toJson).take 40, (encode r.toJson).drop 40] =
        ([.ok fields, .ok fields], d) ∧
      d.buffered = 0
  := by
  intro r
  obtain ⟨alone, streams, requests⟩ := frames_read_back
  have canonical : r.params.Canonical := ⟨by decide, trivial, trivial⟩
  have integral : r.params.Integral := ⟨trivial, trivial⟩
  obtain ⟨fields, same, decoded, id⟩ :=
    requests r canonical integral (by decide) [terminator]
  have portable := portable_request canonical integral (by decide)
  rw [← same] at portable
  have short : (encode r.toJson).length ≤ 91 := by
    rw [encode_eq]
    decide +kernel
  obtain ⟨d, given, -, nothing⟩ := streams [fields, fields] 90
    [encode r.toJson ++ (encode r.toJson).take 40, (encode r.toJson).drop 40]
    (by rw [← same] at short; simp [portable, short]) (by simp [same])
  refine ⟨fields, d, same, decoded, id, ?_, given, nothing⟩
  rw [← same]
  exact (alone fields portable).1

end Frame

end ControlRelay
