import ControlRelay.Frame.Basic

/-!
# Decoding a stream of frames

A `Frame.Decoder` takes the bytes of a stream in pieces of any size and gives out its frames.
It keeps the bytes of the unfinished frame apart from those not looked at yet, so each byte is
searched for a terminator once.  Empty frames are passed over, a malformed one is reported once
and left behind, and an unfinished frame longer than the limit is dropped.
-/

namespace ControlRelay.Frame

/-- The largest unfinished frame that is kept unless another limit is given. -/
def defaultLimit : Nat := 16 * 1024 * 1024

/-- Bytes of a stream that are not decoded yet. -/
structure Decoder where
  limit : Nat := defaultLimit
  /-- Bytes without a terminator, the last one first. -/
  scanned : List UInt8 := []
  /-- How many bytes are scanned. -/
  scannedCount : Nat := 0
  /-- Bytes not looked at yet, in order. -/
  fresh : List UInt8 := []
  scannedCount_eq : scannedCount = scanned.length

namespace Decoder

/-- A decoder that drops unfinished frames of more than `limit` bytes. -/
def withLimit (limit : Nat) : Decoder := { limit, scannedCount_eq := rfl }

instance : Inhabited Decoder := ⟨withLimit defaultLimit⟩

/-- Appends bytes of the stream. -/
def extend (d : Decoder) (bytes : List UInt8) : Decoder :=
  { d with fresh := d.fresh ++ bytes }

/-- The number of bytes kept. -/
def buffered (d : Decoder) : Nat := d.scannedCount + d.fresh.length

/-- All bytes kept, in order. -/
def buffer (d : Decoder) : List UInt8 := d.scanned.reverse ++ d.fresh

theorem length_buffer (d : Decoder) :
    d.buffer.length = d.buffered
  := by
  simp [buffer, buffered, d.scannedCount_eq]

/-- Looks through the fresh bytes for the next frame or error. -/
def advance (limit : Nat) (scanned : List UInt8) (count : Nat)
    (h : count = scanned.length) : List UInt8 → Option (Except Error Frame) × Decoder
  | [] =>
    if limit < count then (some (.error (.tooLarge limit)), withLimit limit)
    else (none, ⟨limit, scanned, count, [], h⟩)
  | b :: fresh =>
    if isTerminator b then
      match ofSegment scanned.reverse with
      | .ok frame => (some (.ok frame), (withLimit limit).extend fresh)
      | .error (.emptyFrame _) => advance limit [] 0 rfl fresh
      | .error e => (some (.error e), (withLimit limit).extend fresh)
    else advance limit (b :: scanned) (count + 1) (by rw [h, List.length_cons]) fresh

/-- The next frame or error of the bytes kept; nothing if more bytes are needed. -/
def next (d : Decoder) : Option (Except Error Frame) × Decoder :=
  advance d.limit d.scanned d.scannedCount d.scannedCount_eq d.fresh

end Decoder

end ControlRelay.Frame
