import ControlRelay.Frame.Decoder
import ControlRelay.Link.Basic

/-!
# Wires

A wire is one connection to the control process: a stream of bytes each way.  The process that
reads decodes the frames that come in; the one that writes takes the frames to send, one by
one.  The other end may close the wire, or stop taking bytes while it still sends.
-/

namespace ControlRelay

/-- A connection and how far it was read and written. -/
structure Wire where
  /-- The generation of the link when the wire was attached. -/
  generation : Nat := 0
  decoder : Frame.Decoder := default
  /-- Bytes that were sent here and not read yet. -/
  incoming : List UInt8 := []
  /-- Whether nothing more comes. -/
  isEnded : Bool := false
  /-- Whether the other end takes bytes. -/
  takesBytes : Bool := true
  isRead : Bool := false
  isWritten : Bool := false
  /-- Frames that wait to be written. -/
  queue : List (List UInt8) := []
  /-- Bytes that the other end has got. -/
  sent : List UInt8 := []

namespace Wire

instance : Inhabited Wire := ⟨{}⟩

/-- The most bytes that are read at a time. -/
def chunkSize : Nat := 8192

/-- Whether anything on this side holds the wire. -/
def isHeld (w : Wire) : Bool := w.isRead || w.isWritten

/-- The other end sends bytes. -/
def arrive (w : Wire) (bytes : List UInt8) : Wire := { w with incoming := w.incoming ++ bytes }

/-- The other end closes the wire. -/
def close (w : Wire) : Wire := { w with isEnded := true, takesBytes := false }

/-- Reads what can be read at a time and gives the frames in it. -/
def readChunk (w : Wire) : Wire :=
  { w with
    incoming := w.incoming.drop chunkSize
    decoder := w.decoder.extend (w.incoming.take chunkSize) }

/-- Writes the next frame; nothing if there is none or the other end does not take it. -/
def writeNext? (w : Wire) : Option Wire :=
  match w.queue with
  | frame :: queue => if w.takesBytes then some { w with queue, sent := w.sent ++ frame } else none
  | [] => none

end Wire

end ControlRelay
