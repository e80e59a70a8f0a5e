import ControlRelay.Json.Reader
import ControlRelay.Json.Writer

/-!
# Frames

The channel to the control process carries frames: the text of one JSON object, ended by the
byte ETX.  On input a line feed ends a frame as well.  `Frame.encode` writes a frame and
`Frame.decode` reads the one a byte sequence begins with; the bytes up to the first terminator
are the segment that `Frame.ofSegment` judges.
-/

namespace ControlRelay

/-- A decoded frame: the members of a JSON object. -/
abbrev Frame := Fields

namespace Frame

/-- ETX, written after every frame. -/
def terminator : UInt8 := 0x03

/-- Line feed, accepted in its place. -/
def lineTerminator : UInt8 := 0x0a

/-- Either byte ends a frame. -/
def isTerminator (b : UInt8) : Bool := b == terminator || b == lineTerminator

/-- What makes a frame unusable. -/
inductive Malformation where
  | notJson (error : Json.ReadError)
  | notObject (found : Json)
  | nonNumericId
  | neitherIdNorMethod
  | statusMissing
  | stateMissing
  | unknownState (name : String)

/-- The kind of a value, as messages name it. -/
def kindName : Json → String
  | .null => "null"
  | .bool _ => "a boolean"
  | .number _ => "a number"
  | .string _ => "a string"
  | .array _ => "an array"
  | .object _ => "an object"

/-- What is wrong with the frame. -/
def Malformation.message : Malformation → String
  | notJson e => e.message
  | notObject v => "expected a JSON object, got " ++ kindName v
  | nonNumericId => "non-numeric response id"
  | neitherIdNorMethod => "frame has neither id nor method"
  | statusMissing => "status push without a status object"
  | stateMissing => "state push without a state field"
  | unknownState name => "unknown control state '" ++ name ++ "'"

/-- A failure of the frame layer. -/
inductive Error where
  /-- No terminator among the bytes. -/
  | insufficientData (available : Nat)
  /-- Nothing but blanks before the terminator. -/
  | emptyFrame (consumed : Nat)
  | malformed (consumed : Nat) (reason : Malformation)
  /-- Too many bytes without a terminator. -/
  | tooLarge (limit : Nat)
  | unserializable (message : String)

/-- What the error says. -/
def Error.message : Error → String
  | insufficientData available =>
    "insufficient data: " ++ toString available ++ " byte(s) buffered without a terminator"
  | emptyFrame _ => "empty frame"
  | malformed _ reason => "malformed frame: " ++ reason.message
  | tooLarge limit => "frame exceeds " ++ toString limit ++ " bytes without a terminator"
  | unserializable message => "failed to serialize frame: " ++ message

/-- The bytes to skip in order to pass the offending frame, if the error lies in one frame. -/
def Error.consumed? : Error → Option Nat
  | emptyFrame consumed => some consumed
  | malformed consumed _ => some consumed
  | _ => none

/-- The bytes of a value as one frame, the terminator included. -/
def encode (v : Json) : List UInt8 := v.text.toUTF8.toList ++ [terminator]

/-- Blanks of the ASCII range: space, tab, line feed, form feed and carriage return. -/
def isAsciiBlank (b : UInt8) : Bool :=
  b == 0x20 || b == 0x09 || b == 0x0a || b == 0x0c || b == 0x0d

/-- What the bytes before a terminator are worth. -/
def ofSegment (segment : List UInt8) : Except Error Frame :=
  let consumed := segment.length + 1
  if segment.all isAsciiBlank then .error (.emptyFrame consumed)
  else
    match Json.read segment with
    | .error e => .error (.malformed consumed (.notJson e))
    | .ok v =>
      match v.fields? with
      | some fields => .ok fields
      | none => .error (.malformed consumed (.notObject v))

/-- Reads the frame that `bytes` begins with; also gives its length, the terminator
included. -/
def decode (bytes : List UInt8) : Except Error (Frame × Nat) :=
  let segment := bytes.takeWhile fun b => !isTerminator b
  match bytes.dropWhile fun b => !isTerminator b with
  | [] => .error (.insufficientData bytes.length)
  | _ :: _ => (ofSegment segment).map (·, segment.length + 1)

end Frame

end ControlRelay
