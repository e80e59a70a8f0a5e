import ControlRelay.Json.Basic
import ControlRelay.Decimal.Reading

/-!
# Reading JSON

`Json.read` reads one JSON text, given as bytes.  It stops at the first fault and says where:
a `Stop` holds the bytes that follow the place the fault points at, from which line and
column are counted.  Nesting is limited to 127 levels.  Of members with one name the last one
stays, and numbers are read as `Number.read` says.
-/

namespace ControlRelay.Json

/-- Why a text is not JSON. -/
inductive Fault where
  | eofValue
  | eofList
  | eofObject
  | eofString
  | expectedColon
  | expectedListCommaOrEnd
  | expectedObjectCommaOrEnd
  | expectedIdent
  | expectedValue
  | invalidEscape
  | invalidNumber
  | numberOutOfRange
  | invalidCodePoint
  | controlCharacter
  | keyMustBeString
  | loneSurrogate
  | trailingComma
  | trailingCharacters
  | endOfHexEscape
  | recursionLimit
  deriving DecidableEq, Repr

/-- The fault in words. -/
def Fault.message : Fault → String
  | eofValue => "EOF while parsing a value"
  | eofList => "EOF while parsing a list"
  | eofObject => "EOF while parsing an object"
  | eofString => "EOF while parsing a string"
  | expectedColon => "expected `:`"
  | expectedListCommaOrEnd => "expected `,` or `]`"
  | expectedObjectCommaOrEnd => "expected `,` or `\x7d`"
  | expectedIdent => "expected ident"
  | expectedValue => "expected value"
  | invalidEscape => "invalid escape"
  | invalidNumber => "invalid number"
  | numberOutOfRange => "number out of range"
  | invalidCodePoint => "invalid unicode code point"
  | controlCharacter => "control character (\\u0000-\\u001F) found while parsing a string"
  | keyMustBeString => "key must be a string"
  | loneSurrogate => "lone leading surrogate in hex escape"
  | trailingComma => "trailing comma"
  | trailingCharacters => "trailing characters"
  | endOfHexEscape => "unexpected end of hex escape"
  | recursionLimit => "recursion limit exceeded"

/-- A fault and the bytes after the place it points at. -/
structure Stop where
  fault : Fault
  rest : List UInt8

/-- What was read and the bytes after it, or where reading stopped. -/
abbrev Scan (α : Type) := Except Stop (α × List UInt8)

/-- A fault that points at the next byte, or at the end of the text. -/
def stopAt (fault : Fault) (s : List UInt8) : Stop := ⟨fault, s.tail⟩

/-- The blanks of JSON. -/
def isSpace (b : UInt8) : Bool := b == 0x20 || b == 0x0a || b == 0x0d || b == 0x09

/-- Decimal digits. -/
def isDigit (b : UInt8) : Bool := 0x30 ≤ b && b ≤ 0x39

/-- Drops blanks: space, tab, line feed and carriage return. -/
def skipSpace (s : List UInt8) : List UInt8 := s.dropWhile isSpace

/-- Reads the rest of a literal name. -/
def expectName (name : List UInt8) (s : List UInt8) : Except Stop (List UInt8) :=
  match name, s with
  | [], s => .ok s
  | _ :: _, [] => .error ⟨.eofValue, []⟩
  | b :: name, c :: s => if b = c then expectName name s else .error ⟨.expectedIdent, s⟩

namespace Number

/-- The digits a text begins with, as numbers from 0 to 9. -/
def digits (s : List UInt8) : List Nat × List UInt8 :=
  ((s.takeWhile isDigit).map (·.toNat - 0x30), s.dropWhile isDigit)

/-- Appends digits to a significand as long as it fits 64 bits, and counts the digits left
over. -/
def significand (start : Nat) : List Nat → Nat × Nat
  | [] => (start, 0)
  | d :: ds =>
    if start * 10 + d < UInt64.size then significand (start * 10 + d) ds
    else (start, ds.length + 1)

/-- The exponent digits of a number, read until they pass `2^31 - 1`; then the value is
`none`, and the bytes are those after the digit that was too much. -/
def exponentDigits (value : Nat) : List UInt8 → Option Nat × List UInt8
  | [] => (some value, [])
  | b :: s =>
    if isDigit b then
      let value := value * 10 + (b.toNat - 0x30)
      if value < 0x80000000 then exponentDigits value s else (none, s)
    else (some value, b :: s)

/-- The float `±significand · 10^exponent`. -/
def ofScaled (negative : Bool) (significand : Nat) (exponent : Int) (rest : List UInt8) :
    Scan Number :=
  match Decimal.scaled (UInt64.ofNat significand) exponent with
  | some x => .ok (.float (if negative then -x else x), rest)
  | none => .error ⟨.numberOutOfRange, rest⟩

/-- Reads what may follow a significand whose last digit stands for `10^exponent`: an
exponent part. -/
def readExponent (negative : Bool) (value : Nat) (exponent : Int) (s : List UInt8) :
    Scan Number :=
  let body (sign : Bool) (s : List UInt8) : Scan Number :=
    match s with
    | [] => .error ⟨.eofValue, []⟩
    | b :: rest =>
      if isDigit b then
        match exponentDigits 0 s with
        | (some e, rest) =>
          ofScaled negative value (if sign then exponent - e else exponent + e) rest
        | (none, rest) =>
          if value = 0 || sign then
            .ok (.float (if negative then -0.0 else 0.0), rest.dropWhile isDigit)
          else .error ⟨.numberOutOfRange, rest⟩
      else .error ⟨.invalidNumber, rest⟩
  match s with
  | 0x2b :: s => body false s
  | 0x2d :: s => body true s
  | s => body false s

/-- Whether an exponent part begins here. -/
def exponentMark (s : List UInt8) : Option (List UInt8) :=
  match s with
  | 0x65 :: s => some s
  | 0x45 :: s => some s
  | _ => none

/-- Reads the part after a significand of integer digits, of which `dropped` did not fit. -/
def readFraction (negative : Bool) (value dropped : Nat) (s : List UInt8) : Scan Number :=
  match digits s with
  | ([], []) => .error ⟨.eofValue, []⟩
  | ([], _ :: rest) => .error ⟨.invalidNumber, rest⟩
  | (ds, rest) =>
    let (value, unread) := significand value ds
    let exponent : Int := (dropped : Int) - (ds.length - unread : Nat)
    match exponentMark rest with
    | some rest => readExponent negative value exponent rest
    | none => ofScaled negative value exponent rest

/-- The number without fraction and exponent: an integer if it fits 64 bits, a float
otherwise.  Minus zero is a float. -/
def ofDigits (negative : Bool) (value dropped : Nat) (rest : List UInt8) : Scan Number :=
  if 0 < dropped then ofScaled negative value dropped rest
  else if !negative then .ok (.integer value, rest)
  else if 0 < value && value ≤ 0x8000000000000000 then .ok (.integer (-value), rest)
  else .ok (.float (-(UInt64.ofNat value).toFloat), rest)

/-- Reads a number whose sign is already read.  The integer part has no leading zero. -/
def readUnsigned (negative : Bool) (s : List UInt8) : Scan Number :=
  let after (value dropped : Nat) (rest : List UInt8) : Scan Number :=
    match rest with
    | 0x2e :: rest => readFraction negative value dropped rest
    | rest =>
      match exponentMark rest with
      | some rest => readExponent negative value dropped rest
      | none => ofDigits negative value dropped rest
  match s with
  | [] => .error ⟨.eofValue, []⟩
  | 0x30 :: b :: rest =>
    if isDigit b then .error ⟨.invalidNumber, rest⟩ else after 0 0 (b :: rest)
  | b :: rest =>
    if isDigit b then
      let (ds, rest) := digits s
      let (value, dropped) := significand 0 ds
      after value dropped rest
    else .error ⟨.invalidNumber, rest⟩

end Number

/-- The value of a hexadecimal digit of either case. -/
def hexDigit? (b : UInt8) : Option Nat :=
  if isDigit b then some (b.toNat - 0x30)
  else if 0x61 ≤ b && b ≤ 0x66 then some (b.toNat - 0x61 + 10)
  else if 0x41 ≤ b && b ≤ 0x46 then some (b.toNat - 0x41 + 10)
  else none

/-- Reads the four digits of a hexadecimal escape. -/
def readHex : List UInt8 → Scan Nat
  | a :: b :: c :: d :: rest =>
    match hexDigit? a, hexDigit? b, hexDigit? c, hexDigit? d with
    | some a, some b, some c, some d => .ok (((a * 16 + b) * 16 + c) * 16 + d, rest)
    | _, _, _, _ => .error ⟨.invalidEscape, rest⟩
  | _ => .error ⟨.eofString, []⟩

/-- The UTF-8 bytes of a code point. -/
def codePointBytes (n : Nat) : List UInt8 := String.utf8EncodeChar (Char.ofNat n)

/-- Reads a hexadecimal escape after its `u`; a high surrogate has to be followed by the
escape of a low one, and both together are one code point. -/
def readUnicodeEscape (s : List UInt8) : Scan (List UInt8) :=
  match readHex s with
  | .error stop => .error stop
  | .ok (n, rest) =>
    if 0xdc00 ≤ n && n ≤ 0xdfff then .error ⟨.loneSurrogate, rest⟩
    else if n < 0xd800 || 0xdbff < n then .ok (codePointBytes n, rest)
    else
      match rest with
      | [] => .error ⟨.eofString, []⟩
      | b :: rest =>
        if b ≠ 0x5c then .error ⟨.endOfHexEscape, rest⟩
        else
          match rest with
          | [] => .error ⟨.eofString, []⟩
          | b :: rest =>
            if b ≠ 0x75 then .error ⟨.endOfHexEscape, rest⟩
            else
              match readHex rest with
              | .error stop => .error stop
              | .ok (low, rest) =>
                if low < 0xdc00 || 0xdfff < low then .error ⟨.loneSurrogate, rest⟩
                else .ok (codePointBytes ((n - 0xd800) * 0x400 + (low - 0xdc00) + 0x10000), rest)

/-- The byte that a one-letter escape stands for. -/
def simpleEscape? (b : UInt8) : Option UInt8 :=
  match b with
  | 0x22 => some 0x22
  | 0x5c => some 0x5c
  | 0x2f => some 0x2f
  | 0x62 => some 0x08
  | 0x66 => some 0x0c
  | 0x6e => some 0x0a
  | 0x72 => some 0x0d
  | 0x74 => some 0x09
  | _ => none

/-- The text of UTF-8 bytes, if they are UTF-8. -/
def textOf? (bytes : List UInt8) : Option String :=
  String.fromUTF8? ⟨bytes.toArray⟩

/-- Drops the characters a text begins with, up to the first byte at which none begins. -/
def dropCharacters : List UInt8 → List UInt8
  | [] => []
  | b :: rest =>
    match ByteArray.utf8DecodeChar? ⟨((b :: rest).take 4).toArray⟩ 0 with
    | some c => dropCharacters (rest.drop (c.utf8Size - 1))
    | none => b :: rest
termination_by s => s.length
decreasing_by
  rw [List.length_drop, List.length_cons]
  exact Nat.lt_succ_of_le (Nat.sub_le _ _)

/-- Reads the bytes of a string up to its closing quote; `acc` holds those read so far, the
last one first.  Each round reads at least one byte of at most `fuel`. -/
def readStringBody : Nat → List UInt8 → List UInt8 → Scan (List UInt8)
  | _, _, [] => .error ⟨.eofString, []⟩
  | 0, _, _ => .error ⟨.eofString, []⟩
  | fuel + 1, acc, b :: rest =>
    if b = 0x22 then .ok (acc.reverse, rest)
    else if b = 0x5c then
      match rest with
      | [] => .error ⟨.eofString, []⟩
      | e :: rest =>
        if e = 0x75 then
          match readUnicodeEscape rest with
          | .error stop => .error stop
          | .ok (bytes, rest) => readStringBody fuel (bytes.reverse ++ acc) rest
        else
          match simpleEscape? e with
          | some byte => readStringBody fuel (byte :: acc) rest
          | none => .error ⟨.invalidEscape, rest⟩
    else if b < 0x20 then .error ⟨.controlCharacter, rest⟩
    else readStringBody fuel (b :: acc) rest

/-- Reads a string after its opening quote; `fuel` bounds its bytes.  Of bytes that are not
UTF-8 the first one that begins no character is pointed at; an escape never makes or mends
such a byte, so it is looked for in the text as it is written. -/
def readString (fuel : Nat) (s : List UInt8) : Scan String :=
  match readStringBody fuel [] s with
  | .error stop => .error stop
  | .ok (bytes, rest) =>
    match textOf? bytes with
    | some text => .ok (text, rest)
    | none => .error (stopAt .invalidCodePoint (dropCharacters s))

mutual

/-- Reads a value; `depth` more levels may be opened.  The `fuel` of the three readers bounds
the bytes they read. -/
def readValue (fuel depth : Nat) (s : List UInt8) : Scan Json :=
  match fuel with
  | 0 => .error ⟨.eofValue, []⟩
  | fuel + 1 =>
    match skipSpace s with
    | [] => .error ⟨.eofValue, []⟩
    | b :: rest =>
      if b = 0x22 then
        match readString fuel rest with
        | .ok (text, rest) => .ok (.string text, rest)
        | .error stop => .error stop
      else if b = 0x7b then
        match depth with
        | 0 => .error ⟨.recursionLimit, rest⟩
        | depth + 1 => readMembers fuel depth true [] rest
      else if b = 0x5b then
        match depth with
        | 0 => .error ⟨.recursionLimit, rest⟩
        | depth + 1 => readItems fuel depth true [] rest
      else if b = 0x6e then (expectName [0x75, 0x6c, 0x6c] rest).map (.null, ·)
      else if b = 0x74 then (expectName [0x72, 0x75, 0x65] rest).map (.bool true, ·)
      else if b = 0x66 then (expectName [0x61, 0x6c, 0x73, 0x65] rest).map (.bool false, ·)
      else if b = 0x2d then
        (Number.readUnsigned true rest).map fun (n, rest) => (.number n, rest)
      else if isDigit b then
        (Number.readUnsigned false (b :: rest)).map fun (n, rest) => (.number n, rest)
      else .error ⟨.expectedValue, rest⟩

/-- Reads the items of an array up to its end; `acc` holds those read so far, the last one
first. -/
def readItems (fuel depth : Nat) (first : Bool) (acc : List Json) (s : List UInt8) :
    Scan Json :=
  match fuel with
  | 0 => .error ⟨.eofList, []⟩
  | fuel + 1 =>
    match skipSpace s with
    | [] => .error ⟨.eofList, []⟩
    | b :: rest =>
      if b = 0x5d then .ok (.array acc.reverse, rest)
      else if !first && b ≠ 0x2c then .error ⟨.expectedListCommaOrEnd, rest⟩
      else
        let item := if first then b :: rest else skipSpace rest
        match item with
        | [] => .error ⟨.eofValue, []⟩
        | c :: after =>
          if !first && c = 0x5d then .error ⟨.trailingComma, after⟩
          else
            match readValue fuel depth item with
            | .error stop => .error stop
            | .ok (v, rest) => readItems fuel depth false (v :: acc) rest

/-- Reads the members of an object up to its end; `acc` holds those read so far, in key
order. -/
def readMembers (fuel depth : Nat) (first : Bool) (acc : List (String × Json))
    (s : List UInt8) : Scan Json :=
  match fuel with
  | 0 => .error ⟨.eofObject, []⟩
  | fuel + 1 =>
    match skipSpace s with
    | [] => .error ⟨.eofObject, []⟩
    | b :: rest =>
      if b = 0x7d then .ok (.object acc, rest)
      else if !first && b ≠ 0x2c then .error ⟨.expectedObjectCommaOrEnd, rest⟩
      else
        let member := if first then b :: rest else skipSpace rest
        match member with
        | [] => .error ⟨.eofValue, []⟩
        | c :: after =>
          if !first && c = 0x7d then .error ⟨.trailingComma, after⟩
          else if c ≠ 0x22 then .error ⟨.keyMustBeString, after⟩
          else
            match readString fuel after with
            | .error stop => .error stop
            | .ok (name, rest) =>
              match skipSpace rest with
              | [] => .error ⟨.eofObject, []⟩
              | d :: rest =>
                if d ≠ 0x3a then .error ⟨.expectedColon, rest⟩
                else
                  match readValue fuel depth rest with
                  | .error stop => .error stop
                  | .ok (v, rest) =>
                    readMembers fuel depth false (Entries.insert name v acc) rest

end

/-- The deepest nesting of arrays and objects that is read. -/
def maxDepth : Nat := 127

/-- Reads a whole text: one value with blanks around it. -/
def readBytes (s : List UInt8) : Except Stop Json :=
  match readValue (2 * s.length + 2) maxDepth s with
  | .error stop => .error stop
  | .ok (v, rest) =>
    match skipSpace rest with
    | [] => .ok v
    | _ :: after => .error ⟨.trailingCharacters, after⟩

/-- A fault and the place it points at, lines from 1 and columns in bytes from 1. -/
structure ReadError where
  fault : Fault
  line : Nat
  column : Nat
  deriving DecidableEq, Repr

/-- The reason and the place of an error. -/
def ReadError.message (e : ReadError) : String :=
  e.fault.message ++ " at line " ++ toString e.line ++ " column " ++ toString e.column

/-- The line and column reached after the bytes `passed`. -/
def positionAfter (passed : List UInt8) : Nat × Nat :=
  (passed.count 0x0a + 1, (passed.reverse.takeWhile (· != 0x0a)).length)

/-- Reads a JSON text given as bytes. -/
def read (s : List UInt8) : Except ReadError Json :=
  match readBytes s with
  | .ok v => .ok v
  | .error stop =>
    let (line, column) := positionAfter (s.take (s.length - stop.rest.length))
    .error ⟨stop.fault, line, column⟩

/-- Reads a JSON text. -/
def parse (text : String) : Except ReadError Json := read text.toUTF8.toList

end ControlRelay.Json
