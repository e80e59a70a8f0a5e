import ControlRelay.Decimal.Layout

/-!
# Writing TOML scalars

How the strings and floats of a TOML document are written.  A string that holds quotes or
backslashes is written between apostrophes where that needs no escapes, every other string
between quotes; a string of several lines stands between triple marks, after a line end.
Floats are written plain at any size.
-/

namespace ControlRelay.Toml

/-- Floats are written without an exponent, whole ones with a zero after the point. -/
def floatLayout : Decimal.Layout := ⟨none, ".0", "e+"⟩

/-- A float; the values that are not finite have words. -/
def floatText (x : Float) : String :=
  if x.isNaN then "nan"
  else if x.isInf then (if x < 0.0 then "-inf" else "inf")
  else floatLayout.write x

/-- Characters that only an escape can stand for, apart from line feeds. -/
def isControl (c : Char) : Bool := c.toNat < 0x20 && c != '\t' && c != '\n' || c.toNat = 0x7f

/-- Whether three apostrophes in a row are among the characters. -/
def hasTripleApostrophe : List Char → Bool
  | '\'' :: '\'' :: '\'' :: _ => true
  | _ :: rest => hasTripleApostrophe rest
  | [] => false

/-- Whether a string is written between apostrophes: escapes would be needed between quotes,
and none is needed here. -/
def isLiteral (cs : List Char) : Bool :=
  (cs.contains '"' || cs.contains '\\') && !cs.any isControl && !hasTripleApostrophe cs
    && cs.getLast? != some '\''

/-- The upper-case hexadecimal digit of a number below 16. -/
def upperHex (n : Nat) : Char := Char.ofNat (if n < 10 then 0x30 + n else 0x41 + n - 10)

/-- A character between quotes; in a string of several lines a line feed stands for itself. -/
def escapeChar (severalLines : Bool) (c : Char) : List Char :=
  if c = '"' then ['\\', '"']
  else if c = '\\' then ['\\', '\\']
  else if c = '\n' then (if severalLines then ['\n'] else ['\\', 'n'])
  else if c = '\t' then ['\\', 't']
  else if c = '\r' then ['\\', 'r']
  else if c = '\x08' then ['\\', 'b']
  else if c = '\x0c' then ['\\', 'f']
  else if isControl c then
    ['\\', 'u', '0', '0', upperHex (c.toNat / 16), upperHex (c.toNat % 16)]
  else [c]

/-- The characters of a string with its marks. -/
def quotedChars (cs : List Char) : List Char :=
  let severalLines := cs.contains '\n'
  if isLiteral cs then
    if severalLines then "'''\n".toList ++ cs ++ "'''".toList
    else if cs.contains '\'' then "'''".toList ++ cs ++ "'''".toList
    else '\'' :: (cs ++ ['\''])
  else if severalLines then
    "\"\"\"\n".toList ++ cs.flatMap (escapeChar true) ++ "\"\"\"".toList
  else '"' :: (cs.flatMap (escapeChar false) ++ ['"'])

/-- A string with its marks. -/
def quoted (s : String) : String := String.ofList (quotedChars s.toList)

end ControlRelay.Toml
