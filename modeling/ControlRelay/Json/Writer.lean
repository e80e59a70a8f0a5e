import ControlRelay.Json.Basic
import ControlRelay.Decimal.Layout

/-!
# Writing JSON

`Json.text` is the text of a value without blanks: members in the order of the object, that is
in increasing key order, strings with the quote, the backslash and the characters below U+0020
escaped and all others raw, and floats by their shortest decimal in the layout `floatLayout`.
-/

namespace ControlRelay.Json

/-- Floats whose first digit stands between `10^-5` and `10^15` are written plain and with a
fraction, all others in scientific notation with a signed exponent. -/
def floatLayout : Decimal.Layout := ⟨some (-5, 16), ".0", "e+"⟩

/-- The text of a number. -/
def Number.text : Number → String
  | integer i => toString i
  | float x => floatLayout.write x

/-- The lower-case hexadecimal digit of a number below 16. -/
def hexChar (n : Nat) : Char := Char.ofNat (if n < 10 then 0x30 + n else 0x61 + n - 10)

/-- A character inside a string. -/
def escapeChar (c : Char) : List Char :=
  if c = '"' then ['\\', '"']
  else if c = '\\' then ['\\', '\\']
  else if c = '\n' then ['\\', 'n']
  else if c = '\r' then ['\\', 'r']
  else if c = '\t' then ['\\', 't']
  else if c = '\x08' then ['\\', 'b']
  else if c = '\x0c' then ['\\', 'f']
  else if c.toNat < 0x20 then ['\\', 'u', '0', '0', hexChar (c.toNat / 16), hexChar (c.toNat % 16)]
  else [c]

/-- A string between quotes. -/
def quoted (s : String) : List Char :=
  '"' :: (s.toList.flatMap escapeChar ++ ['"'])

mutual

/-- The characters of a value. -/
def chars : Json → List Char
  | null => "null".toList
  | bool true => "true".toList
  | bool false => "false".toList
  | number n => n.text.toList
  | string s => quoted s
  | array [] => ['[', ']']
  | array (v :: rest) => '[' :: (chars v ++ itemsChars rest)
  | object [] => ['{', '}']
  | object ((name, v) :: rest) => '{' :: (quoted name ++ ':' :: (chars v ++ membersChars rest))

/-- Further items and the end of an array. -/
def itemsChars : List Json → List Char
  | [] => [']']
  | v :: rest => ',' :: (chars v ++ itemsChars rest)

/-- Further members and the end of an object. -/
def membersChars : List (String × Json) → List Char
  | [] => ['}']
  | (name, v) :: rest => ',' :: (quoted name ++ ':' :: (chars v ++ membersChars rest))

end

/-- The text of a value. -/
def text (v : Json) : String := String.ofList v.chars

end ControlRelay.Json
