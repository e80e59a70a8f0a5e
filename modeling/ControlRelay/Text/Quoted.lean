import ControlRelay.Text.Invisible

/-!
# Quoted text

`quoted` shows a text between double quotes, as messages quote a value they refuse.  The quote
and the backslash are written after a backslash, tab, line feed, carriage return and NUL by
their letters, and every other character that would not show by its code point.
-/

namespace ControlRelay.Text

/-- A number in lower-case hexadecimal. -/
def hexText (n : Nat) : String := String.ofList (Nat.toDigits 16 n)

/-- One character of quoted text. -/
def quotedChar (c : Char) : String :=
  if c = '"' then "\\\""
  else if c = '\\' then "\\\\"
  else if c = '\t' then "\\t"
  else if c = '\n' then "\\n"
  else if c = '\r' then "\\r"
  else if c.toNat = 0 then "\\0"
  else if c.toNat < 0x20 || 0x7f ≤ c.toNat && isInvisible c then
    "\\u\x7b" ++ hexText c.toNat ++ "\x7d"
  else c.toString

/-- A text between double quotes. -/
def quoted (s : String) : String :=
  "\"" ++ String.join (s.toList.map quotedChar) ++ "\""

end ControlRelay.Text
