import ControlRelay.Json.Shape
import ControlRelay.Text.Blank

/-!
# Job ids

A job id is a 64-bit number.  It is written with sixteen upper-case hexadecimal digits, so ids
compare as texts as they do as numbers.  It is read from hexadecimal digits of either case with
any number of leading zeros, after an optional plus sign and with blanks around.
-/

namespace ControlRelay

/-- The identifier of a job. -/
structure JobId where
  value : UInt64
  deriving DecidableEq, Repr

namespace JobId

/-- The upper-case hexadecimal digit of a number below 16. -/
def digitChar (n : Nat) : Char := Char.ofNat (if n < 10 then 0x30 + n else 0x41 + n - 10)

/-- The last `count` hexadecimal digits of a number. -/
def digitChars : Nat → Nat → List Char
  | 0, _ => []
  | count + 1, n => digitChars count (n / 16) ++ [digitChar (n % 16)]

/-- The sixteen digits of an id. -/
def text (id : JobId) : String := String.ofList (digitChars 16 id.value.toNat)

/-- The value of a hexadecimal digit of either case. -/
def digitValue? (c : Char) : Option Nat :=
  let n := c.toNat
  if 0x30 ≤ n ∧ n ≤ 0x39 then some (n - 0x30)
  else if 0x61 ≤ n ∧ n ≤ 0x66 then some (n - 0x61 + 10)
  else if 0x41 ≤ n ∧ n ≤ 0x46 then some (n - 0x41 + 10)
  else none

/-- The number that hexadecimal digits stand for, the first of them counted after `value`. -/
def valueOfDigits? (value : Nat) : List Char → Option Nat
  | [] => some value
  | c :: cs => (digitValue? c).bind fun d => valueOfDigits? (value * 16 + d) cs

/-- The number that at least one digit after an optional plus sign stands for. -/
def valueOfSigned? : List Char → Option Nat
  | [] => none
  | ['+'] => none
  | '+' :: c :: cs => valueOfDigits? 0 (c :: cs)
  | c :: cs => valueOfDigits? 0 (c :: cs)

/-- The id that a text stands for. -/
def ofText? (text : String) : Option JobId :=
  match valueOfSigned? (Text.trimChars text.toList) with
  | some n => if n < UInt64.size then some ⟨UInt64.ofNat n⟩ else none
  | none => none

/-- The message for a text that is no id. -/
def invalidMessage (text : String) : String := "invalid job id '" ++ text ++ "'"

/-- An id is sent as its text. -/
def toJson (id : JobId) : Json := .string id.text

/-- Reads an id from its text. -/
def shape : Json.Shape JobId := fun v => do
  let text ← Json.Shape.string v
  match ofText? text with
  | some id => .ok id
  | none => .error (.malformed (invalidMessage text))

end JobId

end ControlRelay
