import ControlRelay.Decimal.Shortest

/-!
# Layouts of float text

The shortest decimal of a float is written in one of two ways: plain, as an integer part and
a fraction, or scientific, as one digit, further digits after a point, and an exponent.  A
`Layout` says where plain notation ends, what a whole number ends in and how an exponent is
marked; `Layout.write` writes a finite float accordingly.
-/

namespace ControlRelay.Decimal

/-- How a finite float is written. -/
structure Layout where
  /-- The decimal exponents of the first digit that are written plain, from the first number
  (included) to the second (excluded); `none` stands for all. -/
  plain : Option (Int × Int)
  /-- What a whole number in plain notation ends in. -/
  wholeEnd : String
  /-- The mark before an exponent that is not negative. -/
  positiveMark : String
  deriving DecidableEq, Repr

/-- The digits of the number, split at the decimal point. -/
def plainText (wholeEnd : String) (s : Scaled) : String :=
  let digits := toString s.digits
  if 0 ≤ s.exponent then
    digits ++ "".pushn '0' s.exponent.toNat ++ wholeEnd
  else
    let places := (-s.exponent).toNat
    if places < digits.length then
      (digits.take (digits.length - places)).toString ++ "."
        ++ (digits.drop (digits.length - places)).toString
    else
      "0." ++ "".pushn '0' (places - digits.length) ++ digits

/-- One digit, the other digits after a point, and the exponent of the first digit. -/
def scientificText (positiveMark : String) (s : Scaled) : String :=
  let digits := toString s.digits
  let exponent := s.exponent + (digits.length - 1 : Nat)
  let fraction := (digits.drop 1).toString
  (digits.take 1).toString ++ (if fraction.isEmpty then "" else "." ++ fraction)
    ++ (if 0 ≤ exponent then positiveMark ++ toString exponent else "e" ++ toString exponent)

/-- The decimal of `bits`, without the sign; zero is `0 · 10^0`. -/
def magnitude (bits : UInt64) : Scaled :=
  let b := Binary.ofBits bits
  if b.mantissa = 0 then ⟨0, 0⟩ else b.shortest

/-- A finite float in this layout. -/
def Layout.write (layout : Layout) (x : Float) : String :=
  let s := magnitude x.toBits
  let first := s.exponent + ((toString s.digits).length - 1 : Nat)
  let isPlain := match layout.plain with
    | none => true
    | some (least, bound) => least ≤ first && first < bound
  let text := if isPlain then plainText layout.wholeEnd s else scientificText layout.positiveMark s
  if x.toBits.toNat / 0x8000000000000000 = 1 then "-" ++ text else text

end ControlRelay.Decimal
