/-!
# The shortest decimal of a binary float

A finite binary64 number is `m · 2^q`; every real number nearer to it than to its
neighbours reads back as the same float.  `shortest m q` is the decimal `digits · 10^exponent`
on the coarsest power-of-ten grid that has a point in that interval, and of the points of
the grid the one nearest to the number, an exact tie going to the even digit.  So it has
the fewest digits that read back.
-/

namespace ControlRelay.Decimal

/-- The number `digits · 10^exponent`. -/
structure Scaled where
  digits : Nat
  exponent : Int
  deriving DecidableEq, Repr

/-- A finite positive float as `mantissa · 2^exponent`; `narrowBelow` holds where the next
smaller float is only half as far away as the next larger one. -/
structure Binary where
  mantissa : Nat
  exponent : Int
  narrowBelow : Bool
  deriving DecidableEq, Repr

/-- The magnitude of a finite float, from its bits. -/
def Binary.ofBits (bits : UInt64) : Binary :=
  let fraction : Nat := bits.toNat % Nat.pow 2 52
  let biased : Nat := bits.toNat / Nat.pow 2 52 % Nat.pow 2 11
  if biased = 0 then ⟨fraction, -1074, false⟩
  else ⟨Nat.pow 2 52 + fraction, (biased : Int) - 1075, fraction = 0 && 1 < biased⟩

/-- The point of the grid `10^p` that lies in the rounding interval of `b` and is nearest to
`b`, if the grid has a point there.  Lengths are counted in quarters of the last binary
place, and both sides are brought to whole numbers first. -/
def Binary.gridPoint? (b : Binary) (p : Int) : Option Nat :=
  let binaryUnit := Nat.pow 2 (b.exponent - 2).toNat * Nat.pow 10 (-p).toNat
  let decimalUnit := Nat.pow 10 p.toNat * Nat.pow 2 (2 - b.exponent).toNat
  let value := 4 * b.mantissa * binaryUnit
  let low := (4 * b.mantissa - (if b.narrowBelow then 1 else 2)) * binaryUnit
  let high := (4 * b.mantissa + 2) * binaryUnit
  let endsIncluded := b.mantissa % 2 = 0
  let inside (d : Nat) : Bool :=
    let x := d * decimalUnit
    if endsIncluded then low ≤ x && x ≤ high else low < x && x < high
  let below := value / decimalUnit
  let above := below + 1
  let gapBelow := value - below * decimalUnit
  let gapAbove := above * decimalUnit - value
  match inside below && 0 < below, inside above with
  | true, true =>
    if gapBelow < gapAbove then some below
    else if gapAbove < gapBelow then some above
    else if below % 2 = 0 then some below
    else some above
  | true, false => some below
  | false, true => some above
  | false, false => none

/-- Tries the grids `10^p`, `10^(p-1)`, … and takes the first that has a point. -/
def Binary.search (b : Binary) : Nat → Int → Scaled
  | 0, p => ⟨b.mantissa, p⟩
  | fuel + 1, p =>
    match b.gridPoint? p with
    | some d => ⟨d, p⟩
    | none => b.search fuel (p - 1)

/-- The shortest decimal of a positive finite number.  The search starts above the number's
leading decimal place, and seventeen digits always read back. -/
def Binary.shortest (b : Binary) : Scaled :=
  let leading := (b.exponent + b.mantissa.log2) * 30103 / 100000
  b.search 24 (leading + 2)

end ControlRelay.Decimal
