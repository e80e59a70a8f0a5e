import ControlRelay.Decimal.Shortest

/-!
# Delays

A delay given as a float of seconds is kept as a whole number of nanoseconds, the nearest one,
and of two equally near ones the even one.  Delays of `2^64` seconds and more cannot be
represented.
-/

namespace ControlRelay.Config

/-- Nanoseconds in a second. -/
def nanosPerSecond : Nat := 1000000000

/-- The quotient rounded to the nearest number, a tie to the even one. -/
def roundedQuotient (num den : Nat) : Nat :=
  let q := num / den
  let twice := 2 * (num % den)
  if twice < den then q
  else if den < twice then q + 1
  else if q % 2 = 0 then q
  else q + 1

/-- The nanoseconds of a finite positive number of seconds, if they can be represented. -/
def nanosOfBinary (b : Decimal.Binary) : Option Nat :=
  let scaled := b.mantissa * Nat.pow 2 b.exponent.toNat
  let unit := Nat.pow 2 (-b.exponent).toNat
  if UInt64.size * unit ≤ scaled then none
  else some (roundedQuotient (scaled * nanosPerSecond) unit)

/-- The delay for a number of seconds: none for numbers that are negative, infinite or not a
number.  The result is `none` where the delay cannot be represented. -/
def delayNanos? (seconds : Float) : Option Nat :=
  if seconds.isFinite && 0.0 < seconds then nanosOfBinary (.ofBits seconds.toBits)
  else some 0

end ControlRelay.Config
