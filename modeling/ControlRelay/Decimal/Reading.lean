/-!
# Reading decimals

Two ways from a decimal to a binary float.  `nearest` is the float nearest to the decimal, as
configuration files read their numbers.  `scaled` starts from a significand of at most 64 bits
and multiplies or divides it by one power of ten, rounding at each of the two steps, as JSON
numbers are read; a result past the largest float is refused.
-/

namespace ControlRelay.Decimal

/-- The float nearest to `digits · 10^exponent`, infinity past the largest one. -/
def nearest (digits : Nat) (exponent : Int) : Float :=
  let leading := exponent + (toString digits).length
  if digits = 0 || leading < -330 then 0.0
  else if 310 < leading then Float.ofBits 0x7ff0000000000000
  else Float.ofScientific digits (exponent < 0) exponent.natAbs

/-- Divides `x` by `10^308` as long as the exponent is below `-308`, then scales by the power
of ten that is left; `none` if that is infinite. -/
def scaledFrom (x : Float) : Nat → Int → Option Float
  | 0, _ => some 0.0
  | fuel + 1, exponent =>
    if exponent < -308 then
      if x == 0.0 then some x
      else scaledFrom (x / Float.ofScientific 1 false 308) fuel (exponent + 308)
    else if exponent < 0 then some (x / Float.ofScientific 1 false exponent.natAbs)
    else if exponent ≤ 308 then
      let y := x * Float.ofScientific 1 false exponent.natAbs
      if y.isInf then none else some y
    else if x == 0.0 then some x
    else none

/-- The float read for `significand · 10^exponent`.  Four divisions by `10^308` bring every
significand to zero. -/
def scaled (significand : UInt64) (exponent : Int) : Option Float :=
  scaledFrom significand.toFloat 6 exponent

end ControlRelay.Decimal
