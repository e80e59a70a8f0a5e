import ControlRelay.Config.Settings
import Mathlib.Algebra.Order.Field.Rat
import Mathlib.Algebra.Order.Round
import Mathlib.Data.Nat.Cast.Order.Field
import Mathlib.Tactic.FieldSimp
import Mathlib.Tactic.Linarith
import Mathlib.Tactic.Positivity
import Mathlib.Tactic.Ring

/-!
# Which delays can be represented

A finite float is the fraction `± m · 2^e` told by its bits, so the delay that settings give in
seconds is an exact number.  From `2^64` seconds on it has no representation; below that it is
the nearest whole number of nanoseconds, and nothing else than the size of the number decides
which of the two it is.
-/

namespace ControlRelay

open Float.Model (UnpackedFloat Format)

/-! ### The number a float stands for -/

/-- The number that a finite float stands for; an infinity and NaN stand for none. -/
def exactValue? (x : Float) : Option ℚ :=
  match x.toModel.unpack with
  | .zero _ => some 0
  | .finite .positive mantissa exponent _ => some (mantissa * 2 ^ exponent)
  | .finite .negative mantissa exponent _ => some (-(mantissa * 2 ^ exponent))
  | .infinity _ => none
  | .notANumber => none

section

variable {x y : Float} {v : ℚ} {mantissa : Nat} {exponent : Int} {pos : 0 < mantissa}

theorem float_lt_iff :
    x < y ↔ x.toModel.unpack.lt y.toModel.unpack = true
  := by
  change decide (x.toModel.unpack.lt y.toModel.unpack = true) = true ↔ _
  apply decide_eq_true_iff

/-- The floats that pass as positive numbers of seconds. -/
theorem isFinite_and_pos_iff :
    (x.isFinite && 0.0 < x) = true ↔
      ∃ mantissa exponent pos, x.toModel.unpack = .finite .positive mantissa exponent pos
  := by
  rw [Bool.and_eq_true, decide_eq_true_iff, float_lt_iff]
  change x.toModel.unpack.isFinite = true ∧
    (UnpackedFloat.zero .positive).lt x.toModel.unpack = true ↔ _
  cases x.toModel.unpack with
  | infinity sign => apply iff_of_false nofun nofun
  | notANumber => apply iff_of_false nofun nofun
  | zero sign =>
    apply iff_of_false _ nofun
    rintro ⟨-, ⟨⟩⟩
  | finite sign mantissa exponent pos =>
    cases sign with
    | positive =>
      apply iff_of_true ⟨rfl, rfl⟩
      use mantissa, exponent, pos
    | negative =>
      apply iff_of_false
      · rintro ⟨-, ⟨⟩⟩
      · nofun

theorem exactValue?_of_positive
    (unpacked : x.toModel.unpack = .finite .positive mantissa exponent pos) :
    exactValue? x = some (mantissa * 2 ^ exponent : ℚ)
  := by
  unfold exactValue?
  rw [unpacked]

theorem pos_of_mantissa_pos (pos : 0 < mantissa) (exponent : Int) :
    (0 : ℚ) < mantissa * 2 ^ exponent
  := mul_pos (Nat.cast_pos.2 pos) (zpow_pos two_pos exponent)

/-- A number is positive just where its float passes as one. -/
theorem positive_of_exactValue? (value : exactValue? x = some v) (positive : 0 < v) :
    ∃ mantissa exponent pos, x.toModel.unpack = .finite .positive mantissa exponent pos
  := by
  unfold exactValue? at value
  revert value
  cases x.toModel.unpack with
  | infinity sign => rintro ⟨⟩
  | notANumber => rintro ⟨⟩
  | zero sign =>
    intro value
    obtain rfl := Option.some.inj value
    apply absurd positive (lt_irrefl 0)
  | finite sign mantissa exponent pos =>
    cases sign with
    | positive =>
      intro
      use mantissa, exponent, pos
    | negative =>
      intro value
      obtain rfl := Option.some.inj value
      apply absurd positive (neg_neg_of_pos (pos_of_mantissa_pos pos exponent)).not_gt

/-! ### The bits of a float -/

theorem toNat_unpackMantissa (bits : BitVec 64) :
    (@UnpackedFloat.unpackMantissa Format.binary64 bits).toNat = bits.toNat % 2 ^ 52
  := by
  simp [UnpackedFloat.unpackMantissa, BitVec.extractLsb, BitVec.extractLsb']

theorem toNat_unpackExponent (bits : BitVec 64) :
    (@UnpackedFloat.unpackExponent Format.binary64 bits).toNat =
      bits.toNat / 2 ^ 52 % 2 ^ 11
  := by
  simp [UnpackedFloat.unpackExponent, BitVec.extractLsb, BitVec.extractLsb',
    Nat.shiftRight_eq_div_pow]

theorem toNat_implicit_append {width : Nat} (fraction : BitVec width) :
    (1#1 ++ fraction).toNat = 2 ^ width + fraction.toNat
  := by
  rw [BitVec.toNat_append, ← Nat.shiftLeft_add_eq_or_of_lt fraction.isLt, Nat.shiftLeft_eq]
  simp

theorem Decimal.Binary.ofBits_of_subnormal {bits : UInt64}
    (subnormal : bits.toNat / 2 ^ 52 % 2 ^ 11 = 0) :
    ofBits bits = ⟨bits.toNat % 2 ^ 52, -1074, false⟩
  := if_pos subnormal

theorem Decimal.Binary.ofBits_of_normal {bits : UInt64}
    (normal : bits.toNat / 2 ^ 52 % 2 ^ 11 ≠ 0) :
    (ofBits bits).mantissa = 2 ^ 52 + bits.toNat % 2 ^ 52 ∧
      (ofBits bits).exponent = (bits.toNat / 2 ^ 52 % 2 ^ 11 : Nat) - 1075
  := by
  have read : ofBits bits = ⟨2 ^ 52 + bits.toNat % 2 ^ 52, _, _⟩ := if_neg normal
  rw [read]
  use rfl
  rfl

/-- The fields of a finite float other than zero.  Without a biased exponent the mantissa has no
implicit first digit. -/
theorem fields_of_unpack {sign : UnpackedFloat.Sign}
    (unpacked : x.toModel.unpack = .finite sign mantissa exponent pos) :
    x.toBits.toNat / 2 ^ 52 % 2 ^ 11 = 0 ∧ mantissa = x.toBits.toNat % 2 ^ 52 ∧
        exponent = -1074 ∨
      x.toBits.toNat / 2 ^ 52 % 2 ^ 11 ≠ 0 ∧ mantissa = 2 ^ 52 + x.toBits.toNat % 2 ^ 52 ∧
        exponent = (x.toBits.toNat / 2 ^ 52 % 2 ^ 11 : Nat) - 1075
  := by
  have fraction := toNat_unpackMantissa x.toBits.toBitVec
  have biased := toNat_unpackExponent x.toBits.toBitVec
  change UnpackedFloat.unpack Format.binary64 x.toBits.toBitVec = _ at unpacked
  unfold UnpackedFloat.unpack at unpacked
  dsimp only at unpacked
  by_cases special : @UnpackedFloat.unpackExponent Format.binary64 x.toBits.toBitVec = -1#11
  · rw [if_pos special] at unpacked
    by_cases whole : @UnpackedFloat.unpackMantissa Format.binary64 x.toBits.toBitVec = 0#52
    · rw [if_pos whole] at unpacked
      cases unpacked
    · rw [if_neg whole] at unpacked
      cases unpacked
  rw [if_neg special] at unpacked
  by_cases subnormal : @UnpackedFloat.unpackExponent Format.binary64 x.toBits.toBitVec = 0#11
  · rw [if_pos subnormal] at unpacked
    by_cases zero : @UnpackedFloat.unpackMantissa Format.binary64 x.toBits.toBitVec = 0#52
    · rw [dif_pos zero] at unpacked
      cases unpacked
    · rw [dif_neg zero, subnormal] at unpacked
      obtain ⟨-, rfl, rfl⟩ := UnpackedFloat.finite.inj unpacked
      rw [subnormal] at biased
      apply Or.inl ⟨biased.symm, fraction, rfl⟩
  · rw [if_neg subnormal] at unpacked
    obtain ⟨-, rfl, rfl⟩ := UnpackedFloat.finite.inj unpacked
    right
    rw [toNat_implicit_append, fraction, biased]
    refine ⟨?_, rfl, rfl⟩
    intro zero
    apply subnormal
    apply BitVec.eq_of_toNat_eq
    apply biased.trans zero

/-- The fraction read from the bits is the one that the float stands for. -/
theorem ofBits_of_unpack {sign : UnpackedFloat.Sign}
    (unpacked : x.toModel.unpack = .finite sign mantissa exponent pos) :
    (Decimal.Binary.ofBits x.toBits).mantissa = mantissa ∧
      (Decimal.Binary.ofBits x.toBits).exponent = exponent ∧ mantissa < 2 ^ 53
  := by
  have small : x.toBits.toNat % 2 ^ 52 < 2 ^ 52 := Nat.mod_lt _ (by decide)
  cases fields_of_unpack unpacked with
  | inl fields =>
    obtain ⟨subnormal, rfl, rfl⟩ := fields
    rw [Decimal.Binary.ofBits_of_subnormal subnormal]
    use rfl, rfl
    apply small.trans (by decide)
  | inr fields =>
    obtain ⟨normal, rfl, rfl⟩ := fields
    obtain ⟨mantissa, exponent⟩ := Decimal.Binary.ofBits_of_normal normal
    use mantissa, exponent
    apply Nat.add_lt_add_left small

end

/-- The number that a mantissa and an exponent stand for. -/
def Decimal.Binary.value (b : Binary) : ℚ := b.mantissa * 2 ^ b.exponent

namespace Config

open Decimal (Binary)

/-! ### Rounding -/

/-- `n` is the whole number nearest to `v`; of two equally near ones it is the even one. -/
def IsNearest (n : Nat) (v : ℚ) : Prop := |v - n| ≤ 1 / 2 ∧ (|v - n| = 1 / 2 → n % 2 = 0)

section

variable {n : Nat} {part : ℚ}

theorem isNearest_below (nonneg : 0 ≤ part) (le : part ≤ 1 / 2)
    (even : part = 1 / 2 → n % 2 = 0) :
    IsNearest n (n + part)
  := by
  unfold IsNearest
  rw [add_sub_cancel_left, abs_of_nonneg nonneg]
  use le

theorem isNearest_above (ge : 1 / 2 ≤ part) (le : part ≤ 1)
    (even : part = 1 / 2 → (n + 1) % 2 = 0) :
    IsNearest (n + 1) (n + part)
  := by
  have gap : (n + part : ℚ) - (n + 1 : Nat) = part - 1 := by
    push_cast
    ring
  unfold IsNearest
  rw [gap, abs_of_nonpos (sub_nonpos.2 le)]
  constructor
  · linarith
  · intro tie
    apply even
    linarith

end

theorem natCast_div_eq (num : Nat) {den : Nat} (pos : 0 < den) :
    (num : ℚ) / den = (num / den : Nat) + (num % den : Nat) / den
  := by
  have split : ((den * (num / den) + num % den : Nat) : ℚ) = num := by
    rw [Nat.div_add_mod]
  rw [← split]
  push_cast
  field_simp

/-- The quotient is rounded to a nearest number, and in a tie to the even one. -/
theorem isNearest_roundedQuotient (num : Nat) {den : Nat} (pos : 0 < den) :
    IsNearest (roundedQuotient num den) (num / den)
  := by
  have positive : (0 : ℚ) < den := Nat.cast_pos.2 pos
  have nonneg : (0 : ℚ) ≤ (num % den : Nat) / den := by positivity
  have lt_one : ((num % den : Nat) : ℚ) / den < 1 := by
    rw [div_lt_one positive]
    apply Nat.cast_lt.2 (Nat.mod_lt num pos)
  have below : 2 * (num % den) < den ↔ ((num % den : Nat) : ℚ) / den < 1 / 2 := by
    rw [div_lt_div_iff₀ positive two_pos, ← Nat.cast_lt (α := ℚ)]
    push_cast
    constructor <;> intro <;> linarith
  have above : den < 2 * (num % den) ↔ (1 / 2 : ℚ) < (num % den : Nat) / den := by
    rw [div_lt_div_iff₀ two_pos positive, ← Nat.cast_lt (α := ℚ)]
    push_cast
    constructor <;> intro <;> linarith
  rw [natCast_div_eq num pos]
  unfold roundedQuotient
  dsimp only
  split
  next less =>
    apply isNearest_below nonneg (below.1 less).le
    intro tie
    apply absurd tie (below.1 less).ne
  next notLess =>
    rw [below, not_lt] at notLess
    split
    next more =>
      apply isNearest_above notLess lt_one.le
      intro tie
      apply absurd tie (above.1 more).ne'
    next notMore =>
      rw [above, not_lt] at notMore
      split
      next even =>
        apply isNearest_below nonneg notMore
        intro
        apply even
      next odd =>
        apply isNearest_above notLess lt_one.le
        intro
        omega

/-! ### Nanoseconds -/

section

variable {b : Binary} {n : Nat}

/-- Both sides of a comparison with the number are brought to whole numbers. -/
theorem value_eq_div (b : Binary) :
    b.value =
      (b.mantissa * Nat.pow 2 b.exponent.toNat : Nat) / (Nat.pow 2 (-b.exponent).toNat : Nat)
  := by
  unfold Binary.value
  obtain ⟨k, nonneg | nonpos⟩ := b.exponent.eq_nat_or_neg
  · simp [nonneg]
  · simp [nonpos, div_eq_mul_inv]

theorem unit_pos (exponent : Int) :
    0 < Nat.pow 2 (-exponent).toNat
  := Nat.two_pow_pos _

theorem nanosOfBinary_eq_none_iff :
    nanosOfBinary b = none ↔ 2 ^ 64 ≤ b.value
  := by
  have positive : (0 : ℚ) < (Nat.pow 2 (-b.exponent).toNat : Nat) :=
    Nat.cast_pos.2 (unit_pos b.exponent)
  have size : ((UInt64.size : Nat) : ℚ) = 2 ^ 64 := by norm_num [UInt64.size]
  rw [value_eq_div, le_div_iff₀ positive, ← size, ← Nat.cast_mul, Nat.cast_le]
  unfold nanosOfBinary
  dsimp only
  split
  next large => use fun _ => large, fun _ => rfl
  next small => use nofun, fun large => absurd large small

theorem roundedQuotient_of_nanosOfBinary (nanos : nanosOfBinary b = some n) :
    b.mantissa * Nat.pow 2 b.exponent.toNat < 2 ^ 64 * Nat.pow 2 (-b.exponent).toNat ∧
      n = roundedQuotient (b.mantissa * Nat.pow 2 b.exponent.toNat * nanosPerSecond)
        (Nat.pow 2 (-b.exponent).toNat)
  := by
  unfold nanosOfBinary at nanos
  dsimp only at nanos
  split at nanos
  next => cases nanos
  next small => use not_le.1 small, (Option.some.inj nanos).symm

theorem isNearest_of_nanosOfBinary (nanos : nanosOfBinary b = some n) :
    IsNearest n (b.value * 10 ^ 9)
  := by
  obtain ⟨-, rfl⟩ := roundedQuotient_of_nanosOfBinary nanos
  have scaled : b.value * 10 ^ 9 =
      (b.mantissa * Nat.pow 2 b.exponent.toNat * nanosPerSecond : Nat) /
        (Nat.pow 2 (-b.exponent).toNat : Nat)
    := by
    rw [value_eq_div, div_mul_eq_mul_div, Nat.cast_mul _ nanosPerSecond]
    norm_num [nanosPerSecond]
  rw [scaled]
  apply isNearest_roundedQuotient _ (unit_pos b.exponent)

theorem roundedQuotient_le (num den : Nat) :
    roundedQuotient num den ≤ num + 1
  := by
  have quotient := Nat.div_le_self num den
  unfold roundedQuotient
  dsimp only
  split_ifs <;> omega

theorem roundedQuotient_one (num : Nat) :
    roundedQuotient num 1 = num
  := by
  simp [roundedQuotient, Nat.mod_one]

/-- A float below `2^64` stays below it when it is rounded to nanoseconds: it is whole, or far
below. -/
theorem lt_of_nanosOfBinary (short : b.mantissa < 2 ^ 53) (nanos : nanosOfBinary b = some n) :
    n < 2 ^ 64 * 10 ^ 9
  := by
  obtain ⟨small, rfl⟩ := roundedQuotient_of_nanosOfBinary nanos
  obtain ⟨k, whole | broken⟩ := b.exponent.eq_nat_or_neg
  · simp only [whole, Int.toNat_natCast, Int.toNat_neg_natCast, Nat.pow_eq, pow_zero] at small ⊢
    rw [roundedQuotient_one]
    unfold nanosPerSecond
    omega
  · simp only [broken, neg_neg, Int.toNat_natCast, Int.toNat_neg_natCast, Nat.pow_eq, pow_zero]
    apply (roundedQuotient_le _ _).trans_lt
    unfold nanosPerSecond
    omega

end

/-! ### Delays -/

section

variable {seconds : Float} {v : ℚ}

/-- A positive number of seconds is converted as the fraction that it is. -/
theorem delayNanos?_of_pos (value : exactValue? seconds = some v) (positive : 0 < v) :
    ∃ b : Binary, delayNanos? seconds = nanosOfBinary b ∧ b.value = v ∧ b.mantissa < 2 ^ 53
  := by
  obtain ⟨mantissa, exponent, pos, unpacked⟩ := positive_of_exactValue? value positive
  obtain ⟨rfl, rfl, short⟩ := ofBits_of_unpack unpacked
  use .ofBits seconds.toBits
  and_intros
  · apply if_pos (isFinite_and_pos_iff.2 ⟨_, _, _, unpacked⟩)
  · apply Option.some.inj ((exactValue?_of_positive unpacked).symm.trans value)
  · apply short

/-- Everything else is no delay. -/
theorem delayNanos?_of_not_pos (unusable : ∀ v, exactValue? seconds = some v → v ≤ 0) :
    delayNanos? seconds = some 0
  := by
  apply if_neg
  rw [isFinite_and_pos_iff]
  rintro ⟨mantissa, exponent, pos, unpacked⟩
  apply absurd (pos_of_mantissa_pos pos exponent)
  apply not_lt.2
  apply unusable _ (exactValue?_of_positive unpacked)

theorem delayNanos?_eq_none_iff :
    delayNanos? seconds = none ↔ ∃ v, exactValue? seconds = some v ∧ 2 ^ 64 ≤ v
  := by
  by_cases usable : ∃ v, exactValue? seconds = some v ∧ 0 < v
  · obtain ⟨v, value, positive⟩ := usable
    obtain ⟨b, delay, rfl, -⟩ := delayNanos?_of_pos value positive
    rw [delay, nanosOfBinary_eq_none_iff, value]
    simp
  · have unusable : ∀ v, exactValue? seconds = some v → v ≤ 0 := by
      intro v value
      apply not_lt.1
      intro positive
      apply usable ⟨v, value, positive⟩
    rw [delayNanos?_of_not_pos unusable]
    apply iff_of_false nofun
    rintro ⟨v, value, large⟩
    apply (unusable v value).not_gt
    apply lt_of_lt_of_le (by norm_num) large

theorem delayNanos?_of_lt (value : exactValue? seconds = some v) (positive : 0 < v)
    (small : v < 2 ^ 64) :
    ∃ n, delayNanos? seconds = some n ∧ IsNearest n (v * 10 ^ 9) ∧ n < 2 ^ 64 * 10 ^ 9
  := by
  obtain ⟨b, delay, rfl, short⟩ := delayNanos?_of_pos value positive
  cases nanos : nanosOfBinary b with
  | none => apply absurd (nanosOfBinary_eq_none_iff.1 nanos) (not_le.2 small)
  | some n =>
    use n, delay.trans nanos
    use isNearest_of_nanosOfBinary nanos, lt_of_nanosOfBinary short nanos

end

end Config

end ControlRelay
