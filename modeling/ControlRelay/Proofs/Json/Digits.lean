import ControlRelay.Proofs.Json.Escaping
import Mathlib.Data.Nat.Digits.Defs

/-!
# Integers as they are written and read

The digits of a number below `2^64` are read back as that number, if a value may end after them.
The first digit of a number other than zero is not zero, so no such text is refused for a leading
zero.
-/

namespace ControlRelay.Json

/-- Whether a value may end before this text: nothing follows, or a comma or the end of an array
or object does. -/
def Closes (rest : List UInt8) : Prop := ∀ b ∈ rest.head?, b = 0x2c ∨ b = 0x5d ∨ b = 0x7d

namespace Number

/-! ### Digits -/

/-- A digit is one byte, and that byte is a digit of the same value. -/
theorem utf8EncodeChar_digit {c : Char} (digit : c.isDigit = true) :
    ∃ b, String.utf8EncodeChar c = [b] ∧ isDigit b = true ∧ b.toNat - 0x30 = c.toNat - '0'.toNat ∧
      b.toNat = c.toNat
  := by
  obtain ⟨low, high⟩ := Char.isDigit_iff_toNat.1 digit
  have low : 0x30 ≤ c.toNat := low
  have high : c.toNat ≤ 0x39 := high
  have value : (UInt8.ofNat c.toNat).toNat = c.toNat := by
    rw [UInt8.toNat_ofNat', Nat.mod_eq_of_lt (by omega)]
  use UInt8.ofNat c.toNat, utf8EncodeChar_of_ascii (by omega)
  refine ⟨?_, by rw [value]; rfl, value⟩
  simp only [isDigit, Bool.and_eq_true, decide_eq_true_eq, UInt8.le_iff_toNat_le, value]
  exact ⟨low, high⟩

theorem not_isDigit_of_closes {rest : List UInt8} (closed : Closes rest) :
    ∀ b ∈ rest.head?, isDigit b = false
  := by
  intro b first
  obtain rfl | rfl | rfl := closed b first <;> rfl

/-- The digits before the end of a value are those that are written. -/
theorem digits_append {cs : List Char} (all_digits : ∀ c ∈ cs, c.isDigit = true)
    {rest : List UInt8} (closed : Closes rest) :
    digits (bytesOf cs ++ rest) = (cs.map fun c => c.toNat - '0'.toNat, rest)
  := by
  induction cs with
  | nil =>
    have stop := not_isDigit_of_closes closed
    cases rest with
    | nil => rfl
    | cons b rest => simp [digits, bytesOf, stop b rfl]
  | cons c cs ih =>
    obtain ⟨digit, others⟩ := List.forall_mem_cons.1 all_digits
    obtain ⟨b, encoded, is_digit, value, -⟩ := utf8EncodeChar_digit digit
    have ih := Prod.mk.inj (ih others)
    rw [bytesOf_cons, encoded, List.append_assoc, List.singleton_append]
    simp [digits, is_digit, value, ih]

theorem le_ofDigitChars (cs : List Char) (start : Nat) :
    start ≤ Nat.ofDigitChars 10 cs start
  := by
  induction cs generalizing start with
  | nil => exact le_rfl
  | cons c cs ih =>
    rw [Nat.ofDigitChars_cons]
    have := ih (10 * start + (c.toNat - '0'.toNat))
    omega

/-- All digits of a number that fits 64 bits enter the significand. -/
theorem significand_digits {cs : List Char} {start : Nat}
    (fits : Nat.ofDigitChars 10 cs start < UInt64.size) :
    significand start (cs.map fun c => c.toNat - '0'.toNat) = (Nat.ofDigitChars 10 cs start, 0)
  := by
  induction cs generalizing start with
  | nil => rfl
  | cons c cs ih =>
    rw [Nat.ofDigitChars_cons, Nat.mul_comm] at fits ⊢
    have room := le_ofDigitChars cs (start * 10 + (c.toNat - '0'.toNat))
    rw [List.map_cons, significand, if_pos (by omega), ih fits]

/-- The digits of a number begin with a digit, and only those of zero with a zero. -/
theorem exists_toDigits_cons (n : Nat) :
    ∃ c cs, Nat.toDigits 10 n = c :: cs ∧ c.isDigit = true ∧ (c = '0' → n = 0)
  := by
  induction n using Nat.strong_induction_on with
  | _ n ih =>
    by_cases single : n < 10
    · use n.digitChar, [], Nat.toDigits_of_lt_base single
      rw [Nat.isDigit_digitChar, decide_eq_true single]
      exact ⟨rfl, Nat.digitChar_eq_zero.1⟩
    · obtain ⟨c, cs, opened, digit, zero⟩ := ih (n / 10) (by omega)
      rw [Nat.toDigits_of_base_le (by decide) (by omega), opened]
      refine ⟨c, _, rfl, digit, fun leading => ?_⟩
      have := zero leading
      omega

theorem exists_bytesOf_toDigits (n : Nat) :
    ∃ b rest, bytesOf (Nat.toDigits 10 n) = b :: rest ∧ isDigit b = true ∧ (b = 0x30 → n = 0)
  := by
  obtain ⟨c, cs, opened, digit, zero⟩ := exists_toDigits_cons n
  obtain ⟨b, encoded, is_digit, -, same⟩ := utf8EncodeChar_digit digit
  use b, bytesOf cs
  rw [opened, bytesOf_cons, encoded]
  refine ⟨rfl, is_digit, ?_⟩
  rintro rfl
  exact zero (Char.toNat_inj.1 same.symm)

/-! ### Reading a number -/

/-- After its digits a number ends where a value may end. -/
theorem readUnsigned_digits {n : Nat} (fits : n < UInt64.size) (negative : Bool)
    {rest : List UInt8} (closed : Closes rest) :
    readUnsigned negative (bytesOf (Nat.toDigits 10 n) ++ rest) = ofDigits negative n 0 rest
  := by
  obtain rfl | positive := Nat.eq_zero_or_pos n
  · cases rest with
    | nil => rfl
    | cons b rest => obtain rfl | rfl | rfl := closed b rfl <;> rfl
  · have read := digits_append (fun c => Nat.isDigit_of_mem_toDigits (n := n) (by decide) le_rfl)
      closed
    have value : significand 0 ((Nat.toDigits 10 n).map fun c => c.toNat - '0'.toNat) = (n, 0) := by
      rw [significand_digits, Nat.ofDigitChars_ten_toDigits]
      rwa [Nat.ofDigitChars_ten_toDigits]
    obtain ⟨b, more, opened, digit, zero⟩ := exists_bytesOf_toDigits n
    rw [opened, List.cons_append] at read ⊢
    unfold readUnsigned
    split
    next empty => cases empty
    next first => exact absurd (zero (List.cons.inj first).1) (Nat.ne_of_gt positive)
    next first =>
      obtain ⟨rfl, rfl⟩ := List.cons.inj first
      rw [if_pos digit, read]
      dsimp only
      rw [value]
      cases rest with
      | nil => rfl
      | cons b rest => obtain rfl | rfl | rfl := closed b rfl <;> rfl

/-- An integer is written as its digits, or as those of its opposite after a minus. -/
theorem natural_or_negative (i : Int) :
    (∃ n : Nat, i = n) ∨ ∃ n : Nat, 0 < n ∧ i = -n
  := by
  obtain ⟨n, rfl | rfl⟩ := i.eq_nat_or_neg
  · exact .inl ⟨n, rfl⟩
  · obtain rfl | positive := Nat.eq_zero_or_pos n
    · exact .inl ⟨0, rfl⟩
    · exact .inr ⟨n, positive, rfl⟩

/-- The text of a natural number is its digits. -/
theorem toList_text_natural (n : Nat) :
    (integer n).text.toList = Nat.toDigits 10 n
  := by
  have written : (integer n).text = n.repr := Int.repr_eq_if.trans (if_pos (Int.natCast_nonneg n))
  rw [written, Nat.toList_repr]

/-- The text of a number below zero is its digits after a minus. -/
theorem toList_text_negative {n : Nat} (positive : 0 < n) :
    (integer (-n)).text.toList = '-' :: Nat.toDigits 10 n
  := by
  have written : (integer (-n)).text = "-" ++ (- -(n : Int)).toNat.repr :=
    Int.repr_eq_if.trans (if_neg (by omega))
  rw [written, Int.neg_neg, Int.toNat_natCast, String.toList_append, Nat.toList_repr]
  rfl

/-- The integers that are kept as such: those of 64 bits, with a sign or without. -/
def IsWord (i : Int) : Prop := -2 ^ 63 ≤ i ∧ i < 2 ^ 64

instance : DecidablePred IsWord := fun i =>
  inferInstanceAs (Decidable (-2 ^ 63 ≤ i ∧ i < 2 ^ 64))

theorem readUnsigned_natural {n : Nat} (word : IsWord n) {rest : List UInt8}
    (closed : Closes rest) :
    readUnsigned false (bytesOf (Nat.toDigits 10 n) ++ rest) = .ok (integer n, rest)
  := by
  have fits : n < UInt64.size := Int.ofNat_lt.1 word.2
  rw [readUnsigned_digits fits false closed]
  rfl

theorem readUnsigned_negative {n : Nat} (positive : 0 < n) (word : IsWord (-n))
    {rest : List UInt8} (closed : Closes rest) :
    readUnsigned true (bytesOf (Nat.toDigits 10 n) ++ rest) = .ok (integer (-n), rest)
  := by
  have least : n ≤ 0x8000000000000000 := by
    have := word.1
    omega
  have fits : n < UInt64.size := Nat.lt_of_le_of_lt least (by decide)
  rw [readUnsigned_digits fits true closed]
  unfold ofDigits
  rw [if_neg (Nat.lt_irrefl 0), if_neg (by decide), if_pos (by simp [positive, least])]

theorem printed_integer (i : Int) :
    Printed (integer i).text.toList
  := by
  have digits (n : Nat) : Printed (Nat.toDigits 10 n) := by
    intro c mem
    have digit := Nat.isDigit_of_mem_toDigits (by decide) le_rfl mem
    exact Nat.le_trans (by decide) (Char.isDigit_iff_toNat.1 digit).1
  obtain ⟨n, rfl⟩ | ⟨n, positive, rfl⟩ := natural_or_negative i
  · rw [toList_text_natural]
    exact digits n
  · rw [toList_text_negative positive]
    exact printed_cons (by decide) (digits n)

end Number

end ControlRelay.Json
