import ControlRelay.Proofs.Queue.JobId
import Mathlib.Data.List.TakeWhile
import Mathlib.Data.Nat.Digits.Lemmas

/-!
# Which texts stand for a job id

A text `Denotes` a number when it is written with hexadecimal digits of either case, blanks around
them and at most one plus sign before.  A text is read as an id exactly when it denotes its number.
The text of an id has sixteen digits, and ids are in the order of their texts.
-/

namespace ControlRelay

namespace Text

theorem dropWhile_blanks {blanks : List Char} (blank : ∀ c ∈ blanks, isBlank c = true)
    {c : Char} (solid : isBlank c = false) (cs : List Char) :
    (blanks ++ c :: cs).dropWhile isBlank = c :: cs
  := by
  rw [List.dropWhile_append_of_pos blank, List.dropWhile_cons_of_neg (by simp [solid])]

/-- What is left of a text that begins and ends in no blank, when blanks stand around it. -/
theorem trimChars_append {before cs after : List Char} (blank : ∀ c ∈ before, isBlank c = true)
    (blank' : ∀ c ∈ after, isBlank c = true) (solid : ∀ c ∈ cs, isBlank c = false)
    (some : cs ≠ []) :
    trimChars (before ++ cs ++ after) = cs
  := by
  obtain ⟨first, rest, rfl⟩ := List.exists_cons_of_ne_nil some
  obtain ⟨last, front, reversed⟩ := List.exists_cons_of_ne_nil (List.reverse_ne_nil_iff.2 some)
  have mem : last ∈ first :: rest := List.mem_reverse.1 (reversed ▸ List.mem_cons_self)
  rw [trimChars, List.append_assoc, List.cons_append,
    dropWhile_blanks blank (solid _ List.mem_cons_self), ← List.cons_append,
    List.reverse_append, reversed,
    dropWhile_blanks (fun c mem => blank' c (List.mem_reverse.1 mem)) (solid _ mem), ← reversed,
    List.reverse_reverse]

/-- Only blanks are trimmed. -/
theorem exists_trimChars (cs : List Char) :
    ∃ before after, cs = before ++ trimChars cs ++ after ∧
      (∀ c ∈ before, isBlank c = true) ∧ ∀ c ∈ after, isBlank c = true
  := by
  let rest := cs.dropWhile isBlank
  use cs.takeWhile isBlank, (rest.reverse.takeWhile isBlank).reverse
  and_intros
  · rw [trimChars, List.append_assoc, ← List.reverse_append, List.takeWhile_append_dropWhile,
      List.reverse_reverse, List.takeWhile_append_dropWhile]
  · intro c mem
    exact List.mem_takeWhile_imp mem
  · intro c mem
    exact List.mem_takeWhile_imp (List.mem_reverse.1 mem)

end Text

namespace JobId

/-! ### Numbers that texts denote -/

/-- The character is the hexadecimal digit for a number, in either case. -/
def IsDigit (c : Char) (d : Nat) : Prop :=
  "0123456789ABCDEF".toList[d]? = some c ∨ "0123456789abcdef".toList[d]? = some c

/-- A text denotes a number: hexadecimal digits after at most one plus sign, with blanks around. -/
def Denotes (text : String) (n : Nat) : Prop :=
  ∃ before sign digits values after, text.toList = before ++ (sign ++ digits) ++ after ∧
    (∀ c ∈ before, Text.isBlank c = true) ∧ (∀ c ∈ after, Text.isBlank c = true) ∧
    (sign = [] ∨ sign = ['+']) ∧ digits ≠ [] ∧ List.Forall₂ IsDigit digits values ∧
    n = Nat.ofDigits 16 values.reverse

/-- The digits of either case, with their values. -/
theorem IsDigit.mem {c : Char} {d : Nat} (digit : IsDigit c d) :
    (c, d) ∈ "0123456789ABCDEF".toList.zipIdx ++ "0123456789abcdef".toList.zipIdx
  := by
  apply List.mem_append.2
  exact digit.imp List.mem_zipIdx_iff_getElem?.2 List.mem_zipIdx_iff_getElem?.2

theorem digitValue?_eq_some_iff {c : Char} {d : Nat} :
    digitValue? c = some d ↔ IsDigit c d
  := by
  constructor
  · intro value
    have decimal : ∀ k < 10, "0123456789ABCDEF".toList[k]? = some (Char.ofNat (0x30 + k)) := by
      decide
    have small : ∀ k < 6, "0123456789abcdef".toList[k + 10]? = some (Char.ofNat (0x61 + k)) := by
      decide
    have capital : ∀ k < 6, "0123456789ABCDEF".toList[k + 10]? = some (Char.ofNat (0x41 + k)) := by
      decide
    unfold digitValue? at value
    dsimp only at value
    split at value
    next range =>
      obtain rfl := Option.some.inj value
      left
      rw [decimal _ (by omega), Nat.add_sub_cancel' range.1, Char.ofNat_toNat]
    split at value
    next range =>
      obtain rfl := Option.some.inj value
      right
      rw [small _ (by omega), Nat.add_sub_cancel' range.1, Char.ofNat_toNat]
    split at value
    next range =>
      obtain rfl := Option.some.inj value
      left
      rw [capital _ (by omega), Nat.add_sub_cancel' range.1, Char.ofNat_toNat]
    · cases value
  · intro digit
    have read : ∀ entry ∈ "0123456789ABCDEF".toList.zipIdx ++ "0123456789abcdef".toList.zipIdx,
        digitValue? entry.1 = some entry.2
      := by decide
    exact read (c, d) digit.mem

/-- One more digit in front. -/
theorem ofDigits_reverse_cons (value d : Nat) (values : List Nat) :
    value * 16 ^ (values.length + 1) + Nat.ofDigits 16 (d :: values).reverse =
      (value * 16 + d) * 16 ^ values.length + Nat.ofDigits 16 values.reverse
  := by
  rw [List.reverse_cons, Nat.ofDigits_append, Nat.ofDigits_singleton, List.length_reverse]
  ring

/-- The digits of a text stand for their value in the positional system. -/
theorem valueOfDigits?_eq_some_iff {cs : List Char} {value n : Nat} :
    valueOfDigits? value cs = some n ↔ ∃ values, List.Forall₂ IsDigit cs values ∧
      n = value * 16 ^ values.length + Nat.ofDigits 16 values.reverse
  := by
  induction cs generalizing value with
  | nil => simp [valueOfDigits?, eq_comm]
  | cons c cs ih =>
    simp only [valueOfDigits?, Option.bind_eq_some_iff, digitValue?_eq_some_iff, ih]
    constructor
    · rintro ⟨d, digit, values, digits, rfl⟩
      exact ⟨d :: values, digits.cons digit, (ofDigits_reverse_cons value d values).symm⟩
    · rintro ⟨values, digits, rfl⟩
      obtain ⟨d, values, digit, others, rfl⟩ := List.forall₂_cons_left_iff.1 digits
      exact ⟨d, digit, values, others, ofDigits_reverse_cons value d values⟩

/-- Digits are neither blank nor a sign. -/
theorem IsDigit.solid {c : Char} {d : Nat} (digit : IsDigit c d) :
    Text.isBlank c = false ∧ c ≠ '+'
  := by
  have solid : ∀ entry ∈ "0123456789ABCDEF".toList.zipIdx ++ "0123456789abcdef".toList.zipIdx,
      Text.isBlank entry.1 = false ∧ entry.1 ≠ '+'
    := by decide
  exact solid (c, d) digit.mem

theorem solid_of_digits {cs : List Char} {values : List Nat}
    (digits : List.Forall₂ IsDigit cs values) {c : Char} (mem : c ∈ cs) :
    Text.isBlank c = false ∧ c ≠ '+'
  := by
  induction digits with
  | nil => cases mem
  | cons digit _ ih =>
    obtain rfl | mem := List.mem_cons.1 mem
    · exact digit.solid
    · exact ih mem

theorem valueOfSigned?_eq_some_iff {cs : List Char} {n : Nat} :
    valueOfSigned? cs = some n ↔ ∃ sign digits values, cs = sign ++ digits ∧
      (sign = [] ∨ sign = ['+']) ∧ digits ≠ [] ∧ List.Forall₂ IsDigit digits values ∧
      n = Nat.ofDigits 16 values.reverse
  := by
  constructor
  · intro value
    cases cs with
    | nil => cases value
    | cons c cs =>
      by_cases plus : c = '+'
      · subst plus
        cases cs with
        | nil => cases value
        | cons c cs =>
          obtain ⟨values, digits, rfl⟩ := valueOfDigits?_eq_some_iff.1 value
          exact ⟨['+'], c :: cs, values, rfl, .inr rfl, List.cons_ne_nil c cs, digits, by simp⟩
      · rw [show valueOfSigned? (c :: cs) = valueOfDigits? 0 (c :: cs) by
          simp [valueOfSigned?, plus]] at value
        obtain ⟨values, digits, rfl⟩ := valueOfDigits?_eq_some_iff.1 value
        exact ⟨[], c :: cs, values, rfl, .inl rfl, List.cons_ne_nil c cs, digits, by simp⟩
  · rintro ⟨sign, digits, values, rfl, signed, some, digits', rfl⟩
    have value : valueOfDigits? 0 digits = Option.some (Nat.ofDigits 16 values.reverse) :=
      valueOfDigits?_eq_some_iff.2 ⟨values, digits', by simp⟩
    obtain rfl | rfl := signed
    · rw [List.nil_append, valueOfSigned?_digits some, value]
      exact fun mem => (solid_of_digits digits' mem).2 rfl
    · obtain ⟨c, cs, rfl⟩ := List.exists_cons_of_ne_nil some
      exact value

/-- What is read of the digits between the blanks is what the text denotes. -/
theorem valueOfSigned?_trimChars_iff {text : String} {n : Nat} :
    valueOfSigned? (Text.trimChars text.toList) = some n ↔ Denotes text n
  := by
  rw [valueOfSigned?_eq_some_iff]
  constructor
  · rintro ⟨sign, digits, values, trimmed, signed, some, digits', value⟩
    obtain ⟨before, after, split, blank, blank'⟩ := Text.exists_trimChars text.toList
    rw [trimmed] at split
    exact ⟨before, sign, digits, values, after, split, blank, blank', signed, some, digits', value⟩
  · rintro ⟨before, sign, digits, values, after, split, blank, blank', signed, some, digits', value⟩
    have solid : ∀ c ∈ sign ++ digits, Text.isBlank c = false := by
      intro c mem
      obtain mem | mem := List.mem_append.1 mem
      · obtain rfl | rfl := signed
        · cases mem
        · rw [List.mem_singleton.1 mem]
          rfl
      · exact (solid_of_digits digits' mem).1
    refine ⟨sign, digits, values, ?_, signed, some, digits', value⟩
    rw [split, Text.trimChars_append blank blank' solid]
    exact List.append_ne_nil_of_right_ne_nil sign some

/-- A text is read as the id whose number it denotes. -/
theorem ofText?_eq_some_iff {text : String} {id : JobId} :
    ofText? text = some id ↔ Denotes text id.value.toNat
  := by
  rw [← valueOfSigned?_trimChars_iff, ofText?]
  cases valueOfSigned? (Text.trimChars text.toList) with
  | none => simp
  | some n =>
    dsimp only
    split
    next fits =>
      rw [Option.some.injEq, Option.some.injEq]
      constructor
      · rintro rfl
        exact (UInt64.toNat_ofNat_of_lt' fits).symm
      · rintro rfl
        simp
    next large =>
      apply iff_of_false
      · rintro ⟨⟩
      · intro same
        rw [Option.some.inj same] at large
        exact large id.value.toNat_lt

/-- A text is refused when it denotes no number of 64 bits. -/
theorem ofText?_eq_none_iff {text : String} :
    ofText? text = none ↔ ∀ n, Denotes text n → 2 ^ 64 ≤ n
  := by
  constructor
  · intro refused n denotes
    by_contra small
    have fits : n < UInt64.size := Nat.lt_of_not_le small
    have value : (UInt64.ofNat n).toNat = n := UInt64.toNat_ofNat_of_lt' fits
    have read : ofText? text = some ⟨UInt64.ofNat n⟩ := by
      rw [ofText?_eq_some_iff, value]
      exact denotes
    rw [refused] at read
    cases read
  · intro large
    apply Option.eq_none_iff_forall_ne_some.2
    intro id read
    exact absurd id.value.toNat_lt (Nat.not_lt.2 (large _ (ofText?_eq_some_iff.1 read)))

/-! ### The order of the texts -/

theorem digitChar_lt_iff : ∀ d < 16, ∀ e < 16, digitChar d < digitChar e ↔ d < e
  := by decide

/-- Texts of one length are compared by their last characters when the others are the same. -/
theorem append_lt_append_iff {xs ys : List Char} (length : xs.length = ys.length) (x y : Char) :
    xs ++ [x] < ys ++ [y] ↔ xs < ys ∨ xs = ys ∧ x < y
  := by
  induction xs generalizing ys with
  | nil =>
    obtain rfl := List.eq_nil_of_length_eq_zero length.symm
    simp [List.cons_lt_cons_iff]
  | cons a xs ih =>
    obtain ⟨b, ys, rfl⟩ := List.exists_cons_of_length_eq_add_one length.symm
    rw [List.cons_append, List.cons_append, List.cons_lt_cons_iff, List.cons_lt_cons_iff,
      ih (Nat.succ.inj length), List.cons.injEq]
    tauto

theorem digitChars_inj {count n m : Nat} (fits : n < 16 ^ count) (fits' : m < 16 ^ count) :
    digitChars count n = digitChars count m ↔ n = m
  := by
  constructor
  · intro same
    have value := valueOfDigits?_digitChars count n 0
    rw [same, valueOfDigits?_digitChars, Nat.mod_eq_of_lt fits, Nat.mod_eq_of_lt fits'] at value
    simpa using value.symm
  · rintro rfl
    rfl

theorem digitChars_lt_iff {count n m : Nat} (fits : n < 16 ^ count) (fits' : m < 16 ^ count) :
    digitChars count n < digitChars count m ↔ n < m
  := by
  induction count generalizing n m with
  | zero =>
    rw [pow_zero] at fits fits'
    simp [digitChars]
    omega
  | succ count ih =>
    rw [pow_succ] at fits fits'
    have high : n / 16 < 16 ^ count := Nat.div_lt_of_lt_mul (by omega)
    have high' : m / 16 < 16 ^ count := Nat.div_lt_of_lt_mul (by omega)
    have length : (digitChars count (n / 16)).length = (digitChars count (m / 16)).length := by
      rw [length_digitChars, length_digitChars]
    rw [digitChars, digitChars, append_lt_append_iff length, ih high high',
      digitChars_inj high high', digitChar_lt_iff _ (Nat.mod_lt n (by decide)) _
        (Nat.mod_lt m (by decide))]
    omega

theorem text_lt_iff {id id' : JobId} :
    id.text < id'.text ↔ id.value < id'.value
  := by
  have order := digitChars_lt_iff (show id.value.toNat < 16 ^ 16 from id.value.toNat_lt)
    (show id'.value.toNat < 16 ^ 16 from id'.value.toNat_lt)
  rw [UInt64.lt_iff_toNat_lt, ← order, text, text, String.lt_iff, String.toList_ofList,
    String.toList_ofList]

theorem text_inj {id id' : JobId} :
    id.text = id'.text ↔ id = id'
  := by
  constructor
  · intro same
    exact Option.some.inj (by rw [← ofText?_text id, same, ofText?_text])
  · rintro rfl
    rfl

end JobId

end ControlRelay
