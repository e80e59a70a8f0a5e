import ControlRelay.Queue.JobId
import Mathlib.Tactic.Ring

/-!
# Job ids are read back

The digits of an id say its value: reading one more of them is multiplying by sixteen and adding,
as taking them off from the end was dividing.  Nothing is trimmed from them and no sign stands
before them, so the text of an id is read as that id.
-/

namespace ControlRelay

theorem Text.trimChars_eq_self {cs : List Char} (solid : ∀ c ∈ cs, isBlank c = false) :
    trimChars cs = cs
  := by
  have kept {ds : List Char} (solid : ∀ c ∈ ds, isBlank c = false) :
      ds.dropWhile isBlank = ds
    := by
    cases ds with
    | nil => rfl
    | cons c ds => exact List.dropWhile_cons_of_neg (by simp [solid c List.mem_cons_self])
  rw [trimChars, kept solid, kept fun c member => solid c (List.mem_reverse.1 member),
    List.reverse_reverse]

namespace JobId

/-! ### Digits -/

theorem digitValue?_digitChar : ∀ d < 16, digitValue? (digitChar d) = some d
  := by decide

theorem mem_digitChars {count n : Nat} {c : Char} (member : c ∈ digitChars count n) :
    ∃ d < 16, c = digitChar d
  := by
  induction count generalizing n with
  | zero => cases member
  | succ count ih =>
    rw [digitChars, List.mem_append, List.mem_singleton] at member
    obtain before | last := member
    · exact ih before
    · exact ⟨n % 16, Nat.mod_lt n (by decide), last⟩

theorem length_digitChars (count n : Nat) :
    (digitChars count n).length = count
  := by
  induction count generalizing n with
  | zero => rfl
  | succ count ih => rw [digitChars, List.length_append, ih, List.length_singleton]

theorem valueOfDigits?_append (cs ds : List Char) (value : Nat) :
    valueOfDigits? value (cs ++ ds) = (valueOfDigits? value cs).bind (valueOfDigits? · ds)
  := by
  induction cs generalizing value with
  | nil => rfl
  | cons c cs ih =>
    rw [List.cons_append, valueOfDigits?, valueOfDigits?, Option.bind_assoc]
    exact Option.bind_congr fun d _ => ih (value * 16 + d)

/-- As many of the last digits of a number as there are stand for what is left of it. -/
theorem valueOfDigits?_digitChars (count n value : Nat) :
    valueOfDigits? value (digitChars count n) = some (value * 16 ^ count + n % 16 ^ count)
  := by
  induction count generalizing n with
  | zero => rw [digitChars, valueOfDigits?, pow_zero, Nat.mod_one, mul_one, add_zero]
  | succ count ih =>
    rw [digitChars, valueOfDigits?_append, ih, Option.bind_some, valueOfDigits?,
      digitValue?_digitChar _ (Nat.mod_lt n (by decide)), Option.bind_some, valueOfDigits?,
      pow_succ', Nat.mod_mul]
    congr 1
    ring

/-! ### Texts -/

/-- Digits without a sign stand for their value. -/
theorem valueOfSigned?_digits {cs : List Char} (nonempty : cs ≠ []) (unsigned : '+' ∉ cs) :
    valueOfSigned? cs = valueOfDigits? 0 cs
  := by
  obtain ⟨c, cs, rfl⟩ := List.exists_cons_of_ne_nil nonempty
  have other : c ≠ '+' := fun same => unsigned (same ▸ List.mem_cons_self)
  simp [valueOfSigned?, other]

/-- The text of an id is read as that id. -/
theorem ofText?_text (id : JobId) :
    ofText? id.text = some id
  := by
  have each : ∀ d < 16, Text.isBlank (digitChar d) = false ∧ digitChar d ≠ '+' := by decide
  have solid : ∀ c ∈ digitChars 16 id.value.toNat, Text.isBlank c = false ∧ c ≠ '+' := by
    intro c member
    obtain ⟨d, small, rfl⟩ := mem_digitChars member
    exact each d small
  have nonempty : digitChars 16 id.value.toNat ≠ [] :=
    List.ne_nil_of_length_eq_add_one (length_digitChars 16 _)
  have fits : id.value.toNat < UInt64.size := id.value.toNat_lt
  rw [ofText?, text, String.toList_ofList,
    Text.trimChars_eq_self fun c member => (solid c member).1,
    valueOfSigned?_digits nonempty fun member => (solid _ member).2 rfl,
    valueOfDigits?_digitChars, show 16 ^ 16 = UInt64.size from rfl, Nat.mod_eq_of_lt fits,
    Nat.zero_mul, Nat.zero_add]
  simp only [if_pos fits, UInt64.ofNat_toNat]

end JobId

end ControlRelay
