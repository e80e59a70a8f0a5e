import ControlRelay.Json.Reader
import ControlRelay.Json.Writer
import ControlRelay.Proofs.Rpc.Opening
import Mathlib.Tactic.IntervalCases

/-!
# Strings as they are written and read

A string is written with its control characters escaped, so no byte of it is one, and the reader
gives it back.  The reader works on bytes: a character below U+0080 is one byte, and all bytes of
any other are larger than those.
-/

namespace ControlRelay.Json

/-- The UTF-8 bytes of characters. -/
def bytesOf (cs : List Char) : List UInt8 := cs.flatMap String.utf8EncodeChar

theorem bytesOf_append (cs ds : List Char) :
    bytesOf (cs ++ ds) = bytesOf cs ++ bytesOf ds
  := List.flatMap_append

theorem bytesOf_cons (c : Char) (cs : List Char) :
    bytesOf (c :: cs) = String.utf8EncodeChar c ++ bytesOf cs
  := rfl

/-! ### Bytes of texts -/

theorem toList_byteArray (bytes : ByteArray) :
    bytes.toList = bytes.data.toList
  := by
  -- the loop has taken the bytes before place `i`
  have loop (i : Nat) (taken : List UInt8) (within : i ≤ bytes.size) :
      ByteArray.toList.loop bytes i taken = taken.reverse ++ bytes.data.toList.drop i
    := by
    induction missing : bytes.size - i generalizing i taken with
    | zero =>
      have past : ¬ i < bytes.size := by omega
      have nothing : bytes.data.toList.drop i = [] := List.drop_of_length_le (by
        rw [Array.length_toList]
        exact Nat.le_of_not_lt past)
      rw [ByteArray.toList.loop, if_neg past, nothing, List.append_nil]
    | succ missing ih =>
      have inside : i < bytes.size := by omega
      have here : i < bytes.data.toList.length := by
        rw [Array.length_toList]
        exact inside
      have byte : bytes.get! i = bytes.data.toList[i] := by
        obtain ⟨data⟩ := bytes
        exact getElem!_pos data i inside
      rw [ByteArray.toList.loop, if_pos inside, ih (i + 1) _ inside (by omega),
        List.drop_eq_getElem_cons here, byte, List.reverse_cons, List.append_assoc]
      rfl
  exact loop 0 [] (Nat.zero_le _)

theorem toList_toUTF8_ofList (cs : List Char) :
    (String.ofList cs).toUTF8.toList = bytesOf cs
  := by
  rw [toList_byteArray, String.toUTF8_eq_toByteArray, String.toByteArray_ofList, List.utf8Encode,
    List.toList_data_toByteArray]
  rfl

theorem toList_toUTF8 (text : String) :
    text.toUTF8.toList = bytesOf text.toList
  := by
  rw [← toList_toUTF8_ofList, String.ofList_toList]

/-- The bytes of a text are read as that text. -/
theorem textOf?_bytesOf (s : String) :
    textOf? (bytesOf s.toList) = some s
  := by
  have same : (⟨(bytesOf s.toList).toArray⟩ : ByteArray) = s.toByteArray := by
    rw [← String.utf8Encode_toList, List.utf8Encode]
    exact ByteArray.ext List.data_toByteArray.symm
  unfold textOf? String.fromUTF8?
  rw [same, dif_pos s.isValidUTF8]
  rfl

/-! ### Bytes of characters -/

theorem utf8EncodeChar_of_ascii {c : Char} (ascii : c.toNat < 0x80) :
    String.utf8EncodeChar c = [UInt8.ofNat c.toNat]
  := by
  have small : c.val.toNat ≤ 127 := Nat.le_of_lt_succ ascii
  rw [String.utf8EncodeChar, if_pos small]
  rfl

theorem le_utf8EncodeChar {c : Char} (other : 0x80 ≤ c.toNat) {b : UInt8}
    (mem : b ∈ String.utf8EncodeChar c) :
    0x80 ≤ b
  := by
  have large : ¬ c.val.toNat ≤ 127 := Nat.not_le_of_lt other
  have marked {n : Nat} (low : 0x80 ≤ n) (high : n < 0x100) : 0x80 ≤ UInt8.ofNat n := by
    rw [UInt8.le_iff_toNat_le, UInt8.toNat_ofNat', Nat.mod_eq_of_lt high]
    exact low
  rw [String.utf8EncodeChar, if_neg large] at mem
  split at mem
  next =>
    simp only [List.mem_cons, List.not_mem_nil, or_false] at mem
    rcases mem with rfl | rfl <;> apply marked <;> omega
  next =>
    split at mem <;> simp only [List.mem_cons, List.not_mem_nil, or_false] at mem
    · rcases mem with rfl | rfl | rfl <;> apply marked <;> omega
    · rcases mem with rfl | rfl | rfl | rfl <;> apply marked <;> omega

/-- The bytes that stand for themselves in a string: no control character, no quote and no
backslash. -/
def IsRaw (b : UInt8) : Prop := 0x20 ≤ b ∧ b ≠ 0x22 ∧ b ≠ 0x5c

/-- A character that is not escaped is no control character, no quote and no backslash. -/
theorem plain_of_escapeChar {c : Char} (raw : escapeChar c = [c]) :
    0x20 ≤ c.toNat ∧ c.toNat ≠ 0x22 ∧ c.toNat ≠ 0x5c
  := by
  have differs (d : Char) (escaped : escapeChar d ≠ [d]) : c.toNat ≠ d.toNat := by
    intro same
    rw [Char.toNat_inj.1 same] at raw
    exact escaped raw
  refine ⟨?_, differs '"' (by decide), differs '\\' (by decide)⟩
  by_contra control
  unfold escapeChar at raw
  have control : c.toNat < 0x20 := Nat.lt_of_not_le control
  simp only [control, if_true] at raw
  split_ifs at raw <;> simp at raw

/-- The bytes of a character that is written raw stand for themselves. -/
theorem isRaw_of_escapeChar {c : Char} (raw : escapeChar c = [c]) {b : UInt8}
    (mem : b ∈ String.utf8EncodeChar c) :
    IsRaw b
  := by
  by_cases ascii : c.toNat < 0x80
  · obtain ⟨high, quote, backslash⟩ := plain_of_escapeChar raw
    rw [utf8EncodeChar_of_ascii ascii, List.mem_singleton] at mem
    have value : b.toNat = c.toNat := by
      rw [mem, UInt8.toNat_ofNat', Nat.mod_eq_of_lt (by omega)]
    refine ⟨UInt8.le_iff_toNat_le.2 (by rw [value]; exact high), ?_, ?_⟩
    · rintro rfl
      exact quote value.symm
    · rintro rfl
      exact backslash value.symm
  · have large := le_utf8EncodeChar (Nat.le_of_not_lt ascii) mem
    refine ⟨UInt8.le_trans (by decide) large, ?_, ?_⟩
    · rintro rfl
      exact absurd large (by decide)
    · rintro rfl
      exact absurd large (by decide)

/-! ### Reading a string -/

/-- Bytes that are written raw are read as they are. -/
theorem readStringBody_raw {bytes : List UInt8} (raw : ∀ b ∈ bytes, IsRaw b) (fuel : Nat)
    (acc rest : List UInt8) :
    readStringBody (fuel + bytes.length) acc (bytes ++ rest) =
      readStringBody fuel (bytes.reverse ++ acc) rest
  := by
  induction bytes generalizing acc with
  | nil => rfl
  | cons b bytes ih =>
    obtain ⟨⟨high, quote, backslash⟩, raw⟩ := List.forall_mem_cons.1 raw
    have control : ¬ b < 0x20 := UInt8.not_lt.2 high
    rw [List.length_cons, ← Nat.add_assoc, List.cons_append, readStringBody.eq_def]
    dsimp only
    rw [if_neg quote, if_neg backslash, if_neg control, ih raw, List.reverse_cons,
      List.append_assoc]
    rfl

/-- The escape of a control character is read as that character. -/
theorem readUnicodeEscape_control {n : Nat} (control : n < 0x20) (rest : List UInt8) :
    readUnicodeEscape (bytesOf ['0', '0', hexChar (n / 16), hexChar (n % 16)] ++ rest) =
      .ok (codePointBytes n, rest)
  := by
  have hex : readHex (bytesOf ['0', '0', hexChar (n / 16), hexChar (n % 16)] ++ rest) =
      .ok (n, rest)
    := by
    interval_cases n <;> rfl
  unfold readUnicodeEscape
  rw [hex]
  dsimp only
  rw [if_neg (by simp; omega), if_pos (by simp; omega)]

/-- An escaped character is read in some rounds, one for each byte at most. -/
theorem exists_readStringBody_escaped (c : Char) :
    ∃ used ≤ (bytesOf (escapeChar c)).length, ∀ fuel acc rest,
      readStringBody (fuel + used) acc (bytesOf (escapeChar c) ++ rest) =
        readStringBody fuel ((String.utf8EncodeChar c).reverse ++ acc) rest
  := by
  fun_cases escapeChar c
  case case8 control =>
    use 1
    constructor
    · rw [bytesOf_cons, utf8EncodeChar_of_ascii (by decide), List.length_append]
      apply Nat.le_add_right
    · intro fuel acc rest
      have opened : bytesOf ['\\', 'u', '0', '0', hexChar (c.toNat / 16), hexChar (c.toNat % 16)] =
          0x5c :: 0x75 :: bytesOf ['0', '0', hexChar (c.toNat / 16), hexChar (c.toNat % 16)]
        := rfl
      rw [opened, List.cons_append, List.cons_append, readStringBody.eq_def]
      dsimp only
      rw [if_neg (by decide), if_pos rfl, if_pos rfl, readUnicodeEscape_control control]
      dsimp only
      rw [codePointBytes, Char.ofNat_toNat]
  case case9 =>
    have itself : bytesOf [c] = String.utf8EncodeChar c := List.append_nil _
    rw [itself]
    refine ⟨_, le_rfl, fun fuel acc rest => readStringBody_raw (fun b mem => ?_) fuel acc rest⟩
    apply isRaw_of_escapeChar _ mem
    simp [escapeChar, *]
  all_goals
    subst_vars
    exact ⟨1, by decide, fun _ _ _ => rfl⟩

/-- A string is read up to its closing quote. -/
theorem readStringBody_quoted (cs : List Char) (fuel : Nat) (acc rest : List UInt8)
    (enough : (bytesOf (cs.flatMap escapeChar)).length < fuel) :
    readStringBody fuel acc (bytesOf (cs.flatMap escapeChar) ++ 0x22 :: rest) =
      .ok (acc.reverse ++ bytesOf cs, rest)
  := by
  induction cs generalizing fuel acc with
  | nil =>
    obtain ⟨fuel, rfl⟩ := Nat.exists_eq_add_one_of_ne_zero (Nat.ne_of_gt enough)
    simp [readStringBody, bytesOf]
  | cons c cs ih =>
    -- a character may take fewer rounds than it has bytes, so some fuel is left over
    obtain ⟨used, few, read⟩ := exists_readStringBody_escaped c
    rw [List.flatMap_cons, bytesOf_append, List.length_append] at enough
    obtain ⟨left, rfl⟩ : ∃ left, fuel = left + used := ⟨fuel - used, by omega⟩
    rw [List.flatMap_cons, bytesOf_append, List.append_assoc, read, ih _ _ (by omega),
      List.reverse_append, List.reverse_reverse, List.append_assoc, bytesOf_cons]

/-- A string is read back from its text. -/
theorem readString_quoted (s : String) (fuel : Nat) (rest : List UInt8)
    (enough : (bytesOf (quoted s)).length ≤ fuel) :
    readString fuel (bytesOf (s.toList.flatMap escapeChar) ++ 0x22 :: rest) = .ok (s, rest)
  := by
  have shorter : (bytesOf (s.toList.flatMap escapeChar)).length < fuel := by
    rw [quoted, bytesOf_cons, bytesOf_append, List.length_append, List.length_append,
      utf8EncodeChar_of_ascii (by decide)] at enough
    dsimp only [List.length_singleton] at enough
    omega
  unfold readString
  rw [readStringBody_quoted s.toList fuel [] rest shorter]
  dsimp only
  rw [List.reverse_nil, List.nil_append, textOf?_bytesOf]

/-- The text of a string stands between quotes. -/
theorem bytesOf_quoted (s : String) :
    bytesOf (quoted s) = 0x22 :: (bytesOf (s.toList.flatMap escapeChar) ++ [0x22])
  := by
  rw [quoted, bytesOf_cons, bytesOf_append]
  rfl

/-! ### Control characters -/

/-- Whether a character is no control character of the ASCII range. -/
def IsPrinted (c : Char) : Prop := 0x20 ≤ c.toNat

instance : DecidablePred IsPrinted := fun c => inferInstanceAs (Decidable (0x20 ≤ c.toNat))

/-- Whether all characters of a text are printed. -/
def Printed (cs : List Char) : Prop := ∀ c ∈ cs, IsPrinted c

instance (cs : List Char) : Decidable (Printed cs) := List.decidableBAll IsPrinted cs

theorem printed_cons {c : Char} (first : IsPrinted c) {cs : List Char} (rest : Printed cs) :
    Printed (c :: cs)
  := List.forall_mem_cons.2 ⟨first, rest⟩

theorem Printed.append {cs ds : List Char} (first : Printed cs) (rest : Printed ds) :
    Printed (cs ++ ds)
  := List.forall_mem_append.2 ⟨first, rest⟩

/-- No byte of a printed character is a control character. -/
theorem IsPrinted.le {c : Char} (printed : IsPrinted c) {b : UInt8}
    (mem : b ∈ String.utf8EncodeChar c) :
    0x20 ≤ b
  := by
  by_cases ascii : c.toNat < 0x80
  · rw [utf8EncodeChar_of_ascii ascii, List.mem_singleton] at mem
    rw [mem, UInt8.le_iff_toNat_le, UInt8.toNat_ofNat', Nat.mod_eq_of_lt (by omega)]
    exact printed
  · exact UInt8.le_trans (by decide) (le_utf8EncodeChar (Nat.le_of_not_lt ascii) mem)

theorem isPrinted_hexChar {n : Nat} (digit : n < 16) :
    IsPrinted (hexChar n)
  := by
  interval_cases n <;> decide

/-- Control characters are escaped, and no escape holds one. -/
theorem printed_escapeChar (c : Char) :
    Printed (escapeChar c)
  := by
  fun_cases escapeChar c
  case case8 control =>
    have opened : Printed ['\\', 'u', '0', '0'] := by decide
    have high := isPrinted_hexChar (n := c.toNat / 16) (by omega)
    have low := isPrinted_hexChar (n := c.toNat % 16) (by omega)
    exact opened.append (printed_cons high (printed_cons low (by decide)))
  case case9 printed => exact printed_cons (Nat.le_of_not_lt printed) (by decide)
  all_goals decide

theorem printed_quoted (s : String) :
    Printed (quoted s)
  := by
  have inside : Printed (s.toList.flatMap escapeChar) :=
    List.forall_mem_flatMap.2 fun c _ => printed_escapeChar c
  exact printed_cons (by decide) (inside.append (by decide))

end ControlRelay.Json
