import ControlRelay.Toml.Reader
import ControlRelay.Toml.Writer
import Mathlib.Tactic.Common
import Mathlib.Tactic.IntervalCases

/-!
# Strings are read back

A string is written in one of five ways, between quotes or apostrophes, on one line or on several.
Whichever it is, the reader gives the string back.  A character between quotes is read in one round,
whether it is escaped or not, so the induction over the characters spends one round on each.
-/

namespace ControlRelay.Toml

/-! ### Characters -/

/-- A character that needs no escape may stand in a line, or it is a line end. -/
theorem isLineChar_of_not_isControl {c : Char} (given : isControl c = false) :
    isLineChar c = true ∨ c = '\n'
  := by
  by_cases tab : c = '\t'
  · left
    rw [isLineChar, decide_eq_true tab]
    rfl
  by_cases feed : c = '\n'
  · exact .inr feed
  left
  simp only [isControl, Bool.or_eq_false_iff, Bool.and_eq_false_iff, decide_eq_false_iff_not,
    bne_eq_false_iff_eq, tab, feed, or_false] at given
  simp only [isLineChar, isNonAscii, Bool.or_eq_true, Bool.and_eq_true, decide_eq_true_eq]
  omega

theorem codePoint?_control {c : Char} (control : isControl c = true) (s : List Char) :
    codePoint? 4 ('0' :: '0' :: upperHex (c.toNat / 16) :: upperHex (c.toNat % 16) :: s) =
      some (c, s)
  := by
  have read {n : Nat} (small : n < 0x20 ∨ n = 0x7f) :
      codePoint? 4 ('0' :: '0' :: upperHex (n / 16) :: upperHex (n % 16) :: s) =
        some (Char.ofNat n, s)
    := by
    obtain small | rfl := small
    · interval_cases n <;> rfl
    · rfl
  have small : c.toNat < 0x20 ∨ c.toNat = 0x7f := by
    simp only [isControl, Bool.or_eq_true, Bool.and_eq_true, decide_eq_true_eq] at control
    omega
  rw [read small, Char.ofNat_toNat]

/-- A character between quotes stands for itself, or it has an escape, which neither begins with a
blank nor with a line end. -/
theorem escapeChar_cases (severalLines : Bool) (c : Char) :
    (escapeChar severalLines c = [c] ∧ c ≠ '"' ∧ c ≠ '\\' ∧
      (isLineChar c = true ∨ severalLines = true ∧ c = '\n')) ∨
      ∃ mark more, escapeChar severalLines c = '\\' :: mark :: more ∧
        ∀ s, escape? (mark :: (more ++ s)) = some (c, s) ∧
          newline? (skipWs (mark :: (more ++ s))) = none
  := by
  fun_cases escapeChar severalLines c
  case case3 quote backslash feed several =>
    exact .inl ⟨by rw [feed], quote, backslash, .inr ⟨several, feed⟩⟩
  case case9 control =>
    exact .inr ⟨'u', _, rfl, fun s => ⟨codePoint?_control control s, rfl⟩⟩
  case case10 quote backslash feed _ _ _ _ plain =>
    have inLine := isLineChar_of_not_isControl (Bool.eq_false_iff.2 plain)
    exact .inl ⟨rfl, quote, backslash, .inl (inLine.resolve_right feed)⟩
  all_goals
    subst_vars
    exact .inr ⟨_, [], rfl, fun s => ⟨rfl, rfl⟩⟩

theorem length_le_flatMap_escapeChar (severalLines : Bool) (cs : List Char) :
    cs.length ≤ (cs.flatMap (escapeChar severalLines)).length
  := by
  induction cs with
  | nil => exact Nat.le_refl 0
  | cons c cs ih =>
    have nonempty : 0 < (escapeChar severalLines c).length := by
      fun_cases escapeChar severalLines c <;> exact Nat.zero_lt_succ _
    rw [List.flatMap_cons, List.length_append, List.length_cons]
    omega

/-! ### Between quotes -/

/-- A reader that takes what is written for one character in one round takes what is written for
several, one after the other. -/
theorem rounds_flatMap {reader : Nat → List Char → List Char → Option (List Char × List Char)}
    {write : Char → List Char}
    (round : ∀ fuel acc c s, reader (fuel + 1) acc (write c ++ s) = reader fuel (c :: acc) s)
    (cs : List Char) (fuel : Nat) (acc s : List Char) :
    reader (fuel + cs.length) acc (cs.flatMap write ++ s) = reader fuel (cs.reverse ++ acc) s
  := by
  induction cs generalizing acc with
  | nil => rfl
  | cons c cs ih =>
    rw [List.flatMap_cons, List.append_assoc, List.length_cons, ← Nat.add_assoc, round, ih,
      List.reverse_cons, List.append_assoc]
    rfl

/-- A character on one line is read in one round. -/
theorem basicBody?_escapeChar (fuel : Nat) (acc : List Char) (c : Char) (s : List Char) :
    basicBody? (fuel + 1) acc (escapeChar false c ++ s) = basicBody? fuel (c :: acc) s
  := by
  obtain ⟨itself, quote, backslash, inLine⟩ | ⟨mark, more, escaped, read⟩ :=
    escapeChar_cases false c
  · have inLine := inLine.resolve_right fun ⟨several, _⟩ => Bool.false_ne_true several
    rw [itself, List.singleton_append, basicBody?, if_neg quote, if_neg backslash, if_pos inLine]
  · rw [escaped, List.cons_append, List.cons_append, basicBody?, if_neg (by decide), if_pos rfl,
      (read s).1]

theorem basicBody?_quoted (cs : List Char) {fuel : Nat} (enough : cs.length < fuel)
    (rest : List Char) :
    basicBody? fuel [] (cs.flatMap (escapeChar false) ++ '"' :: rest) = some (cs, rest)
  := by
  obtain ⟨left, rfl⟩ := Nat.exists_eq_add_of_le' enough
  rw [show left + cs.length.succ = left + 1 + cs.length by omega,
    rounds_flatMap basicBody?_escapeChar, basicBody?, if_pos rfl, List.append_nil,
    List.reverse_reverse]

/-! ### On several lines -/

theorem newline?_of_isLineChar {c : Char} (inLine : isLineChar c = true) (s : List Char) :
    newline? (c :: s) = none
  := by
  obtain feed | other := eq_or_ne c '\n'
  · rw [feed] at inLine
    contradiction
  obtain back | other' := eq_or_ne c '\r'
  · rw [back] at inLine
    contradiction
  rw [newline?]
  · exact fun _ same => other (List.cons_eq_cons.1 same).1
  · exact fun _ same => other' (List.cons_eq_cons.1 same).1

/-- Three marks end a string of several lines, if no further one follows. -/
theorem multilineBody?_end {q : Char} {literal : Bool} {fuel : Nat} (acc : List Char)
    {rest : List Char} (other : rest.head? ≠ some q) :
    multilineBody? q literal (fuel + 1) acc (q :: q :: q :: rest) = some (acc.reverse, rest)
  := by
  have ends : rest.takeWhile (· = q) = [] := by
    cases rest with
    | nil => rfl
    | cons c rest => exact List.takeWhile_cons_of_neg fun same => other (by simp_all)
  have closes : closingQuotes? q (q :: q :: q :: rest) = some (0, rest) := by
    simp [closingQuotes?, ends]
  rw [multilineBody?, if_pos rfl, closes]
  simp only [List.replicate_zero, List.append_nil]

/-- A character that is not a mark and begins no escape stands for itself. -/
theorem multilineBody?_plain {q c : Char} {literal : Bool} (other : c ≠ q)
    (unescaped : (decide (c = '\\') && !literal) = false)
    (inLine : isLineChar c = true ∨ c = '\n') (fuel : Nat) (acc s : List Char) :
    multilineBody? q literal (fuel + 1) acc (c :: s) = multilineBody? q literal fuel (c :: acc) s
  := by
  rw [multilineBody?, if_neg other, if_neg (Bool.eq_false_iff.1 unescaped)]
  obtain inLine | rfl := inLine
  · rw [newline?_of_isLineChar inLine]
    simp only [if_pos inLine]
  · rfl

/-- A character on several lines is read in one round. -/
theorem multilineBody?_escapeChar (fuel : Nat) (acc : List Char) (c : Char) (s : List Char) :
    multilineBody? '"' false (fuel + 1) acc (escapeChar true c ++ s) =
      multilineBody? '"' false fuel (c :: acc) s
  := by
  obtain ⟨itself, quote, backslash, inLine⟩ | ⟨mark, more, escaped, read⟩ :=
    escapeChar_cases true c
  · rw [itself, List.singleton_append]
    exact multilineBody?_plain quote (by rw [decide_eq_false backslash]; rfl)
      (inLine.imp_right And.right) fuel acc s
  · rw [escaped, List.cons_append, List.cons_append, multilineBody?, if_neg (by decide),
      if_pos (by decide), (read s).2, (read s).1]

theorem multilineBody?_quoted (cs : List Char) {fuel : Nat} (enough : cs.length < fuel)
    {rest : List Char} (other : rest.head? ≠ some '"') :
    multilineBody? '"' false fuel []
        (cs.flatMap (escapeChar true) ++ '"' :: '"' :: '"' :: rest) =
      some (cs, rest)
  := by
  obtain ⟨left, rfl⟩ := Nat.exists_eq_add_of_le' enough
  rw [show left + cs.length.succ = left + 1 + cs.length by omega,
    rounds_flatMap multilineBody?_escapeChar, multilineBody?_end _ other, List.append_nil,
    List.reverse_reverse]

/-! ### Between apostrophes -/

theorem literalBody?_append {cs : List Char}
    (inLine : ∀ c ∈ cs, c ≠ '\'' ∧ isLineChar c = true) (acc rest : List Char) :
    literalBody? acc (cs ++ '\'' :: rest) = some (acc.reverse ++ cs, rest)
  := by
  induction cs generalizing acc with
  | nil => rw [List.nil_append, literalBody?, if_pos rfl, List.append_nil]
  | cons c cs ih =>
    obtain ⟨head, tail⟩ := List.forall_mem_cons.1 inLine
    rw [List.cons_append, literalBody?, if_neg head.1, if_pos head.2, ih tail, List.reverse_cons,
      List.append_assoc]
    rfl

theorem hasTripleApostrophe_of_cons {c : Char} {cs : List Char}
    (given : hasTripleApostrophe (c :: cs) = false) : hasTripleApostrophe cs = false
  := by
  rw [hasTripleApostrophe.eq_def] at given
  split at given
  · contradiction
  next same =>
    rw [(List.cons_eq_cons.1 same).2]
    exact given
  · contradiction

/-- Apostrophes among the characters do not end a string of several lines, if there are never three
in a row and none is last. -/
theorem closingQuotes?_apostrophe {cs : List Char}
    (triple : hasTripleApostrophe ('\'' :: cs) = false)
    (last : ('\'' :: cs).getLast? ≠ some '\'') (rest : List Char) :
    closingQuotes? '\'' ('\'' :: (cs ++ rest)) = none
  := by
  cases cs with
  | nil => contradiction
  | cons c cs =>
    obtain rfl | other := eq_or_ne c '\''
    · cases cs with
      | nil => contradiction
      | cons d cs =>
        obtain rfl | other := eq_or_ne d '\''
        · contradiction
        · simp [closingQuotes?, other]
    · simp [closingQuotes?, other]

theorem multilineBody?_literal (cs : List Char) (plain : ∀ c ∈ cs, isControl c = false)
    (triple : hasTripleApostrophe cs = false) (last : cs.getLast? ≠ some '\'') {fuel : Nat}
    (enough : cs.length < fuel) (acc : List Char) {rest : List Char}
    (other : rest.head? ≠ some '\'') :
    multilineBody? '\'' true fuel acc (cs ++ '\'' :: '\'' :: '\'' :: rest) =
      some (acc.reverse ++ cs, rest)
  := by
  induction cs generalizing fuel acc with
  | nil =>
    obtain ⟨fuel, rfl⟩ := Nat.exists_eq_add_one.2 enough
    rw [List.nil_append, multilineBody?_end acc other, List.append_nil]
  | cons c cs ih =>
    obtain ⟨fuel, rfl⟩ := Nat.exists_eq_add_one.2 (Nat.zero_lt_of_lt enough)
    obtain ⟨head, tail⟩ := List.forall_mem_cons.1 plain
    have last' : cs.getLast? ≠ some '\'' := by
      cases cs with
      | nil => exact Option.some_ne_none _ |>.symm
      | cons d cs => rwa [List.getLast?_cons_cons] at last
    have read := ih tail (hasTripleApostrophe_of_cons triple) last' (Nat.lt_of_succ_lt_succ enough)
      (c :: acc)
    rw [List.reverse_cons, List.append_assoc, List.singleton_append] at read
    rw [← read, List.cons_append]
    obtain rfl | mark := eq_or_ne c '\''
    · rw [multilineBody?, if_pos rfl, closingQuotes?_apostrophe triple last]
    · exact multilineBody?_plain mark (Bool.and_false _) (isLineChar_of_not_isControl head) fuel
        acc _

/-! ### The five forms -/

/-- What a string that is written between apostrophes satisfies. -/
theorem isLiteral_iff (cs : List Char) :
    isLiteral cs = true ↔ (cs.contains '"' = true ∨ cs.contains '\\' = true) ∧
      (∀ c ∈ cs, isControl c = false) ∧ hasTripleApostrophe cs = false ∧
      cs.getLast? ≠ some '\''
  := by
  simp [isLiteral, and_assoc]

theorem string?_literal {cs : List Char} (nonempty : cs ≠ [])
    (inLine : ∀ c ∈ cs, c ≠ '\'' ∧ isLineChar c = true) (rest : List Char) :
    string? ('\'' :: (cs ++ '\'' :: rest)) = some (String.ofList cs, rest)
  := by
  have read : literalBody? [] (cs ++ '\'' :: rest) = some (cs, rest) :=
    literalBody?_append inLine [] rest
  rw [string?]
  · rw [read]
    rfl
  · -- the mark is not the first of three
    obtain ⟨c, cs, rfl⟩ := List.exists_cons_of_ne_nil nonempty
    exact fun _ same => (inLine c List.mem_cons_self).1 (List.cons_eq_cons.1 same).1

theorem string?_basic (cs : List Char) {rest : List Char} (other : rest.head? ≠ some '"') :
    string? ('"' :: (cs.flatMap (escapeChar false) ++ '"' :: rest)) = some (String.ofList cs, rest)
  := by
  rw [string?]
  · have enough : cs.length < (cs.flatMap (escapeChar false) ++ '"' :: rest).length + 1 := by
      have := length_le_flatMap_escapeChar false cs
      rw [List.length_append]
      omega
    rw [basicBody?_quoted cs enough]
    rfl
  · -- here too, since no escape begins with a quote
    intro s same
    cases cs with
    | nil =>
      rw [(List.cons_eq_cons.1 same).2] at other
      contradiction
    | cons c cs =>
      obtain ⟨itself, quote, -⟩ | ⟨mark, more, escaped, -⟩ := escapeChar_cases false c
      · rw [List.flatMap_cons, itself] at same
        exact quote (List.cons_eq_cons.1 same).1
      · rw [List.flatMap_cons, escaped] at same
        exact absurd (List.cons_eq_cons.1 same).1 (by decide)

theorem length_afterOpening_le (s : List Char) :
    (afterOpening s).length ≤ s.length
  := by
  rw [afterOpening]
  fun_cases newline? s
  · exact Nat.le_succ _
  · exact Nat.le_add_right _ 2
  · exact Nat.le_refl _

theorem string?_severalLiteral {cs s rest : List Char}
    (opened : afterOpening s = cs ++ '\'' :: '\'' :: '\'' :: rest) (literal : isLiteral cs = true)
    (other : rest.head? ≠ some '\'') :
    string? ('\'' :: '\'' :: '\'' :: s) = some (String.ofList cs, rest)
  := by
  obtain ⟨-, plain, triple, last⟩ := (isLiteral_iff cs).1 literal
  have shorter := length_afterOpening_le s
  rw [opened, List.length_append] at shorter
  rw [string?, opened, multilineBody?_literal cs plain triple last (by omega) [] other]
  rfl

theorem string?_severalQuoted {cs s rest : List Char}
    (opened : afterOpening s = cs.flatMap (escapeChar true) ++ '"' :: '"' :: '"' :: rest)
    (other : rest.head? ≠ some '"') :
    string? ('"' :: '"' :: '"' :: s) = some (String.ofList cs, rest)
  := by
  have shorter := length_afterOpening_le s
  have longer := length_le_flatMap_escapeChar true cs
  rw [opened, List.length_append] at shorter
  rw [string?, opened, multilineBody?_quoted cs (by omega) other]
  rfl

/-- A string is read back, whatever line comes after it. -/
theorem string?_quotedChars (cs : List Char) (rest : List Char) :
    string? (quotedChars cs ++ '\n' :: rest) = some (String.ofList cs, '\n' :: rest)
  := by
  have other (q : Char) (notFeed : '\n' ≠ q) : ('\n' :: rest).head? ≠ some q :=
    fun same => notFeed (Option.some.inj same)
  rw [quotedChars]
  split
  next literal =>
    obtain ⟨special, plain, -⟩ := (isLiteral_iff cs).1 literal
    split
    · rw [List.append_assoc, List.append_assoc]
      exact string?_severalLiteral rfl literal (other _ (by decide))
    next oneLine =>
      have nonempty : cs ≠ [] := by
        rintro rfl
        simp at special
      have inLine {c : Char} (member : c ∈ cs) : isLineChar c = true :=
        (isLineChar_of_not_isControl (plain c member)).resolve_right fun feed =>
          oneLine (List.contains_iff_mem.2 (feed ▸ member))
      split
      · obtain ⟨c, cs, rfl⟩ := List.exists_cons_of_ne_nil nonempty
        rw [List.append_assoc, List.append_assoc]
        refine string?_severalLiteral ?_ literal (other _ (by decide))
        show (newline? (c :: (cs ++ _))).getD (c :: (cs ++ _)) = _
        rw [newline?_of_isLineChar (inLine List.mem_cons_self)]
        rfl
      next without =>
        rw [List.cons_append, List.append_assoc]
        refine string?_literal nonempty (fun c member => ⟨?_, inLine member⟩) _
        rintro rfl
        exact without (List.contains_iff_mem.2 member)
  next =>
    split
    · rw [List.append_assoc, List.append_assoc]
      exact string?_severalQuoted rfl (other _ (by decide))
    · rw [List.cons_append, List.append_assoc]
      exact string?_basic cs (other _ (by decide))

end ControlRelay.Toml
