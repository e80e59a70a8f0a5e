import ControlRelay.Proofs.Json.Digits
import ControlRelay.Toml.Reader
import ControlRelay.Toml.Writer

/-!
# Numbers at the end of a line

A number is read up to the first character that cannot belong to it.  A line end is such a
character, so what is read from a text is also read when further lines follow it.  With this a
number need only be read back from its own text.
-/

namespace ControlRelay.Toml

/-! ### Readers that stop at a line end -/

/-- What the reader takes from a text it also takes when lines follow the text. -/
def LineSafe {α : Type} (reader : List Char → Option (α × List Char)) : Prop :=
  ∀ s a left, reader s = some (a, left) →
    ∀ rest, reader (s ++ '\n' :: rest) = some (a, left ++ '\n' :: rest)

/-- One reader after the other. -/
theorem LineSafe.bind {α β : Type} {f : List Char → Option (α × List Char)}
    {g : α → List Char → Option (β × List Char)} (safe : LineSafe f)
    (safe' : ∀ a, LineSafe (g a)) : LineSafe fun s => (f s).bind fun (a, left) => g a left
  := by
  intro s b left read rest
  obtain ⟨⟨a, middle⟩, first, second⟩ := Option.bind_eq_some_iff.1 read
  apply Option.bind_eq_some_iff.2
  exact ⟨_, safe s a middle first rest, safe' a middle b left second rest⟩

/-- A reader whose result is changed. -/
theorem LineSafe.map {α β : Type} {f : List Char → Option (α × List Char)} (safe : LineSafe f)
    (g : α → β) : LineSafe fun s => (f s).bind fun read => some (g read.1, read.2)
  := by
  intro s b left read rest
  obtain ⟨⟨a, left⟩, first, ⟨⟩⟩ := Option.bind_eq_some_iff.1 read
  exact Option.bind_eq_some_iff.2 ⟨_, safe s a left first rest, rfl⟩

/-- A reader that takes nothing. -/
theorem lineSafe_map {α : Type} (a : Option α) :
    LineSafe fun s => a.map (·, s)
  := by
  intro s b left read rest
  obtain ⟨a, rfl, same⟩ := Option.map_eq_some_iff.1 read
  obtain ⟨rfl, rfl⟩ := Prod.mk.inj same
  rfl

/-- The rounds may also be more. -/
theorem underscored?_append {isDigit : Char → Bool} (stops : isDigit '\n' = false) {fuel : Nat}
    {s cs left : List Char} (read : underscored? isDigit fuel s = some (cs, left)) (more : Nat)
    (rest : List Char) :
    underscored? isDigit (fuel + more) (s ++ '\n' :: rest) = some (cs, left ++ '\n' :: rest)
  := by
  fun_induction underscored? isDigit fuel s generalizing cs left
  case case4 fuel c digit s ih =>
    obtain ⟨⟨cs, left⟩, others, ⟨⟩⟩ := Option.map_eq_some_iff.1 read
    simp [Nat.succ_add, underscored?, digit, ih others]
  case case5 fuel c digit d s _ digit' ih =>
    obtain ⟨⟨cs, left⟩, others, ⟨⟩⟩ := Option.map_eq_some_iff.1 read
    have others := ih others
    rw [List.cons_append] at others
    simp [Nat.succ_add, underscored?, digit, digit', others]
  case case6 fuel c digit d s _ digit' =>
    obtain ⟨rfl, rfl⟩ := Prod.mk.inj (Option.some.inj read)
    simp [Nat.succ_add, underscored?, digit, digit']
  case case7 fuel c digit =>
    obtain ⟨rfl, rfl⟩ := Prod.mk.inj (Option.some.inj read)
    simp [Nat.succ_add, underscored?, digit, stops]
  all_goals contradiction

theorem digits?_lineSafe :
    LineSafe digits?
  := by
  intro s cs left read rest
  have rounds : (s ++ '\n' :: rest).length + 1 = s.length + 1 + (rest.length + 1) := by
    rw [List.length_append, List.length_cons]
    omega
  rw [digits?, rounds]
  exact underscored?_append rfl read (rest.length + 1) rest

theorem digits?_eq_none {c : Char} (other : isDec c = false) (s : List Char) :
    digits? (c :: s) = none
  := by
  simp [digits?, underscored?, other]

theorem exponent?_lineSafe :
    LineSafe exponent?
  := by
  have plain := digits?_lineSafe.map fun cs => (decValue cs : Int)
  have negated := digits?_lineSafe.map fun cs => -(decValue cs : Int)
  intro s e left read rest
  cases s with
  | nil => contradiction
  | cons c s =>
    obtain rfl | minus := eq_or_ne c '-'
    · exact negated s e left read rest
    obtain rfl | plus := eq_or_ne c '+'
    · exact plain s e left read rest
    have unsigned (s : List Char) : exponent? (c :: s) =
        (digits? (c :: s)).bind fun read => some ((decValue read.1 : Int), read.2)
      := by
      simp [exponent?, minus, plus]
    rw [unsigned] at read
    rw [List.cons_append, unsigned]
    exact plain (c :: s) e left read rest

/-! ### The parts of a number -/

theorem ofDecimal?_eq (negative : Bool) (digits : Nat) (exponent : Int) :
    ofDecimal? negative digits exponent = fun s =>
      ((ofDecimal? negative digits exponent []).map Prod.fst).map (·, s)
  := by
  funext s
  rw [ofDecimal?, ofDecimal?]
  split <;> rfl

theorem ofDecimal?_lineSafe (negative : Bool) (digits : Nat) (exponent : Int) :
    LineSafe (ofDecimal? negative digits exponent)
  := by
  rw [ofDecimal?_eq]
  exact lineSafe_map _

theorem integer_lineSafe (negative : Bool) (n : Nat) :
    LineSafe (decimal?.integer negative n)
  := by
  have told : decimal?.integer negative n = fun s =>
      ((decimal?.integer negative n []).map Prod.fst).map (·, s)
    := by
    funext s
    rw [decimal?.integer, decimal?.integer]
    split_ifs <;> rfl
  rw [told]
  exact lineSafe_map _

/-- A number with an exponent, or the same without. -/
def marked? (scaled : Int → List Char → Option (Toml × List Char))
    (plain : List Char → Option (Toml × List Char)) (s : List Char) : Option (Toml × List Char) :=
  match s with
  | c :: after =>
    if c = 'e' || c = 'E' then (exponent? after).bind fun (e, rest) => scaled e rest
    else plain s
  | [] => plain []

theorem marked?_lineSafe {scaled : Int → List Char → Option (Toml × List Char)}
    {plain : List Char → Option (Toml × List Char)} (safe : ∀ e, LineSafe (scaled e))
    (safe' : LineSafe plain) : LineSafe (marked? scaled plain)
  := by
  intro s v left read rest
  cases s with
  | nil => exact safe' [] v left read rest
  | cons c s =>
    rw [marked?] at read
    rw [List.cons_append, marked?]
    split at read
    next mark =>
      rw [if_pos mark]
      exact exponent?_lineSafe.bind safe s v left read rest
    next mark =>
      rw [if_neg mark]
      exact safe' (c :: s) v left read rest

/-- The digits before the point. -/
def whole? (s : List Char) : Option (List Char × List Char) :=
  match s with
  | '0' :: rest => some (['0'], rest)
  | s => digits? s

theorem whole?_of_ne {c : Char} (other : c ≠ '0') (s : List Char) :
    whole? (c :: s) = digits? (c :: s)
  := by
  rw [whole?]
  exact fun _ same => other (List.cons_eq_cons.1 same).1

theorem whole?_lineSafe :
    LineSafe whole?
  := by
  intro s cs left read rest
  cases s with
  | nil => contradiction
  | cons c s =>
    obtain rfl | other := eq_or_ne c '0'
    · obtain ⟨rfl, rfl⟩ := Prod.mk.inj (Option.some.inj read)
      rfl
    rw [whole?_of_ne other] at read
    rw [List.cons_append, whole?_of_ne other]
    exact digits?_lineSafe (c :: s) cs left read rest

/-- A number after the digits before its point. -/
def afterWhole? (negative : Bool) (cs : List Char) (s : List Char) : Option (Toml × List Char) :=
  match s with
  | '.' :: rest =>
    (digits? rest).bind fun (fraction, rest) =>
      let scaled := ofDecimal? negative (decValue (cs ++ fraction))
      marked? (fun e => scaled (-(fraction.length : Int) + e)) (scaled (-(fraction.length : Int)))
        rest
  | c :: after =>
    if c = 'e' || c = 'E' then
      (exponent? after).bind fun (e, rest) => ofDecimal? negative (decValue cs) e rest
    else decimal?.integer negative (decValue cs) s
  | [] => decimal?.integer negative (decValue cs) []

theorem decimal?_eq (negative : Bool) (s : List Char) :
    decimal? negative s = (whole? s).bind fun (cs, rest) => afterWhole? negative cs rest
  := by
  cases s with
  | nil => rfl
  | cons c s =>
    obtain rfl | other := eq_or_ne c '0'
    · rfl
    · rw [whole?_of_ne other, decimal?]
      · rfl
      · exact fun _ same => other (List.cons_eq_cons.1 same).1

theorem afterWhole?_lineSafe (negative : Bool) (cs : List Char) :
    LineSafe (afterWhole? negative cs)
  := by
  have fractional := digits?_lineSafe.bind fun fraction =>
    marked?_lineSafe
      (fun e => ofDecimal?_lineSafe negative (decValue (cs ++ fraction))
        (-(fraction.length : Int) + e))
      (ofDecimal?_lineSafe negative (decValue (cs ++ fraction)) (-(fraction.length : Int)))
  have without := marked?_lineSafe (ofDecimal?_lineSafe negative (decValue cs))
    (integer_lineSafe negative (decValue cs))
  intro s v left read rest
  cases s with
  | nil => exact without [] v left read rest
  | cons c s =>
    obtain rfl | other := eq_or_ne c '.'
    · exact fractional s v left read rest
    have opened (s : List Char) : afterWhole? negative cs (c :: s) =
        marked? (ofDecimal? negative (decValue cs)) (decimal?.integer negative (decValue cs))
          (c :: s)
      := by
      rw [afterWhole?, marked?]
      exact other
    rw [opened] at read
    rw [List.cons_append, opened]
    exact without (c :: s) v left read rest

theorem decimal?_lineSafe (negative : Bool) :
    LineSafe (decimal? negative)
  := by
  rw [funext (decimal?_eq negative)]
  exact whole?_lineSafe.bind (afterWhole?_lineSafe negative)

/-! ### Signs and dates -/

theorem signed?_of_isDec {c : Char} (digit : isDec c = true) (negative : Bool) (s : List Char) :
    signed? negative (c :: s) = decimal? negative (c :: s)
  := by
  rw [signed?]
  · rintro _ same
    obtain ⟨rfl, -⟩ := List.cons_eq_cons.1 same
    contradiction
  · rintro _ same
    obtain ⟨rfl, -⟩ := List.cons_eq_cons.1 same
    contradiction

theorem decimal?_eq_none {c : Char} (other : isDec c = false) (negative : Bool) (s : List Char) :
    decimal? negative (c :: s) = none
  := by
  have notZero : c ≠ '0' := by
    rintro rfl
    contradiction
  rw [decimal?_eq, whole?_of_ne notZero, digits?_eq_none other]
  rfl

theorem signed?_lineSafe (negative : Bool) :
    LineSafe (signed? negative)
  := by
  intro s v left read rest
  rw [signed?.eq_def] at read
  split at read
  next s =>
    obtain ⟨rfl, rfl⟩ := Prod.mk.inj (Option.some.inj read)
    rfl
  next s =>
    obtain ⟨rfl, rfl⟩ := Prod.mk.inj (Option.some.inj read)
    rfl
  next =>
    cases s with
    | nil => contradiction
    | cons c s =>
      cases digit : isDec c with
      | false =>
        rw [decimal?_eq_none digit] at read
        contradiction
      | true =>
        rw [List.cons_append, signed?_of_isDec digit]
        exact decimal?_lineSafe negative (c :: s) v left read rest

/-- What a text with a line end after it begins with, the text begins with itself. -/
theorem exists_append_of_lineEnd {p s rest t : List Char} (without : '\n' ∉ p)
    (same : s ++ '\n' :: rest = p ++ t) : ∃ left, s = p ++ left
  := by
  obtain ⟨more, longer, ended⟩ | ⟨left, opened, -⟩ := List.append_eq_append_iff.1 same
  · cases more with
    | nil => exact ⟨[], by rw [longer, List.append_nil, List.append_nil]⟩
    | cons c more =>
      obtain ⟨rfl, -⟩ := List.cons_eq_cons.1 ended
      rw [longer] at without
      exact absurd (List.mem_append_right s List.mem_cons_self) without
  · exact ⟨left, opened⟩

/-- A text that is no date is none either with lines after it. -/
theorem datetime?_append {s : List Char} (number : datetime? s = none) (rest : List Char) :
    datetime? (s ++ '\n' :: rest) = none
  := by
  have run : (s ++ '\n' :: rest).takeWhile isDec = s.takeWhile isDec := by
    rw [List.takeWhile_append, List.takeWhile_cons_of_neg Bool.false_ne_true]
    split
    next all => rw [List.append_nil, (List.takeWhile_prefix isDec).eq_of_length all]
    · rfl
  have short : (s.takeWhile isDec).length ≤ s.length := (List.takeWhile_prefix isDec).length_le
  rw [datetime?, run, List.drop_append_of_le_length short]
  rw [datetime?] at number
  split
  next four dash =>
    obtain ⟨left, opened⟩ := exists_append_of_lineEnd (p := ['-']) (by decide) dash
    rw [four] at opened
    simp [four, opened] at number
  next two colon =>
    obtain ⟨left, opened⟩ := exists_append_of_lineEnd (p := [':']) (by decide) colon
    rw [two] at opened
    simp [two, opened] at number
  · rfl

theorem radix?_ne_float (base : Nat) (s : List Char) (x : Float) (left : List Char) :
    radix? base s ≠ some (.float x, left)
  := by
  intro read
  rw [radix?] at read
  obtain ⟨_, _, read⟩ := Option.bind_eq_some_iff.1 read
  dsimp only at read
  split at read <;> cases read

/-- A float is also read when lines follow its text. -/
theorem number?_append {s : List Char} {x : Float} {left : List Char}
    (read : number? s = some (.float x, left)) (rest : List Char) :
    number? (s ++ '\n' :: rest) = some (.float x, left ++ '\n' :: rest)
  := by
  rw [number?.eq_def] at read
  split at read
  next s => exact signed?_lineSafe false s _ left read rest
  next s => exact signed?_lineSafe true s _ left read rest
  next s => exact absurd read (radix?_ne_float _ _ _ _)
  next s => exact absurd read (radix?_ne_float _ _ _ _)
  next s => exact absurd read (radix?_ne_float _ _ _ _)
  next plus minus hexadecimal octal binary =>
    -- with a line end after it the text begins with none of these marks either
    have other (p : List Char) (without : '\n' ∉ p) (given : ∀ t, s = p ++ t → False)
        (t : List Char) (same : s ++ '\n' :: rest = p ++ t) : False
      := by
      obtain ⟨left, opened⟩ := exists_append_of_lineEnd without same
      exact given left opened
    split at read
    · -- a date is no float
      obtain ⟨_, _, told⟩ := Option.map_eq_some_iff.1 read
      cases told
    next number =>
      rw [number?, datetime?_append number]
      · exact signed?_lineSafe false s _ left read rest
      · exact other ['+'] (by decide) plus
      · exact other ['-'] (by decide) minus
      · exact other ['0', 'x'] (by decide) hexadecimal
      · exact other ['0', 'o'] (by decide) octal
      · exact other ['0', 'b'] (by decide) binary

/-! ### Whole numbers -/

theorem decValue_toDigits (n : Nat) :
    decValue (Nat.toDigits 10 n) = n
  := by
  have told : Nat.ofDigitChars 10 (Nat.toDigits 10 n) 0 = n := Nat.ofDigitChars_ten_toDigits
  simp only [Nat.ofDigitChars_eq_foldl, Nat.mul_comm 10] at told
  exact told

theorem underscored?_self {isDigit : Char → Bool} {cs : List Char} (nonempty : cs ≠ [])
    (digits : ∀ c ∈ cs, isDigit c = true) (underscore : isDigit '_' = false) {fuel : Nat}
    (enough : cs.length ≤ fuel) : underscored? isDigit fuel cs = some (cs, [])
  := by
  induction cs generalizing fuel with
  | nil => contradiction
  | cons c cs ih =>
    obtain ⟨fuel, rfl⟩ := Nat.exists_eq_add_one.2 (Nat.zero_lt_of_lt enough)
    obtain ⟨digit, digits⟩ := List.forall_mem_cons.1 digits
    cases cs with
    | nil => simp [underscored?, digit]
    | cons d cs =>
      have digit' := digits d List.mem_cons_self
      have others := ih (List.cons_ne_nil d cs) digits (Nat.le_of_succ_le_succ enough)
      have other : d ≠ '_' := by
        rintro rfl
        exact Bool.false_ne_true (underscore.symm.trans digit')
      simp [underscored?, digit, digit', others]

/-- Digits alone are no date. -/
theorem datetime?_digits {cs : List Char} (digits : ∀ c ∈ cs, isDec c = true) :
    datetime? cs = none
  := by
  have all : cs.takeWhile isDec = cs := by
    have taken : (cs ++ []).takeWhile isDec = cs ++ [].takeWhile isDec :=
      List.takeWhile_append_of_pos digits
    rwa [List.takeWhile_nil, List.append_nil] at taken
  rw [datetime?, all, List.drop_length]
  split <;> trivial

/-- The digits of a whole number are read as that number. -/
theorem number?_toDigits {n : Nat} (fits : n < 0x8000000000000000) (rest : List Char) :
    number? (Nat.toDigits 10 n ++ '\n' :: rest) = some (.integer n, '\n' :: rest)
  := by
  have digits : ∀ c ∈ Nat.toDigits 10 n, isDec c = true := fun c member =>
    Nat.isDigit_of_mem_toDigits (by decide) (by decide) member
  have noDate := datetime?_append (datetime?_digits digits) rest
  have read := digits?_lineSafe _ _ _
    (underscored?_self Nat.toDigits_ne_nil digits rfl (Nat.le_succ _)) rest
  have value := decValue_toDigits n
  obtain ⟨c, cs, opened, digit, zero⟩ := Json.Number.exists_toDigits_cons n
  rw [opened] at noDate read value ⊢
  obtain rfl | other := eq_or_ne c '0'
  · obtain rfl := zero rfl
    cases opened
    rfl
  rw [List.cons_append] at noDate read ⊢
  rw [number?, noDate]
  · show signed? false _ = _
    rw [signed?_of_isDec digit, decimal?_eq, whole?_of_ne other, read]
    show decimal?.integer false (decValue (c :: cs)) ('\n' :: rest) = _
    rw [value, decimal?.integer, if_neg Bool.false_ne_true, if_pos fits]
  all_goals
    rintro _ opened
    obtain ⟨rfl, -⟩ := List.cons_eq_cons.1 opened
    contradiction

/-! ### Numbers as values -/

/-- A number begins with no character that another value begins with, nor with a blank. -/
theorem number?_head {c : Char} {s : List Char} {r : Toml × List Char}
    (read : number? (c :: s) = some r) :
    c ∉ [' ', '\t', '"', '\'', '[', '\x7b', 't', 'f']
  := by
  simp only [List.mem_cons, List.not_mem_nil, or_false]
  rintro (rfl | rfl | rfl | rfl | rfl | rfl | rfl | rfl) <;> cases read

theorem skipWs_number {s : List Char} {r : Toml × List Char} (read : number? s = some r) :
    skipWs s = s
  := by
  cases s with
  | nil => rfl
  | cons c s =>
    have head := number?_head read
    simp only [List.mem_cons, not_or] at head
    simp [skipWs, isWs, head]

theorem value?_number {s : List Char} {r : Toml × List Char} (read : number? s = some r)
    (fuel depth : Nat) : value? (fuel + 1) depth s = some r
  := by
  cases s with
  | nil => cases read
  | cons c s =>
    have head := number?_head read
    simp only [List.mem_cons, not_or] at head
    simp [value?, head, read]

end ControlRelay.Toml
