import ControlRelay.Proofs.Json.Digits

/-!
# Values are read back from their text

A value whose numbers are integers of 64 bits and whose objects have their keys in order is read
back from its text.  The readers take fuel and open a bounded number of levels, so the invariant of
the induction over the value says how much of both is enough: twice the bytes of the text, and the
nesting of the value.
-/

namespace ControlRelay.Json

mutual

/-- All numbers are integers of 64 bits, with a sign or without. -/
def Integral : Json → Prop
  | number (.integer i) => Number.IsWord i
  | number (.float _) => False
  | array items => IntegralItems items
  | object members => IntegralMembers members
  | _ => True

/-- `Integral` for each item. -/
def IntegralItems : List Json → Prop
  | [] => True
  | v :: rest => Integral v ∧ IntegralItems rest

/-- `Integral` for each member's value. -/
def IntegralMembers : List (String × Json) → Prop
  | [] => True
  | (_, v) :: rest => Integral v ∧ IntegralMembers rest

end

mutual

/-- The levels of arrays and objects within each other. -/
def nesting : Json → Nat
  | array items => nestingItems items + 1
  | object members => nestingMembers members + 1
  | _ => 0

/-- The levels within an array. -/
def nestingItems : List Json → Nat
  | [] => 0
  | v :: rest => max (nesting v) (nestingItems rest)

/-- The levels within an object. -/
def nestingMembers : List (String × Json) → Nat
  | [] => 0
  | (_, v) :: rest => max (nesting v) (nestingMembers rest)

end

/-! ### Control characters -/

mutual

/-- The text of a value holds no control character. -/
theorem printed_chars (v : Json) (integral : v.Integral) :
    Printed v.chars
  := match v with
  | null | bool true | bool false => by decide
  | number (.integer i) => Number.printed_integer i
  | string s => printed_quoted s
  | array [] | object [] => by decide
  | array (v :: rest) =>
    have value := printed_chars v integral.1
    printed_cons (by decide) (value.append (printed_items rest integral.2))
  | object ((name, v) :: rest) =>
    have value := printed_chars v integral.1
    have after := printed_cons (c := ':') (by decide)
      (value.append (printed_members rest integral.2))
    printed_cons (by decide) ((printed_quoted name).append after)

theorem printed_items (items : List Json) (integral : IntegralItems items) :
    Printed (itemsChars items)
  := match items with
  | [] => by decide
  | v :: rest =>
    have value := printed_chars v integral.1
    printed_cons (by decide) (value.append (printed_items rest integral.2))

theorem printed_members (members : List (String × Json)) (integral : IntegralMembers members) :
    Printed (membersChars members)
  := match members with
  | [] => by decide
  | (name, v) :: rest =>
    have value := printed_chars v integral.1
    have after := printed_cons (c := ':') (by decide)
      (value.append (printed_members rest integral.2))
    printed_cons (by decide) ((printed_quoted name).append after)

end

/-! ### The first byte of a value -/

/-- Whether a text begins as a value does: not with a blank or the end of an array or object. -/
def Opens (s : List UInt8) : Prop :=
  ∃ b rest, s = b :: rest ∧ isSpace b = false ∧ b ≠ 0x5d ∧ b ≠ 0x7d

theorem ne_of_isDigit {b c : UInt8} (digit : isDigit b = true) (other : isDigit c = false) :
    b ≠ c
  := by
  rintro rfl
  rw [digit] at other
  cases other

theorem isSpace_of_isDigit {b : UInt8} (digit : isDigit b = true) :
    isSpace b = false
  := by
  have differs (c : UInt8) (other : isDigit c = false) : (b == c) = false :=
    beq_false_of_ne (ne_of_isDigit digit other)
  unfold isSpace
  rw [differs 0x20 rfl, differs 0x0a rfl, differs 0x0d rfl, differs 0x09 rfl]
  rfl

theorem skipSpace_of_filled {b : UInt8} (filled : isSpace b = false) (rest : List UInt8) :
    skipSpace (b :: rest) = b :: rest
  := List.dropWhile_cons_of_neg (by simp [filled])

theorem opens_chars (v : Json) (integral : v.Integral) (rest : List UInt8) :
    Opens (bytesOf v.chars ++ rest)
  := by
  cases v with
  | null => exact ⟨_, _, rfl, by decide⟩
  | bool b => cases b <;> exact ⟨_, _, rfl, by decide⟩
  | number n =>
    obtain i | x := n
    · rw [chars]
      obtain ⟨n, rfl⟩ | ⟨n, positive, rfl⟩ := Number.natural_or_negative i
      · obtain ⟨b, digits, opened, digit, -⟩ := Number.exists_bytesOf_toDigits n
        rw [Number.toList_text_natural, opened]
        exact ⟨b, _, rfl, isSpace_of_isDigit digit, ne_of_isDigit digit rfl,
          ne_of_isDigit digit rfl⟩
      · rw [Number.toList_text_negative positive]
        exact ⟨_, _, rfl, by decide⟩
    · exact integral.elim
  | string s => exact ⟨_, _, rfl, by decide⟩
  | array items => cases items <;> exact ⟨_, _, rfl, by decide⟩
  | object members => cases members <;> exact ⟨_, _, rfl, by decide⟩

/-! ### Reading one value -/

theorem readValue_digit {b : UInt8} (digit : isDigit b = true) (fuel depth : Nat)
    (rest : List UInt8) :
    readValue (fuel + 1) depth (b :: rest) =
      (Number.readUnsigned false (b :: rest)).map fun (n, rest) => (.number n, rest)
  := by
  rw [readValue, skipSpace_of_filled (isSpace_of_isDigit digit)]
  dsimp only
  rw [if_neg (ne_of_isDigit digit rfl), if_neg (ne_of_isDigit digit rfl),
    if_neg (ne_of_isDigit digit rfl), if_neg (ne_of_isDigit digit rfl),
    if_neg (ne_of_isDigit digit rfl), if_neg (ne_of_isDigit digit rfl),
    if_neg (ne_of_isDigit digit rfl), if_pos digit]

/-- An integer is read back where a value may end. -/
theorem readValue_integer {i : Int} (word : Number.IsWord i) (fuel depth : Nat)
    {rest : List UInt8} (closed : Closes rest) :
    readValue (fuel + 1) depth (bytesOf (Number.integer i).text.toList ++ rest) =
      .ok (number (.integer i), rest)
  := by
  obtain ⟨n, rfl⟩ | ⟨n, positive, rfl⟩ := Number.natural_or_negative i
  · obtain ⟨b, digits, opened, digit, -⟩ := Number.exists_bytesOf_toDigits n
    rw [Number.toList_text_natural, opened, List.cons_append, readValue_digit digit,
      ← List.cons_append, ← opened, Number.readUnsigned_natural word closed]
    rfl
  · have minus : String.utf8EncodeChar '-' = [0x2d] := rfl
    rw [Number.toList_text_negative positive, bytesOf_cons, minus, List.append_assoc,
      List.singleton_append, readValue, skipSpace_of_filled rfl]
    dsimp only
    rw [if_neg (by decide), if_neg (by decide), if_neg (by decide), if_neg (by decide),
      if_neg (by decide), if_neg (by decide), if_pos rfl,
      Number.readUnsigned_negative positive word closed]
    rfl

theorem readValue_string (s : String) {fuel : Nat} (enough : (bytesOf (quoted s)).length ≤ fuel)
    (depth : Nat) (rest : List UInt8) :
    readValue (fuel + 1) depth (bytesOf (quoted s) ++ rest) = .ok (string s, rest)
  := by
  rw [bytesOf_quoted, List.cons_append, List.append_assoc, List.singleton_append, readValue,
    skipSpace_of_filled rfl]
  dsimp only
  rw [if_pos rfl, readString_quoted s fuel rest enough]

theorem readValue_array (fuel depth : Nat) (s : List UInt8) :
    readValue (fuel + 1) (depth + 1) (0x5b :: s) = readItems fuel depth true [] s
  := by
  rw [readValue, skipSpace_of_filled rfl]
  rfl

theorem readValue_object (fuel depth : Nat) (s : List UInt8) :
    readValue (fuel + 1) (depth + 1) (0x7b :: s) = readMembers fuel depth true [] s
  := by
  rw [readValue, skipSpace_of_filled rfl]
  rfl

/-- One more item of an array is read, the first one or one after a comma. -/
theorem readItems_item (first : Bool) {s after : List UInt8} (opened : Opens s)
    {fuel depth : Nat} {v : Json} (read : readValue fuel depth s = .ok (v, after))
    (acc : List Json) :
    readItems (fuel + 1) depth first acc (if first then s else 0x2c :: s) =
      readItems fuel depth false (v :: acc) after
  := by
  obtain ⟨b, rest, rfl, filled, not_end, -⟩ := opened
  cases first with
  | true =>
    rw [readItems, if_pos rfl, skipSpace_of_filled filled]
    dsimp only
    rw [if_neg not_end, if_neg (by simp), if_pos rfl]
    dsimp only
    rw [if_neg (by simp), read]
  | false =>
    rw [readItems, if_neg (by decide), skipSpace_of_filled rfl]
    dsimp only
    rw [if_neg (by decide), if_neg (by decide), if_neg (by decide), skipSpace_of_filled filled]
    dsimp only
    rw [if_neg (by simp [not_end]), read]

/-- One more member of an object is read, the first one or one after a comma. -/
theorem readMembers_member (first : Bool) {name : String} {s after : List UInt8}
    {fuel depth : Nat} (enough : (bytesOf (quoted name)).length ≤ fuel) {v : Json}
    (read : readValue fuel depth s = .ok (v, after)) (acc : List (String × Json)) :
    readMembers (fuel + 1) depth first acc
        (if first then bytesOf (quoted name) ++ 0x3a :: s
          else 0x2c :: (bytesOf (quoted name) ++ 0x3a :: s)) =
      readMembers fuel depth false (Entries.insert name v acc) after
  := by
  have name_read := readString_quoted name fuel (0x3a :: s) enough
  rw [bytesOf_quoted, List.cons_append, List.append_assoc, List.singleton_append]
  cases first with
  | true =>
    rw [readMembers, if_pos rfl, skipSpace_of_filled rfl]
    dsimp only
    rw [if_neg (by decide), if_neg (by decide), if_pos rfl]
    dsimp only
    rw [if_neg (by decide), if_neg (by decide), name_read]
    dsimp only
    rw [skipSpace_of_filled rfl]
    dsimp only
    rw [if_neg (by decide), read]
  | false =>
    rw [readMembers, if_neg (by decide), skipSpace_of_filled rfl]
    dsimp only
    rw [if_neg (by decide), if_neg (by decide), if_neg (by decide), skipSpace_of_filled rfl]
    dsimp only
    rw [if_neg (by decide), if_neg (by decide), name_read]
    dsimp only
    rw [skipSpace_of_filled rfl]
    dsimp only
    rw [if_neg (by decide), read]

/-! ### Reading a value back -/

theorem bytesOf_array (v : Json) (rest : List Json) :
    bytesOf (array (v :: rest)).chars = 0x5b :: (bytesOf v.chars ++ bytesOf (itemsChars rest))
  := by
  rw [chars, bytesOf_cons, bytesOf_append]
  rfl

theorem bytesOf_items (v : Json) (rest : List Json) :
    bytesOf (itemsChars (v :: rest)) = 0x2c :: (bytesOf v.chars ++ bytesOf (itemsChars rest))
  := by
  rw [itemsChars, bytesOf_cons, bytesOf_append]
  rfl

theorem bytesOf_object (name : String) (v : Json) (rest : List (String × Json)) :
    bytesOf (object ((name, v) :: rest)).chars =
      0x7b :: (bytesOf (quoted name) ++ 0x3a :: (bytesOf v.chars ++ bytesOf (membersChars rest)))
  := by
  rw [chars, bytesOf_cons, bytesOf_append, bytesOf_cons, bytesOf_append]
  rfl

theorem bytesOf_members (name : String) (v : Json) (rest : List (String × Json)) :
    bytesOf (membersChars ((name, v) :: rest)) =
      0x2c :: (bytesOf (quoted name) ++ 0x3a :: (bytesOf v.chars ++ bytesOf (membersChars rest)))
  := by
  rw [membersChars, bytesOf_cons, bytesOf_append, bytesOf_cons, bytesOf_append]
  rfl

theorem closes_items (items : List Json) (rest : List UInt8) :
    Closes (bytesOf (itemsChars items) ++ rest)
  := by
  cases items <;> rintro b ⟨⟩ <;> decide

theorem closes_members (members : List (String × Json)) (rest : List UInt8) :
    Closes (bytesOf (membersChars members) ++ rest)
  := by
  cases members <;> rintro b ⟨⟩ <;> decide

mutual

/-- A value is read back from its text where a value may end. -/
theorem readValue_chars (v : Json) (canonical : v.Canonical) (integral : v.Integral)
    {fuel depth : Nat} (enough : 2 * (bytesOf v.chars).length ≤ fuel) (levels : v.nesting ≤ depth)
    {rest : List UInt8} (closed : Closes rest) :
    readValue fuel depth (bytesOf v.chars ++ rest) = .ok (v, rest)
  := by
  have filled : 0 < (bytesOf v.chars).length := by
    obtain ⟨b, tail, opened, -⟩ := opens_chars v integral []
    rw [← List.append_nil (bytesOf v.chars), opened]
    exact Nat.zero_lt_succ _
  obtain ⟨fuel, rfl⟩ : ∃ left, fuel = left + 1 := ⟨fuel - 1, by omega⟩
  match v with
  | null | bool true | bool false => rfl
  | number (.integer i) => exact readValue_integer integral fuel depth closed
  | string s =>
    rw [chars] at enough filled ⊢
    exact readValue_string s (by omega) depth rest
  | array items =>
    -- The opening bracket takes a level, and as a byte of the text it pays for two rounds: that of
    -- the array and that of its first item or its end.
    obtain ⟨depth, rfl⟩ := Nat.exists_eq_add_one.2 (Nat.zero_lt_of_lt levels)
    have levels : nestingItems items ≤ depth := Nat.le_of_succ_le_succ levels
    match items with
    | [] =>
      have room : 2 * 2 ≤ fuel + 1 := enough
      obtain ⟨fuel, rfl⟩ : ∃ left, fuel = left + 1 := ⟨fuel - 1, by omega⟩
      rfl
    | v :: items =>
      obtain ⟨levels, further⟩ := Nat.max_le.1 levels
      rw [bytesOf_array, List.length_cons, List.length_append] at enough
      obtain ⟨fuel, rfl⟩ : ∃ left, fuel = left + 1 := ⟨fuel - 1, by omega⟩
      have room : 2 * (bytesOf v.chars).length ≤ fuel := by omega
      have read := readValue_chars v canonical.1 integral.1 room levels (closes_items items rest)
      rw [bytesOf_array, List.cons_append, List.append_assoc, readValue_array]
      exact (readItems_item true (opens_chars v integral.1 _) read []).trans
        (readItems_chars items canonical.2 integral.2 (by omega) further [v] rest)
  | object members =>
    obtain ⟨depth, rfl⟩ := Nat.exists_eq_add_one.2 (Nat.zero_lt_of_lt levels)
    have levels : nestingMembers members ≤ depth := Nat.le_of_succ_le_succ levels
    match members with
    | [] =>
      have room : 2 * 2 ≤ fuel + 1 := enough
      obtain ⟨fuel, rfl⟩ : ∃ left, fuel = left + 1 := ⟨fuel - 1, by omega⟩
      rfl
    | (name, v) :: members =>
      obtain ⟨levels, further⟩ := Nat.max_le.1 levels
      rw [bytesOf_object, List.length_cons, List.length_append, List.length_cons,
        List.length_append] at enough
      obtain ⟨fuel, rfl⟩ : ∃ left, fuel = left + 1 := ⟨fuel - 1, by omega⟩
      have room : 2 * (bytesOf v.chars).length ≤ fuel := by omega
      have read := readValue_chars v canonical.2.1 integral.1 room levels
        (closes_members members rest)
      rw [bytesOf_object, List.cons_append, List.append_assoc, List.cons_append, List.append_assoc,
        readValue_object]
      exact (readMembers_member true (by omega) read []).trans
        (readMembers_chars members canonical.2.2 integral.2 (by omega) further canonical.1 rest)

/-- The items after the first ones are read back. -/
theorem readItems_chars (items : List Json) (canonical : CanonicalItems items)
    (integral : IntegralItems items) {fuel depth : Nat}
    (enough : 2 * (bytesOf (itemsChars items)).length ≤ fuel) (levels : nestingItems items ≤ depth)
    (acc : List Json) (rest : List UInt8) :
    readItems fuel depth false acc (bytesOf (itemsChars items) ++ rest) =
      .ok (array (acc.reverse ++ items), rest)
  := by
  match items with
  | [] =>
    obtain ⟨fuel, rfl⟩ := Nat.exists_eq_add_one.2 (Nat.lt_of_lt_of_le Nat.two_pos enough)
    rw [List.append_nil]
    rfl
  | v :: items =>
    obtain ⟨levels, further⟩ := Nat.max_le.1 levels
    rw [bytesOf_items, List.length_cons, List.length_append] at enough
    obtain ⟨fuel, rfl⟩ : ∃ left, fuel = left + 1 := ⟨fuel - 1, by omega⟩
    have room : 2 * (bytesOf v.chars).length ≤ fuel := by omega
    have read := readValue_chars v canonical.1 integral.1 room levels (closes_items items rest)
    have room : 2 * (bytesOf (itemsChars items)).length ≤ fuel := by omega
    have more := readItems_chars items canonical.2 integral.2 room further (v :: acc) rest
    rw [List.reverse_cons, ← List.append_cons] at more
    rw [bytesOf_items, List.cons_append, List.append_assoc]
    exact (readItems_item false (opens_chars v integral.1 _) read acc).trans more

/-- The members after the first ones are read back. -/
theorem readMembers_chars (members : List (String × Json)) (canonical : CanonicalMembers members)
    (integral : IntegralMembers members) {fuel depth : Nat}
    (enough : 2 * (bytesOf (membersChars members)).length ≤ fuel)
    (levels : nestingMembers members ≤ depth) {acc : List (String × Json)}
    (ordered : Entries.Ordered (acc ++ members)) (rest : List UInt8) :
    readMembers fuel depth false acc (bytesOf (membersChars members) ++ rest) =
      .ok (object (acc ++ members), rest)
  := by
  match members with
  | [] =>
    obtain ⟨fuel, rfl⟩ := Nat.exists_eq_add_one.2 (Nat.lt_of_lt_of_le Nat.two_pos enough)
    rw [List.append_nil]
    rfl
  | (name, v) :: members =>
    obtain ⟨levels, further⟩ := Nat.max_le.1 levels
    rw [bytesOf_members, List.length_cons, List.length_append, List.length_cons,
      List.length_append] at enough
    obtain ⟨fuel, rfl⟩ : ∃ left, fuel = left + 1 := ⟨fuel - 1, by omega⟩
    have room : 2 * (bytesOf v.chars).length ≤ fuel := by omega
    have read := readValue_chars v canonical.1 integral.1 room levels (closes_members members rest)
    -- the members read so far have smaller names
    have above : ∀ e ∈ acc, e.1 < name := fun e mem =>
      (List.pairwise_append.1 ordered).2.2 e mem (name, v) List.mem_cons_self
    rw [List.append_cons] at ordered ⊢
    have room : 2 * (bytesOf (membersChars members)).length ≤ fuel := by omega
    have more := readMembers_chars members canonical.2 integral.2 room further ordered rest
    rw [← Entries.insert_of_forall_lt above] at more
    rw [bytesOf_members, List.cons_append, List.append_assoc, List.cons_append, List.append_assoc,
      ← Entries.insert_of_forall_lt above]
    exact (readMembers_member false (by omega) read acc).trans more

end

/-! ### Whole texts -/

/-- A value that is nested no deeper than what is read is read back from its text. -/
theorem read_bytesOf_chars {v : Json} (canonical : v.Canonical) (integral : v.Integral)
    (levels : v.nesting ≤ maxDepth) :
    read (bytesOf v.chars) = .ok v
  := by
  have closed : Closes [] := nofun
  have whole := readValue_chars v canonical integral (Nat.le_add_right _ 2) levels closed
  rw [List.append_nil] at whole
  unfold read readBytes
  rw [whole]
  rfl

theorem parse_text {v : Json} (canonical : v.Canonical) (integral : v.Integral)
    (levels : v.nesting ≤ maxDepth) :
    parse v.text = .ok v
  := by
  rw [parse, text, toList_toUTF8_ofList]
  exact read_bytesOf_chars canonical integral levels

end ControlRelay.Json
