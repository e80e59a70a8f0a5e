import ControlRelay.Proofs.Toml.Number
import ControlRelay.Proofs.Toml.Quoted

/-!
# Documents are read line by line

A document is read one line after the other: a blank line changes nothing, a key with its value
extends the open table, and the header of an array of tables puts the open table in its place and
opens the next one.  Each is told here by one equation, so a document is read by rewriting with
the equations of its lines.
-/

namespace ControlRelay.Toml

/-! ### Values up to the end of a line -/

/-- The text is read as the value, whatever lines follow. -/
structure Spells (s : List Char) (v : Toml) : Prop where
  skipWs : ∀ rest, Toml.skipWs (s ++ '\n' :: rest) = s ++ '\n' :: rest
  value? : ∀ fuel rest, Toml.value? (fuel + 2) 0 (s ++ '\n' :: rest) = some (v, '\n' :: rest)

theorem spells_of_number {s : List Char} {v : Toml}
    (read : ∀ rest, number? (s ++ '\n' :: rest) = some (v, '\n' :: rest)) : Spells s v where
  skipWs rest := skipWs_number (read rest)
  value? fuel rest := value?_number (read rest) (fuel + 1) 0

theorem spells_toDigits {n : Nat} (fits : n < 0x8000000000000000) :
    Spells (Nat.toDigits 10 n) (.integer n)
  := spells_of_number (number?_toDigits fits)

/-- The text of a float is read as that float. -/
def ReadsBack (x : Float) : Prop := number? (floatText x).toList = some (.float x, [])

theorem spells_floatText {x : Float} (read : ReadsBack x) :
    Spells (floatText x).toList (.float x)
  := spells_of_number (number?_append read)

theorem spells_nil : Spells ['[', ']'] (.array []) where
  skipWs _ := rfl
  value? _ _ := rfl

/-- A string begins with one of its marks. -/
theorem quotedChars_head (cs : List Char) :
    ∃ mark more, quotedChars cs = mark :: more ∧ (mark = '"' ∨ mark = '\'')
  := by
  rw [quotedChars]
  split_ifs
  · exact ⟨_, _, rfl, .inr rfl⟩
  · exact ⟨_, _, rfl, .inr rfl⟩
  · exact ⟨_, _, rfl, .inr rfl⟩
  · exact ⟨_, _, rfl, .inl rfl⟩
  · exact ⟨_, _, rfl, .inl rfl⟩

theorem spells_quotedChars (text : String) :
    Spells (quotedChars text.toList) (.string text)
  := by
  obtain ⟨mark, more, opened, isMark⟩ := quotedChars_head text.toList
  constructor
  · intro rest
    rw [opened]
    obtain rfl | rfl := isMark <;> rfl
  · intro fuel rest
    have read := string?_quotedChars text.toList rest
    rw [opened, List.cons_append, String.ofList_toList] at read
    rw [opened, List.cons_append, Toml.value?, if_pos (by simpa using isMark), read]
    rfl

/-! ### Keys -/

theorem ne_of_bare {c d : Char} (bare : isBareKeyChar c = true) (mark : isBareKeyChar d = false) :
    c ≠ d
  := by
  rintro rfl
  exact Bool.false_ne_true (mark.symm.trans bare)

theorem keyPart?_bare {key : List Char} (nonempty : key ≠ [])
    (bare : ∀ c ∈ key, isBareKeyChar c = true) {c : Char} (stops : isBareKeyChar c = false)
    (s : List Char) : keyPart? (key ++ c :: s) = some (String.ofList key, c :: s)
  := by
  have taken : (key ++ c :: s).takeWhile isBareKeyChar = key := by
    rw [List.takeWhile_append_of_pos bare, List.takeWhile_cons_of_neg (by simp [stops]),
      List.append_nil]
  have left : (key ++ c :: s).dropWhile isBareKeyChar = c :: s := by
    rw [List.dropWhile_append_of_pos bare, List.dropWhile_cons_of_neg (by simp [stops])]
  obtain ⟨b, key, rfl⟩ := List.exists_cons_of_ne_nil nonempty
  have head := bare b List.mem_cons_self
  rw [keyPart?, taken, left]
  · exact fun _ same => ne_of_bare head rfl (List.cons_eq_cons.1 same).1
  · exact fun _ same => ne_of_bare head rfl (List.cons_eq_cons.1 same).1

theorem skipWs_bare {key : List Char} (nonempty : key ≠ [])
    (bare : ∀ c ∈ key, isBareKeyChar c = true) (s : List Char) : skipWs (key ++ s) = key ++ s
  := by
  obtain ⟨b, key, rfl⟩ := List.exists_cons_of_ne_nil nonempty
  have head := bare b List.mem_cons_self
  have space : b ≠ ' ' := ne_of_bare head rfl
  have tab : b ≠ '\t' := ne_of_bare head rfl
  simp [skipWs, isWs, space, tab]

/-- A key of one part without quotes is read up to the first other character. -/
theorem path?_bare {key : List Char} (nonempty : key ≠ [])
    (bare : ∀ c ∈ key, isBareKeyChar c = true) {c : Char} (stops : isBareKeyChar c = false)
    (s : List Char) (undotted : (skipWs (c :: s)).head? ≠ some '.') :
    path? (key ++ c :: s) = some (([], String.ofList key), skipWs (c :: s))
  := by
  have read (fuel : Nat) :
      key? (fuel + 1) (key ++ c :: s) = some ([String.ofList key], skipWs (c :: s))
    := by
    rw [key?, skipWs_bare nonempty bare, keyPart?_bare nonempty bare stops]
    dsimp only
    split
    next dot => exact absurd (by rw [dot]; rfl) undotted
    · rfl
  rw [path?, read]
  rfl

/-! ### Lines -/

theorem lines?_blank (fuel : Nat) (d : Document) (rest : List Char) :
    lines? (fuel + 1) d ('\n' :: rest) = lines? fuel d rest
  := rfl

/-- A line that begins with neither a blank, a comment nor a line end is a header or a key. -/
theorem lines?_line {c : Char} (text : c ∉ [' ', '\t', '\n', '\r', '#']) {d d' : Document}
    {s rest : List Char} (read : line? d (c :: s) = some (d', rest)) (fuel : Nat) :
    lines? (fuel + 1) d (c :: s) = lines? fuel d' rest
  := by
  simp only [List.mem_cons, not_or, List.not_mem_nil, not_false_eq_true, and_true] at text
  simp [lines?, skipWs, isWs, newline?, text, read]

/-- The header of an array of tables. -/
theorem lines?_arrayHeader {key : String} (nonempty : key.toList ≠ [])
    (bare : key.toList.all isBareKeyChar = true) {d d' : Document}
    (opened : d.openArrayTable? [key] = some d') (fuel : Nat) (rest : List Char) :
    lines? (fuel + 1) d ('[' :: '[' :: (key.toList ++ ']' :: ']' :: '\n' :: rest)) =
      lines? fuel d' rest
  := by
  have bare := List.all_eq_true.1 bare
  have path := path?_bare nonempty bare (c := ']') rfl (']' :: '\n' :: rest)
    (by simp [skipWs, isWs])
  apply lines?_line (by decide)
  rw [line?, path, String.ofList_toList]
  show (d.openArrayTable? [key]).bind _ = _
  rw [opened]
  rfl

theorem setKey?_new {d : Document} {key : String} (free : Tree.find? key d.opened = none)
    (v : Toml) :
    d.setKey? [] key v = some { d with opened := d.opened ++ [(key, .value v)] }
  := by
  rw [Document.setKey?, Tree.setKey?, Tree.modifyAt?, if_neg (by decide), free]
  rfl

/-- A key with its value is added to the open table, if it is new there. -/
theorem lines?_key {key : String} (nonempty : key.toList ≠ [])
    (bare : key.toList.all isBareKeyChar = true) {s : List Char} {v : Toml}
    (spelled : Spells s v) {d : Document} (free : Tree.find? key d.opened = none) (fuel : Nat)
    (rest : List Char) :
    lines? (fuel + 1) d (key.toList ++ ' ' :: '=' :: ' ' :: (s ++ '\n' :: rest)) =
      lines? fuel { d with opened := d.opened ++ [(key, .value v)] } rest
  := by
  have bare := List.all_eq_true.1 bare
  have path := path?_bare nonempty bare (c := ' ') rfl ('=' :: ' ' :: (s ++ '\n' :: rest))
    (by simp [skipWs, isWs])
  obtain ⟨c, cs, opened⟩ := List.exists_cons_of_ne_nil nonempty
  have head := bare c (opened ▸ List.mem_cons_self)
  rw [String.ofList_toList, opened, List.cons_append] at path
  rw [opened, List.cons_append]
  have unmarked : [' ', '\t', '\n', '\r', '#'].any isBareKeyChar = false := rfl
  apply lines?_line fun member => List.any_eq_false.1 unmarked c member head
  rw [line?, path]
  · show (value? (_ + 2) 0 (skipWs (s ++ '\n' :: rest))).bind _ = _
    rw [spelled.skipWs, spelled.value?]
    show (d.setKey? [] key v).bind _ = _
    rw [setKey?_new free]
    rfl
  · exact fun _ same => ne_of_bare head rfl (List.cons_eq_cons.1 same).1
  · exact fun _ same => ne_of_bare head rfl (List.cons_eq_cons.1 same).1

/-! ### The document -/

theorem parse?_of_lines? {text : String} (unmarked : text.toList.head? ≠ some '\ufeff')
    {d : Document} (read : lines? (text.toList.length + 1) {} text.toList = some d) :
    parse? text = d.finish?
  := by
  rw [parse?]
  split
  next opened => exact absurd (by rw [opened]; rfl) unmarked
  next =>
    rw [read]
    rfl

theorem Item.tablesToToml_eq (trees : List Tree) :
    tablesToToml trees = trees.map fun entries => .table (entriesToToml entries)
  := by
  induction trees with
  | nil => rfl
  | cons entries trees ih => rw [tablesToToml, ih, List.map_cons]

end ControlRelay.Toml
