import ControlRelay.Proofs.Json.Escaping
import ControlRelay.Storage.FileSystem
import Mathlib.Data.List.Basic

/-!
# Files that are written and renamed

What stands at a path after something was put at a path: there what was put, at the directories
above still a directory, and at every other path what stood there before.  From this follows what
making directories, writing a file and renaming one leave behind.
-/

namespace ControlRelay.Storage

/-! ### Paths -/

namespace Path

/-- The path is the other one or leads to a directory above it. -/
def Encloses (p q : Path) : Prop := p.rooted = q.rooted ∧ p.names <+: q.names

/-- A path does not lead to a directory above that which holds it. -/
theorem not_encloses_parent? {p parent : Path} (given : p.parent? = some parent) :
    ¬ p.Encloses parent
  := by
  rintro ⟨-, above⟩
  rw [parent?] at given
  split at given
  · contradiction
  next named =>
    cases given
    have nonempty : p.names ≠ [] := by
      intro empty
      rw [empty] at named
      contradiction
    have := above.length_le
    have := List.length_pos_iff.2 nonempty
    rw [List.length_dropLast] at *
    omega

theorem parent?_withExtension (p : Path) (extension : String) :
    (p.withExtension extension).parent? = p.parent?
  := by
  rw [withExtension]
  split
  · rfl
  next name last =>
    split
    · rfl
    · rw [parent?, parent?, last, List.getLast?_concat, List.dropLast_concat]

theorem length_withExtension (p : Path) (extension : String) :
    (p.withExtension extension).names.length = p.names.length
  := by
  rw [withExtension]
  split
  · rfl
  next name last =>
    split
    · rfl
    · have names := congrArg List.length (List.dropLast_append_getLast? name last)
      rw [List.length_append, List.length_singleton] at names ⊢
      exact names

/-- A path with another extension is the same path or stands beside it. -/
theorem withExtension_cases (p : Path) (extension : String) :
    p.withExtension extension = p ∨ ¬ p.Encloses (p.withExtension extension)
  := by
  rw [withExtension]
  split
  · exact .inl rfl
  next name last =>
    split
    · exact .inl rfl
    · by_cases same : p.names = p.names.dropLast ++ [stem name ++ "." ++ extension]
      · left
        rw [← same]
      · right
        rintro ⟨-, above⟩
        have nonempty : p.names ≠ [] := by
          intro empty
          rw [empty] at last
          contradiction
        have := List.length_pos_iff.2 nonempty
        apply same
        apply above.eq_of_length
        rw [List.length_append, List.length_dropLast, List.length_singleton]
        omega

theorem stem_append {stem extension : String} (some : stem ≠ "")
    (plain : '.' ∉ extension.toList) :
    Path.stem (stem ++ "." ++ extension) = stem
  := by
  have skipped : ∀ c ∈ extension.toList.reverse, (c != '.') = true := by
    intro c mem
    rw [bne_iff_ne]
    rintro rfl
    exact plain (List.mem_reverse.1 mem)
  have reversed : (((stem ++ "." ++ extension).toList.reverse.dropWhile (· != '.')).drop 1) =
      stem.toList.reverse
    := by
    rw [String.toList_append, String.toList_append, List.reverse_append,
      List.dropWhile_append_of_pos skipped]
    simp
  rw [Path.stem, reversed]
  split
  next empty =>
    rw [List.reverse_eq_nil_iff] at empty
    exact absurd (String.toList_inj.1 (empty.trans String.toList_empty.symm)) some
  next => rw [List.reverse_reverse, String.ofList_toList]

theorem stem_ne_empty {name : String} (some : name ≠ "") :
    Path.stem name ≠ ""
  := by
  rw [Path.stem]
  split
  · exact some
  next reversed nonempty =>
    intro empty
    have nothing := congrArg String.toList empty
    rw [String.toList_ofList, String.toList_empty, List.reverse_eq_nil_iff] at nothing
    exact nonempty nothing

/-- The paths that another extension leaves as they are: those that end in no proper name, and
those that have it already. -/
theorem withExtension_eq_self_iff {p : Path} {extension : String}
    (plain : '.' ∉ extension.toList) :
    p.withExtension extension = p ↔ p.names.getLast?.all (· = "..") = true ∨
      ∃ stem, stem ≠ "" ∧ p.names.getLast? = some (stem ++ "." ++ extension)
  := by
  rw [withExtension]
  split
  next none => simp [none]
  next name last =>
    split
    next up => simp [last, up]
    next proper =>
      have names : p.names.dropLast ++ [name] = p.names :=
        List.dropLast_append_getLast? name last
      have same : ({ p with names := p.names.dropLast ++ [stem name ++ "." ++ extension] } = p) ↔
          stem name ++ "." ++ extension = name
        := by
        rw [Path.mk.injEq]
        constructor
        · rintro ⟨-, same⟩
          exact List.cons.inj (List.append_cancel_left (same.trans names.symm)) |>.1
        · intro same
          rw [same, names]
          exact ⟨rfl, rfl⟩
      rw [same, last]
      simp only [Option.all_some, decide_eq_true_eq, proper, false_or, Option.some.injEq]
      constructor
      · intro same
        refine ⟨stem name, stem_ne_empty ?_, same.symm⟩
        rintro rfl
        simp at same
      · rintro ⟨stem, some, rfl⟩
        rw [stem_append some plain]

end Path

namespace FileSystem

variable {fs fs' : FileSystem} {p q : Path}

/-! ### What stands at a path -/

theorem hasBelow_iff :
    fs.hasBelow q = true ↔ ∃ entry ∈ fs.entries, q.Encloses entry.1 ∧ entry.1 ≠ q
  := by
  simp only [hasBelow, List.any_eq_true, Bool.and_eq_true, decide_eq_true_eq,
    List.isPrefixOf_iff_prefix, Path.Encloses, eq_comm (a := q.rooted)]

theorem hasBelow_put (e : Entry) :
    (fs.put p e).hasBelow q = true ↔ q.Encloses p ∧ p ≠ q ∨ fs.hasBelow q = true
  := by
  rw [hasBelow_iff, hasBelow_iff]
  constructor
  · rintro ⟨entry, member, below⟩
    obtain rfl | kept := List.mem_cons.1 member
    · exact .inl below
    · exact .inr ⟨entry, (List.mem_filter.1 kept).1, below⟩
  · rintro (below | ⟨entry, member, below⟩)
    · exact ⟨_, List.mem_cons_self, below⟩
    · by_cases same : entry.1 = p
      · rw [same] at below
        exact ⟨_, List.mem_cons_self, below⟩
      · exact ⟨entry, List.mem_cons_of_mem _ (List.mem_filter.2 ⟨member, decide_eq_true same⟩),
          below⟩

theorem find?_put (ne : q ≠ p) (e : Entry) :
    (fs.put p e).entries.find? (·.1 = q) = fs.entries.find? (·.1 = q)
  := by
  rw [put, List.find?_cons_of_neg (by simpa using ne.symm), List.find?_filter]
  congr 1
  funext entry
  simp only [decide_eq_decide, decide_eq_true_eq]
  constructor
  · exact And.right
  · rintro rfl
    exact ⟨ne, rfl⟩

/-- A path that ends in a proper name: what is put there stands there. -/
theorem entry?_put_self (named : p.names.getLast?.all (· = "..") = false) (e : Entry) :
    entry? (fs.put p e) p = some e
  := by
  simp [put, entry?, named]

/-- A directory stays one when something is put at another path. -/
theorem entry?_put_directory (ne : q ≠ p) (directory : fs.entry? q = some .directory)
    (e : Entry) : entry? (fs.put p e) q = some .directory
  := by
  unfold entry? at directory ⊢
  rw [find?_put ne]
  split
  · rfl
  next upward =>
    rw [if_neg upward] at directory
    split at directory
    · exact directory
    next =>
      split at directory
      next below => rw [if_pos ((hasBelow_put e).2 (.inr below))]
      · contradiction

/-- At paths that are not above it nothing changes when something is put at another path. -/
theorem entry?_put_of_not_encloses (apart : ¬ q.Encloses p) (e : Entry) :
    entry? (fs.put p e) q = fs.entry? q
  := by
  have ne : q ≠ p := by
    rintro rfl
    exact apart ⟨rfl, List.prefix_rfl⟩
  have below : (fs.put p e).hasBelow q = fs.hasBelow q := by
    rw [Bool.eq_iff_iff, hasBelow_put]
    simp [apart]
  unfold entry?
  rw [find?_put ne, below]

theorem named_of_entry?_ne (other : fs.entry? p ≠ some .directory) :
    p.names.getLast?.all (· = "..") = false
  := by
  unfold entry? at other
  split at other
  · contradiction
  next named => exact Bool.eq_false_iff.2 named

/-! ### Operations -/

/-- The directories that were made stand there, and no path changes that is not above them. -/
theorem makeDirectories_eq_ok {rooted : Bool} {above below : List String}
    (start : fs.entry? ⟨rooted, above⟩ = some .directory)
    (made : fs.makeDirectories rooted above below = .ok fs') :
    fs'.entry? ⟨rooted, above ++ below⟩ = some .directory ∧
      ∀ q : Path, ¬ q.Encloses ⟨rooted, above ++ below⟩ → fs'.entry? q = fs.entry? q
  := by
  induction below generalizing fs above with
  | nil =>
    cases made
    rw [List.append_nil]
    exact ⟨start, fun _ _ => rfl⟩
  | cons name below ih =>
    rw [List.append_cons]
    rw [makeDirectories] at made
    split at made
    next there => exact ih there made
    · contradiction
    next missing =>
      have named := named_of_entry?_ne (missing ▸ Option.some_ne_none _ |>.symm)
      obtain ⟨last, others⟩ := ih (entry?_put_self named .directory) made
      refine ⟨last, fun q apart => ?_⟩
      rw [others q apart]
      apply entry?_put_of_not_encloses
      rintro ⟨same, shorter⟩
      exact apart ⟨same, shorter.trans (List.prefix_append _ _)⟩

theorem makeDirectory_eq_ok (made : fs.makeDirectory p = .ok fs') :
    fs'.entry? p = some .directory ∧ ∀ q : Path, ¬ q.Encloses p → fs'.entry? q = fs.entry? q
  := by
  have root : fs.entry? ⟨p.rooted, []⟩ = some .directory := rfl
  exact makeDirectories_eq_ok root made

theorem checkPlace_eq_ok :
    fs.checkPlace p = .ok () ↔
      ∃ parent, p.parent? = some parent ∧ fs.entry? parent = some .directory
  := by
  rw [checkPlace]
  split
  next none => simp [none]
  next parent found =>
    simp only [found, Option.some.injEq, exists_eq_left']
    split <;> simp_all

theorem write_eq_ok {bytes : List UInt8} :
    fs.write p bytes = .ok fs' ↔ fs.checkPlace p = .ok () ∧ fs.entry? p ≠ some .directory ∧
      fs.put p (.file bytes) = fs'
  := by
  rw [write]
  cases place : fs.checkPlace p with
  | error e => simp [bind, Except.bind]
  | ok =>
    simp only [bind, Except.bind]
    split <;> simp_all

theorem rename_eq_ok :
    fs.rename p q = .ok fs' ↔ ∃ bytes, fs.read p = .ok bytes ∧ fs.checkPlace q = .ok () ∧
      fs.entry? q ≠ some .directory ∧ (fs.remove p).put q (.file bytes) = fs'
  := by
  rw [rename]
  cases source : fs.read p with
  | error e => simp [bind, Except.bind]
  | ok bytes =>
    cases place : fs.checkPlace q with
    | error e => simp [bind, Except.bind]
    | ok =>
      simp only [bind, Except.bind]
      split <;> simp_all

theorem read_put (named : p.names.getLast?.all (· = "..") = false) (bytes : List UInt8) :
    (fs.put p (.file bytes)).read p = .ok bytes
  := by
  rw [read, entry?_put_self named]

/-- No file stands at a path that ends in no proper name. -/
theorem read_of_unnamed (unnamed : p.names.getLast?.all (· = "..") = true) :
    fs.read p = .error .isDirectory
  := by
  rw [read, entry?, if_pos unnamed]

theorem readText_of_read {text : String} (given : fs.read p = .ok text.toUTF8.toList) :
    fs.readText p = .ok text
  := by
  have decoded := Json.textOf?_bytesOf text
  rw [← Json.toList_toUTF8, Json.textOf?] at decoded
  rw [readText, given]
  simp only [bind, Except.bind]
  rw [decoded]

/-! ### What is read elsewhere -/

/-- No file is made or lost at another path. -/
theorem entry?_put_eq_file_iff (ne : q ≠ p) (e : Entry) {bytes : List UInt8} :
    entry? (fs.put p e) q = some (.file bytes) ↔ fs.entry? q = some (.file bytes)
  := by
  unfold entry?
  rw [find?_put ne]
  split
  · rfl
  · split
    · rfl
    · -- without an entry of its own a path holds a directory or nothing
      constructor <;> intro file <;> split at file <;> cases file

/-- Where a path leads through the same files, and ends in the same, the same is read. -/
theorem read_eq_of_files (same : fs'.entry? q = fs.entry? q)
    (files : ∀ i < q.names.length, ∀ bytes,
      fs'.entry? { q with names := q.names.take i } = some (.file bytes) ↔
        fs.entry? { q with names := q.names.take i } = some (.file bytes)) :
    fs'.read q = fs.read q
  := by
  have through : fs'.isThroughFile q = fs.isThroughFile q := by
    rw [Bool.eq_iff_iff, isThroughFile, isThroughFile, List.any_eq_true, List.any_eq_true]
    apply exists_congr
    intro i
    apply and_congr_right
    intro inside
    replace files := files i (List.mem_range.1 inside)
    split
    next bytes file => simp [(files bytes).1 file]
    next other =>
      split
      next bytes file => exact absurd ((files bytes).2 file) (other bytes)
      next => rfl
  unfold read
  rw [same, through]

/-- A new directory takes the place of no file. -/
theorem makeDirectories_file_iff {rooted : Bool} {above below : List String}
    (made : fs.makeDirectories rooted above below = .ok fs') (q : Path) (bytes : List UInt8) :
    fs'.entry? q = some (.file bytes) ↔ fs.entry? q = some (.file bytes)
  := by
  induction below generalizing fs above with
  | nil =>
    cases made
    rfl
  | cons name below ih =>
    rw [makeDirectories] at made
    split at made
    · exact ih made
    · contradiction
    next missing =>
      rw [ih made]
      by_cases same : q = ⟨rooted, above ++ [name]⟩
      · have named := named_of_entry?_ne (missing ▸ Option.some_ne_none _ |>.symm)
        rw [same, entry?_put_self named, missing]
        simp
      · exact entry?_put_eq_file_iff same .directory

/-- Making a directory changes nothing that is read at a path not above it. -/
theorem read_of_makeDirectory (apart : ¬ q.Encloses p) (made : fs.makeDirectory p = .ok fs') :
    fs'.read q = fs.read q
  := by
  apply read_eq_of_files ((makeDirectory_eq_ok made).2 q apart)
  exact fun i _ bytes => makeDirectories_file_iff made _ bytes

/-- Writing a file changes nothing that is read at another path of the same length. -/
theorem read_of_write {bytes : List UInt8} (apart : ¬ q.Encloses p)
    (length : p.names.length = q.names.length) (written : fs.write p bytes = .ok fs') :
    fs'.read q = fs.read q
  := by
  obtain ⟨-, -, rfl⟩ := write_eq_ok.1 written
  apply read_eq_of_files (entry?_put_of_not_encloses apart _)
  intro i inside _
  apply entry?_put_eq_file_iff
  rintro rfl
  rw [List.length_take] at length
  omega

end FileSystem

end ControlRelay.Storage
