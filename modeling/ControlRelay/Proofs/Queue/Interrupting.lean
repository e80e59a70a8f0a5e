import ControlRelay.Proofs.Queue.File

/-!
# Saving that does not come to its end

The process may stop within any step of saving a queue, and a step may fail half done: some of
the directories are made, or the text is written up to some byte.  As long as the text is
written beside the queue file, nothing of this is seen where the file is loaded, until the new
file is there as a whole.  Where the last name of the path has the extension of the temporary
file already, the two are the same file, and the text is written over the queue that was saved.
-/

namespace ControlRelay.QueueFile

open Storage Toml

/-- The files that a step may leave if it is not done as a whole.  A rename is either done or
not. -/
inductive SaveStep.Leaves (fs : FileSystem) : SaveStep → FileSystem → Prop where
  | untouched {step : SaveStep} : Leaves fs step fs
  /-- Some of the directories are made, from the top. -/
  | made {path : Path} {left : FileSystem} (count : Nat)
      (made : fs.makeDirectory { path with names := path.names.take count } = .ok left) :
      Leaves fs (.makeDirectory path) left
  /-- Some of the bytes are written, from the start. -/
  | written {path : Path} {bytes : List UInt8} {left : FileSystem} (count : Nat)
      (written : fs.write path (bytes.take count) = .ok left) :
      Leaves fs (.write path bytes) left

/-- The files that some steps may leave, wherever it is that they come to an end. -/
inductive MayLeave : FileSystem → List SaveStep → FileSystem → Prop where
  | done {fs : FileSystem} : MayLeave fs [] fs
  | within {fs left : FileSystem} {step : SaveStep} {rest : List SaveStep}
      (leaves : step.Leaves fs left) : MayLeave fs (step :: rest) left
  | later {fs between left : FileSystem} {step : SaveStep} {rest : List SaveStep}
      (ran : step.run fs = .ok between) (leaves : MayLeave between rest left) :
      MayLeave fs (step :: rest) left

/-- The files that saving a queue may leave, wherever it comes to an end. -/
def Interrupted (f : QueueFile) (q : StoredQueue) (fs left : FileSystem) : Prop :=
  match q.toToml? with
  | none => left = fs
  | some text => MayLeave fs (f.saveSteps text) left

/-- The last name of the path has the extension of the temporary file already. -/
def SelfTemporary (f : QueueFile) : Prop :=
  ∃ stem, stem ≠ "" ∧ f.place.names.getLast? = some (stem ++ ".tmp")

section

variable {f : QueueFile} {fs left between : FileSystem} {q : StoredQueue} {text : String}
  {steps more : List SaveStep}

/-! ### Where the steps end -/

/-- What the steps come to by themselves is one of the ways in which they end. -/
theorem mayLeave_runSteps (fs : FileSystem) (steps : List SaveStep) :
    MayLeave fs steps (runSteps fs steps).2
  := by
  induction steps generalizing fs with
  | nil => apply MayLeave.done
  | cons step steps ih =>
    unfold runSteps
    split
    next error failed => apply MayLeave.within .untouched
    next between ran => apply MayLeave.later ran (ih between)

theorem interrupted_save (f : QueueFile) (q : StoredQueue) (fs : FileSystem) :
    f.Interrupted q fs (f.save q fs).2
  := by
  unfold Interrupted save
  cases q.toToml? with
  | none => rfl
  | some text =>
    have ends := mayLeave_runSteps fs (f.saveSteps text)
    dsimp only
    split
    next error left failed => rwa [failed] at ends
    next left ran => rwa [ran] at ends

theorem mayLeave_append (ran : runSteps fs steps = (none, between))
    (leaves : MayLeave between more left) :
    MayLeave fs (steps ++ more) left
  := by
  induction steps generalizing fs with
  | nil =>
    obtain rfl := runSteps_nil_eq_none.1 ran
    apply leaves
  | cons step steps ih =>
    obtain ⟨next, first, rest⟩ := runSteps_cons_eq_none.1 ran
    apply MayLeave.later first (ih rest)

/-- Whether it is done as a whole or in part, the step changes nothing that is read at `p`. -/
structure SaveStep.Spares (step : SaveStep) (p : Path) : Prop where
  run : ∀ {fs fs'}, step.run fs = .ok fs' → fs'.read p = fs.read p
  leaves : ∀ {fs left}, step.Leaves fs left → left.read p = fs.read p

/-- Steps that spare a path, and a rename at the end: what is read at the path changes with the
rename only. -/
theorem read_of_mayLeave {p source target : Path} (spares : ∀ step ∈ steps, step.Spares p)
    (leaves : MayLeave fs (steps ++ [.rename source target]) left) :
    left.read p = fs.read p ∨ runSteps fs (steps ++ [.rename source target]) = (none, left)
  := by
  induction steps generalizing fs with
  | nil =>
    cases leaves with
    | within leaves =>
      cases leaves
      apply Or.inl rfl
    | later ran leaves =>
      cases leaves
      apply Or.inr (runSteps_cons_eq_none.2 ⟨_, ran, rfl⟩)
  | cons step steps ih =>
    obtain ⟨first, rest⟩ := List.forall_mem_cons.1 spares
    cases leaves with
    | within leaves => apply Or.inl (first.leaves leaves)
    | later ran leaves =>
      cases ih rest leaves with
      | inl same => apply Or.inl (same.trans (first.run ran))
      | inr all => apply Or.inr (runSteps_cons_eq_none.2 ⟨_, ran, all⟩)

theorem spares_makeDirectory {p parent : Path} (apart : ¬ p.Encloses parent) :
    (SaveStep.makeDirectory parent).Spares p
  := by
  constructor
  · intro fs fs' made
    apply FileSystem.read_of_makeDirectory apart made
  · intro fs left leaves
    cases leaves with
    | untouched => rfl
    | made count made =>
      apply FileSystem.read_of_makeDirectory _ made
      rintro ⟨same, above⟩
      apply apart ⟨same, above.trans (List.take_prefix count parent.names)⟩

theorem spares_write {p path : Path} (apart : ¬ p.Encloses path)
    (length : path.names.length = p.names.length) (bytes : List UInt8) :
    (SaveStep.write path bytes).Spares p
  := by
  constructor
  · intro fs fs' written
    apply FileSystem.read_of_write apart length written
  · intro fs left leaves
    cases leaves with
    | untouched => rfl
    | written count written => apply FileSystem.read_of_write apart length written

/-! ### A file beside the queue file -/

/-- The steps before the rename. -/
theorem saveSteps_eq (f : QueueFile) (text : String) :
    f.saveSteps text =
      ((match f.place.parent? with
        | some parent => if parent.names.isEmpty then [] else [.makeDirectory parent]
        | none => []) ++ [.write f.temporary text.toUTF8.toList]) ++
        [.rename f.temporary f.place]
  := by
  rw [List.append_assoc]
  rfl

theorem load_of_read (same : left.read f.place = fs.read f.place) :
    f.load left = f.load fs
  := by
  unfold load FileSystem.readText
  rw [same]

/-- The temporary file is the queue file itself where that has no proper name, and where it has
the extension of the temporary file. -/
theorem temporary_eq_place_iff :
    f.temporary = f.place ↔ f.place.names.getLast?.all (· = "..") = true ∨ f.SelfTemporary
  := by
  have joined (stem : String) : stem ++ "." ++ "tmp" = stem ++ ".tmp" := String.append_assoc
  unfold temporary
  rw [Path.withExtension_eq_self_iff (by decide)]
  simp only [joined]
  rfl

/-- Unless the text is written over it, the queue file is read as before until it is renamed. -/
theorem read_place_of_mayLeave (beside : ¬ f.SelfTemporary)
    (leaves : MayLeave fs (f.saveSteps text) left) :
    left.read f.place = fs.read f.place ∨ runSteps fs (f.saveSteps text) = (none, left)
  := by
  by_cases unnamed : f.place.names.getLast?.all (· = "..") = true
  · left
    rw [FileSystem.read_of_unnamed unnamed, FileSystem.read_of_unnamed unnamed]
  · have apart : ¬ f.place.Encloses f.temporary := by
      cases Path.withExtension_cases f.place "tmp" with
      | inr apart => apply apart
      | inl same =>
        cases temporary_eq_place_iff.1 same with
        | inl unnamed' => apply absurd unnamed' unnamed
        | inr itself => apply absurd itself beside
    rw [saveSteps_eq] at leaves ⊢
    apply read_of_mayLeave _ leaves
    intro step mem
    cases List.mem_append.1 mem with
    | inr write =>
      obtain rfl := List.mem_singleton.1 write
      apply spares_write apart (Path.length_withExtension f.place "tmp")
    | inl make =>
      split at make
      next parent above =>
        split at make
        next => cases make
        next =>
          obtain rfl := List.mem_singleton.1 make
          apply spares_makeDirectory (Path.not_encloses_parent? above)
      next => cases make

/-! ### The queue file itself -/

/-- Where the text is written over the queue file, any part of it may be what is left there. -/
theorem mayLeave_over (itself : f.temporary = f.place) (usable : f.Usable fs) (text : String)
    (count : Nat) :
    ∃ left, MayLeave fs (f.saveSteps text) left ∧
      left.read f.place = .ok (text.toUTF8.toList.take count)
  := by
  obtain ⟨parent, made, above, make, -, -, place, writes⟩ := usable.writes
  rw [itself] at place writes
  use made.put f.place (.file (text.toUTF8.toList.take count))
  constructor
  · unfold saveSteps
    rw [above, itself]
    apply mayLeave_append (runSteps_makeDirectory.2 make)
    apply MayLeave.within
    apply SaveStep.Leaves.written count (writes _)
  · apply FileSystem.read_put (FileSystem.named_of_entry?_ne place)

theorem load_of_text {content : String} (given : fs.read f.place = .ok content.toUTF8.toList) :
    f.load fs = (StoredQueue.parse? content).elim (.error .parse) fun q => .ok (some q)
  := by
  unfold load
  rw [FileSystem.readText_of_read given]
  dsimp only
  cases StoredQueue.parse? content with
  | none => rfl
  | some q => rfl

/-- The text of a queue begins with a letter, which is no document by itself. -/
theorem take_one_bytes (written : q.toToml? = some text) :
    text.toUTF8.toList.take 1 = "n".toUTF8.toList
  := by
  rw [Json.toList_toUTF8, Json.toList_toUTF8, (StoredQueue.toToml?_eq_some written).2]
  rfl

/-- A save that is interrupted before the first byte or after it. -/
theorem interrupted_over (itself : f.SelfTemporary) (usable : f.Usable fs)
    (fits : q.nextId.toNat < 2 ^ 63) :
    (∃ left, f.Interrupted q fs left ∧ f.load left = .error .parse) ∧
      ∃ left, f.Interrupted q fs left ∧ f.load left = .ok (some ⟨0, []⟩)
  := by
  obtain ⟨text, written⟩ := StoredQueue.exists_toToml? fits
  have place := temporary_eq_place_iff.2 (.inr itself)
  unfold Interrupted
  rw [written]
  constructor
  · obtain ⟨left, leaves, read⟩ := mayLeave_over place usable text 1
    rw [take_one_bytes written] at read
    have broken : StoredQueue.parse? "n" = none := by decide +kernel
    use left, leaves
    rw [load_of_text read, broken]
    rfl
  · obtain ⟨left, leaves, read⟩ := mayLeave_over place usable text 0
    have nothing : text.toUTF8.toList.take 0 = "".toUTF8.toList := (Json.toList_toUTF8 "").symm
    rw [nothing] at read
    have empty : StoredQueue.parse? "" = some ⟨0, []⟩ := rfl
    use left, leaves
    rw [load_of_text read, empty]
    rfl

/-! ### Saving -/

/-- Unless the last name of its path has the extension of the temporary file already, a queue
file is replaced as a whole: wherever saving a queue comes to an end, the file is loaded as
before, or all is done and the new queue is loaded.  With that extension the new text is written
over the file: wherever a queue can be saved at all, saving may end with a file that is no
queue, or with one from which no job is loaded.  What saving comes to by itself is among the
ways in which it may end. -/
theorem load_of_interrupted (f : QueueFile) :
    (¬ f.SelfTemporary →
      ∀ q fs left, f.Interrupted q fs left →
        f.load left = f.load fs ∨
          f.save q fs = (.ok (), left) ∧
            ((∀ j ∈ q.jobs, ReadsBack j.timeAdded) → f.load left = .ok (some q))) ∧
    (f.SelfTemporary →
      ∀ (q : StoredQueue) fs, q.nextId.toNat < 2 ^ 63 → f.Usable fs →
        (∃ left, f.Interrupted q fs left ∧ f.load left = .error .parse) ∧
          ∃ left, f.Interrupted q fs left ∧ f.load left = .ok (some ⟨0, []⟩)) ∧
    ∀ q fs, f.Interrupted q fs (f.save q fs).2
  := by
  and_intros
  · intro beside q fs left interrupted
    unfold Interrupted at interrupted
    split at interrupted
    next none =>
      rw [interrupted]
      apply Or.inl rfl
    next text written =>
      cases read_place_of_mayLeave beside interrupted with
      | inl same => apply Or.inl (load_of_read same)
      | inr all =>
        right
        use (save_of_toToml? written).1 all
        intro read
        apply load_of_saved read written all
  · intro itself q fs fits usable
    apply interrupted_over itself usable fits
  · intro q fs
    apply interrupted_save

end

/-- A queue of one job is saved in `queue.tmp`, and saving one of two jobs is interrupted: when
the first byte is written the file is no queue, and before that it is one without jobs. -/
theorem load_of_interrupted_queue_tmp :
    let f : QueueFile := ⟨"queue.tmp"⟩
    let p : StoredQueue := ⟨1, [⟨⟨0⟩, "first.gcode", 1.5⟩]⟩
    let q : StoredQueue := ⟨2, [⟨⟨0⟩, "first.gcode", 1.5⟩, ⟨⟨1⟩, "second.gcode", 1.5⟩]⟩
    ∃ saved, f.save p {} = (.ok (), saved) ∧ f.load saved = .ok (some p) ∧
      (∃ left, f.Interrupted q saved left ∧ f.load left = .error .parse) ∧
        ∃ left, f.Interrupted q saved left ∧ f.load left = .ok (some ⟨0, []⟩)
  := by
  intro f p q
  have later : ReadsBack 1.5 := by
    have text : floatText 1.5 = "1.5" := by decide +kernel
    have value : Decimal.nearest 15 (-1) = 1.5 := by decide +kernel
    rw [ReadsBack, text, ← value]
    rfl
  have read : ∀ j ∈ p.jobs, ReadsBack j.timeAdded := by
    intro j mem
    obtain rfl := List.mem_singleton.1 mem
    apply later
  obtain ⟨first, written⟩ := StoredQueue.exists_toToml? (q := p) (by decide)
  have usable : f.Usable {} := ⟨⟨⟨false, []⟩, _, by decide, rfl⟩, by decide, by decide⟩
  obtain ⟨saved, ran⟩ := usable.saves first
  have file : saved.entry? f.place ≠ some .directory := by
    intro directory
    have there := readText_place ran
    unfold FileSystem.readText FileSystem.read at there
    rw [directory] at there
    cases there
  have itself : f.SelfTemporary := ⟨"queue", by decide, by decide⟩
  have place : f.temporary = f.place := temporary_eq_place_iff.2 (.inr itself)
  have usable' : f.Usable saved := ⟨⟨⟨false, []⟩, _, by decide, rfl⟩, file, place ▸ file⟩
  use saved, (save_of_toToml? written).1 ran, load_of_saved read written ran
  apply interrupted_over itself usable' (by decide)

end ControlRelay.QueueFile
