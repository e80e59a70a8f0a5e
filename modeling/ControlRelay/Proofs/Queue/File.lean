import ControlRelay.Proofs.Queue.JobId
import ControlRelay.Proofs.Storage.FileSystem
import ControlRelay.Proofs.Toml.Document
import ControlRelay.Queue.File

/-!
# A saved queue is loaded back

The text of a queue is read line by line: the next id first, then the lines of each job, which open
a table and put the one before in its place.  So after the lines of some jobs the document, once its
open table is closed, holds the next id and those jobs, and at the end it holds the queue.  The file
system brings the text back as it was written, since the file is renamed as a whole.
-/

namespace ControlRelay

open Storage Toml

namespace StoredQueue

/-! ### The lines of the file -/

/-- The table of a job. -/
def jobTree (j : Job) : Tree :=
  [("job_id", .value (.string j.id.text)), ("filename", .value (.string j.filename)),
    ("time_added", .value (.float j.timeAdded))]

/-- The document of the next id and some jobs. -/
def tree (nextId : Nat) (jobs : List Job) : Tree :=
  ("next_id", .value (.integer nextId)) ::
    if jobs.isEmpty then [] else [("jobs", .tables (jobs.reverse.map jobTree))]

theorem jobText_append (j : Job) (rest : List Char) :
    (jobText j).toList ++ rest =
      '\n' :: '[' :: '[' :: ("jobs".toList ++ ']' :: ']' :: '\n' ::
        ("job_id".toList ++ ' ' :: '=' :: ' ' :: (quotedChars j.id.text.toList ++ '\n' ::
        ("filename".toList ++ ' ' :: '=' :: ' ' :: (quotedChars j.filename.toList ++ '\n' ::
        ("time_added".toList ++ ' ' :: '=' :: ' ' :: ((floatText j.timeAdded).toList ++ '\n' ::
        rest)))))))
  := by
  unfold jobText
  simp [quoted]

/-- The open table of a job is put behind those of the jobs before it. -/
theorem close?_jobTree (nextId : Nat) (jobs : List Job) (j : Job) :
    Document.close? ⟨tree nextId jobs, ["jobs"], true, jobTree j⟩ =
      some (tree nextId (jobs ++ [j]))
  := by
  cases jobs with
  | nil => rfl
  | cons first jobs =>
    have order : (first :: jobs ++ [j]).reverse = j :: (first :: jobs).reverse :=
      List.reverse_append
    rw [tree, tree, order]
    rfl

/-- The lines of a job add it to the document. -/
theorem lines?_jobText {d : Document} {nextId : Nat} {jobs : List Job}
    (closed : d.close? = some (tree nextId jobs)) {j : Job} (read : ReadsBack j.timeAdded)
    (fuel : Nat) (rest : List Char) :
    ∃ d', d'.close? = some (tree nextId (jobs ++ [j])) ∧
      lines? (fuel + 5) d ((jobText j).toList ++ rest) = lines? fuel d' rest
  := by
  have opened : d.openArrayTable? ["jobs"] =
      some { root := tree nextId jobs, path := ["jobs"], appends := true }
    := by
    rw [Document.openArrayTable?, closed]
    cases jobs <;> rfl
  refine ⟨_, close?_jobTree nextId jobs j, ?_⟩
  rw [jobText_append, lines?_blank, lines?_arrayHeader (by decide) rfl opened,
    lines?_key (by decide) rfl (spells_quotedChars _) rfl,
    lines?_key (by decide) rfl (spells_quotedChars _) rfl,
    lines?_key (by decide) rfl (spells_floatText read) rfl]
  rfl

/-- The lines of all jobs, one after the other. -/
theorem lines?_jobTexts (jobs : List Job) (read : ∀ j ∈ jobs, ReadsBack j.timeAdded)
    {d : Document} {nextId : Nat} {done : List Job} (closed : d.close? = some (tree nextId done))
    {fuel : Nat} (enough : 5 * jobs.length < fuel) :
    ∃ d', d'.close? = some (tree nextId (done ++ jobs)) ∧
      lines? fuel d (jobs.flatMap fun j => (jobText j).toList) = some d'
  := by
  induction jobs generalizing d done fuel with
  | nil =>
    obtain ⟨fuel, rfl⟩ := Nat.exists_eq_add_one.2 (Nat.zero_lt_of_lt enough)
    exact ⟨d, by rw [List.append_nil, closed], rfl⟩
  | cons j jobs ih =>
    obtain ⟨head, tail⟩ := List.forall_mem_cons.1 read
    rw [List.length_cons] at enough
    obtain ⟨fuel, rfl⟩ := Nat.exists_eq_add_of_le' (show 5 ≤ fuel by omega)
    obtain ⟨d', closed', step⟩ := lines?_jobText closed head fuel
      (jobs.flatMap fun j => (jobText j).toList)
    obtain ⟨d'', closed'', run⟩ := ih tail closed' (show 5 * jobs.length < fuel by omega)
    rw [List.append_assoc] at closed''
    exact ⟨d'', closed'', by rw [List.flatMap_cons, step, run]⟩

/-! ### The whole text -/

/-- The table of a job as a value. -/
def jobToml (j : Job) : Toml :=
  .table [("job_id", .string j.id.text), ("filename", .string j.filename),
    ("time_added", .float j.timeAdded)]

theorem jobOfToml?_jobToml (j : Job) :
    jobOfToml? (jobToml j) = some j
  := by
  simp [jobOfToml?, jobToml, Shape.record, lookup, Shape.string, Shape.float, JobId.ofText?_text]

/-- The value of a queue. -/
def toToml (q : StoredQueue) : Toml :=
  .table [("next_id", .integer q.nextId.toNat), ("jobs", .array (q.jobs.map jobToml))]

theorem ofToml?_toToml (q : StoredQueue) :
    ofToml? q.toToml = some q
  := by
  have nextId : Shape.integer 0 (UInt64.size - 1) (.integer q.nextId.toNat) =
      some (q.nextId.toNat : Int)
    := by
    have fits : q.nextId.toNat < UInt64.size := q.nextId.toNat_lt
    rw [Shape.integer, if_pos ⟨Int.natCast_nonneg _, by omega⟩]
  have jobs (js : List Job) : (js.map jobToml).mapM jobOfToml? = some js := by
    induction js with
    | nil => rfl
    | cons j js ih =>
      rw [List.map_cons, List.mapM_cons, jobOfToml?_jobToml, ih]
      rfl
  have fields : Shape.record ["next_id", "jobs"] q.toToml =
      some [some (.integer q.nextId.toNat), some (.array (q.jobs.map jobToml))] := rfl
  rw [ofToml?, fields]
  show (Shape.integer 0 (UInt64.size - 1) (.integer q.nextId.toNat)).bind (fun nextId =>
    ((q.jobs.map jobToml).mapM jobOfToml?).bind fun jobs =>
      some (⟨UInt64.ofNat nextId.toNat, jobs⟩ : StoredQueue)) = some q
  rw [nextId, jobs]
  show some (⟨UInt64.ofNat q.nextId.toNat, q.jobs⟩ : StoredQueue) = some q
  rw [UInt64.ofNat_toNat]

/-- The document of a queue is its value. -/
theorem toToml_tree {nextId : Nat} {jobs : List Job} (some : jobs ≠ []) :
    (Item.table false false (tree nextId jobs)).toToml =
      .table [("next_id", .integer nextId), ("jobs", .array (jobs.map jobToml))]
  := by
  have reversed : (Item.tablesToToml (jobs.reverse.map jobTree)).reverse = jobs.map jobToml := by
    rw [Item.tablesToToml_eq, List.map_map, List.map_reverse, List.reverse_reverse]
    rfl
  obtain ⟨first, jobs, rfl⟩ := List.exists_cons_of_ne_nil some
  rw [← reversed]
  rfl

theorem exists_toToml? {q : StoredQueue} (fits : q.nextId.toNat < 2 ^ 63) :
    ∃ text, q.toToml? = some text
  := by
  have fits : q.nextId.toNat < 0x8000000000000000 := fits
  unfold toToml?
  rw [if_pos fits]
  exact ⟨_, rfl⟩

theorem toToml?_eq_none {q : StoredQueue} (large : 2 ^ 63 ≤ q.nextId.toNat) :
    q.toToml? = none
  := by
  have large : 0x8000000000000000 ≤ q.nextId.toNat := large
  unfold toToml?
  rw [if_neg (Nat.not_lt.2 large)]

/-- The line of the next id and what follows it. -/
theorem toToml?_eq_some {q : StoredQueue} {text : String} (written : q.toToml? = some text) :
    q.nextId.toNat < 0x8000000000000000 ∧
      text.toList = "next_id".toList ++ ' ' :: '=' :: ' ' :: (Nat.toDigits 10 q.nextId.toNat ++
        '\n' :: if q.jobs.isEmpty then "jobs".toList ++ ' ' :: '=' :: ' ' :: (['[', ']'] ++ ['\n'])
          else q.jobs.flatMap fun j => (jobText j).toList)
  := by
  unfold toToml? at written
  split at written
  next fits =>
    obtain rfl := Option.some.inj written
    have digits : (toString q.nextId).toList = Nat.toDigits 10 q.nextId.toNat :=
      Nat.toList_repr
    refine ⟨fits, ?_⟩
    split <;> simp [digits, String.toList_join, List.flatMap_map]
  · contradiction

theorem length_jobTexts (jobs : List Job) :
    5 * jobs.length ≤ (jobs.flatMap fun j => (jobText j).toList).length
  := by
  induction jobs with
  | nil => exact Nat.le_refl 0
  | cons j jobs ih =>
    have lines := congrArg List.length (jobText_append j [])
    simp only [List.append_nil, List.length_cons, List.length_append] at lines
    rw [List.flatMap_cons, List.length_append, List.length_cons]
    omega

/-- The text of a queue is read to the document of that queue. -/
theorem lines?_toToml? {q : StoredQueue} (read : ∀ j ∈ q.jobs, ReadsBack j.timeAdded)
    {text : String} (written : q.toToml? = some text) :
    ∃ d, lines? (text.toList.length + 1) {} text.toList = some d ∧ d.finish? = some q.toToml
  := by
  obtain ⟨fits, characters⟩ := toToml?_eq_some written
  have size := congrArg List.length characters
  simp only [List.length_append, List.length_cons] at size
  -- the rounds that are left shall not be told by the text that the equations rewrite
  generalize text.toList.length = rounds at size ⊢
  rw [characters, lines?_key (by decide) rfl (spells_toDigits fits) rfl]
  cases empty : q.jobs.isEmpty with
  | true =>
    obtain ⟨fuel, rfl⟩ := Nat.exists_eq_add_of_le' (show 2 ≤ rounds by omega)
    rw [if_pos rfl, lines?_key (by decide) rfl spells_nil rfl]
    refine ⟨_, rfl, ?_⟩
    rw [toToml, List.isEmpty_iff.1 empty]
    rfl
  | false =>
    rw [empty, if_neg Bool.false_ne_true] at size
    have enough := length_jobTexts q.jobs
    have opened : Document.close? { opened := [("next_id", .value (.integer q.nextId.toNat))] } =
        some (tree q.nextId.toNat []) := rfl
    obtain ⟨d, closed, run⟩ := lines?_jobTexts q.jobs read opened
      (show 5 * q.jobs.length < rounds by omega)
    refine ⟨d, run, ?_⟩
    rw [Document.finish?, closed]
    exact congrArg some (toToml_tree (List.isEmpty_eq_false_iff.1 empty))

/-- A queue is read back from its text. -/
theorem parse?_toToml? {q : StoredQueue} (read : ∀ j ∈ q.jobs, ReadsBack j.timeAdded)
    {text : String} (written : q.toToml? = some text) : parse? text = some q
  := by
  have unmarked : text.toList.head? ≠ some '\ufeff' := by
    rw [(toToml?_eq_some written).2]
    exact fun same => absurd (Option.some.inj same) (by decide)
  obtain ⟨d, lines, finished⟩ := lines?_toToml? read written
  rw [parse?, parse?_of_lines? unmarked lines, finished]
  exact ofToml?_toToml q

end StoredQueue

namespace QueueFile

variable {f : QueueFile} {fs fs' : FileSystem} {text : String}

/-! ### Taking the steps -/

theorem runSteps_nil_eq_none :
    runSteps fs [] = (none, fs') ↔ fs = fs'
  := by
  simp [runSteps]

theorem runSteps_cons_eq_none {step : SaveStep} {steps : List SaveStep} :
    runSteps fs (step :: steps) = (none, fs') ↔
      ∃ between, step.run fs = .ok between ∧ runSteps between steps = (none, fs')
  := by
  rw [runSteps]
  split
  next e failed => simp [failed]
  next between done => simp [done]

theorem runSteps_append_eq_none {steps more : List SaveStep} :
    runSteps fs (steps ++ more) = (none, fs') ↔
      ∃ between, runSteps fs steps = (none, between) ∧ runSteps between more = (none, fs')
  := by
  induction steps generalizing fs with
  | nil => simp [runSteps]
  | cons step steps ih =>
    simp only [List.cons_append, runSteps_cons_eq_none, ih]
    constructor
    · rintro ⟨first, ran, between, others, rest⟩
      exact ⟨between, ⟨first, ran, others⟩, rest⟩
    · rintro ⟨between, ⟨first, ran, others⟩, rest⟩
      exact ⟨first, ran, between, others, rest⟩

theorem runSteps_makeDirectory {parent : Path} :
    runSteps fs (if parent.names.isEmpty then [] else [.makeDirectory parent]) = (none, fs') ↔
      fs.makeDirectory parent = .ok fs'
  := by
  split
  next empty =>
    rw [FileSystem.makeDirectory, List.isEmpty_iff.1 empty, FileSystem.makeDirectories,
      runSteps_nil_eq_none, Except.ok.injEq]
  · simp [runSteps_cons_eq_none, runSteps_nil_eq_none, SaveStep.run]

/-- All steps of saving are taken when the directory is there, the text is written beside the file
and renamed. -/
theorem runSteps_saveSteps :
    runSteps fs (f.saveSteps text) = (none, fs') ↔ ∃ parent made written,
      f.place.parent? = some parent ∧ fs.makeDirectory parent = .ok made ∧
      made.write f.temporary text.toUTF8.toList = .ok written ∧
      written.rename f.temporary f.place = .ok fs'
  := by
  have last {between : FileSystem} :
      runSteps between [.write f.temporary text.toUTF8.toList, .rename f.temporary f.place] =
          (none, fs') ↔
        ∃ written, between.write f.temporary text.toUTF8.toList = .ok written ∧
          written.rename f.temporary f.place = .ok fs'
    := by
    simp [runSteps_cons_eq_none, runSteps_nil_eq_none, SaveStep.run]
  rw [saveSteps, runSteps_append_eq_none]
  simp only [last]
  cases above : f.place.parent? with
  | none =>
    -- a path without a name is that of a directory, so nothing is written there
    constructor
    · rintro ⟨made, -, written, write, -⟩
      obtain ⟨place, -⟩ := FileSystem.write_eq_ok.1 write
      obtain ⟨parent, above', -⟩ := FileSystem.checkPlace_eq_ok.1 place
      rw [temporary, Path.parent?_withExtension, above] at above'
      contradiction
    · rintro ⟨_, _, _, above', -⟩
      contradiction
  | some parent =>
    simp only [runSteps_makeDirectory, Option.some.injEq, exists_and_left, exists_eq_left']

/-- What was saved is read. -/
theorem readText_place (saved : runSteps fs (f.saveSteps text) = (none, fs')) :
    fs'.readText f.place = .ok text
  := by
  obtain ⟨parent, made, written, -, -, write, rename⟩ := runSteps_saveSteps.1 saved
  obtain ⟨-, other, rfl⟩ := FileSystem.write_eq_ok.1 write
  obtain ⟨bytes, read, -, other', rfl⟩ := FileSystem.rename_eq_ok.1 rename
  rw [FileSystem.read_put (FileSystem.named_of_entry?_ne other)] at read
  cases read
  have named : f.place.names.getLast?.all (· = "..") = false := FileSystem.named_of_entry?_ne other'
  exact FileSystem.readText_of_read (FileSystem.read_put named _)

/-- The directory of the file can be made, and neither the file nor the temporary file is a
directory. -/
structure Usable (f : QueueFile) (fs : FileSystem) : Prop where
  parent : ∃ parent made, f.place.parent? = some parent ∧ fs.makeDirectory parent = .ok made
  place : fs.entry? f.place ≠ some .directory
  temporary : fs.entry? f.temporary ≠ some .directory

/-- Writing beside the file does not make the file a directory. -/
theorem entry?_place_put (place : fs.entry? f.place ≠ some .directory)
    (temporary : fs.entry? f.temporary ≠ some .directory) (bytes : List UInt8) :
    FileSystem.entry? (fs.put f.temporary (.file bytes)) f.place ≠ some .directory
  := by
  obtain same | apart := Path.withExtension_cases f.place "tmp"
  · rw [QueueFile.temporary, same] at temporary ⊢
    rw [FileSystem.entry?_put_self (FileSystem.named_of_entry?_ne temporary)]
    exact fun directory => Entry.noConfusion (Option.some.inj directory)
  · rw [QueueFile.temporary, FileSystem.entry?_put_of_not_encloses apart]
    exact place

/-- Once the directory is made, a text can be written beside the file. -/
theorem Usable.writes (usable : f.Usable fs) :
    ∃ parent made, f.place.parent? = some parent ∧ fs.makeDirectory parent = .ok made ∧
      made.entry? parent = some .directory ∧ made.entry? f.place ≠ some .directory ∧
      made.entry? f.temporary ≠ some .directory ∧
      ∀ bytes, made.write f.temporary bytes = .ok (made.put f.temporary (.file bytes))
  := by
  obtain ⟨⟨parent, made, above, make⟩, place, temporary⟩ := usable
  have above' : f.temporary.parent? = some parent := by
    rw [QueueFile.temporary, Path.parent?_withExtension, above]
  obtain ⟨directory, others⟩ := FileSystem.makeDirectory_eq_ok make
  rw [← others _ (Path.not_encloses_parent? above)] at place
  rw [← others _ (Path.not_encloses_parent? above')] at temporary
  refine ⟨parent, made, above, make, directory, place, temporary, fun bytes => ?_⟩
  exact FileSystem.write_eq_ok.2
    ⟨FileSystem.checkPlace_eq_ok.2 ⟨parent, above', directory⟩, temporary, rfl⟩

theorem Usable.saves (usable : f.Usable fs) (text : String) :
    ∃ fs', runSteps fs (f.saveSteps text) = (none, fs')
  := by
  obtain ⟨parent, made, above, make, directory, place, temporary, writes⟩ := usable.writes
  have ne : parent ≠ f.temporary := by
    rintro rfl
    exact temporary directory
  let bytes := text.toUTF8.toList
  let written := made.put f.temporary (.file bytes)
  have directory' : written.entry? parent = some .directory :=
    FileSystem.entry?_put_directory ne directory (.file bytes)
  have rename : written.rename f.temporary f.place = .ok _ :=
    FileSystem.rename_eq_ok.2 ⟨bytes,
      FileSystem.read_put (FileSystem.named_of_entry?_ne temporary) bytes,
      FileSystem.checkPlace_eq_ok.2 ⟨parent, above, directory'⟩,
      entry?_place_put place temporary bytes, rfl⟩
  exact ⟨_, runSteps_saveSteps.2 ⟨parent, made, written, above, make, writes bytes, rename⟩⟩

/-! ### Saving and loading -/

/-- Saving a queue that has a text ends as its steps do. -/
theorem save_of_toToml? {q : StoredQueue} (written : q.toToml? = some text) :
    (runSteps fs (f.saveSteps text) = (none, fs') → f.save q fs = (.ok (), fs')) ∧
      ∀ error, runSteps fs (f.saveSteps text) = (some error, fs') →
        f.save q fs = (.error (.io f.path error), fs')
  := by
  rw [save, written]
  dsimp only
  constructor
  · intro saved
    rw [saved]
  · intro error failed
    rw [failed]

theorem load_of_saved {q : StoredQueue} (read : ∀ j ∈ q.jobs, ReadsBack j.timeAdded)
    (written : q.toToml? = some text) (saved : runSteps fs (f.saveSteps text) = (none, fs')) :
    f.load fs' = .ok (some q)
  := by
  rw [load, readText_place saved]
  dsimp only
  rw [StoredQueue.parse?_toToml? read written]

/-- A queue that was saved is loaded as it was, its jobs in their order.  Saving succeeds where the
path allows it, and fails only with what the file system says.  A next id that no TOML integer can
be is refused before any file is touched, and the queue that was saved before is still loaded. -/
theorem load_save (f : QueueFile) (q : StoredQueue) (fs : FileSystem) :
    (q.nextId.toNat < 2 ^ 63 →
      ((∀ j ∈ q.jobs, ReadsBack j.timeAdded) → (f.save q fs).1 = .ok () →
        f.load (f.save q fs).2 = .ok (some q)) ∧
      (f.Usable fs → (f.save q fs).1 = .ok ()) ∧
      ∀ e, (f.save q fs).1 = .error e → ∃ error, e = .io f.path error) ∧
    (2 ^ 63 ≤ q.nextId.toNat →
      (f.save q fs).1 = .error .serialize ∧
      ∀ p, f.load fs = .ok (some p) → f.load (f.save q fs).2 = .ok (some p))
  := by
  constructor
  · intro fits
    obtain ⟨text, written⟩ := StoredQueue.exists_toToml? fits
    cases ran : runSteps fs (f.saveSteps text) with
    | mk outcome fs' =>
      cases outcome with
      | none =>
        rw [(save_of_toToml? written).1 ran]
        refine ⟨fun read _ => load_of_saved read written ran, fun _ => rfl, fun e failed => ?_⟩
        contradiction
      | some error =>
        rw [(save_of_toToml? written).2 error ran]
        refine ⟨fun _ saved => ?_, fun usable => ?_, fun e failed => ?_⟩
        · contradiction
        · obtain ⟨fs'', saved⟩ := usable.saves text
          rw [saved] at ran
          cases ran
        · cases failed
          exact ⟨error, rfl⟩
  · intro large
    rw [save, StoredQueue.toToml?_eq_none large]
    exact ⟨rfl, fun _ loaded => loaded⟩

theorem load_save_two_jobs :
    let f : QueueFile := ⟨"data/queue.toml"⟩
    let q : StoredQueue :=
      ⟨12, [⟨⟨10⟩, " a \"b\"\\\n'c'.gcode", 100.5⟩, ⟨⟨2⟩, "\t\r\x07", 101⟩]⟩
    (f.save q {}).1 = .ok () ∧ f.load (f.save q {}).2 = .ok (some q)
  := by
  intro f q
  have half : ReadsBack 100.5 := by
    have text : floatText 100.5 = "100.5" := by decide +kernel
    have value : Decimal.nearest 1005 (-1) = 100.5 := by decide +kernel
    rw [ReadsBack, text, ← value]
    rfl
  have whole : ReadsBack 101 := by
    have text : floatText 101 = "101.0" := by decide +kernel
    have value : Decimal.nearest 1010 (-1) = 101 := by decide +kernel
    rw [ReadsBack, text, ← value]
    rfl
  have read : ∀ j ∈ q.jobs, ReadsBack j.timeAdded := by
    simp only [q, List.forall_mem_cons, List.not_mem_nil, false_implies, implies_true, and_true]
    exact ⟨half, whole⟩
  have usable : f.Usable {} := ⟨⟨⟨false, ["data"]⟩, _, by decide, rfl⟩, by decide, by decide⟩
  obtain ⟨loads, saves, -⟩ := (load_save f q {}).1 (by decide)
  exact ⟨saves usable, loads read (saves usable)⟩

end QueueFile

end ControlRelay
