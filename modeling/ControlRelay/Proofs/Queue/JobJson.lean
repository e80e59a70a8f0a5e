import ControlRelay.Proofs.Queue.JobIdText
import ControlRelay.Proofs.Rpc.Reading
import ControlRelay.Queue.Basic
import ControlRelay.Relay.Requests

/-!
# Jobs in JSON

A job stands in a JSON value as an object that names its members, or as an array that has them in
their order.  Its id is read from the text in its place, and written as the text of the id, so all
that is true of the texts of ids is true of the ids of jobs in JSON.
-/

namespace ControlRelay

open Json (Shape)

theorem JobId.shape_eq_ok_iff {v : Json} {id : JobId} :
    JobId.shape v = .ok id ↔ ∃ text, v = .string text ∧ JobId.ofText? text = some id
  := by
  cases v with
  | string text =>
    simp only [JobId.shape, Shape.string, bind, Except.bind, Json.string.injEq, exists_eq_left']
    cases JobId.ofText? text <;> simp
  | _ => simp [JobId.shape, Shape.string, bind, Except.bind]

namespace Job

/-- The members of a job in the order of their declaration. -/
def members : List Shape.Member :=
  [.of "job_id" JobId.shape .refused, .of "filename" Shape.string .refused,
    .of "time_added" Shape.float .refused]

/-- A JSON value has these three at the places of the id, the name and the time of a job. -/
inductive Places : Json → Json → Json → Json → Prop where
  /-- By the names of the members. -/
  | named {entries : List (String × Json)} {id filename time : Json}
      (identified : Entries.get? "job_id" entries = some id)
      (called : Entries.get? "filename" entries = some filename)
      (dated : Entries.get? "time_added" entries = some time) :
      Places (.object entries) id filename time
  /-- By their order. -/
  | positional {id filename time : Json} : Places (.array [id, filename, time]) id filename time

variable {v id filename time : Json} {j : Job}

/-- What the three values are read as. -/
structure Reads (id filename time : Json) (j : Job) : Prop where
  id : JobId.shape id = .ok j.id
  filename : Shape.string filename = .ok j.filename
  time : Shape.float time = .ok j.timeAdded

theorem suits_members {entries : List (String × Json)} (ordered : Entries.Ordered entries)
    (identified : Entries.get? "job_id" entries = some id)
    (called : Entries.get? "filename" entries = some filename)
    (dated : Entries.get? "time_added" entries = some time) (reads : Reads id filename time j) :
    Shape.Suits members entries
  := by
  rintro ⟨name, value⟩ mem m found
  have held := (Entries.get?_eq_some_iff ordered).2 mem
  have named : m.name = name := by simpa using List.find?_some found
  have declared := List.mem_of_find?_eq_some found
  subst named
  simp only [members, List.mem_cons, List.not_mem_nil, or_false] at declared
  rcases declared with rfl | rfl | rfl
  · cases held.symm.trans identified
    exact congrArg (Except.map fun _ => ()) reads.id
  · cases held.symm.trans called
    exact congrArg (Except.map fun _ => ()) reads.filename
  · cases held.symm.trans dated
    exact congrArg (Except.map fun _ => ()) reads.time

theorem memberValues_eq_ok_iff {entries : List (String × Json)} {values : List (Option Json)} :
    Shape.memberValues members entries = .ok values ↔ ∃ id filename time,
      Entries.get? "job_id" entries = some id ∧ Entries.get? "filename" entries = some filename ∧
        Entries.get? "time_added" entries = some time ∧
        values = [some id, some filename, some time]
  := by
  simp only [Shape.memberValues, members, Shape.Member.of, List.mapM_cons, List.mapM_nil]
  cases Entries.get? "job_id" entries <;> cases Entries.get? "filename" entries <;>
    cases Entries.get? "time_added" entries <;>
    simp [bind, Except.bind, pure, Except.pure, eq_comm]

/-- The values of a record are read one after the other. -/
theorem shape_of_record (read : Shape.record "QueuedJob" members v =
      .ok [some id, some filename, some time]) :
    shape v = .ok j ↔ Reads id filename time j
  := by
  unfold members at read
  unfold shape
  dsimp only
  rw [read]
  constructor
  · intro made
    cases ids : JobId.shape id with
    | error e => simp [ids, bind, Except.bind] at made
    | ok id =>
      cases names : Shape.string filename with
      | error e => simp [ids, names, bind, Except.bind] at made
      | ok filename =>
        cases times : Shape.float time with
        | error e => simp [ids, names, times, bind, Except.bind] at made
        | ok time =>
          simp only [ids, names, times, bind, Except.bind, pure, Except.pure,
            Except.ok.injEq] at made
          subst made
          exact ⟨ids, names, times⟩
  · intro reads
    simp [reads.id, reads.filename, reads.time, bind, Except.bind, pure, Except.pure]

theorem exists_record (read : shape v = .ok j) :
    ∃ id filename time,
      Shape.record "QueuedJob" members v = .ok [some id, some filename, some time]
  := by
  unfold shape at read
  dsimp only at read
  cases found : Shape.record "QueuedJob" members v with
  | error e =>
    unfold members at found
    rw [found] at read
    cases read
  | ok values =>
    unfold members at found
    rw [found] at read
    simp only [bind, Except.bind] at read
    split at read
    next id filename time => exact ⟨id, filename, time, rfl⟩
    next => cases read

/-- A job is read from just the values that have its parts in their places. -/
theorem shape_eq_ok_iff (canonical : v.Canonical) :
    shape v = .ok j ↔ ∃ id filename time, Places v id filename time ∧ Reads id filename time j
  := by
  constructor
  · intro read
    obtain ⟨id, filename, time, found⟩ := exists_record read
    refine ⟨id, filename, time, ?_, (shape_of_record found).1 read⟩
    cases v with
    | object entries =>
      rw [Shape.record_object_eq_ok_iff, memberValues_eq_ok_iff] at found
      obtain ⟨-, id, filename, time, identified, called, dated, ⟨⟩⟩ := found
      exact .named identified called dated
    | array items =>
      obtain ⟨short, values⟩ := Shape.values_of_record_array found
      match items with
      | [] => cases values 0
      | [_] => cases values 1
      | [_, _] => cases values 2
      | [_, _, _] =>
        cases values 0
        cases values 1
        cases values 2
        exact .positional
      | _ :: _ :: _ :: _ :: _ =>
        simp only [members, List.length_cons, List.length_nil] at short
        omega
    | _ => cases found
  · rintro ⟨id, filename, time, places, reads⟩
    suffices found :
        Shape.record "QueuedJob" members v = .ok [some id, some filename, some time]
      from (shape_of_record found).2 reads
    cases places with
    | named identified called dated =>
      rw [Shape.record_object_eq_ok_iff, memberValues_eq_ok_iff]
      exact ⟨suits_members canonical.1 identified called dated reads,
        id, filename, time, identified, called, dated, rfl⟩
    | positional =>
      simp [Shape.record, Shape.recordItems, members, Shape.Member.of, reads.id, reads.filename,
        reads.time, Except.map]

/-- The parts of a job are written in their places. -/
theorem places_toJson (j : Job) :
    Places j.toJson (.string j.id.text) (.string j.filename) (.ofFloat j.timeAdded)
  := by
  let parts : List (String × Json) := [("job_id", j.id.toJson), ("filename", .string j.filename),
    ("time_added", .ofFloat j.timeAdded)]
  have distinct : (parts.map Prod.fst).Nodup :=
    show ["job_id", "filename", "time_added"].Nodup by decide
  have held {name : String} {value : Json} (mem : (name, value) ∈ parts) :
      (SortedMap.ofList parts).get? name = some value
    := by
    rw [SortedMap.get?_eq_some_iff, (SortedMap.perm_ofList distinct).mem_iff]
    exact mem
  apply Places.named
  · exact held (by simp [parts, JobId.toJson])
  · exact held (by simp [parts])
  · exact held (by simp [parts])

/-- There is one value in every place. -/
theorem Places.unique {id' filename' time' : Json} (places : Places v id filename time)
    (places' : Places v id' filename' time') :
    id = id' ∧ filename = filename' ∧ time = time'
  := by
  cases places with
  | named identified called dated =>
    cases places' with
    | named identified' called' dated' =>
      exact ⟨Option.some.inj (identified.symm.trans identified'),
        Option.some.inj (called.symm.trans called'), Option.some.inj (dated.symm.trans dated')⟩
  | positional =>
    cases places'
    exact ⟨rfl, rfl, rfl⟩

/-- A value that has a text, a name and a time in the places of a job is read as a job exactly when
the text denotes the number of its id. -/
theorem shape_of_places (canonical : v.Canonical) {text name : String} {seconds : Float}
    (places : Places v (.string text) (.string name) time)
    (dated : Shape.float time = .ok seconds) :
    shape v = .ok j ↔
      JobId.Denotes text j.id.value.toNat ∧ j.filename = name ∧ j.timeAdded = seconds
  := by
  rw [← JobId.ofText?_eq_some_iff, shape_eq_ok_iff canonical]
  constructor
  · rintro ⟨id, filename, time', places', reads⟩
    obtain ⟨rfl, rfl, rfl⟩ := places.unique places'
    obtain ⟨_, ⟨⟩, read⟩ := JobId.shape_eq_ok_iff.1 reads.id
    exact ⟨read, (Except.ok.inj reads.filename).symm,
      Except.ok.inj (reads.time.symm.trans dated)⟩
  · rintro ⟨read, rfl, rfl⟩
    exact ⟨_, _, _, places, JobId.shape_eq_ok_iff.2 ⟨text, rfl, read⟩, rfl, dated⟩

end Job

namespace JobId

theorem mem_text {id : JobId} {c : Char} (mem : c ∈ id.text.toList) :
    c ∈ "0123456789ABCDEF".toList
  := by
  have capital : ∀ d < 16, digitChar d ∈ "0123456789ABCDEF".toList := by decide
  rw [text, String.toList_ofList] at mem
  obtain ⟨d, small, rfl⟩ := mem_digitChars mem
  exact capital d small

theorem jobIdOf_eq_ok_iff {text : String} {id : JobId} :
    Action.jobIdOf text = .ok id ↔ ofText? text = some id
  := by
  unfold Action.jobIdOf
  cases ofText? text <;> simp

/-- An id is written as sixteen upper-case hexadecimal digits, which are read as that id, and ids
are in the order of their texts.  A text is read as an id exactly when it denotes the number of the
id, and refused when it denotes no number of 64 bits; so it is where a request names a job.  In JSON
an id is such a text, by itself or in its place in a job. -/
theorem text_laws :
    (∀ id : JobId, id.text.length = 16 ∧
      (∀ c ∈ id.text.toList, c ∈ "0123456789ABCDEF".toList) ∧ ofText? id.text = some id) ∧
    (∀ id id' : JobId, (id.text < id'.text ↔ id.value < id'.value) ∧
      (id.text = id'.text ↔ id.value = id'.value)) ∧
    (∀ (text : String) (id : JobId), ofText? text = some id ↔ Denotes text id.value.toNat) ∧
    (∀ text : String, ofText? text = none ↔ ∀ n, Denotes text n → 2 ^ 64 ≤ n) ∧
    (∀ (text : String) (id : JobId),
      Action.jobIdOf text = .ok id ↔ Denotes text id.value.toNat) ∧
    (∀ id : JobId, id.toJson = .string id.text) ∧
    (∀ (v : Json) (id : JobId),
      shape v = .ok id ↔ ∃ text, v = .string text ∧ Denotes text id.value.toNat) ∧
    (∀ j : Job,
      Job.Places j.toJson (.string j.id.text) (.string j.filename) (.ofFloat j.timeAdded)) ∧
    ∀ (v time : Json) (text name : String) (seconds : Float), v.Canonical →
      Job.Places v (.string text) (.string name) time → Shape.float time = .ok seconds →
      ∀ j : Job, Job.shape v = .ok j ↔
        Denotes text j.id.value.toNat ∧ j.filename = name ∧ j.timeAdded = seconds
  := by
  and_intros
  · intro id
    refine ⟨?_, fun c => mem_text, ofText?_text id⟩
    rw [text, String.length_ofList, length_digitChars]
  · intro id id'
    refine ⟨text_lt_iff, ?_⟩
    rw [text_inj, JobId.mk.injEq]
  · intro text id
    exact ofText?_eq_some_iff
  · intro text
    exact ofText?_eq_none_iff
  · intro text id
    rw [jobIdOf_eq_ok_iff, ofText?_eq_some_iff]
  · intro id
    rfl
  · intro v id
    simp only [shape_eq_ok_iff, ofText?_eq_some_iff]
  · exact Job.places_toJson
  · intro v time text name seconds canonical places dated j
    exact Job.shape_of_places canonical places dated

/-- A text with blanks and a sign is read in the place of the id of a job. -/
theorem text_laws_signed :
    let v : Json := .object [("filename", .string "a.gcode"), ("job_id", .string " +00ff\n"),
      ("time_added", .number (.integer 5))]
    v.Canonical ∧ Job.Places v (.string " +00ff\n") (.string "a.gcode") (.number (.integer 5)) ∧
    Shape.float (.number (.integer 5)) = .ok (Float.ofInt 5) ∧
    Job.shape v = .ok ⟨⟨255⟩, "a.gcode", Float.ofInt 5⟩
  := by
  intro v
  have canonical : v.Canonical := by
    simp only [v, Json.Canonical, Json.CanonicalMembers, and_true]
    decide
  have denotes : Denotes " +00ff\n" 255 :=
    ⟨[' '], ['+'], ['0', '0', 'f', 'f'], [0, 0, 15, 15], ['\n'], by decide,
      List.forall_mem_singleton.2 rfl, List.forall_mem_singleton.2 rfl, .inr rfl, by decide,
      by simp [IsDigit], by decide⟩
  have places : Job.Places v (.string " +00ff\n") (.string "a.gcode") (.number (.integer 5)) :=
    .named rfl rfl rfl
  obtain ⟨-, -, -, -, -, -, -, -, jobs⟩ := text_laws
  exact ⟨canonical, places, rfl,
    (jobs v _ _ _ _ canonical places rfl ⟨⟨255⟩, "a.gcode", Float.ofInt 5⟩).2 ⟨denotes, rfl, rfl⟩⟩

end JobId

end ControlRelay
