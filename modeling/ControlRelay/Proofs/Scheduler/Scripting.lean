import ControlRelay.Proofs.Scheduler.Gating
import ControlRelay.Proofs.Scheduler.Origins
import ControlRelay.Relay.Requests
import Mathlib.Data.List.Basic

/-!
# What is run to start a job

A job is started by a script of which its name is a part, between quotation marks.  The name is the
one a client has given, without the blanks around it, and nothing else is asked of it.  So the script
is the one line it is meant to be exactly if there is neither a quotation mark nor a line break in
the name, and otherwise the client has written a part of the script.
-/

namespace ControlRelay

/-! ### Scripts and names -/

/-- Where a line of a script ends. -/
def isLineBreak (c : Char) : Bool := c = '\n' || c = '\r'

/-- The lines of a script, each a command. -/
def commandLines (script : String) : List String :=
  (script.toList.splitOnP isLineBreak).map String.ofList

/-- A script that starts the job of this name and does nothing else: it is one line, on which the
name stands between quotation marks. -/
structure StartsOnly (script name : String) : Prop where
  script_eq : script = "SDCARD_PRINT_FILE FILENAME=\"" ++ name ++ "\""
  single : commandLines script = [script]
  unquoted : '"' ∉ name.toList

/-- A name in which there is neither a quotation mark nor a line break. -/
def Fits (name : String) : Prop := ∀ c ∈ name.toList, c ≠ '"' ∧ isLineBreak c = false

theorem commandLines_eq_singleton_iff {script : String} :
    commandLines script = [script] ↔ ∀ c ∈ script.toList, isLineBreak c = false
  := by
  constructor
  · intro single
    by_contra broken
    push Not at broken
    obtain ⟨c, mem, ends⟩ := broken
    obtain ⟨first, found⟩ :=
      Option.isSome_iff_exists.1 (List.find?_isSome.2 ⟨c, mem, Bool.eq_true_of_not_eq_false ends⟩)
    obtain ⟨ends, line, rest, same, unbroken⟩ := List.find?_eq_some_iff_append.1 found
    rw [commandLines, same, List.splitOnP_append_cons_of_forall_mem (by simpa using unbroken) _ ends,
      List.map_cons] at single
    exact List.splitOnP_ne_nil isLineBreak rest (List.map_eq_nil_iff.1 (List.cons.inj single).2)
  · intro unbroken
    rw [commandLines, List.splitOnP_eq_singleton unbroken, List.map_singleton, String.ofList_toList]

/-- A text that neither begins nor ends with a blank is left as it is. -/
theorem Text.trimChars_of_ends {first last : Char} {between : List Char}
    (before : isBlank first = false) (behind : isBlank last = false) :
    trimChars (first :: between ++ [last]) = first :: between ++ [last]
  := by
  simp [trimChars, before, behind]

namespace LoadStage

/-- A text between two others on one line is broken where it is broken itself. -/
theorem unbroken_append_iff {before text behind : String}
    (first : ∀ c ∈ before.toList, isLineBreak c = false)
    (last : ∀ c ∈ behind.toList, isLineBreak c = false) :
    (∀ c ∈ (before ++ text ++ behind).toList, isLineBreak c = false) ↔
      ∀ c ∈ text.toList, isLineBreak c = false
  := by
  simp only [String.toList_append, List.mem_append]
  constructor
  · intro unbroken c mem
    exact unbroken c (.inl (.inr mem))
  · rintro unbroken c ((mem | mem) | mem)
    · exact first c mem
    · exact unbroken c mem
    · exact last c mem

theorem startScript_eq (job : Job) :
    startScript job = "SDCARD_PRINT_FILE FILENAME=\"" ++ job.filename ++ "\""
  := rfl

theorem eq_of_append_eq {before text text' behind : String}
    (same : before ++ text ++ behind = before ++ text' ++ behind) :
    text = text'
  := by
  rw [String.append_left_inj, String.append_right_inj] at same
  exact same

/-- The script of a job is broken where the job's name is. -/
theorem unbroken_startScript_iff {job : Job} :
    (∀ c ∈ (startScript job).toList, isLineBreak c = false) ↔
      ∀ c ∈ job.filename.toList, isLineBreak c = false
  := by
  have command : ∀ c ∈ "SDCARD_PRINT_FILE FILENAME=\"".toList, isLineBreak c = false := by
    simp [isLineBreak]
  have quote : ∀ c ∈ "\"".toList, isLineBreak c = false := by simp [isLineBreak]
  exact unbroken_append_iff command quote

/-- The script of a job starts one job only exactly if the job's name fits, and then it starts this
job. -/
theorem startsOnly_startScript_iff {job : Job} {name : String} :
    StartsOnly (startScript job) name ↔ name = job.filename ∧ Fits job.filename
  := by
  constructor
  · rintro ⟨same, single, unquoted⟩
    obtain rfl : job.filename = name := eq_of_append_eq ((startScript_eq job).symm.trans same)
    have unbroken := unbroken_startScript_iff.1 (commandLines_eq_singleton_iff.1 single)
    use rfl
    intro c mem
    use fun quote => unquoted (quote ▸ mem), unbroken c mem
  · rintro ⟨rfl, fits⟩
    have unbroken := unbroken_startScript_iff.2 fun c mem => (fits c mem).2
    use startScript_eq job, commandLines_eq_singleton_iff.2 unbroken
    exact fun mem => (fits _ mem).1 rfl

/-! ### Names with commands in them -/

/-- A name with a command on a line of its own. -/
def smuggling (command : String) : String := "x\"" ++ "\n" ++ command ++ "\n" ++ ";"

/-- A text that stands alone on a line is a command of the script. -/
theorem mem_commandLines {before command behind : String}
    (first : ∀ c ∈ before.toList, isLineBreak c = false)
    (line : ∀ c ∈ command.toList, isLineBreak c = false) :
    command ∈ commandLines (before ++ "\n" ++ command ++ "\n" ++ behind)
  := by
  have parts : (before ++ "\n" ++ command ++ "\n" ++ behind).toList =
      before.toList ++ '\n' :: (command.toList ++ '\n' :: behind.toList)
    := by
    simp [String.toList_append]
  rw [commandLines, parts, List.splitOnP_append_cons_of_forall_mem first _ rfl,
    List.splitOnP_append_cons_of_forall_mem line _ rfl]
  simp

/-- A job of such a name has the command run. -/
theorem mem_commandLines_smuggling {job : Job} {command : String}
    (line : ∀ c ∈ command.toList, isLineBreak c = false) (named : job.filename = smuggling command) :
    command ∈ commandLines (startScript job)
  := by
  have apart {before behind : String} : before ++ smuggling command ++ behind =
      before ++ "x\"" ++ "\n" ++ command ++ "\n" ++ (";" ++ behind)
    := by
    simp only [smuggling, String.append_assoc]
  have first : ∀ c ∈ ("SDCARD_PRINT_FILE FILENAME=\"" ++ "x\"").toList, isLineBreak c = false := by
    simp [isLineBreak]
  rw [startScript_eq, named, apart]
  exact mem_commandLines first line

/-- No blanks are around such a name. -/
theorem trim_smuggling (command : String) :
    Text.trim (smuggling command) = smuggling command
  := by
  have parts : (smuggling command).toList =
      'x' :: ('"' :: '\n' :: command.toList ++ ['\n']) ++ [';']
    := by
    simp [smuggling, String.toList_append]
  rw [Text.trim, parts, Text.trimChars_of_ends rfl rfl, ← parts, String.ofList_toList]

theorem smuggling_ne_empty (command : String) :
    smuggling command ≠ ""
  := by
  simp [smuggling]

/-! ### The calls of a chain -/

/-- A chain calls for the state of the printer, the transition script, or the start of its job. -/
theorem call?_eq_some {settings : Config.JobSettings} {stage : LoadStage} {call : Control.Call}
    (calls : stage.call? settings = some call) :
    stage = .asking ∧ call = readinessCall ∨
      stage = .scripting ∧ call = scriptCall (Text.trim settings.transitionScript) ∨
        ∃ job, stage = .starting job ∧ call = startCall job
  := by
  cases stage with
  | asking => exact .inl ⟨rfl, (Option.some.inj calls).symm⟩
  | scripting =>
    dsimp only [call?, action] at calls
    split at calls
    next call' same =>
      split at same
      next => cases same
      next =>
        obtain rfl := LoadAction.call.inj same
        exact .inr (.inl ⟨rfl, (Option.some.inj calls).symm⟩)
    next => cases calls
  | starting job => exact .inr (.inr ⟨job, rfl, (Option.some.inj calls).symm⟩)
  | _ => cases calls

end LoadStage

/-! ### Names that clients give -/

theorem Scheduler.mem_properNames_iff {filenames : List String} {name : String} :
    name ∈ properNames filenames ↔ name ≠ "" ∧ ∃ filename ∈ filenames, Text.trim filename = name
  := by
  unfold properNames
  rw [List.mem_filter, List.mem_map]
  simp [and_comm]

theorem Scheduler.properNames_ne_nil_iff {filenames : List String} :
    properNames filenames ≠ [] ↔ ∃ filename ∈ filenames, Text.trim filename ≠ ""
  := by
  constructor
  · intro proper
    obtain ⟨name, mem⟩ := List.exists_mem_of_ne_nil _ proper
    obtain ⟨filled, filename, given, rfl⟩ := mem_properNames_iff.1 mem
    exact ⟨filename, given, filled⟩
  · rintro ⟨filename, given, filled⟩
    exact List.ne_nil_of_mem (mem_properNames_iff.2 ⟨filled, filename, given, rfl⟩)

/-- A request with names is taken whatever they are, as long as one of them is not blank. -/
theorem Scheduler.enqueue_ok_iff {s : Scheduler} {filenames : List String} {reset : Bool}
    {now : Float} :
    (∃ step, s.enqueue filenames reset now = .ok step) ↔
      ∃ filename ∈ filenames, Text.trim filename ≠ ""
  := by
  rw [← properNames_ne_nil_iff]
  unfold enqueue
  split
  next none => exact iff_of_false nofun (fun ne => ne none)
  next proper => exact iff_of_true ⟨_, rfl⟩ proper

theorem Scheduler.controlReady_tryLoad (s : Scheduler) :
    s.tryLoad.1.controlReady = s.controlReady
  := by
  unfold tryLoad
  split <;> rfl

/-- The jobs of a request with names are put into the queue, and that is all. -/
theorem Scheduler.perform_enqueue {s : Scheduler} {filenames : List String}
    (proper : properNames filenames ≠ []) (reset : Bool) (now : Float) :
    let after := (s.perform (.enqueue filenames reset now)).1
    after.queue = (s.queue.enqueue (properNames filenames) reset now).2 ∧
      after.controlReady = s.controlReady
  := by
  dsimp only [perform, enqueue]
  split
  next none => contradiction
  next => exact ⟨queue_thenTryLoad _ _, controlReady_tryLoad _⟩

theorem Action.dispatchTo_enqueue (id : ConnectionId) (kind : TransportKind) {params : Json}
    {filenames : List String} (read : stringsParam params "filenames" = .ok filenames) :
    dispatchTo id kind "job_queue.enqueue" params =
      scheduleRequest fun s now =>
        s.enqueue filenames (((params.get? "reset").bind Json.bool?).getD false) now
  := by
  simp only [dispatchTo, read, withParam]

namespace Scheduler.System

/-! ### Every job that waits can be started -/

/-- A chain at this stage is about to take the job. -/
structure Carried (sys : System) (index : Nat) (stage : LoadStage) (job : Job) (rest : JobQueue) :
    Prop where
  current : ∃ epoch, sys.chains[index]? = some ⟨epoch, stage⟩ ∧ sys.scheduler.isCurrent epoch = true
  waits : sys.scheduler.queue.popFront? = some (job, rest)
  ready : sys.scheduler.controlReady = true

section

variable {sys : System} {index : Nat} {job : Job} {rest : JobQueue}

theorem Carried.asked (carried : Carried sys index .asking job rest) :
    Carried (sys.next eager (.resumed index standsBy)).1 index (.checking "standby") job rest
  := by
  obtain ⟨⟨epoch, launched, current⟩, waits, ready⟩ := carried
  have next : (sys.next eager (.resumed index standsBy)).1 =
      sys.moved index ⟨epoch, .checking "standby"⟩
    := by
    simp only [System.next, launched, resume, LoadStage.action]
    rfl
  rw [next]
  exact ⟨⟨epoch, getElem?_moved launched _, current⟩, waits, ready⟩

theorem Carried.checked (carried : Carried sys index (.checking "standby") job rest) :
    Carried (sys.next eager (.resumed index standsBy)).1 index .scripting job rest
  := by
  obtain ⟨⟨epoch, launched, current⟩, waits, ready⟩ := carried
  have step : sys.scheduler.checkPrinter eager epoch "standby" =
      (({ sys.scheduler with printState := some "standby" }, []), .scripting)
    := by
    have delay : eager.delayNanos? = some 0 := by decide
    simp [checkPrinter, current, delay, isIdle, idlePrintStates]
  have next : (sys.next eager (.resumed index standsBy)).1 =
      (sys.moved index ⟨epoch, .scripting⟩).stepped
        ({ sys.scheduler with printState := some "standby" }, [])
    := by
    simp only [System.next, launched, resume, LoadStage.action, chainStep, step]
  rw [next]
  exact ⟨⟨epoch, getElem?_stepped (getElem?_moved launched _) _, current⟩, waits, ready⟩

theorem Carried.passed (carried : Carried sys index .scripting job rest) :
    Carried (sys.next eager (.resumed index standsBy)).1 index .scripted job rest
  := by
  obtain ⟨⟨epoch, launched, current⟩, waits, ready⟩ := carried
  have acts : LoadStage.scripting.action eager = .proceed .scripted := rfl
  have next : (sys.next eager (.resumed index standsBy)).1 = sys.moved index ⟨epoch, .scripted⟩ := by
    simp only [System.next, launched, resume, acts]
  rw [next]
  exact ⟨⟨epoch, getElem?_moved launched _, current⟩, waits, ready⟩

theorem Carried.scripted (carried : Carried sys index .scripted job rest) :
    Carried (sys.next eager (.resumed index standsBy)).1 index .taking job rest
  := by
  obtain ⟨⟨epoch, launched, current⟩, waits, ready⟩ := carried
  have next : (sys.next eager (.resumed index standsBy)).1 =
      (sys.moved index ⟨epoch, .taking⟩).stepped (sys.scheduler, [])
    := by
    simp only [System.next, launched, resume, LoadStage.action, chainStep, current, if_true]
  rw [next]
  exact ⟨⟨epoch, getElem?_stepped (getElem?_moved launched _) _, current⟩, waits, ready⟩

/-- The chain takes the job, and leaves the rest of the queue. -/
theorem Carried.taken (carried : Carried sys index .taking job rest) :
    let after := (sys.next eager (.resumed index standsBy)).1
    after.stage? index = some (.starting job) ∧ after.scheduler.queue = rest ∧
      after.scheduler.controlReady = true
  := by
  obtain ⟨⟨epoch, launched, current⟩, waits, ready⟩ := carried
  intro after
  obtain ⟨step, taken, queue, control⟩ : ∃ step, sys.scheduler.takeJob epoch = (step, .starting job) ∧
      step.1.queue = rest ∧ step.1.controlReady = true
    := by
    simp only [takeJob, current, waits]
    exact ⟨_, rfl, rfl, ready⟩
  have next : after = (sys.moved index ⟨epoch, .starting job⟩).stepped step := by
    simp only [after, System.next, launched, resume, LoadStage.action, chainStep, taken]
  rw [next, stage?, getElem?_stepped (getElem?_moved launched _)]
  exact ⟨rfl, queue, control⟩

/-- If loading is asked for while it is paused and jobs wait, a chain is launched. -/
theorem exists_start {s : Scheduler} (paused : s.state = .paused) (ready : s.controlReady = true)
    (filled : s.queue.isEmpty = false) :
    ∃ step epoch, s.start = .ok step ∧ step.2.filterMap Action.launched? = [epoch] ∧
      step.1.isCurrent epoch = true ∧ step.1.queue = s.queue ∧ step.1.controlReady = true
  := by
  obtain ⟨idle, forgets, unused, queue, control, state⟩ : ∃ idle : Scheduler,
      (if s.active.isSome = true then { s.untracked with active := none } else s) = idle ∧
        idle.active = none ∧ idle.queue = s.queue ∧ idle.controlReady = true ∧ idle.state = .paused
    := by
    refine ⟨_, rfl, ?_⟩
    cases active : s.active with
    | none => exact ⟨active, rfl, ready, paused⟩
    | some job => exact ⟨rfl, rfl, ready, paused⟩
  have started : s.start = .ok (thenTryLoad { idle with state := .ready }
      [announcingState { idle with state := .ready }])
    := by
    unfold start
    rw [if_neg (by simp [paused]), forgets, if_pos state]
  have launches : tryLoad { idle with state := .ready } =
      ({ idle with state := .loading, epoch := idle.epoch + 1 },
        [announcingState { idle with state := .loading, epoch := idle.epoch + 1 },
          .launch (idle.epoch + 1)])
    := by
    simp [tryLoad, control, unused, queue, filled]
  refine ⟨_, idle.epoch + 1, started, ?_⟩
  rw [thenTryLoad, launches]
  exact ⟨rfl, by simp [isCurrent], queue, control⟩

/-- When loading is paused and asked for again, a chain is launched for the first job that waits. -/
theorem carried_of_waits (ready : sys.scheduler.controlReady = true)
    (waits : sys.scheduler.queue.popFront? = some (job, rest)) :
    Carried (sys.run eager [.performed .pause, .performed .start]) sys.chains.length .asking job rest
  := by
  have filled : sys.scheduler.queue.isEmpty = false := by
    rw [JobQueue.isEmpty, (JobQueue.jobs_of_popFront? waits).1]
    rfl
  obtain ⟨step, epoch, started, launched, current, queue, control⟩ :=
    exists_start (s := sys.scheduler.pause.1) rfl ready filled
  have run : sys.run eager [.performed .pause, .performed .start] =
      (sys.stepped sys.scheduler.pause).stepped step
    := by
    simp only [System.run, List.foldl_cons, List.foldl_nil, System.next, perform]
    rw [show (sys.stepped sys.scheduler.pause).scheduler = sys.scheduler.pause.1 from rfl, started]
    rfl
  rw [run]
  refine ⟨⟨epoch, ?_, current⟩, ?_, control⟩
  · simp [stepped, launched, pause, announcingState, announcing, Action.launched?]
  · rw [← waits]
    exact congrArg JobQueue.popFront? queue

/-- The events by which loading is paused and asked for again, and a chain takes a job. -/
def startsNext (index : Nat) : List Event := .performed .pause :: .performed .start :: goesOn index

/-- The first job that waits is started, and the others wait. -/
theorem starting_startsNext (ready : sys.scheduler.controlReady = true)
    (waits : sys.scheduler.queue.popFront? = some (job, rest)) :
    let after := sys.run eager (startsNext sys.chains.length)
    after.stage? sys.chains.length = some (.starting job) ∧ after.scheduler.queue = rest ∧
      after.scheduler.controlReady = true
  := (carried_of_waits ready waits).asked.checked.passed.scripted.taken

/-- Whenever the control process is ready, every job that waits may yet be started. -/
theorem exists_starting (ready : sys.scheduler.controlReady = true)
    (waits : job ∈ sys.scheduler.queue.jobs) :
    ∃ events index, (sys.run eager events).stage? index = some (.starting job)
  := by
  induction same : sys.scheduler.queue.jobs generalizing sys with
  | nil =>
    rw [same] at waits
    cases waits
  | cons first jobs ih =>
    have popped : sys.scheduler.queue.popFront? = some (first, ⟨jobs, sys.scheduler.queue.nextId⟩) := by
      rw [JobQueue.popFront?, same]
    obtain ⟨starting, queue, control⟩ := starting_startsNext ready popped
    rw [same] at waits
    cases waits with
    | head => exact ⟨_, _, starting⟩
    | tail _ waits =>
      have left : (sys.run eager (startsNext sys.chains.length)).scheduler.queue.jobs = jobs := by
        rw [queue]
      obtain ⟨events, index, starting⟩ := ih control (left ▸ waits) left
      use startsNext sys.chains.length ++ events, index
      rw [System.run, List.foldl_append]
      exact starting

end

/-! ### What clients may have run -/

namespace Session

/-- However a job that came with a request for these files comes to be started, the script starts a
job of one of these names, without the blanks around it, and does nothing else. -/
def StartedSafely (filenames : List String) : Prop :=
  ∀ store earlier session job index, CameWith filenames store (earlier ++ [session]) job →
    (session.ends (storeAfter store earlier)).stage? index = some (.starting job) →
      ∃ filename ∈ filenames, StartsOnly (LoadStage.startScript job) (Text.trim filename)

/-- Each of the names that are given, if it is not blank, is that of a job that may be started. -/
theorem exists_started {filenames : List String} {name : String}
    (proper : name ∈ properNames filenames) :
    ∃ store earlier session job index, CameWith filenames store (earlier ++ [session]) job ∧
      (session.ends (storeAfter store earlier)).stage? index = some (.starting job) ∧
        job.filename = name
  := by
  let asks : Event := .performed (.enqueue filenames false 0.0)
  let before := after eager {} [becomesReady]
  obtain ⟨job, came, named⟩ : ∃ job ∈ before.arrives asks, job.filename = name :=
    JobQueue.exists_newJobs_of_mem proper
  obtain ⟨waits, ready⟩ : job ∈ (before.next eager asks).1.scheduler.queue.jobs ∧
      (before.next eager asks).1.scheduler.controlReady = true
    := by
    obtain ⟨queue, control⟩ := perform_enqueue (List.ne_nil_of_mem proper) false 0.0
    use (congrArg JobQueue.jobs queue).symm ▸ came, control
  obtain ⟨events, index, starting⟩ := exists_starting ready waits
  refine ⟨.memory none true true, [], ⟨eager, becomesReady :: asks :: events⟩, job, index, ?_, ?_,
    named⟩
  · exact ⟨[], _, [], [becomesReady], false, 0.0, events, rfl, rfl, came⟩
  · exact starting

theorem startedSafely_iff {filenames : List String} :
    StartedSafely filenames ↔ ∀ filename ∈ filenames, Fits (Text.trim filename)
  := by
  constructor
  · intro safely filename given
    by_cases blank : Text.trim filename = ""
    · rw [blank]
      nofun
    · have proper := mem_properNames_iff.2 ⟨blank, filename, given, rfl⟩
      obtain ⟨store, earlier, session, job, index, came, starting, named⟩ := exists_started proper
      obtain ⟨filename, -, only⟩ := safely store earlier session job index came starting
      rw [← named]
      exact (LoadStage.startsOnly_startScript_iff.1 only).2
  · intro fits store earlier session job index came starting
    obtain ⟨-, filename, given, named⟩ := mem_properNames_iff.1 came.filename_mem
    use filename, given
    rw [LoadStage.startsOnly_startScript_iff, ← named]
    exact ⟨rfl, fits filename given⟩

/-- The jobs of a request are all started by a script that starts a job of one of the names given and
does nothing else exactly if there is neither a quotation mark nor a line break in any of the names.
Any client may make the request, and it is taken whatever the names are, as long as one of them is
not blank.  The only calls that a load chain makes are the query for the state of the printer, the
operator's transition script and the start of a job; this job came with a request of a client, in
this session or in one before, and has one of the names given in it, without the blanks around it,
unless it was stored before the first session.  And for every command there is a name by which it is
run. -/
theorem scripts_of_requests (filenames : List String) :
    (StartedSafely filenames ↔ ∀ filename ∈ filenames, Fits (Text.trim filename)) ∧
      (∀ id kind params, Action.stringsParam params "filenames" = .ok filenames →
        ∃ reset, Action.dispatchTo id kind "job_queue.enqueue" params =
          Action.scheduleRequest fun s now => s.enqueue filenames reset now) ∧
      (∀ (s : Scheduler) reset now,
        (∃ step, s.enqueue filenames reset now = .ok step) ↔
          ∃ filename ∈ filenames, Text.trim filename ≠ "") ∧
      (∀ store earlier session, Restores store earlier →
        ∀ index stage call, (session.ends (storeAfter store earlier)).stage? index = some stage →
          stage.call? session.settings = some call →
          stage = .asking ∧ call = LoadStage.readinessCall ∨
          stage = .scripting ∧
            call = LoadStage.scriptCall (Text.trim session.settings.transitionScript) ∨
          ∃ job, stage = .starting job ∧ call = LoadStage.startCall job ∧
            ((∃ names, CameWith names store (earlier ++ [session]) job ∧ job.filename ≠ "" ∧
                ∃ filename ∈ names, Text.trim filename = job.filename) ∨
              job ∈ store.restore.jobs)) ∧
      ∀ command : String, (∀ c ∈ command.toList, isLineBreak c = false) →
        ∃ filename, Text.trim filename = filename ∧ filename ≠ "" ∧
          ∀ job, job.filename = filename → command ∈ commandLines (LoadStage.startScript job)
  := by
  use startedSafely_iff
  and_intros
  · intro id kind params read
    exact ⟨_, Action.dispatchTo_enqueue id kind read⟩
  · exact fun s reset now => enqueue_ok_iff
  · intro store earlier session restores index stage call found calls
    obtain query | script | ⟨job, rfl, start⟩ := LoadStage.call?_eq_some calls
    · exact .inl query
    · exact .inr (.inl script)
    · refine .inr (.inr ⟨job, rfl, start, ?_⟩)
      obtain ⟨chain, launched, stage⟩ := Option.map_eq_some_iff.1 found
      have handles : (session.ends (storeAfter store earlier)).Handles job :=
        ⟨chain, List.mem_of_getElem? launched, by rw [stage]; rfl⟩
      apply (came_or_stored restores (.inr handles)).imp_left
      rintro ⟨names, came⟩
      exact ⟨names, came, mem_properNames_iff.1 came.filename_mem⟩
  · intro command line
    use LoadStage.smuggling command, LoadStage.trim_smuggling command
    use LoadStage.smuggling_ne_empty command
    exact fun job named => LoadStage.mem_commandLines_smuggling line named

/-- A name behind which comes an emergency stop. -/
def stopping : String := "part.gcode\"\nM112 ; "

/-- The job of this name. -/
def stoppingJob : Job := ⟨⟨0⟩, "part.gcode\"\nM112 ;", 0.0⟩

/-- A client names the job, and nothing can be loaded yet. -/
def asksBefore : Session where
  settings := eager
  events := [.performed (.enqueue [stopping] false 0.0)]

/-- The control process is ready, and the job is started. -/
def startsAfter : Session where
  settings := eager
  events := becomesReady :: goesOn 0

/-- A job that was kept over a restart came with the request made before. -/
theorem scripts_of_requests_startsAfter :
    let store := QueueStore.memory none true true
    (startsAfter.ends (storeAfter store [asksBefore])).stage? 0 = some (.starting stoppingJob) ∧
      ∃ names, CameWith names store ([asksBefore] ++ [startsAfter]) stoppingJob ∧
        ∃ filename ∈ names, Text.trim filename = stoppingJob.filename
  := by
  intro store
  have saved : asksBefore.saves store = [⟨1, [stoppingJob]⟩] := by decide +kernel
  have kept : storeAfter store [asksBefore] = .memory (some ⟨1, [stoppingJob]⟩) true true := by
    rw [storeAfter, List.foldl_cons, saved]
    rfl
  have restored : QueueStore.restore (.memory (some ⟨1, [stoppingJob]⟩) true true) =
      ⟨[stoppingJob], 1⟩
    := by decide +kernel
  have found : (startsAfter.ends (storeAfter store [asksBefore])).stage? 0 =
      some (.starting stoppingJob)
    := by
    rw [kept, ends, restored]
    rfl
  use found
  obtain ⟨-, -, -, origin, -⟩ := scripts_of_requests [stopping]
  have restores : Restores store [asksBefore] := restores_memory none true true _
  obtain ⟨⟨⟩, -⟩ | ⟨⟨⟩, -⟩ | ⟨job, same, -, came | stored⟩ :=
    origin store [asksBefore] startsAfter restores 0 _ _ found rfl
  · obtain rfl := LoadStage.starting.inj same
    obtain ⟨names, came, -, named⟩ := came
    exact ⟨names, came, named⟩
  · cases stored

/-- The name is taken, and its job is started by a script of two commands. -/
theorem not_startedSafely_stopping :
    ¬StartedSafely [stopping] ∧
      (after eager {} (becomesReady :: .performed (.enqueue [stopping] false 0.0) ::
          goesOn 0)).stage? 0 = some (.starting stoppingJob) ∧
        commandLines (LoadStage.startScript stoppingJob) =
          ["SDCARD_PRINT_FILE FILENAME=\"part.gcode\"", "M112 ;\""]
  := by
  and_intros
  · rw [startedSafely_iff]
    intro fits
    have quoted : '"' ∈ (Text.trim stopping).toList := by decide +kernel
    exact (fits stopping List.mem_cons_self _ quoted).1 rfl
  · rfl
  · decide +kernel

end Session

end Scheduler.System

end ControlRelay
