import ControlRelay.Proofs.Scheduler.Pausing
import ControlRelay.Proofs.Scheduler.Resting

/-!
# Starts that are acknowledged late

The acknowledgement of a start call and the states that the printer reports reach the scheduler
in different ways, so states that were reported before the acknowledgement can be handled after
it.  What comes of the job then depends on when they are handled, unless all the states in which
it may be taken to have ended decide alike.
-/

namespace ControlRelay.Scheduler

/-- The scheduler after the printer has reported these states. -/
def reported (s : Scheduler) (printStates : List String) : Scheduler :=
  printStates.foldl (fun s printState => (s.printStateChanged printState).1) s

/-- The scheduler with other observations of the printer. -/
def noting (s : Scheduler) (acknowledgedIn : Option (Option String)) (seenPrinting : Bool)
    (printState : Option String) : Scheduler :=
  { s with acknowledgedIn, seenPrinting, printState }

/-- The last known state of the printer after these were reported. -/
def lastKnown (s : Scheduler) (printStates : List String) : Option String :=
  printStates.getLast?.or s.printState

/-- Whether the printer was seen printing when these were reported. -/
def seenBy (s : Scheduler) (printStates : List String) : Bool :=
  s.seenPrinting || printStates.contains "printing"

/-- The state in which the active job has ended when these were reported before its start was
acknowledged. -/
def endedIn? (s : Scheduler) (printStates : List String) : Option String :=
  (s.lastKnown printStates).filter fun printState => s.seenBy printStates && isIdle printState

/-- The state in which the active job ends while these are reported, if its start was acknowledged
in `startedIn`, and printing was `seen` or not. -/
def endState? (startedIn : Option String) : Bool → List String → Option String
  | _, [] => none
  | seen, printState :: rest =>
    if isIdle printState && (seen || startedIn != some printState) then some printState
    else endState? startedIn (seen || printState == "printing") rest

/-- The state in which the active job ends if its start is acknowledged between these reports. -/
def splitEnd? (s : Scheduler) (before after : List String) : Option String :=
  (s.endedIn? before).or (endState? (s.lastKnown before) (s.seenBy before) after)

/-- The state of the scheduler, its active job and its queue. -/
abbrev Outcome := QueueState × Option Job × JobQueue

def outcome (s : Scheduler) : Outcome := (s.state, s.active, s.queue)

/-- What comes of the active job when it ends in this state, or does not end. -/
def outcomeOf (s : Scheduler) : Option String → Outcome
  | some printState => ((s.finishJob printState).1.state, none, s.queue)
  | none => s.outcome

/-- The states in which the active job may be taken to have ended: one in which the printer is
idle, and which is known with the printer seen printing before, or comes as news. -/
inductive MayEnd (s : Scheduler) (printStates : List String) (printState : String) : Prop where
  | known (seen : s.seenPrinting = true) (known : s.printState = some printState)
      (idle : isIdle printState = true)
  | reported {before after : List String} (split : printStates = before ++ printState :: after)
      (idle : isIdle printState = true)
      (news : s.seenBy before = true ∨ s.lastKnown before ≠ some printState)

section

variable {s : Scheduler} {job : Job} {printState : String} {printStates before after : List String}

theorem ne_printing_of_isIdle (idle : isIdle printState = true) :
    printState ≠ "printing"
  := by
  rintro rfl
  cases idle

/-! ### The states in which a job ends -/

theorem seenBy_append (s : Scheduler) (before after : List String) :
    s.seenBy (before ++ after) = (s.seenBy before || after.contains "printing")
  := by
  simp [seenBy, Bool.or_assoc]

theorem endedIn?_eq_some_iff :
    s.endedIn? printStates = some printState ↔
      s.lastKnown printStates = some printState ∧ s.seenBy printStates = true ∧
        isIdle printState = true
  := by
  simp [endedIn?, Option.filter_eq_some_iff]

/-- After the acknowledgement a job ends in a state that comes as news. -/
theorem news_of_endState? {startedIn : Option String} {seen : Bool}
    (ends : endState? startedIn seen printStates = some printState) :
    ∃ before after, printStates = before ++ printState :: after ∧ isIdle printState = true ∧
      ((seen || before.contains "printing") = true ∨
        before.getLast?.or startedIn ≠ some printState)
  := by
  induction printStates generalizing seen with
  | nil => cases ends
  | cons first rest ih =>
    rw [endState?] at ends
    split at ends
    next hasEnded =>
      obtain rfl := Option.some.inj ends
      use [], rest, rfl
      simpa using hasEnded
    next goesOn =>
      obtain ⟨before, after, rfl, idle, news⟩ := ih ends
      use first :: before, after, rfl, idle
      cases news with
      | inl printing =>
        left
        rwa [List.contains_cons, BEq.comm, ← Bool.or_assoc]
      | inr other =>
        cases before with
        | cons second before =>
          right
          simpa [List.getLast?_cons] using other
        | nil =>
          -- if `first` were this state, the job would have ended there
          right
          simp only [List.getLast?_singleton, Option.some_or, ne_eq, Option.some.injEq]
          rintro rfl
          apply goesOn
          simpa [idle] using Or.inr other

/-- A job that does not end after the acknowledgement. -/
theorem quiet_of_endState? {startedIn : Option String} {seen : Bool}
    (none : endState? startedIn seen (before ++ printState :: after) = none)
    (idle : isIdle printState = true) :
    (seen || before.contains "printing") = false ∧ startedIn = some printState
  := by
  induction before generalizing seen with
  | nil =>
    rw [List.nil_append, endState?] at none
    split at none
    next => cases none
    next goesOn => simpa [idle] using goesOn
  | cons first before ih =>
    rw [List.cons_append, endState?] at none
    split at none
    next => cases none
    next =>
      rw [List.contains_cons, BEq.comm, ← Bool.or_assoc]
      apply ih none

/-- Whatever is reported when, a job ends in a state in which it may be taken to have ended. -/
theorem mayEnd_of_splitEnd? (ends : s.splitEnd? before after = some printState) :
    MayEnd s (before ++ after) printState
  := by
  cases Option.or_eq_some_iff.1 ends with
  | inl hasEnded =>
    obtain ⟨known, seen, idle⟩ := endedIn?_eq_some_iff.1 hasEnded
    cases before using List.reverseRecOn with
    | nil => apply MayEnd.known (by simpa [seenBy] using seen) known idle
    | append_singleton earlier last =>
      obtain rfl : last = printState := by simpa [lastKnown] using known
      apply MayEnd.reported (List.append_assoc _ _ _) idle
      left
      simpa [seenBy_append, Ne.symm (ne_printing_of_isIdle idle)] using seen
  | inr later =>
    obtain ⟨middle, rest, rfl, idle, news⟩ := news_of_endState? later.2
    apply MayEnd.reported (List.append_assoc _ _ _).symm idle
    apply news.imp
    · intro seen
      rwa [seenBy_append]
    · simp [lastKnown, List.getLast?_append, Option.or_assoc]

/-- Every state in which a job may be taken to have ended is the one in which it ends, for some
moment of the acknowledgement. -/
theorem MayEnd.exists_splitEnd? (mayEnd : MayEnd s printStates printState) :
    ∃ before after, printStates = before ++ after ∧ s.splitEnd? before after = some printState
  := by
  cases mayEnd with
  | known seen known idle =>
    use [], printStates, rfl
    apply Option.or_eq_some_iff.2
    left
    apply endedIn?_eq_some_iff.2
    use known, by simpa [seenBy] using seen
  | @reported before after split idle news =>
    subst split
    cases seen : s.seenBy before with
    | true =>
      use before ++ [printState], after, by simp
      apply Option.or_eq_some_iff.2
      left
      apply endedIn?_eq_some_iff.2
      use by simp [lastKnown], by simp [seenBy_append, seen]
    | false =>
      use before, printState :: after, rfl
      have other := news.resolve_left (by simp [seen])
      apply Option.or_eq_some_iff.2
      right
      constructor
      · simp [endedIn?, seen]
      · simp [endState?, idle, seen, other]

/-- A job that has ended by an acknowledgement that is handled last ends anyway. -/
theorem endedIn?_eq_none_of_splitEnd? (goesOn : s.splitEnd? before after = none) :
    s.endedIn? (before ++ after) = none
  := by
  obtain ⟨before', later⟩ := Option.or_eq_none_iff.1 goesOn
  cases after using List.reverseRecOn with
  | nil => rwa [List.append_nil]
  | append_singleton middle last =>
    apply Option.eq_none_iff_forall_not_mem.2
    intro printState hasEnded
    obtain ⟨known, seen, idle⟩ := endedIn?_eq_some_iff.1 hasEnded
    rw [← List.append_assoc] at known seen
    obtain rfl : last = printState := by simpa [lastKnown] using known
    obtain ⟨unseen, -⟩ := quiet_of_endState? later idle
    rw [seenBy_append, seenBy_append, unseen] at seen
    simp [Ne.symm (ne_printing_of_isIdle idle)] at seen

/-! ### The states of the scheduler -/

/-- What was observed of the printer does not matter for what comes of the end of a job. -/
theorem outcomeOf_noting (s : Scheduler) (acknowledgedIn : Option (Option String)) (seen : Bool)
    (known ends : Option String) :
    (s.noting acknowledgedIn seen known).outcomeOf ends = s.outcomeOf ends
  := by
  cases ends with
  | none => rfl
  | some printState =>
    simp only [outcomeOf, finishJob, noting]
    cases s.active with
    | none => rfl
    | some job =>
      simp only [tryLoad, untracked]
      split_ifs <;> rfl

theorem outcome_finishJob (s : Scheduler) (printState : String) :
    (s.finishJob printState).1.outcome = s.outcomeOf (some printState)
  := by
  obtain ⟨unused, queue⟩ := unused_finishJob s printState
  rw [outcome, outcomeOf, unused, queue]

/-- The scheduler that has noted a state of the printer. -/
def knowing (s : Scheduler) (printState : String) : Scheduler :=
  s.noting s.acknowledgedIn s.seenPrinting (some printState)

theorem printStateChanged_of_atRest (atRest : AtRest s) (printState : String) :
    (s.printStateChanged printState).1 = s.knowing printState
  := by
  have unused := atRest.unused
  have blocked : (s.knowing printState).tryLoad = _ := tryLoad_of_blocked atRest.blocked
  unfold printStateChanged
  dsimp only
  split
  next =>
    rw [if_neg (by simp [unused])]
    rfl
  next =>
    split
    next => rfl
    next =>
      split
      next ended =>
        have active : s.active.isSome = true := (isIdle_of_jobEnded ended).2
        cases unused ▸ active
      next =>
        split
        next => apply congrArg Prod.fst blocked
        next => rfl

/-- With an active job a state is noted, unless it ends the job. -/
theorem printStateChanged_of_active (active : s.active.isSome = true) (printState : String) :
    (s.printStateChanged printState).1 =
      if (s.knowing printState).jobEnded then ((s.knowing printState).finishJob printState).1
      else s.noting s.acknowledgedIn (s.seenPrinting || printState == "printing") (some printState)
  := by
  have goesOn (busy : isIdle printState = false) : ¬(s.knowing printState).jobEnded = true := by
    intro ended
    cases busy.symm.trans (isIdle_of_jobEnded ended).1
  unfold printStateChanged
  change Prod.fst (if printState = "printing" then
      (if s.active.isSome = true then s.noting s.acknowledgedIn true (some printState)
        else s.knowing printState, [])
    else if (!isIdle printState) = true then (s.knowing printState, [])
    else if (s.knowing printState).jobEnded = true then (s.knowing printState).finishJob printState
    else if s.active.isNone = true then (s.knowing printState).tryLoad
    else (s.knowing printState, [])) = _
  split
  next printing =>
    subst printing
    rw [if_neg (goesOn rfl), beq_self_eq_true, Bool.or_true]
  next other =>
    have unseen : (s.seenPrinting || printState == "printing") = s.seenPrinting := by
      simp [other]
    rw [unseen]
    split
    next busy =>
      rw [if_neg (goesOn (by simpa using busy))]
      rfl
    next =>
      split
      next => rfl
      next =>
        obtain ⟨job, found⟩ := Option.isSome_iff_exists.1 active
        rw [found]
        rfl

/-! ### Reports before and after the acknowledgement -/

theorem reported_cons (s : Scheduler) (first : String) (rest : List String) :
    s.reported (first :: rest) = (s.printStateChanged first).1.reported rest
  := rfl

theorem reported_append (s : Scheduler) (first rest : List String) :
    s.reported (first ++ rest) = (s.reported first).reported rest
  := List.foldl_append

theorem AtRest.outcome_reported (atRest : AtRest s) (printStates : List String) :
    (s.reported printStates).outcome = s.outcome
  := by
  induction printStates generalizing s with
  | nil => rfl
  | cons first rest ih =>
    rw [reported_cons, printStateChanged_of_atRest atRest]
    apply ih
    use atRest.unused, atRest.blocked

/-- Before the acknowledgement the states are noted. -/
theorem reported_of_unacknowledged (active : s.active.isSome = true)
    (unacknowledged : s.acknowledgedIn = none) (printStates : List String) :
    s.reported printStates = s.noting none (s.seenBy printStates) (s.lastKnown printStates)
  := by
  induction printStates generalizing s with
  | nil => simp [reported, lastKnown, seenBy, noting, ← unacknowledged]
  | cons first rest ih =>
    have goesOn : (s.knowing first).jobEnded = false := by
      simp [jobEnded, knowing, noting, unacknowledged]
    have seen : s.seenBy (first :: rest) =
        (s.seenPrinting || first == "printing" || rest.contains "printing")
      := by
      rw [seenBy, List.contains_cons, BEq.comm, ← Bool.or_assoc]
    rw [reported_cons, printStateChanged_of_active active, goesOn, if_neg Bool.false_ne_true, ih,
      seen]
    · simp [noting, lastKnown, seenBy, List.getLast?_cons]
    · apply active
    · apply unacknowledged

/-- After the acknowledgement the job may end. -/
theorem outcome_reported {startedIn : Option String} (active : s.active.isSome = true)
    (acknowledged : s.acknowledgedIn = some startedIn) (printStates : List String) :
    (s.reported printStates).outcome =
      s.outcomeOf (endState? startedIn s.seenPrinting printStates)
  := by
  induction printStates generalizing s with
  | nil => rfl
  | cons first rest ih =>
    have ends : (s.knowing first).jobEnded =
        (isIdle first && (s.seenPrinting || startedIn != some first))
      := by
      simp [jobEnded, knowing, noting, acknowledged, active]
    rw [reported_cons, printStateChanged_of_active active, ends, endState?]
    split
    next =>
      obtain ⟨job, found⟩ := Option.isSome_iff_exists.1 active
      have atRest := atRest_finishJob (s := s.knowing first) found first
      rw [atRest.outcome_reported, outcome_finishJob, knowing, outcomeOf_noting]
    next =>
      rw [ih, outcomeOf_noting]
      · rfl
      · apply active
      · apply acknowledged

/-- The acknowledgement ends a job that has ended before. -/
theorem acknowledge_reported (active : s.isActive job = true)
    (unacknowledged : s.acknowledgedIn = none) (before : List String) :
    let started := s.noting (some (s.lastKnown before)) (s.seenBy before) (s.lastKnown before)
    ((s.reported before).acknowledge job).1 =
      match s.endedIn? before with
      | some printState => (started.finishJob printState).1
      | none => started
  := by
  intro started
  obtain ⟨job', found, -⟩ := exists_active active
  have held : s.active.isSome = true := by
    rw [found]
    rfl
  have ended : started.jobEnded = (s.endedIn? before).isSome := by
    cases known : s.lastKnown before with
    | none => simp [started, jobEnded, noting, endedIn?, known]
    | some last => simp [started, jobEnded, noting, endedIn?, known, held, Bool.and_comm]
  rw [reported_of_unacknowledged held unacknowledged]
  change Prod.fst (if s.isActive job = true then
      if started.jobEnded = true then started.finishJob ((s.lastKnown before).getD "")
      else (started, [])
    else (s.noting none (s.seenBy before) (s.lastKnown before), [])) = _
  rw [if_pos active, ended]
  cases hasEnded : s.endedIn? before with
  | none => rfl
  | some last =>
    rw [(endedIn?_eq_some_iff.1 hasEnded).1]
    rfl

/-- What comes of the active job when its start is acknowledged between two reports. -/
theorem outcome_acknowledged (active : s.isActive job = true)
    (unacknowledged : s.acknowledgedIn = none) (before after : List String) :
    (((s.reported before).acknowledge job).1.reported after).outcome =
      s.outcomeOf (s.splitEnd? before after)
  := by
  obtain ⟨job', found, -⟩ := exists_active active
  rw [acknowledge_reported active unacknowledged, splitEnd?]
  cases ended : s.endedIn? before with
  | some printState =>
    dsimp only
    rw [AtRest.outcome_reported, outcome_finishJob, outcomeOf_noting]
    · rfl
    · apply atRest_finishJob
      apply found
  | none =>
    dsimp only
    rw [outcome_reported, outcomeOf_noting]
    · rfl
    · apply Option.isSome_of_mem found
    · rfl

end

namespace System

/-- The printer reports a state. -/
def reports (printState : String) : Event := .performed (.printStateChanged printState)

/-- A chain learns that the start of its job was acknowledged and later takes that to the
scheduler, while the printer reports states. -/
def acknowledging (index : Nat) (first between rest : List String) (result : Json) (reply : Reply) :
    List Event :=
  first.map reports ++ .resumed index (.ok result) ::
    (between.map reports ++ .resumed index reply :: rest.map reports)

/-- The orders in which the scheduler can handle the states that were reported before a start was
acknowledged, and the acknowledgement. -/
inductive Orders (index : Nat) (printStates : List String) : List Event → Prop where
  | split {first between rest : List String} (whole : first ++ between ++ rest = printStates)
      (result : Json) (reply : Reply) :
      Orders index printStates (acknowledging index first between rest result reply)

section

variable {settings : Config.JobSettings} {sys : System} {index epoch : Nat} {job : Job}
  {chain : Chain} {printStates : List String}

theorem run_append (settings : Config.JobSettings) (sys : System) (first rest : List Event) :
    sys.run settings (first ++ rest) = (sys.run settings first).run settings rest
  := List.foldl_append

theorem run_cons (settings : Config.JobSettings) (sys : System) (event : Event)
    (rest : List Event) :
    sys.run settings (event :: rest) = (sys.next settings event).1.run settings rest
  := rfl

theorem scheduler_run_reports (sys : System) (printStates : List String) :
    (sys.run settings (printStates.map reports)).scheduler = sys.scheduler.reported printStates
  := by
  induction printStates generalizing sys with
  | nil => rfl
  | cons first rest ih => apply ih

theorem getElem?_run_reports (launched : sys.chains[index]? = some chain)
    (settings : Config.JobSettings) (printStates : List String) :
    (sys.run settings (printStates.map reports)).chains[index]? = some chain
  := by
  induction printStates generalizing sys with
  | nil => apply launched
  | cons first rest ih => apply ih (getElem?_stepped launched _)

/-- The chain learns of the acknowledgement, of which the scheduler does not know. -/
theorem next_of_starting (launched : sys.chains[index]? = some ⟨epoch, .starting job⟩)
    (settings : Config.JobSettings) (result : Json) :
    (sys.next settings (.resumed index (.ok result))).1 = sys.moved index ⟨epoch, .started job⟩
  := by
  simp only [next, launched]
  rfl

theorem scheduler_next_of_started (launched : sys.chains[index]? = some ⟨epoch, .started job⟩)
    (settings : Config.JobSettings) (reply : Reply) :
    (sys.next settings (.resumed index reply)).1.scheduler = (sys.scheduler.acknowledge job).1
  := by
  simp only [next, launched]
  rfl

/-- What comes of the active job, in every order. -/
theorem outcome_run (launched : sys.chains[index]? = some ⟨epoch, .starting job⟩)
    (active : sys.scheduler.isActive job = true)
    (unacknowledged : sys.scheduler.acknowledgedIn = none) (settings : Config.JobSettings)
    (first between rest : List String) (result : Json) (reply : Reply) :
    (sys.run settings (acknowledging index first between rest result reply)).scheduler.outcome =
      sys.scheduler.outcomeOf (sys.scheduler.splitEnd? (first ++ between) rest)
  := by
  have starting := getElem?_run_reports launched settings first
  rw [acknowledging, run_append, run_cons, next_of_starting starting, run_append, run_cons,
    scheduler_run_reports]
  have started := getElem?_moved starting ⟨epoch, .started job⟩
  rw [scheduler_next_of_started (getElem?_run_reports started settings between),
    scheduler_run_reports]
  have noted : ((sys.run settings (first.map reports)).moved index ⟨epoch, .started job⟩).scheduler =
      sys.scheduler.reported first
    := scheduler_run_reports sys first
  rw [noted, ← reported_append]
  apply outcome_acknowledged active unacknowledged

/-- The orders lead to the same state of the scheduler, active job and queue exactly if every state
in which the job may be taken to have ended decides like the one in which it has ended when all
of them are handled before the acknowledgement. -/
theorem orders_agree_iff (starting : sys.stage? index = some (.starting job))
    (active : sys.scheduler.isActive job = true)
    (unacknowledged : sys.scheduler.acknowledgedIn = none) (settings : Config.JobSettings)
    (printStates : List String) :
    (∀ events events', Orders index printStates events → Orders index printStates events' →
        (sys.run settings events).scheduler.outcome =
          (sys.run settings events').scheduler.outcome) ↔
      ∀ printState, MayEnd sys.scheduler printStates printState →
        ∃ last, sys.scheduler.endedIn? printStates = some last ∧
          (sys.scheduler.finishJob printState).1.state = (sys.scheduler.finishJob last).1.state
  := by
  obtain ⟨⟨epoch, stage⟩, launched, rfl⟩ := Option.map_eq_some_iff.1 starting
  have run := outcome_run launched active unacknowledged settings
  have whole : sys.scheduler.splitEnd? (printStates ++ []) [] = sys.scheduler.endedIn? printStates
    := by
    rw [List.append_nil]
    apply Option.or_none
  obtain ⟨job', found, -⟩ := exists_active active
  constructor
  · intro agree printState mayEnd
    obtain ⟨before, after, rfl, ends⟩ := mayEnd.exists_splitEnd?
    have early : Orders index (before ++ after) (acknowledging index before [] after .null (.ok .null))
      := .split (by simp) _ _
    have late : Orders index (before ++ after)
        (acknowledging index (before ++ after) [] [] .null (.ok .null))
      := .split (by simp) _ _
    have same := agree _ _ early late
    rw [run, run, whole, List.append_nil, ends] at same
    cases last : sys.scheduler.endedIn? (before ++ after) with
    | none =>
      rw [last] at same
      have unused : none = sys.scheduler.active := congrArg (·.2.1) same
      cases unused.trans found
    | some last' =>
      rw [last] at same
      use last', rfl
      apply congrArg Prod.fst same
  · intro decides
    have outcome : ∀ events, Orders index printStates events →
        (sys.run settings events).scheduler.outcome =
          sys.scheduler.outcomeOf (sys.scheduler.endedIn? printStates)
      := by
      rintro _ ⟨rfl⟩
      rw [run]
      cases ends : sys.scheduler.splitEnd? _ _ with
      | none => rw [endedIn?_eq_none_of_splitEnd? ends]
      | some printState =>
        obtain ⟨last, ended, same⟩ := decides printState (mayEnd_of_splitEnd? ends)
        rw [ended, outcomeOf, outcomeOf, same]
    intro events events' orders orders'
    rw [outcome events orders, outcome events' orders']

end

/-- The printer answers that it is in this state. -/
def answers (printState : String) : Reply :=
  .ok (.ofMembers [("status", .ofMembers [("print_stats",
    .ofMembers [("state", .string printState)])])])

/-- A job is taken while the printer is known to have completed another. -/
def takenWhenComplete : List Event :=
  becomesReady :: List.replicate 5 (.resumed 0 (answers "complete"))

/-- A report that the printer is printing comes to the same before and after the acknowledgement. -/
theorem orders_agree_iff_printing :
    let sys := after eager oneJob takenWhenComplete
    sys.stage? 0 = some (.starting job) ∧ sys.scheduler.isActive job = true ∧
      sys.scheduler.acknowledgedIn = none ∧
      ∀ events events', Orders 0 ["printing"] events → Orders 0 ["printing"] events' →
        (sys.run eager events).scheduler.outcome = (sys.run eager events').scheduler.outcome
  := by
  intro sys
  have starting : sys.stage? 0 = some (.starting job) := rfl
  have active : sys.scheduler.isActive job = true := rfl
  have unacknowledged : sys.scheduler.acknowledgedIn = none := rfl
  and_intros
  · apply starting
  · apply active
  · apply unacknowledged
  · apply (orders_agree_iff starting active unacknowledged eager ["printing"]).2
    rintro printState (⟨seen⟩ | ⟨split, idle⟩)
    · cases seen
    · have mem : printState ∈ ["printing"] := by simp [split]
      obtain rfl := List.mem_singleton.1 mem
      cases idle

/-- A report that the printer stands by ends the job only if it is handled after the
acknowledgement, though it was made before. -/
theorem orders_disagree_standby :
    let sys := after eager oneJob takenWhenComplete
    let early := acknowledging 0 ["standby"] [] [] .null (.ok .null)
    let late := acknowledging 0 [] [] ["standby"] .null (.ok .null)
    sys.stage? 0 = some (.starting job) ∧ sys.scheduler.isActive job = true ∧
      Orders 0 ["standby"] early ∧ Orders 0 ["standby"] late ∧
      (sys.run eager early).scheduler.outcome = (.starting, some job, ⟨[], 1⟩) ∧
      (sys.run eager late).scheduler.outcome = (.paused, none, ⟨[], 1⟩)
  := by
  intro sys early late
  have starting : sys.stage? 0 = some (.starting job) := rfl
  have active : sys.scheduler.isActive job = true := rfl
  refine ⟨starting, active, ?_, ?_, ?_, ?_⟩
  · apply Orders.split
    rfl
  · apply Orders.split
    rfl
  · decide
  · decide

end System

end ControlRelay.Scheduler
