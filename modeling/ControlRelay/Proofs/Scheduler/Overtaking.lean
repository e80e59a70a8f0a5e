import ControlRelay.Proofs.Scheduler.Acknowledging
import ControlRelay.Proofs.Scheduler.Standing
import Mathlib.Data.List.Induction
import Mathlib.Data.List.Nodup

/-!
# Reports that overtake one another

The control process reports the state of the printer by itself and in the answers to queries, and
the two reach the scheduler in different ways.  So a report that was sent later can be handled
earlier.  Whenever the queue stands still though nothing is in the way, the report to which the
scheduler paid heed last tells of a busy printer; an idle state that was sent last was sent after
that report.
-/

namespace ControlRelay

namespace Scheduler

/-- A state that the control process reports, and the moment at which it is sent. -/
structure Report where
  sentAt : Nat
  printState : String
  deriving DecidableEq

/-- A system, the reports that have come, those that chains have got as answers, and the one to
which the scheduler paid heed last. -/
structure Informed where
  sys : System
  arrived : List Report := []
  answers : Nat → Option Report := fun _ => none
  heeded : Option Report := none

namespace Informed

/-- The report that comes with an event, sent at this moment. -/
def brings? (w : Informed) (sentAt : Nat) : Event → Option Report
  | .performed (.printStateChanged printState) => some ⟨sentAt, printState⟩
  | .resumed index (.ok result) =>
    match w.sys.stage? index with
    | some .asking =>
      (LoadStage.printStateIn? result).map fun printState => ⟨sentAt, printState⟩
    | _ => none
  | _ => none

/-- The report to which the scheduler pays heed with an event. -/
def heeds? (w : Informed) (sentAt : Nat) (event : Event) : Option Report :=
  match event with
  | .resumed index _ => (w.sys.heeds? event).bind fun _ => w.answers index
  | _ => (w.sys.heeds? event).map fun printState => ⟨sentAt, printState⟩

/-- The answers that chains have got after an event. -/
def answered (w : Informed) (sentAt : Nat) (event : Event) : Nat → Option Report :=
  match event with
  | .resumed index _ => fun other =>
    if other = index then (w.brings? sentAt event).or (w.answers index) else w.answers other
  | _ => w.answers

/-- What is the case after an event that brings a report sent at this moment, if it brings one. -/
def next (settings : Config.JobSettings) (w : Informed) (event : Event) (sentAt : Nat) :
    Informed where
  sys := (w.sys.next settings event).1
  arrived := w.arrived ++ (w.brings? sentAt event).toList
  answers := w.answered sentAt event
  heeded := (w.heeds? sentAt event).or w.heeded

/-- What is the case after a list of events. -/
def after (settings : Config.JobSettings) (queue : JobQueue) (events : List (Event × Nat)) :
    Informed :=
  events.foldl (fun w event => w.next settings event.1 event.2)
    { sys := System.after settings queue [] }

theorem after_concat (settings : Config.JobSettings) (queue : JobQueue)
    (earlier : List (Event × Nat)) (last : Event × Nat) :
    after settings queue (earlier ++ [last]) =
      (after settings queue earlier).next settings last.1 last.2
  := by
  rw [after, List.foldl_append]
  rfl

/-- The reports change nothing about the run. -/
theorem sys_after (settings : Config.JobSettings) (queue : JobQueue)
    (events : List (Event × Nat)) :
    (after settings queue events).sys = System.after settings queue (events.map Prod.fst)
  := by
  induction events using List.reverseRecOn with
  | nil => rfl
  | append_singleton earlier last ih =>
    rw [after_concat, List.map_append, List.map_singleton, System.after_concat, ← ih]
    rfl

/-- A chain that has learnt a state has it from a report that came, and where the queue stands
still, the report heeded last tells of a busy printer. -/
structure Aware (w : Informed) : Prop where
  learnt : ∀ index epoch printState,
    w.sys.chains[index]? = some ⟨epoch, .checking printState⟩ →
      ∃ report ∈ w.arrived, w.answers index = some report ∧ report.printState = printState
  busy : Stands w.sys.scheduler →
    ∃ report ∈ w.arrived, w.heeded = some report ∧ isIdle report.printState = false

section

variable {settings : Config.JobSettings} {queue : JobQueue} {w : Informed} {event : Event}
  {sentAt : Nat}

theorem brings?_of_asking {index : Nat} {result : Json} {printState : String}
    (asking : w.sys.stage? index = some .asking)
    (told : LoadStage.printStateIn? result = some printState) :
    w.brings? sentAt (.resumed index (.ok result)) = some ⟨sentAt, printState⟩
  := by
  simp only [brings?, asking, told]
  rfl

/-- Only a chain whose query is answered gets a report. -/
theorem answered_of_ne_asking {index : Nat} (other : w.sys.stage? index ≠ some .asking) :
    w.answered sentAt event index = w.answers index
  := by
  cases event with
  | performed operation => rfl
  | resumed index' reply =>
    dsimp only [answered]
    split
    next same =>
      subst same
      have none : w.brings? sentAt (.resumed index reply) = none := by
        cases reply with
        | error e => rfl
        | ok result =>
          dsimp only [brings?]
          split
          next asking => apply absurd asking other
          next => rfl
      rw [none]
      rfl
    next => rfl

theorem Aware.learnt_next (aware : Aware w) (tells : w.sys.tells event = true) (index epoch : Nat)
    (printState : String)
    (found : (w.next settings event sentAt).sys.chains[index]? =
      some ⟨epoch, .checking printState⟩) :
    ∃ report ∈ (w.next settings event sentAt).arrived,
      (w.next settings event sentAt).answers index = some report ∧ report.printState = printState
  := by
  cases System.learnt_of_next found with
  | inl old =>
    obtain ⟨report, mem, answers, same⟩ := aware.learnt index epoch printState old
    use report, List.mem_append_left _ mem
    use (answered_of_ne_asking (by simp [System.stage?, old])).trans answers
  | inr new =>
    obtain ⟨result, rfl, asking, same⟩ := new
    simp only [System.tells, asking] at tells
    obtain ⟨told, carried⟩ := Option.isSome_iff_exists.1 tells
    have brings : w.brings? sentAt (.resumed index (.ok result)) = some ⟨sentAt, told⟩ :=
      brings?_of_asking asking carried
    use ⟨sentAt, told⟩
    and_intros
    · apply List.mem_append_right
      rw [brings]
      apply List.mem_singleton_self
    · simp [next, answered, brings]
    · apply (LoadStage.printStateIn_eq carried).symm.trans same.symm

/-- The scheduler pays heed to reports that have come. -/
theorem Aware.exists_heeded (aware : Aware w) {printState : String}
    (heeds : w.sys.heeds? event = some printState) (settings : Config.JobSettings) :
    ∃ report ∈ (w.next settings event sentAt).arrived,
      w.heeds? sentAt event = some report ∧ report.printState = printState
  := by
  cases event with
  | performed operation =>
    cases operation with
    | printStateChanged printState' =>
      obtain rfl := Option.some.inj heeds
      use ⟨sentAt, printState'⟩, List.mem_append_right _ (List.mem_singleton_self _)
      use rfl
    | _ => cases heeds
  | resumed index reply =>
    simp only [Informed.heeds?, heeds]
    dsimp only [System.heeds?] at heeds
    split at heeds
    next epoch printState' launched =>
      split at heeds
      next current =>
        obtain rfl := Option.some.inj heeds
        obtain ⟨report, mem, answers, same⟩ := aware.learnt index epoch _ launched
        use report, List.mem_append_left _ mem, answers, same
      next => cases heeds
    next => cases heeds

theorem Aware.busy_next (aware : Aware w)
    (stands : Stands (w.next settings event sentAt).sys.scheduler) :
    ∃ report ∈ (w.next settings event sentAt).arrived,
      (w.next settings event sentAt).heeded = some report ∧ isIdle report.printState = false
  := by
  have still := System.stillStands_of_next stands
  unfold System.StillStands at still
  split at still
  next printState heeds =>
    obtain ⟨report, mem, heeded, rfl⟩ := aware.exists_heeded heeds settings
    use report, mem
    use by simp [next, heeded]
  next unheeded =>
    obtain ⟨report, mem, heeded, busy⟩ := aware.busy still
    use report, List.mem_append_left _ mem
    refine ⟨?_, busy⟩
    have none : w.heeds? sentAt event = none := by
      unfold Informed.heeds?
      split <;> simp [unheeded]
    simp [next, none, heeded]

theorem aware_after {events : List (Event × Nat)}
    (tell : (System.after settings queue []).allTell settings (events.map Prod.fst) = true) :
    Aware (after settings queue events)
  := by
  induction events using List.reverseRecOn with
  | nil =>
    constructor
    · rintro index epoch printState ⟨⟩
    · intro stands
      cases stands.control
  | append_singleton earlier last ih =>
    rw [List.map_append, List.map_singleton, System.allTell_concat, Bool.and_eq_true] at tell
    have aware := ih tell.1
    have tells : (after settings queue earlier).sys.tells last.1 = true := by
      rw [sys_after]
      apply tell.2
    rw [after_concat]
    constructor
    · apply aware.learnt_next tells
    · apply aware.busy_next

end

/-- The report that was sent last of these. -/
structure SentLast (arrived : List Report) (last : Report) : Prop where
  mem : last ∈ arrived
  latest : ∀ other ∈ arrived, other.sentAt ≤ last.sentAt

/-- An idle state was reported after the report that was heeded last. -/
structure Overtaken (heeded last : Report) : Prop where
  idle : isIdle last.printState = true
  later : heeded.sentAt < last.sentAt

/-- When every answer to a query tells the state of the printer and the queue stands still though
nothing is in the way, the report heeded last tells of a busy printer.  So the state that was sent
last is not an idle one, unless it was sent after that report and the scheduler did not heed it
afterwards. -/
theorem busy_iff_not_overtaken {settings : Config.JobSettings} {queue : JobQueue}
    {events : List (Event × Nat)}
    (tell : (System.after settings queue []).allTell settings (events.map Prod.fst) = true)
    (distinct : ((after settings queue events).arrived.map Report.sentAt).Nodup)
    (stands : Stands (after settings queue events).sys.scheduler) :
    let now := after settings queue events
    ∃ heeded ∈ now.arrived, now.heeded = some heeded ∧ isIdle heeded.printState = false ∧
      ∀ last, SentLast now.arrived last →
        (isIdle last.printState = false ↔ ¬Overtaken heeded last)
  := by
  intro now
  obtain ⟨heeded, mem, same, busy⟩ := (aware_after tell).busy stands
  use heeded, mem, same, busy
  intro last sentLast
  constructor
  · intro busy overtaken
    cases busy.symm.trans overtaken.idle
  · intro inTime
    apply eq_false_of_ne_true
    intro idle
    apply inTime
    use idle
    apply Nat.lt_of_le_of_ne (sentLast.latest heeded mem)
    intro together
    obtain rfl := List.inj_on_of_nodup_map distinct mem sentLast.mem together
    cases busy.symm.trans idle

/-- A printer that is printing puts the load off. -/
def putOff : List (Event × Nat) :=
  [(System.becomesReady, 0), (.resumed 0 (System.answers "printing"), 1),
    (.resumed 0 (System.answers "printing"), 1)]

/-- The queue stands still, and the state that was sent last is the one heeded last. -/
theorem busy_iff_not_overtaken_putOff :
    let now := after System.eager System.oneJob putOff
    let printing : Report := ⟨1, "printing"⟩
    (System.after System.eager System.oneJob []).allTell System.eager (putOff.map Prod.fst) = true ∧
      (now.arrived.map Report.sentAt).Nodup ∧ Stands now.sys.scheduler ∧
      now.heeded = some printing ∧ SentLast now.arrived printing ∧ ¬Overtaken printing printing
  := by
  intro now printing
  have tell : (System.after System.eager System.oneJob []).allTell System.eager
      (putOff.map Prod.fst) = true
    := by decide
  have arrived : now.arrived = [printing] := by decide
  have distinct : (now.arrived.map Report.sentAt).Nodup := by
    rw [arrived]
    decide
  have stands : Stands now.sys.scheduler := by
    constructor <;> decide
  have sentLast : SentLast now.arrived printing := by
    rw [arrived]
    constructor <;> simp
  obtain ⟨heeded, mem, same, busy, inTime⟩ := busy_iff_not_overtaken tell distinct stands
  obtain rfl : heeded = printing := by
    rw [arrived] at mem
    apply List.mem_singleton.1 mem
  refine ⟨tell, distinct, stands, same, sentLast, ?_⟩
  apply (inTime printing sentLast).1 busy

/-- The printer answers that it is printing and then reports that it stands by, and the scheduler
handles the report before the chain takes the answer to it. -/
def overtakes : List (Event × Nat) :=
  [(System.becomesReady, 0), (System.reports "standby", 2),
    (.resumed 0 (System.answers "printing"), 1), (.resumed 0 (System.answers "printing"), 1)]

/-- The queue stands still with no chain under way, though the state that was sent last is an idle
one. -/
theorem stands_overtakes :
    let now := after System.eager System.oneJob overtakes
    let standby : Report := ⟨2, "standby"⟩
    (System.after System.eager System.oneJob []).allTell System.eager (overtakes.map Prod.fst) =
        true ∧
      (now.arrived.map Report.sentAt).Nodup ∧ Stands now.sys.scheduler ∧
      (∀ chain ∈ now.sys.chains, chain.stage = .ended) ∧ SentLast now.arrived standby ∧
      isIdle standby.printState = true
  := by
  intro now standby
  have arrived : now.arrived = [standby, ⟨1, "printing"⟩] := by decide
  have chains : now.sys.chains = [⟨1, .ended⟩] := rfl
  and_intros
  · decide
  · rw [arrived]
    decide
  · constructor <;> decide
  · rw [chains]
    simp
  · rw [arrived]
    constructor <;> simp [standby]
  · rfl

end Informed

end Scheduler

end ControlRelay
