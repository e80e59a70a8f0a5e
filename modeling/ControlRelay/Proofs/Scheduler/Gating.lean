import ControlRelay.Proofs.Scheduler.Order
import ControlRelay.Proofs.Scheduler.Readiness
import ControlRelay.Proofs.Scheduler.Standing

/-!
# What stands before a start

The stage of a load chain tells which calls it has made.  A chain that is about to take a job has
asked for the state of the printer and was told that it is idle, and the transition script, if
there is one, was acknowledged to it.  A chain that has taken a job makes one more call, the one
that starts the job.
-/

namespace ControlRelay

namespace LoadStage

/-- A call that a chain has made, and the reply to it. -/
abbrev Exchange := Control.Call × Reply

/-- The query for the state of the printer. -/
def readinessCall : Control.Call :=
  ⟨Control.queryMethod, .ofMembers [("objects", Scheduler.interest)]⟩

/-- The call with which a chain starts a job. -/
def startCall (job : Job) : Control.Call := scriptCall (startScript job)

/-- The call that a chain makes when it goes on, if it makes one. -/
def call? (settings : Config.JobSettings) (stage : LoadStage) : Option Control.Call :=
  match stage.action settings with
  | .call call => some call
  | _ => none

/-- The stage to which a chain goes on. -/
def after (settings : Config.JobSettings) (s : Scheduler) (epoch : Nat) (reply : Reply)
    (stage : LoadStage) : LoadStage :=
  match stage.action settings with
  | .stop => stage
  | .proceed next => next
  | .call _ => stage.answered reply
  | .wait _ => stage.elapsed
  | .step => (s.chainStep settings epoch stage).2

/-- The printer was asked for its state and is idle. -/
def TellsIdle (exchange : Exchange) : Prop :=
  ∃ result printState, exchange = (readinessCall, .ok result) ∧
    printStateIn? result = some printState ∧ isIdle printState = true

/-- The transition script was acknowledged, if there is one. -/
def RunsScript (settings : Config.JobSettings) (exchanges : List Exchange) : Prop :=
  if (Text.trim settings.transitionScript).isEmpty then exchanges = []
  else ∃ result, exchanges = [(scriptCall (Text.trim settings.transitionScript), .ok result)]

/-- All that a chain has to call for before it takes a job. -/
def Cleared (settings : Config.JobSettings) (exchanges : List Exchange) : Prop :=
  ∃ first rest, exchanges = first :: rest ∧ TellsIdle first ∧ RunsScript settings rest

/-- What a chain at a stage has called for, as long as all goes well. -/
def Past (settings : Config.JobSettings) (exchanges : List Exchange) : LoadStage → Prop
  | asking => exchanges = []
  | checking printState =>
    ∃ result, exchanges = [(readinessCall, .ok result)] ∧ printStateIn result = printState
  | waiting _ => ∃ first, exchanges = [first] ∧ TellsIdle first
  | waited => ∃ first, exchanges = [first] ∧ TellsIdle first
  | scripting => ∃ first, exchanges = [first] ∧ TellsIdle first
  | scripted => Cleared settings exchanges
  | taking => Cleared settings exchanges
  | starting _ => Cleared settings exchanges
  | _ => True

section

variable {settings : Config.JobSettings} {s : Scheduler} {epoch : Nat} {stage : LoadStage}
  {exchanges : List Exchange}

/-- An answer that tells no state tells of no idle printer. -/
theorem printStateIn?_of_isIdle {result : Json} (idle : isIdle (printStateIn result) = true) :
    printStateIn? result = some (printStateIn result)
  := by
  cases told : printStateIn? result with
  | none =>
    have none_told : printStateIn result = "" := by
      rw [printStateIn, ← printStateIn?, told]
      rfl
    rw [none_told] at idle
    cases idle
  | some printState => rw [printStateIn_eq told]

theorem past_checkPrinter {printState : String}
    (past : Past settings exchanges (.checking printState)) :
    Past settings exchanges (s.checkPrinter settings epoch printState).2
  := by
  obtain ⟨result, rfl, rfl⟩ := past
  unfold Scheduler.checkPrinter
  split
  next => trivial
  next =>
    dsimp only
    split
    next idle =>
      have told : ∃ first, [(readinessCall, .ok result)] = [first] ∧ TellsIdle first :=
        ⟨_, rfl, result, _, rfl, printStateIn?_of_isIdle idle, idle⟩
      split
      next => trivial
      next => exact told
      next => exact told
    next => trivial

theorem past_chainStep (past : Past settings exchanges stage)
    (acts : stage.action settings = .step) :
    Past settings exchanges (s.chainStep settings epoch stage).2
  := by
  cases stage with
  | checking printState => apply past_checkPrinter past
  | waited =>
    dsimp only [Scheduler.chainStep]
    split
    next => exact past
    next => trivial
  | scripted =>
    dsimp only [Scheduler.chainStep]
    split
    next => exact past
    next => trivial
  | taking =>
    dsimp only [Scheduler.chainStep, Scheduler.takeJob]
    split
    next => trivial
    next =>
      split
      next => trivial
      next => exact past
  | asking => cases acts
  | waiting nanos => cases acts
  | scripting =>
    dsimp only [action] at acts
    split at acts <;> cases acts
  | starting job => cases acts
  | started job => trivial
  | failed job error => trivial
  | ended => cases acts

theorem past_answered {call : Control.Call} (past : Past settings exchanges stage)
    (calls : stage.action settings = .call call) (reply : Reply) :
    Past settings (exchanges ++ [(call, reply)]) (stage.answered reply)
  := by
  cases stage with
  | asking =>
    obtain rfl := LoadAction.call.inj calls
    obtain rfl := past
    cases reply with
    | ok result => exact ⟨result, rfl, rfl⟩
    | error e => trivial
  | scripting =>
    obtain ⟨first, rfl, idle⟩ := past
    dsimp only [action] at calls
    split at calls
    next => cases calls
    next filled =>
      obtain rfl := LoadAction.call.inj calls
      cases reply with
      | ok result =>
        refine ⟨first, _, rfl, idle, ?_⟩
        rw [RunsScript, if_neg filled]
        exact ⟨result, rfl⟩
      | error e => trivial
  | starting job => cases reply <;> trivial
  | _ => cases calls

/-- A chain that goes on has called for what belongs to the stage after it. -/
theorem past_after (past : Past settings exchanges stage) (reply : Reply) :
    Past settings (exchanges ++ ((stage.call? settings).map (·, reply)).toList)
      (stage.after settings s epoch reply)
  := by
  unfold call? after
  cases acts : stage.action settings with
  | stop =>
    rw [ended_of_stop acts]
    trivial
  | proceed next =>
    cases stage with
    | scripting =>
      obtain ⟨first, rfl, idle⟩ := past
      dsimp only [action] at acts
      split at acts
      next empty =>
        obtain rfl := LoadAction.proceed.inj acts
        use first, [], rfl, idle
        rw [RunsScript, if_pos empty]
      next => cases acts
    | _ => cases acts
  | call call => apply past_answered past acts
  | wait nanos =>
    cases stage with
    | waiting nanos =>
      obtain ⟨first, rfl, idle⟩ := past
      exact ⟨first, rfl, idle⟩
    | scripting =>
      dsimp only [action] at acts
      split at acts <;> cases acts
    | _ => cases acts
  | step =>
    have silent : (Option.map (·, reply) (none : Option Control.Call)).toList = [] := rfl
    rw [silent, List.append_nil]
    apply past_chainStep past acts

/-! ### After the start -/

/-- A chain that knows how its start call went makes no other call. -/
theorem call?_of_rank (late : stage.rank ≤ 1) :
    stage.call? settings = none
  := by
  cases stage with
  | started job => rfl
  | failed job error => rfl
  | ended => rfl
  | _ => simp [rank] at late

theorem rank_after (late : stage.rank ≤ 1) (reply : Reply) :
    (stage.after settings s epoch reply).rank ≤ 1
  := by
  cases stage with
  | started job => exact Nat.zero_le 1
  | failed job error => exact Nat.zero_le 1
  | ended => exact Nat.zero_le 1
  | _ => simp [rank] at late

end

end LoadStage

namespace Scheduler

/-- The reply with which a chain goes on in an event, if it does. -/
def Event.replyTo? (index : Nat) : Event → Option Reply
  | resumed place reply => if place = index then some reply else none
  | performed _ => none

namespace System

open LoadStage (Exchange Past)

/-- The call that a chain makes in an event, and the reply to it. -/
def exchange? (settings : Config.JobSettings) (sys : System) (index : Nat) (event : Event) :
    Option Exchange :=
  (event.replyTo? index).bind fun reply =>
    ((sys.stage? index).bind (·.call? settings)).map (·, reply)

/-- The calls that a chain makes during a list of events, and the replies to them. -/
def exchanges (settings : Config.JobSettings) (sys : System) (index : Nat) :
    List Event → List Exchange
  | [] => []
  | event :: events =>
    (sys.exchange? settings index event).toList ++
      (sys.next settings event).1.exchanges settings index events

section

variable {settings : Config.JobSettings} {sys : System} {index : Nat} {event : Event}
  {stage : LoadStage}

theorem exchanges_concat (settings : Config.JobSettings) (sys : System) (index : Nat)
    (events : List Event) (event : Event) :
    sys.exchanges settings index (events ++ [event]) =
      sys.exchanges settings index events ++
        ((sys.run settings events).exchange? settings index event).toList
  := by
  induction events generalizing sys with
  | nil => apply List.append_nil
  | cons first events ih =>
    rw [List.cons_append, exchanges, ih, ← List.append_assoc]
    rfl

/-! ### The stage of a chain -/

/-- A chain that goes on in an event. -/
theorem stage?_next {reply : Reply} {chain : Chain} (launched : sys.chains[index]? = some chain)
    (resumed : event.replyTo? index = some reply) :
    (sys.next settings event).1.stage? index =
      some (chain.stage.after settings sys.scheduler chain.epoch reply)
  := by
  cases event with
  | performed operation => cases resumed
  | resumed place reply' =>
    obtain ⟨rfl, same⟩ := Option.ite_none_right_eq_some.1 resumed
    obtain rfl := Option.some.inj same
    have moved (stage : LoadStage) :
        (sys.moved place ⟨chain.epoch, stage⟩).stage? place = some stage := by
      rw [stage?, getElem?_moved launched]
      rfl
    simp only [next, launched, resume, LoadStage.after]
    cases chain.stage.action settings with
    | stop => simp only [stage?, launched, Option.map_some]
    | step =>
      rw [stage?, getElem?_stepped (getElem?_moved launched _)]
      rfl
    | _ => apply moved

/-- A chain that does not go on in an event. -/
theorem stage?_next_of_none (found : sys.stage? index = some stage)
    (unmoved : event.replyTo? index = none) :
    (sys.next settings event).1.stage? index = some stage
  := by
  obtain ⟨chain, launched, rfl⟩ := Option.map_eq_some_iff.1 found
  have stays {sys' : System} (kept : sys'.chains[index]? = some chain) :
      sys'.stage? index = some chain.stage := by
    rw [stage?, kept]
    rfl
  cases event with
  | performed operation => exact stays (getElem?_stepped launched _)
  | resumed place reply =>
    have differs : place ≠ index := by
      intro same
      rw [Event.replyTo?, if_pos same] at unmoved
      cases unmoved
    have kept (other : Chain) : (sys.moved place other).chains[index]? = some chain :=
      (List.getElem?_set_ne differs).trans launched
    dsimp only [next]
    split
    next other _ =>
      unfold resume
      split
      next => exact found
      next => exact stays (kept _)
      next => exact stays (kept _)
      next => exact stays (kept _)
      next => exact stays (getElem?_stepped (kept _) _)
    next => exact found

/-- A chain that was not launched is at its first stage as soon as it is. -/
theorem stage?_next_of_unlaunched (unlaunched : sys.stage? index = none)
    (found : (sys.next settings event).1.stage? index = some stage) :
    stage = .asking
  := by
  obtain ⟨chain, launched, rfl⟩ := Option.map_eq_some_iff.1 found
  have unlaunched : sys.chains[index]? = none := Option.map_eq_none_iff.1 unlaunched
  exact ((goes_next settings sys event).launches unlaunched launched).1

/-! ### The calls of a chain -/

/-- At every moment a chain has made the calls that belong to its stage, and one that was not
launched has made none. -/
theorem past_after (settings : Config.JobSettings) (queue : JobQueue) (index : Nat)
    (events : List Event) :
    Past settings ((after settings queue []).exchanges settings index events)
      (((after settings queue events).stage? index).getD .asking)
  := by
  induction events using List.reverseRecOn with
  | nil => rfl
  | append_singleton events event ih =>
    have now : (after settings queue []).run settings events = after settings queue events := rfl
    rw [exchanges_concat, now, after_concat]
    cases found : (after settings queue events).stage? index with
    | none =>
      have silent : (after settings queue events).exchange? settings index event = none := by
        cases resumed : event.replyTo? index <;> simp [exchange?, found, resumed]
      rw [found] at ih
      rw [silent, Option.toList_none, List.append_nil]
      cases launched : ((after settings queue events).next settings event).1.stage? index with
      | none => exact ih
      | some stage =>
        rw [stage?_next_of_unlaunched found launched]
        exact ih
    | some stage =>
      rw [found] at ih
      cases resumed : event.replyTo? index with
      | none =>
        rw [stage?_next_of_none found resumed, exchange?, resumed, Option.bind_none,
          Option.toList_none, List.append_nil]
        exact ih
      | some reply =>
        have calls : (after settings queue events).exchange? settings index event =
            (stage.call? settings).map (·, reply)
          := by
          rw [exchange?, resumed, found]
          rfl
        obtain ⟨chain, launched, rfl⟩ := Option.map_eq_some_iff.1 found
        rw [stage?_next launched resumed, calls]
        exact LoadStage.past_after ih reply

/-- A chain that knows how its start call went makes no other call. -/
theorem exchanges_of_rank (found : sys.stage? index = some stage) (late : stage.rank ≤ 1)
    (events : List Event) :
    sys.exchanges settings index events = []
  := by
  induction events generalizing sys stage with
  | nil => rfl
  | cons event events ih =>
    have silent : sys.exchange? settings index event = none := by
      cases resumed : event.replyTo? index <;>
        simp [exchange?, found, resumed, LoadStage.call?_of_rank late]
    rw [exchanges, silent, Option.toList_none, List.nil_append]
    cases resumed : event.replyTo? index with
    | none => exact ih (stage?_next_of_none found resumed) late
    | some reply =>
      obtain ⟨chain, launched, rfl⟩ := Option.map_eq_some_iff.1 found
      exact ih (stage?_next launched resumed) (LoadStage.rank_after late reply)

/-- A chain that has taken a job starts it when it goes on, and makes no other call. -/
theorem exchanges_of_starting {job : Job} (found : sys.stage? index = some (.starting job))
    (events : List Event) :
    sys.exchanges settings index events =
      ((events.filterMap (Event.replyTo? index)).head?.map (LoadStage.startCall job, ·)).toList
  := by
  induction events generalizing sys with
  | nil => rfl
  | cons event events ih =>
    cases resumed : event.replyTo? index with
    | none =>
      rw [exchanges, exchange?, resumed, ih (stage?_next_of_none found resumed),
        List.filterMap_cons_none resumed]
      rfl
    | some reply =>
      obtain ⟨⟨epoch, stage⟩, launched, same⟩ := Option.map_eq_some_iff.1 found
      obtain rfl : stage = .starting job := same
      have late : ((LoadStage.starting job).after settings sys.scheduler epoch reply).rank ≤ 1 := by
        cases reply <;> exact Nat.le_refl 1
      rw [exchanges, exchange?, resumed, found,
        exchanges_of_rank (stage?_next launched resumed) late, List.filterMap_cons_some resumed]
      rfl

end

/-- Loading is permitted from the start on, and a script is run before every job. -/
def homing : Config.JobSettings := { loadOnStartup := true, transitionScript := "G28" }

/-- A client pauses and asks for loading again while a chain is under way; the chain that is
launched then is about to take a job. -/
def startsAnew : List Event :=
  [becomesReady, .resumed 0 standsBy, .performed .pause, .performed .start] ++
    List.replicate 4 (.resumed 1 standsBy)

end System

end Scheduler

end ControlRelay
