import ControlRelay.Registry.Basic
import ControlRelay.Proofs.Control.Dialogue

/-!
# Runs of the registry

A run starts with the empty registry and takes turns.  In each turn one operation is performed
as a whole: it has some exchanges with the control process, leaves the registry in another state
and gives an answer.  The history of a run lists its turns, the last one first.
-/

namespace ControlRelay.Registry

open Control (Dialogue Exchange)

/-- What the registry can be asked to do. -/
inductive Operation where
  | subscribe (who : Subscriber) (objects : Json)
  | remove (who : Subscriber)
  | push (status : Fields) (eventtime : Float)
  | controlChanged (status : ControlStatus)
  | resync
  | query (objects : Json)
  /-- Gives what a subscription to the objects would give, without making it. -/
  | peek (objects : Json)
  | listObjects

/-- What an operation gives. -/
inductive Answer where
  | snapshot (result : Except RelayError Snapshot)
  | removed (hadInterest : Bool)
  | parts (parts : List (Subscriber × Fields))
  | noted
  | resynced (clean : Bool)
  | objects (reply : Reply)

/-- Answers a request for objects without any change. -/
def answerQuery (r : Registry) (request : Except InterestError Interest) :
    Dialogue (Registry × Answer) :=
  match request with
  | .error e => pure (r, .snapshot (.error (.invalidInterest e)))
  | .ok request => do
    let snapshot ← (r.cachedPart request).complete
    pure (r, .snapshot snapshot)

/-- Performs an operation. -/
def perform (r : Registry) : Operation → Dialogue (Registry × Answer)
  | .subscribe who objects =>
    match parseSubscription objects with
    | .error e => pure (r, .snapshot (.error (.invalidInterest e)))
    | .ok changes => do
      let (r, snapshot) ← r.subscribe who changes
      pure (r, .snapshot snapshot)
  | .remove who => do
    let (r, hadInterest) ← r.remove who
    pure (r, .removed hadInterest)
  | .push status eventtime =>
    let (r, parts) := r.push status eventtime
    pure (r, .parts parts)
  | .controlChanged status => do
    let r ← r.controlChanged status
    pure (r, .noted)
  | .resync => do
    let (r, clean) ← r.resync
    pure (r, .resynced clean)
  | .query objects => r.answerQuery (parseQuery objects)
  | .peek objects => r.answerQuery ((parseSubscription objects).map InterestChanges.selected)
  | .listObjects => do
    let reply ← listObjects
    pure (r, .objects reply)

/-- An operation that was performed. -/
structure Turn where
  operation : Operation
  exchanges : List Exchange
  answer : Answer

/-- The registry after the turns of a history. -/
inductive Run : List Turn → Registry → Prop where
  | start : Run [] {}
  | turn {history : List Turn} {r r' : Registry} {turn : Turn} (run : Run history r)
      (ends : (r.perform turn.operation).Ends turn.exchanges (r', turn.answer)) :
      Run (turn :: history) r'

/-- A run goes on with any operation, whatever the control process replies. -/
theorem Run.exists_turn {history : List Turn} {r : Registry} (run : Run history r)
    (operation : Operation) (replies : Nat → Reply) :
    ∃ turn r', Run (turn :: history) r' ∧ turn.operation = operation ∧
      turn.exchanges.map Exchange.reply = (List.range turn.exchanges.length).map replies
  := by
  obtain ⟨exchanges, ⟨r', answer⟩, ends, given⟩ := (r.perform operation).exists_ends replies
  use ⟨operation, exchanges, answer⟩, r', .turn run ends, rfl, given

end ControlRelay.Registry
