import ControlRelay.Control.Dialogue
import Mathlib.Tactic.Common

/-!
# How dialogues end

A dialogue `Ends` with a list of exchanges and a result when, given the replies of the exchanges
in their order, it makes exactly their calls and then has the result.  A dialogue that goes on
with another ends with the exchanges of both, and every dialogue ends, whatever the control
process replies.
-/

namespace ControlRelay.Control

/-- A call and the reply to it. -/
structure Exchange where
  call : Call
  reply : Reply

namespace Dialogue

variable {α β : Type}

/-- Given the replies, the dialogue makes the calls and ends with the result. -/
def Ends (d : Dialogue α) (exchanges : List Exchange) (result : α) : Prop :=
  d.run (exchanges.map Exchange.reply) = (exchanges.map Exchange.call, some result)

theorem ends_pure_iff {a result : α} {exchanges : List Exchange} :
    (pure a : Dialogue α).Ends exchanges result ↔ exchanges = [] ∧ result = a
  := by
  constructor
  · intro ends
    obtain ⟨calls, results⟩ := Prod.mk.inj ends
    use List.map_eq_nil_iff.1 calls.symm, (Option.some.inj results).symm
  · rintro ⟨rfl, rfl⟩
    rfl

theorem ends_ask_iff {call : Call} {next : Reply → Dialogue α} {exchanges : List Exchange}
    {result : α} :
    (ask call next).Ends exchanges result ↔
      ∃ reply rest, exchanges = ⟨call, reply⟩ :: rest ∧ (next reply).Ends rest result
  := by
  constructor
  · intro ends
    cases exchanges with
    | nil => cases congrArg Prod.snd ends
    | cons exchange rest =>
      obtain ⟨asked, reply⟩ := exchange
      obtain ⟨calls, results⟩ := Prod.mk.inj ends
      obtain ⟨rfl, calls⟩ := List.cons.inj calls
      use reply, rest, rfl, Prod.ext calls results
  · rintro ⟨reply, rest, rfl, ends⟩
    obtain ⟨calls, results⟩ := Prod.mk.inj ends
    apply Prod.ext (congrArg (call :: ·) calls) results

theorem ends_bind_iff {d : Dialogue α} {f : α → Dialogue β} {exchanges : List Exchange}
    {result : β} :
    (d >>= f).Ends exchanges result ↔
      ∃ a first rest, exchanges = first ++ rest ∧ d.Ends first a ∧ (f a).Ends rest result
  := by
  induction d generalizing exchanges with
  | done a =>
    constructor
    · intro ends
      use a, [], exchanges, rfl, rfl, ends
    · rintro ⟨b, first, rest, rfl, done, ends⟩
      obtain ⟨rfl, rfl⟩ := ends_pure_iff.1 done
      apply ends
  | ask call next ih =>
    have resumed : (ask call next >>= f) = ask call fun reply => next reply >>= f := rfl
    rw [resumed, ends_ask_iff]
    constructor
    · rintro ⟨reply, rest, rfl, ends⟩
      obtain ⟨a, first, rest, rfl, asked, ends⟩ := (ih reply).1 ends
      use a, ⟨call, reply⟩ :: first, rest, rfl
      use ends_ask_iff.2 ⟨reply, first, rfl, asked⟩
    · rintro ⟨a, first, rest, rfl, asked, ends⟩
      obtain ⟨reply, first, rfl, asked⟩ := ends_ask_iff.1 asked
      use reply, first ++ rest, rfl
      apply (ih reply).2
      use a, first, rest

/-- A dialogue that only works on the result of another has the exchanges of that. -/
theorem ends_of_last {d : Dialogue α} {f : α → Dialogue β} {exchanges : List Exchange}
    {result : β} (last : ∀ a, ∃ b, f a = pure b) (ends : (d >>= f).Ends exchanges result) :
    ∃ a, d.Ends exchanges a ∧ f a = pure result
  := by
  obtain ⟨a, first, rest, rfl, ended, given⟩ := ends_bind_iff.1 ends
  obtain ⟨b, same⟩ := last a
  rw [same] at given
  obtain ⟨rfl, rfl⟩ := ends_pure_iff.1 given
  use a, by rwa [List.append_nil]

/-- Whatever replies are there for its calls, a dialogue ends after some of them. -/
theorem exists_ends (d : Dialogue α) (replies : Nat → Reply) :
    ∃ exchanges result, d.Ends exchanges result ∧
      exchanges.map Exchange.reply = (List.range exchanges.length).map replies
  := by
  induction d generalizing replies with
  | done a =>
    use [], a
    constructor <;> rfl
  | ask call next ih =>
    obtain ⟨exchanges, result, ends, given⟩ := ih (replies 0) fun n => replies (n + 1)
    use ⟨call, replies 0⟩ :: exchanges, result
    use ends_ask_iff.2 ⟨replies 0, exchanges, rfl, ends⟩
    rw [List.length_cons, List.range_succ_eq_map, List.map_cons, List.map_cons, List.map_map, given]
    rfl

end Dialogue

end ControlRelay.Control
