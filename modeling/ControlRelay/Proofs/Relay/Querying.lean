import ControlRelay.Proofs.Process.Recording
import ControlRelay.Proofs.Registry.Querying
import ControlRelay.Proofs.Registry.Viewing
import ControlRelay.Proofs.Relay.Locking

/-!
# Queries beside other work

The registry is free again while the control process is asked for what the cache does not give, so
others may change it in the meantime.  The answer is made from the registry as it was read, and the
query writes nothing back but that, before anything else of its own.
-/

namespace ControlRelay

open Control (Dialogue Exchange)
open Program (Ensures)

/-- The action that answers a request. -/
def Registry.Asking.action (objects : Json) :
    Registry.Asking → Action (Except RelayError Snapshot)
  | query => Action.query objects
  | peek => Action.peek objects

namespace Action

/-- The registry stays as it is. -/
def LeavesRegistry (r r' : Relay) : Prop := r'.registry = r.registry

/-- The registry stays as it is, or is written back as it was read, with nothing but steps of others
in between. -/
def WritesBack (outside : Relay → Relay → Prop) (before r r' : Relay) : Prop :=
  r'.registry = r.registry ∨ outside before r ∧ r'.registry = before.registry

section

variable {α : Type} {outside : Relay → Relay → Prop} {r before : Relay}
  {deeds : List (Deed Relay Signal Routine)}

theorem writesBack_of_leaves (leaves : Deed.Within LeavesRegistry deeds) :
    Deed.Within (WritesBack outside before) deeds
  := leaves.mono fun _ _ => .inl

/-- A dialogue is carried out to one of its ends, beside the registry. -/
theorem leaves_converse (dialogue : Dialogue α) :
    Ensures outside r (converse dialogue) fun deeds _ a =>
      Deed.Within LeavesRegistry deeds ∧ ∃ exchanges, dialogue.Ends exchanges a
  := by
  induction dialogue generalizing r with
  | done a =>
    apply Ensures.pure
    use Deed.within_nil, []
    rfl
  | ask c next ih =>
    apply Ensures.bind
    apply (Ensures.of_keeps (links_call c)).mono
    intro deeds r₁ reply links
    have leaves : Deed.Within LeavesRegistry deeds := links.mono fun _ _ step => step.aside.registry
    apply (ih reply).mono
    rintro more r' a ⟨leaves', exchanges, ends⟩
    use leaves.append leaves', ⟨c, reply⟩ :: exchanges
    exact Dialogue.ends_ask_iff.2 ⟨reply, exchanges, rfl, ends⟩

theorem leaves_lockRegistry :
    Ensures outside r lockRegistry fun deeds _ _ => Deed.Within LeavesRegistry deeds
  := by
  have keeps : Program.Keeps LeavesRegistry (fun _ => True) lockRegistry := by
    apply Program.Keeps.bind
    · apply Program.Keeps.atomically
      intro r
      rfl
    · intro ticket
      cases ticket with
      | none => apply Program.Keeps.pure
      | some ticket => apply Program.Keeps.await
  apply Ensures.of_keeps keeps

/-- What is read under the lock is written back as it was read. -/
theorem writesBack_withRegistry (f : Registry → α) :
    Ensures outside r (withRegistry fun registry => pure (registry, f registry))
      fun deeds _ a => ∃ before : Relay, .stepped before before ∈ deeds ∧
        a = f before.registry ∧ Deed.Within (WritesBack outside before) deeds
  := by
  apply Ensures.bind
  apply leaves_lockRegistry.mono
  intro locking r₁ _ leaves
  apply Ensures.bind
  apply Ensures.inspect
  intro before _
  apply Ensures.bind
  apply Ensures.pure
  apply Ensures.bind
  apply Ensures.update
  intro r₂ others
  apply Ensures.pure
  have looks : WritesBack outside before before before := .inl rfl
  have writes : WritesBack outside before r₂ (unlocked { r₂ with registry := before.registry }) :=
    .inr ⟨others, (unlocked_parts r₂ before.registry).1⟩
  refine ⟨before, by simp, rfl, (writesBack_of_leaves leaves).append ?_⟩
  exact (Deed.within_step looks).append (Deed.within_step writes)

/-- The answer is made from the registry as it was read. -/
theorem ensures_answered (request : Except InterestError Interest) :
    Ensures outside r (answerQuery request) fun deeds _ result =>
      ∃ (before : Relay) (exchanges : List Exchange),
        (before.registry.answerQuery request).Ends exchanges (before.registry, .snapshot result) ∧
        (deeds = [] ∨ .stepped before before ∈ deeds) ∧
        Deed.Within (WritesBack outside before) deeds
  := by
  cases request with
  | error e =>
    apply Ensures.pure
    exact ⟨r, [], rfl, .inl rfl, Deed.within_nil⟩
  | ok request =>
    apply Ensures.bind
    apply (writesBack_withRegistry fun registry => registry.cachedPart request).mono
    rintro reading r₁ _ ⟨before, read, rfl, back⟩
    apply (leaves_converse _).mono
    rintro asking r₂ result ⟨leaves, exchanges, ends⟩
    refine ⟨before, exchanges, ?_, .inr (List.mem_append_left _ read),
      back.append (writesBack_of_leaves leaves)⟩
    apply Dialogue.ends_bind_iff.2
    use result, exchanges, [], (List.append_nil exchanges).symm, ends
    rfl

end

end Action

end ControlRelay
