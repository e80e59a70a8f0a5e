import ControlRelay.Proofs.Registry.Effects
import ControlRelay.Proofs.Relay.Linking
import ControlRelay.Relay.Requests

/-!
# Processes that drop an interest

A process releases a connection when it will drop the interest of the connection, if that has ended.
This depends on the process alone: whatever others do meanwhile, as long as the connection is not
there, the process comes to a step after which the connection has no interest.
-/

namespace ControlRelay

open Program

/-- Whether the table has an entry for a connection. -/
def Registry.HasEntry (r : Registry) (id : ConnectionId) : Prop :=
  (r.table.interest? (.connection id)).isSome = true

instance (r : Registry) (id : ConnectionId) : Decidable (r.HasEntry id) :=
  inferInstanceAs (Decidable ((r.table.interest? (.connection id)).isSome = true))

/-- The end of a subscription: a connection that has ended in the meantime keeps no interest. -/
def Action.confirm (id : ConnectionId) (answer : Except RelayError Snapshot) :
    Action (Except RelayError Json) := do
  if ← inspect (·.hub.contains id) then pure (snapshotAnswer answer)
  else
    let _ ← removeSubscriber (.connection id)
    pure (.error (.unknownClient id))

theorem Action.subscribeFor_eq (id : ConnectionId) (kind : TransportKind) (objects : Json) :
    subscribeFor id kind objects =
      if kind.supportsPush then subscribe (.connection id) objects >>= confirm id
      else peek objects >>= fun answer => pure (snapshotAnswer answer)
  := rfl

namespace Relay

/-- However the process goes on while the connection is not there, it comes to a step after which
the connection has no entry: as long as it has one, the process still releases it. -/
inductive Releases (id : ConnectionId) : RelayProcess → Prop where
  | step {run : Relay → Relay × RelayProcess}
      (next : ∀ r : Relay, r.hub.contains id = false → (run r).1.registry.HasEntry id →
        Releases id (run r).2) :
      Releases id (.step run)
  | wait {signals : List Signal} {deadline : Option Nat} {p : RelayProcess}
      (next : Releases id p) :
      Releases id (.wait signals deadline p)
  | fork {child p : RelayProcess} (next : Releases id p) : Releases id (.fork child p)

section

variable {α : Type} {id : ConnectionId}

/-- What is done before makes no difference, as long as it comes to an end. -/
theorem releases_of_keeps {steps : Relay → Relay → Prop} {rest : RelayProcess → Prop}
    {a : Action α} (keeps : Program.Keeps steps rest a) {k : α → RelayProcess}
    (releases : ∀ x, Releases id (k x)) :
    Releases id (a k)
  := by
  have comes (p : RelayProcess) (keeps : Process.Keeps steps rest (fun q => ∃ x, q = k x) p) :
      Releases id p
    := by
    generalize ends_eq : (fun q => ∃ x, q = k x) = ends at keeps
    induction keeps with
    | ended here =>
      rw [← ends_eq] at here
      obtain ⟨x, rfl⟩ := here
      apply releases
    | step _ _ ih => exact .step fun r _ _ => ih r ends_eq
    | wait _ ih => exact .wait (ih ends_eq)
    | fork _ _ _ ih => exact .fork (ih ends_eq)
  exact comes _ (keeps k)

/-- A dialogue comes to one of its ends. -/
theorem releases_converse {dialogue : Control.Dialogue α} {k : α → RelayProcess}
    (releases : ∀ exchanges x, dialogue.Ends exchanges x → Releases id (k x)) :
    Releases id (Action.converse dialogue k)
  := by
  induction dialogue with
  | done x => exact releases [] x rfl
  | ask c next ih =>
    apply releases_of_keeps (Action.links_call c)
    intro reply
    apply ih reply
    intro exchanges x ends
    exact releases _ x (Control.Dialogue.ends_ask_iff.2 ⟨reply, exchanges, rfl, ends⟩)

/-- To remove an interest is to release the connection. -/
theorem releases_removeSubscriber (id : ConnectionId) (k : Bool → RelayProcess) :
    Releases id (Action.removeSubscriber (.connection id) k)
  := by
  have steps : Program.Keeps (fun _ _ => True) (fun _ => True) Action.lockRegistry := by
    apply Keeps.bind (Keeps.atomically fun _ => trivial)
    rintro (_ | ticket)
    · apply Keeps.pure
    · apply Keeps.await
  apply releases_of_keeps steps
  intro
  apply Releases.step
  intro r _ _
  apply releases_converse
  rintro exchanges ⟨registry, hadInterest⟩ ends
  apply Releases.step
  intro r' _ entry
  exfalso
  have written : (Action.unlocked { r' with registry }).registry = registry := by
    unfold Action.unlocked
    dsimp only
    split <;> rfl
  change (Action.unlocked { r' with registry }).registry.HasEntry id at entry
  rw [written] at entry
  unfold Registry.HasEntry at entry
  rw [(Registry.settles_of_remove ends).table_eq,
    SubscriptionTable.interest?_removeClient_self] at entry
  cases entry

theorem releases_confirm (id : ConnectionId) (answer : Except RelayError Snapshot)
    (k : Except RelayError Json → RelayProcess) :
    Releases id (Action.confirm id answer k)
  := by
  apply Releases.step
  intro r lost _
  dsimp only
  rw [lost]
  apply releases_removeSubscriber

end

end Relay

end ControlRelay
