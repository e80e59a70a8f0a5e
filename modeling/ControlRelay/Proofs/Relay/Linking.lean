import ControlRelay.Proofs.Process.Keeping
import ControlRelay.Proofs.Scheduler.Routine
import ControlRelay.Relay.Services

/-!
# Steps at the link

The services that connect to the control process, the calls of it and the listeners take steps that
leave the clients and the registry alone.  `Links` lists these steps, and the actions keep to them.
-/

namespace ControlRelay

open Program

namespace Relay

/-- A step at the link, or of a service that has nothing to do with clients. -/
inductive Links (r : Relay) : Relay → Prop where
  | refl : Links r r
  | begins (call : Control.Call) (timeout : Nat) : Links r (Action.beginCall r call timeout).1
  | takes (sent : SentCall) : Links r (Action.takeOutcome r sent).1
  | scripts (script : Script) : Links r { r with script := some script }
  | attaches (wire : Nat) (f : Wire → Wire) :
      Links r ((r.onWire wire f).onLink (·.attach wire))
  | opens : Links r (Action.openSocket r).1
  | writes (wire : Nat) : Links r (Action.writeStep wire r).1
  | finishes (service : Nat) (outcome : ServiceOutcome) : Links r (r.finish service outcome)
  | abandons (wire service : Nat) (outcome : ServiceOutcome) :
      Links r ((Action.abandonWire wire r).finish service outcome)

/-- Clients, registry and evictions are left alone. -/
structure Aside (r r' : Relay) : Prop where
  hub : r'.hub = r.hub
  registry : r'.registry = r.registry
  registryLock : r'.registryLock = r.registryLock
  evictions : r'.evictions = r.evictions

section

variable {r r' r'' : Relay}

theorem Aside.refl (r : Relay) :
    Aside r r
  := ⟨rfl, rfl, rfl, rfl⟩

theorem Aside.trans (first : Aside r r') (second : Aside r' r'') :
    Aside r r''
  := by
  constructor
  · rw [second.hub, first.hub]
  · rw [second.registry, first.registry]
  · rw [second.registryLock, first.registryLock]
  · rw [second.evictions, first.evictions]

theorem aside_linkOutputs (r : Relay) (outputs : List LinkOutput) :
    Aside r (outputs.foldl linkOutput r)
  := by
  have kept (r : Relay) (output : LinkOutput) : Aside r (r.linkOutput output) := by
    cases output with
    | outcome => exact ⟨rfl, rfl, rfl, rfl⟩
    | event event =>
      rw [linkOutput]
      split <;> exact ⟨rfl, rfl, rfl, rfl⟩
  induction outputs generalizing r with
  | nil => exact .refl r
  | cons output outputs ih => exact (kept r output).trans (ih _)

theorem aside_onLink (r : Relay) (step : Link → Link.Step) :
    Aside r (r.onLink step)
  := by
  have kept (link : Link) (outputs : List LinkOutput) :
      Aside r (outputs.foldl linkOutput { r with link })
    := by
    have changed : Aside r { r with link } := ⟨rfl, rfl, rfl, rfl⟩
    exact changed.trans (aside_linkOutputs _ outputs)
  unfold onLink
  dsimp only
  split
  next =>
    split
    next => apply kept
    next =>
      have raised (r : Relay) (signal : Signal) : Aside r (r.raise signal) := ⟨rfl, rfl, rfl, rfl⟩
      exact (kept _ _).trans (raised _ _)
  next => apply kept

theorem aside_beginCall (r : Relay) (call : Control.Call) (timeout : Nat) :
    Aside r (Action.beginCall r call timeout).1
  := by
  unfold Action.beginCall
  generalize r.link.call _ _ _ = result
  obtain ⟨⟨link, outputs⟩, begun⟩ := result
  have kept := aside_linkOutputs { r with link } outputs
  cases begun with
  | error e => exact ⟨kept.hub, kept.registry, kept.registryLock, kept.evictions⟩
  | ok sent => exact ⟨kept.hub, kept.registry, kept.registryLock, kept.evictions⟩

/-- Steps at the link leave the clients, the registry and the evictions alone. -/
theorem Links.aside (links : Links r r') :
    Aside r r'
  := by
  cases links with
  | refl => exact .refl r
  | begins call timeout => apply aside_beginCall
  | takes sent =>
    unfold Action.takeOutcome
    split <;> exact ⟨rfl, rfl, rfl, rfl⟩
  | scripts => exact ⟨rfl, rfl, rfl, rfl⟩
  | attaches wire f =>
    have kept := aside_onLink (r.onWire wire f) (·.attach wire)
    exact ⟨kept.hub, kept.registry, kept.registryLock, kept.evictions⟩
  | opens =>
    unfold Action.openSocket
    split <;> exact ⟨rfl, rfl, rfl, rfl⟩
  | writes wire =>
    unfold Action.writeStep
    dsimp only
    split
    next => exact ⟨rfl, rfl, rfl, rfl⟩
    next => split <;> exact ⟨rfl, rfl, rfl, rfl⟩
  | finishes => exact ⟨rfl, rfl, rfl, rfl⟩
  | abandons wire service outcome =>
    have kept := aside_onLink ((r.onWire wire fun w => { w with isRead := false }).raise
      (.arrived wire)) fun link => link.lose r.link.generation
    exact ⟨kept.hub, kept.registry, kept.registryLock, kept.evictions⟩

end

/-- Where a process of these services is over or goes on by name. -/
def LinkRests : RelayProcess → Prop
  | .done => True
  | .enter (.wireReader _) => True
  | .enter (.wireWriter _) => True
  | .enter (.linkLoop _) => True
  | .enter (.linkWatch _ _) => True
  | .enter (.listener _ _ _) => True
  | _ => False

/-- A process of these services. -/
abbrev LinkProcess : RelayProcess → Prop := Process.Keeps Links LinkRests LinkRests

end Relay

namespace Action

/-- An action that takes only steps at the link. -/
abbrev Links {α : Type} (a : Action α) : Prop := Program.Keeps Relay.Links Relay.LinkRests a

theorem links_inspect {α : Type} (f : Relay → α) :
    Links (inspect f)
  := Keeps.inspect (fun _ => .refl) f

/-! ### Calls of the control process -/

theorem links_callLink (call : Control.Call) (timeout : Nat) :
    Links (callLink call timeout)
  := by
  apply Keeps.bind
  · apply Keeps.atomically
    intro r
    apply Relay.Links.begins
  · intro begun
    cases begun with
    | error e => apply Keeps.pure
    | ok begun =>
      apply Keeps.bind (Keeps.await _ _)
      intro
      apply Keeps.atomically
      intro r
      apply Relay.Links.takes

theorem links_takeReleased (r : Relay) (number : Nat) :
    Relay.Links r (takeReleased r number).1
  := by
  unfold takeReleased
  split
  next => apply Relay.Links.refl
  next =>
    split
    next => apply Relay.Links.refl
    next => apply Relay.Links.scripts

theorem links_call (c : Control.Call) :
    Links (call c)
  := by
  apply Keeps.bind
  · apply Keeps.atomically
    intro r
    dsimp only
    split
    next => apply Relay.Links.refl
    next => apply Relay.Links.scripts
  · intro begun
    cases begun with
    | none =>
      apply Keeps.bind (links_inspect _)
      intro timeout
      apply Keeps.bind (links_callLink c timeout)
      intro outcome
      apply Keeps.pure
    | some begun =>
      obtain ⟨number, reply⟩ := begun
      cases reply with
      | some reply => apply Keeps.pure
      | none =>
        apply Keeps.bind (Keeps.await _ _)
        intro
        apply Keeps.atomically
        intro r
        apply links_takeReleased

theorem links_converse {α : Type} (dialogue : Control.Dialogue α) :
    Links (converse dialogue)
  := by
  induction dialogue with
  | done a => apply Keeps.pure
  | ask c next ih =>
    apply Keeps.bind (links_call c)
    intro reply
    apply ih reply

theorem links_refreshStatus :
    Links refreshStatus
  := by
  apply Keeps.bind (links_inspect _)
  intro timeout
  apply Keeps.bind (links_callLink _ timeout)
  intro outcome
  cases outcome with
  | error e => apply Keeps.pure
  | ok result =>
    dsimp only
    split
    next => apply Keeps.pure
    next => apply Keeps.pure

/-! ### Services -/

theorem links_attach (k : Nat) :
    Links (attach k)
  := by
  apply Keeps.bind
  · apply Keeps.update
    intro r
    apply Relay.Links.attaches
  · intro
    apply Keeps.bind
    · apply Keeps.fork (.ended trivial)
    · intro
      apply Keeps.bind
      · apply Keeps.fork (.ended trivial)
      · intro
        apply Keeps.fork
        apply Keeps.process links_refreshStatus
        intro
        exact .ended trivial

theorem links_finish (service : Nat) (outcome : ServiceOutcome) :
    Links (update (·.finish service outcome))
  := by
  apply Keeps.update
  intro r
  apply Relay.Links.finishes

theorem links_listen (kind : ListenerKind) (service : Nat) (switch : Switch) (isTaken : Bool) :
    Links (listen kind service switch isTaken)
  := by
  unfold listen
  split
  next =>
    apply Keeps.bind (links_finish _ _)
    intro
    apply Keeps.pure
  next =>
    apply Keeps.bind (links_inspect _)
    rintro ⟨isOn, now⟩
    dsimp only
    split
    next =>
      apply Keeps.bind
      · apply Keeps.fork (.ended trivial)
      · intro
        apply Keeps.pure
    next =>
      apply Keeps.bind (links_finish _ _)
      intro
      apply Keeps.pure

theorem links_wireWriter (k : Nat) :
    Relay.LinkProcess (continue? (wireWriter k))
  := by
  apply Keeps.process_bind
  · apply Keeps.atomically
    intro r
    apply Relay.Links.writes
  · intro turn
    cases turn with
    | wrote => exact .ended trivial
    | ended => exact .ended trivial
    | idle => exact .wait (.ended trivial)

theorem links_pauseLink (s : LinkService) :
    Relay.LinkProcess (continue? (pauseLink s))
  := by
  apply Keeps.process_bind (links_inspect _)
  intro now
  exact .wait (.ended trivial)

theorem links_linkLoop (s : LinkService) :
    Relay.LinkProcess (continue? (linkLoop s))
  := by
  apply Keeps.process_bind (links_inspect _)
  intro isOn
  cases isOn with
  | true =>
    apply Keeps.process_bind
    · apply Keeps.atomically
      intro r
      apply Relay.Links.opens
    · intro wire
      cases wire with
      | none => apply links_pauseLink
      | some k =>
        apply Keeps.process_bind (links_attach k)
        intro
        exact .ended trivial
  | false =>
    apply Keeps.process_bind (links_finish _ _)
    intro
    exact .ended trivial

theorem links_linkWatch (s : LinkService) (k : Nat) :
    Relay.LinkProcess (continue? (linkWatch s k))
  := by
  apply Keeps.process_bind (links_inspect _)
  rintro ⟨isRead, now⟩
  cases isRead with
  | false => apply links_pauseLink
  | true =>
    apply Keeps.process_bind (Keeps.await _ _)
    intro
    apply Keeps.process_bind (links_inspect _)
    rintro ⟨isRead, isOn⟩
    dsimp only
    split
    next => exact .ended trivial
    next =>
      apply Keeps.process_bind
      · apply Keeps.update
        intro r
        apply Relay.Links.abandons
      · intro
        exact .ended trivial

theorem links_listener (service : Nat) (switch : Switch) (time : Nat) :
    Relay.LinkProcess (continue? (listener service switch time))
  := by
  apply Keeps.process_bind (Keeps.await _ _)
  intro
  apply Keeps.process_bind (links_inspect _)
  intro isOn
  cases isOn with
  | true => exact .ended trivial
  | false =>
    apply Keeps.process_bind (links_finish _ _)
    intro
    exact .ended trivial

end Action

end ControlRelay
