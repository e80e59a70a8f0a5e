import ControlRelay.Proofs.Process.Recording
import ControlRelay.Proofs.Interest.Request
import ControlRelay.Proofs.Registry.Moves
import ControlRelay.Proofs.Relay.Carrying

/-!
# Requests that are refused

A request is refused when it is not understood, not allowed or not possible as things stand.  All of
this is found out before anything is done for it, so a request that is refused has changed nothing:
every step taken for it leaves the relay as it was, and no process was started.  The answers of the
control process are no part of this, as its calls never fail with a refusal.
-/

namespace ControlRelay

open Program

/-- Whether the error refuses a request. -/
def RelayError.isRefusal : RelayError → Bool
  | invalidParams _ => true
  | invalidInterest _ => true
  | methodNotFound _ => true
  | unauthorized => true
  | alreadyIdentified _ => true
  | jobNotFound _ => true
  | queueStateConflict _ _ => true
  | _ => false

/-- The codes of these errors. -/
def RelayError.refusalCodes : List Int :=
  [Rpc.invalidParamsCode, Rpc.methodNotFoundCode, -32007, -32008, -32006, -32005]

theorem RelayError.isRefusal_iff (e : RelayError) :
    e.isRefusal = true ↔ e.code ∈ refusalCodes
  := by
  cases e <;> simp [isRefusal, code, refusalCodes, Rpc.invalidParamsCode, Rpc.methodNotFoundCode,
    Rpc.internalErrorCode]

/-- A reply as a call on the link has it. -/
def IsOfLink (reply : Reply) : Prop :=
  ∃ outcome : CallOutcome, reply = outcome.mapError LinkError.toRelayError

/-- A call on the link does not fail with a refusal. -/
theorem isRefusal_of_link {reply : Reply} (ofLink : IsOfLink reply) {e : RelayError}
    (failed : reply = .error e) :
    e.isRefusal = false
  := by
  obtain ⟨outcome, same⟩ := ofLink
  rw [failed] at same
  cases outcome with
  | ok result => cases same
  | error failure =>
    rw [Except.error.inj same]
    cases failure <;> rfl

/-- A script that answers as a link does. -/
structure Script.IsOfLink (script : Script) : Prop where
  answers : ∀ {method replies reply}, script.replies.get? method = some replies →
    .answer reply ∈ replies → ControlRelay.IsOfLink reply
  released : ∀ {number reply}, (number, reply) ∈ script.released → ControlRelay.IsOfLink reply

/-- Calls are answered by a link, or as a link answers them. -/
def Relay.HearsLink (r : Relay) : Prop :=
  ∀ script, r.script = some script → script.IsOfLink

/-! ### Failures of the control process -/

namespace Registry

open Control (Dialogue Exchange)

/-- The answer fails only as one of the calls did. -/
def Blames {α : Type} (exchanges : List Exchange) (answer : Except RelayError α) : Prop :=
  ∀ e, answer = .error e → ∃ exchange ∈ exchanges, exchange.reply = .error e

section

variable {α : Type} {exchanges : List Exchange} {r r' : Registry}

theorem blames_ok (exchanges : List Exchange) (a : α) :
    Blames exchanges (.ok a)
  := by
  rintro e ⟨⟩

/-- One call whose failure is passed on. -/
theorem blames_of_ask {call : Control.Call} {f : Json → α} {answer : Except RelayError α}
    {next : Reply → Dialogue (Except RelayError α)}
    (passes : ∀ reply, next reply = .done (reply.map f))
    (ends : (Dialogue.ask call next).Ends exchanges answer) :
    Blames exchanges answer
  := by
  obtain ⟨reply, rest, rfl, answered⟩ := Dialogue.ends_ask_iff.1 ends
  rw [passes] at answered
  obtain ⟨rfl, rfl⟩ := Dialogue.ends_pure_iff.1 answered
  intro e failed
  cases reply with
  | ok result => cases failed
  | error e' =>
    cases failed
    exact ⟨_, List.mem_singleton_self _, rfl⟩

theorem blames_complete {p : PartialSnapshot} {answer : Except RelayError Snapshot}
    (ends : p.complete.Ends exchanges answer) :
    Blames exchanges answer
  := by
  unfold PartialSnapshot.complete at ends
  split at ends
  next =>
    obtain ⟨-, rfl⟩ := Dialogue.ends_pure_iff.1 ends
    apply blames_ok
  next =>
    refine blames_of_ask (f := p.fill) (fun reply => ?_) ends
    cases reply <;> rfl

theorem blames_listObjects {answer : Reply} (ends : listObjects.Ends exchanges answer) :
    Blames exchanges answer
  := by
  refine blames_of_ask (f := fun result => (result.get? "objects").getD result)
    (fun reply => ?_) ends
  cases reply <;> rfl

theorem blames_sync {outcome : Except RelayError Unit}
    (ends : r.sync.Ends exchanges (r', outcome)) :
    Blames exchanges outcome
  := by
  cases syncEnds_of_ends ends with
  | failed =>
    intro e failed
    cases failed
    exact ⟨_, List.mem_singleton_self _, rfl⟩
  | _ => apply blames_ok

/-- Once the subscription is settled, the answer fails as it did or as a query does. -/
theorem blames_answered {calls queries : List Exchange} {outcome : Except RelayError Unit}
    {request : Interest} {answer : Except RelayError Snapshot} (blames : Blames calls outcome)
    (ends : Dialogue.Ends
      (match outcome with
      | .error e => pure (r, .error e)
      | .ok () => do
        let answer ← (r.cachedPart request).complete
        pure (r, answer))
      queries (r', answer)) :
    Blames (calls ++ queries) answer
  := by
  cases outcome with
  | error e =>
    obtain ⟨rfl, same⟩ := Dialogue.ends_pure_iff.1 ends
    cases same
    rw [List.append_nil]
    intro e' failed
    cases failed
    exact blames e rfl
  | ok =>
    obtain ⟨answer, completed, same⟩ := Dialogue.ends_of_last (fun _ => ⟨_, rfl⟩) ends
    obtain ⟨-, rfl⟩ := Prod.mk.inj (Dialogue.done.inj same)
    intro e failed
    obtain ⟨exchange, mem, reply⟩ := blames_complete completed e failed
    exact ⟨exchange, List.mem_append_right _ mem, reply⟩

theorem blames_subscribe {who : Subscriber} {changes : InterestChanges}
    {answer : Except RelayError Snapshot}
    (ends : (r.subscribe who changes).Ends exchanges (r', answer)) :
    Blames exchanges answer
  := by
  unfold subscribe at ends
  dsimp only at ends
  split at ends
  next =>
    obtain ⟨⟨r₁, outcome⟩, calls, queries, rfl, synced, answered⟩ := Dialogue.ends_bind_iff.1 ends
    exact blames_answered (blames_sync synced) answered
  next =>
    obtain ⟨⟨r₁, outcome⟩, calls, queries, rfl, unsynced, answered⟩ :=
      Dialogue.ends_bind_iff.1 ends
    obtain ⟨rfl, same⟩ := Dialogue.ends_pure_iff.1 unsynced
    obtain ⟨rfl, rfl⟩ := Prod.mk.inj same
    exact blames_answered (blames_ok [] ()) answered

end

end Registry

namespace Relay

section

variable {r : Relay}

theorem script_beginCall (r : Relay) (call : Control.Call) (timeout : Nat) :
    (Action.beginCall r call timeout).1.script = r.script
  := by
  have passes (link : Link) (outputs : List LinkOutput) :
      (outputs.foldl linkOutput { r with link }).script = r.script
    := by
    apply foldl_keeps Relay.script
    intro r output
    cases output with
    | outcome => rfl
    | event event =>
      rw [linkOutput]
      split <;> rfl
  unfold Action.beginCall
  generalize r.link.call _ _ _ = result
  obtain ⟨⟨link, outputs⟩, begun⟩ := result
  cases begun with
  | error e => apply passes
  | ok sent => apply passes

theorem script_takeOutcome (r : Relay) (sent : SentCall) :
    (Action.takeOutcome r sent).1.script = r.script
  := by
  unfold Action.takeOutcome
  split <;> rfl

/-- A script that answers as a link does goes on doing so. -/
theorem isOfLink_beginScripted {script : Script} (ofLink : script.IsOfLink) (call : Control.Call) :
    (Action.beginScripted script call).1.IsOfLink ∧
      ∀ reply, (Action.beginScripted script call).2.2 = some reply → IsOfLink reply
  := by
  have empty : IsOfLink (.ok (.ofMembers [])) := ⟨.ok (.ofMembers []), rfl⟩
  unfold Action.beginScripted
  dsimp only
  cases planned : script.replies.get? call.method with
  | none =>
    rw [Option.getD_none, List.head?_nil]
    refine ⟨⟨ofLink.answers, ofLink.released⟩, ?_⟩
    rintro reply ⟨⟩
    exact empty
  | some replies =>
    rw [Option.getD_some]
    cases replies with
    | nil =>
      refine ⟨⟨ofLink.answers, ofLink.released⟩, ?_⟩
      rintro reply ⟨⟩
      exact empty
    | cons first rest =>
      -- the replies are left as they are, or the first one is used up
      have shortened : ∀ {method replies reply},
          (script.replies.insert call.method rest).get? method = some replies →
            .answer reply ∈ replies → IsOfLink reply
        := by
        intro method replies reply found mem
        rw [SortedMap.get?_insert] at found
        split at found
        next =>
          obtain rfl := Option.some.inj found
          exact ofLink.answers planned (List.mem_cons_of_mem _ mem)
        next => exact ofLink.answers found mem
      have own : ∀ reply, first = .answer reply → IsOfLink reply := by
        rintro reply rfl
        exact ofLink.answers planned List.mem_cons_self
      cases rest with
      | nil =>
        cases first with
        | answer reply =>
          refine ⟨⟨ofLink.answers, ofLink.released⟩, ?_⟩
          rintro _ ⟨⟩
          exact own reply rfl
        | hold =>
          refine ⟨⟨ofLink.answers, ofLink.released⟩, ?_⟩
          rintro _ ⟨⟩
      | cons next rest =>
        cases first with
        | answer reply =>
          refine ⟨⟨shortened, ofLink.released⟩, ?_⟩
          rintro _ ⟨⟩
          exact own reply rfl
        | hold =>
          refine ⟨⟨shortened, ofLink.released⟩, ?_⟩
          rintro _ ⟨⟩

theorem isOfLink_takeReleased (hears : r.HearsLink) (number : Nat) :
    (Action.takeReleased r number).1.HearsLink ∧ IsOfLink (Action.takeReleased r number).2
  := by
  have lost : IsOfLink (.error .linkDisconnected) := ⟨.error .disconnected, rfl⟩
  unfold Action.takeReleased
  split
  next => exact ⟨hears, lost⟩
  next script scripted =>
    have ofLink := hears script scripted
    split
    next => exact ⟨hears, lost⟩
    next number reply found =>
      constructor
      · rintro script' ⟨⟩
        exact ⟨ofLink.answers, fun mem => ofLink.released (List.mem_of_mem_filter mem)⟩
      · exact ofLink.released (List.mem_of_find?_eq_some found)

end

end Relay

namespace Action

section

variable {α : Type} {outside : Relay → Relay → Prop} {r : Relay}

/-- What others do leaves it so that calls are answered as a link answers them. -/
def KeepsLink (outside : Relay → Relay → Prop) : Prop :=
  ∀ r r', outside r r' → r.HearsLink → r'.HearsLink

/-- What an action ensures while others act in between. -/
abbrev Ensures (outside : Relay → Relay → Prop) (r : Relay) (a : Action α)
    (post : List (Deed Relay Signal Routine) → Relay → α → Prop) : Prop :=
  Program.Ensures outside r a post

theorem ensures_callLink (kept : KeepsLink outside) (hears : r.HearsLink) (call : Control.Call)
    (timeout : Nat) :
    Ensures outside r (callLink call timeout) fun _ r' _ => r'.HearsLink
  := by
  apply Program.Ensures.bind
  apply Program.Ensures.atomically
  intro r₁ before
  have hears₁ : (beginCall r₁ call timeout).1.HearsLink := by
    unfold Relay.HearsLink
    rw [Relay.script_beginCall]
    exact kept r r₁ before hears
  cases (beginCall r₁ call timeout).2 with
  | error e => exact Program.Ensures.pure hears₁
  | ok sent =>
    apply Program.Ensures.bind
    apply Program.Ensures.await
    apply Program.Ensures.atomically
    intro r₂ before'
    unfold Relay.HearsLink
    rw [Relay.script_takeOutcome]
    exact kept _ r₂ before' hears₁

theorem ensures_call (kept : KeepsLink outside) (hears : r.HearsLink) (c : Control.Call) :
    Ensures outside r (call c) fun _ r' reply => r'.HearsLink ∧ IsOfLink reply
  := by
  apply Program.Ensures.bind
  apply Program.Ensures.atomically
  intro r₁ before
  have hears₁ := kept r r₁ before hears
  cases scripted : r₁.script with
  | none =>
    apply Program.Ensures.bind
    apply Program.Ensures.inspect
    intro r₂ before'
    apply Program.Ensures.bind
    apply (ensures_callLink kept (kept _ r₂ before' hears₁) c r₂.callTimeout).mono
    intro _ r₃ outcome hears₃
    exact Program.Ensures.pure ⟨hears₃, outcome, rfl⟩
  | some script =>
    have spec := Relay.isOfLink_beginScripted (hears₁ script scripted) c
    dsimp only
    generalize beginScripted script c = begun at spec ⊢
    obtain ⟨script', number, reply⟩ := begun
    obtain ⟨ofLink, answered⟩ := spec
    have hears' : Relay.HearsLink { r₁ with script := some script' } := by
      rintro _ ⟨⟩
      exact ofLink
    cases reply with
    | some reply => exact Program.Ensures.pure ⟨hears', answered reply rfl⟩
    | none =>
      apply Program.Ensures.bind
      apply Program.Ensures.await
      apply Program.Ensures.atomically
      intro r₂ before'
      exact Relay.isOfLink_takeReleased (kept _ r₂ before' hears') number

/-- A dialogue is carried out to one of its ends, and all replies are such as a link has them. -/
theorem ensures_converse (kept : KeepsLink outside) (hears : r.HearsLink)
    (dialogue : Control.Dialogue α) :
    Ensures outside r (converse dialogue) fun _ r' a => r'.HearsLink ∧
      ∃ exchanges, dialogue.Ends exchanges a ∧ ∀ exchange ∈ exchanges, IsOfLink exchange.reply
  := by
  induction dialogue generalizing r with
  | done a =>
    apply Program.Ensures.pure
    refine ⟨hears, [], rfl, ?_⟩
    rintro _ ⟨⟩
  | ask c next ih =>
    apply Program.Ensures.bind
    apply (ensures_call kept hears c).mono
    rintro _ r₁ reply ⟨hears₁, ofLink⟩
    apply (ih reply hears₁).mono
    rintro _ r' a ⟨hears', exchanges, ends, others⟩
    refine ⟨hears', ⟨c, reply⟩ :: exchanges, ?_, List.forall_mem_cons.2 ⟨ofLink, others⟩⟩
    exact Control.Dialogue.ends_ask_iff.2 ⟨reply, exchanges, rfl, ends⟩

theorem ensures_withRegistry (kept : KeepsLink outside) (hears : r.HearsLink)
    (f : Registry → Control.Dialogue (Registry × α)) :
    Ensures outside r (withRegistry f) fun _ r' a => r'.HearsLink ∧
      ∃ registry registry' exchanges, (f registry).Ends exchanges (registry', a) ∧
        ∀ exchange ∈ exchanges, IsOfLink exchange.reply
  := by
  apply Program.Ensures.bind
  have locks : Ensures outside r lockRegistry fun _ r' _ => r'.HearsLink := by
    apply Program.Ensures.bind
    apply Program.Ensures.atomically
    intro r₁ before
    have hears₁ := kept r r₁ before hears
    generalize r₁.registryLock.ask = asked
    obtain ⟨ticket, registryLock⟩ := asked
    cases ticket with
    | none => exact Program.Ensures.pure hears₁
    | some ticket => exact Program.Ensures.await _ _ hears₁
  apply locks.mono
  intro _ r₁ _ hears₁
  apply Program.Ensures.bind
  apply Program.Ensures.inspect
  intro r₂ before
  apply Program.Ensures.bind
  apply (ensures_converse kept (kept r₁ r₂ before hears₁) (f r₂.registry)).mono
  rintro _ r₃ ⟨registry', a⟩ ⟨hears₃, exchanges, ends, ofLink⟩
  apply Program.Ensures.bind
  apply Program.Ensures.update
  intro r₄ before'
  apply Program.Ensures.pure
  refine ⟨?_, r₂.registry, registry', exchanges, ends, ofLink⟩
  have same : (unlocked { r₄ with registry := registry' }).script = r₄.script := by
    unfold unlocked
    dsimp only
    split <;> rfl
  unfold Relay.HearsLink
  rw [same]
  exact kept r₃ r₄ before' hears₃

/-! ### Refusals -/

/-- If the answer refuses the request, nothing was done. -/
def Abstains (deeds : List (Deed Relay Signal Routine)) (answer : Except RelayError α) : Prop :=
  ∀ e, answer = .error e → e.isRefusal = true → ∀ deed ∈ deeds, deed.IsIdle

variable {deeds : List (Deed Relay Signal Routine)}

theorem abstains_ok (deeds : List (Deed Relay Signal Routine)) (a : α) :
    Abstains deeds (.ok a)
  := by
  rintro e ⟨⟩

theorem abstains_of_proceeds {answer : Except RelayError α}
    (proceeds : ∀ e, answer = .error e → e.isRefusal = false) :
    Abstains deeds answer
  := by
  intro e failed refused
  cases refused.symm.trans (proceeds e failed)

theorem abstains_of_idle {answer : Except RelayError α} (idle : ∀ deed ∈ deeds, deed.IsIdle) :
    Abstains deeds answer
  := fun _ _ _ => idle

/-- An answer that fails as a call did is no refusal. -/
theorem proceeds_of_blames {exchanges : List Control.Exchange} {answer : Except RelayError α}
    (blames : Registry.Blames exchanges answer)
    (ofLink : ∀ exchange ∈ exchanges, IsOfLink exchange.reply) (e : RelayError)
    (failed : answer = .error e) :
    e.isRefusal = false
  := by
  obtain ⟨exchange, mem, reply⟩ := blames e failed
  exact isRefusal_of_link (ofLink exchange mem) reply

/-- To look at the relay is to do nothing. -/
theorem idle_inspect (r : Relay) :
    ∀ deed ∈ ([.stepped r r] : List (Deed Relay Signal Routine)), deed.IsIdle
  := by
  intro deed mem
  rw [List.mem_singleton.1 mem]
  rfl

theorem ensures_refuse (e : RelayError) (r : Relay) :
    Ensures outside r (pure (.error e) : Action (Except RelayError α)) fun deeds _ answer =>
      Abstains deeds answer
  := by
  apply Program.Ensures.pure
  apply abstains_of_idle
  rintro _ ⟨⟩

theorem ensures_launches (epochs : List Nat) (r : Relay) :
    Ensures outside r (epochs.forM fun epoch => launch (.loadChain epoch .asking))
      fun _ _ _ => True
  := by
  induction epochs generalizing r with
  | nil => exact Program.Ensures.pure trivial
  | cons epoch epochs ih =>
    apply Program.Ensures.bind
    apply Program.Ensures.fork
    apply ih

theorem ensures_scheduleRequest (f : Scheduler → Float → Except RelayError Scheduler.Step)
    (r : Relay) :
    Ensures outside r (scheduleRequest f) fun deeds _ answer => Abstains deeds answer
  := by
  apply Program.Ensures.bind
  apply Program.Ensures.atomically
  intro r₁ _
  dsimp only
  cases f r₁.scheduler r₁.timeOfDay with
  | error e =>
    apply Program.Ensures.bind
    apply Program.Ensures.pure
    apply Program.Ensures.pure
    apply abstains_of_idle
    apply idle_inspect
  | ok step =>
    apply Program.Ensures.bind
    apply (ensures_launches _ _).mono
    intro _ _ _ _
    apply Program.Ensures.pure
    apply abstains_ok

theorem ensures_subscribe (kept : KeepsLink outside) (hears : r.HearsLink) (who : Subscriber)
    {objects : Json} {changes : InterestChanges}
    (parsed : parseSubscription objects = .ok changes) :
    Ensures outside r (subscribe who objects) fun _ r' answer =>
      r'.HearsLink ∧ ∀ e, answer = .error e → e.isRefusal = false
  := by
  unfold subscribe
  rw [parsed]
  apply (ensures_withRegistry kept hears _).mono
  rintro _ r' answer ⟨hears', registry, registry', exchanges, ends, ofLink⟩
  exact ⟨hears', proceeds_of_blames (Registry.blames_subscribe ends) ofLink⟩

theorem ensures_removeSubscriber (kept : KeepsLink outside) (hears : r.HearsLink)
    (who : Subscriber) :
    Ensures outside r (removeSubscriber who) fun _ _ _ => True
  := (ensures_withRegistry kept hears _).mono fun _ _ _ _ => trivial

/-- A query is refused before anything is done, or not at all. -/
theorem ensures_answerQuery (kept : KeepsLink outside) (hears : r.HearsLink)
    (request : Except InterestError Interest) :
    Ensures outside r (answerQuery request) fun deeds _ answer =>
      Abstains deeds (snapshotAnswer answer)
  := by
  cases request with
  | error e =>
    apply Program.Ensures.pure
    apply abstains_of_idle
    rintro _ ⟨⟩
  | ok request =>
    apply Program.Ensures.bind
    apply (ensures_withRegistry kept hears _).mono
    rintro _ r₁ part ⟨hears₁, -⟩
    apply (ensures_converse kept hears₁ part.complete).mono
    rintro _ r' answer ⟨-, exchanges, ends, ofLink⟩
    apply abstains_of_proceeds
    intro e failed
    cases answer with
    | ok snapshot => cases failed
    | error e' =>
      cases failed
      exact proceeds_of_blames (Registry.blames_complete ends) ofLink e rfl

theorem ensures_query (kept : KeepsLink outside) (hears : r.HearsLink)
    (request : Except InterestError Interest) :
    Ensures outside r
      (do
        let answer ← answerQuery request
        pure (snapshotAnswer answer))
      fun deeds _ answer => Abstains deeds answer
  := by
  apply Program.Ensures.bind
  apply (ensures_answerQuery kept hears request).mono
  intro deeds _ answer abstains
  apply Program.Ensures.pure
  rwa [List.append_nil]

/-- After a subscription nothing is done but to drop the interest of a connection that is lost. -/
theorem ensures_confirm (kept : KeepsLink outside) (hears : r.HearsLink) (id : ConnectionId)
    (answer : Except RelayError Snapshot) :
    Ensures outside r (confirm id answer) fun deeds _ final =>
      final = snapshotAnswer answer ∧ (∀ deed ∈ deeds, deed.IsIdle) ∨
        final = .error (.unknownClient id)
  := by
  apply Program.Ensures.bind
  apply Program.Ensures.inspect
  intro r₁ before
  split
  next =>
    apply Program.Ensures.pure
    exact .inl ⟨rfl, idle_inspect r₁⟩
  next =>
    apply Program.Ensures.bind
    apply (ensures_removeSubscriber kept (kept r r₁ before hears) _).mono
    intro _ _ _ _
    exact Program.Ensures.pure (.inr rfl)

theorem ensures_subscribeFor (kept : KeepsLink outside) (hears : r.HearsLink) (id : ConnectionId)
    (kind : TransportKind) (objects : Json) :
    Ensures outside r (subscribeFor id kind objects) fun deeds _ answer => Abstains deeds answer
  := by
  have lost {deeds : List (Deed Relay Signal Routine)} :
      Abstains deeds (.error (.unknownClient id) : Except RelayError Json)
    := by
    apply abstains_of_proceeds
    rintro _ ⟨⟩
    rfl
  rw [subscribeFor_eq]
  split
  next =>
    apply Program.Ensures.bind
    cases parsed : parseSubscription objects with
    | error e =>
      unfold subscribe
      rw [parsed]
      apply Program.Ensures.pure
      apply (ensures_confirm kept hears id _).mono
      rintro deeds _ final (⟨-, idle⟩ | rfl)
      · exact abstains_of_idle idle
      · exact lost
    | ok changes =>
      apply (ensures_subscribe kept hears _ parsed).mono
      rintro _ r₁ answer ⟨hears₁, proceeds⟩
      apply (ensures_confirm kept hears₁ id answer).mono
      rintro deeds _ final (⟨rfl, -⟩ | rfl)
      · apply abstains_of_proceeds
        intro e failed
        cases answer with
        | ok snapshot => cases failed
        | error e' =>
          cases failed
          exact proceeds e rfl
      · exact lost
  next => exact ensures_query kept hears _

theorem ensures_unsubscribe (kept : KeepsLink outside) (hears : r.HearsLink) (id : ConnectionId)
    (params : Json) :
    Ensures outside r (unsubscribe id params) fun deeds _ answer => Abstains deeds answer
  := by
  rw [unsubscribe_eq]
  split
  next e _ => apply ensures_refuse
  next target _ =>
    apply Program.Ensures.bind
    apply Program.Ensures.inspect
    intro r₁ before
    cases permission id target r₁ with
    | error e =>
      apply Program.Ensures.pure
      apply abstains_of_idle
      apply idle_inspect
    | ok =>
      apply Program.Ensures.bind
      apply (ensures_removeSubscriber kept (kept r r₁ before hears) _).mono
      intro _ _ _ _
      apply Program.Ensures.pure
      apply abstains_ok

/-- An identification that fails leaves the hub as it was. -/
theorem identify_of_error {h : Hub} {id : ConnectionId} {identity : ClientIdentity}
    {token : Option String} {e : RelayError}
    (failed : (h.identify id identity token).1 = .error e) :
    (h.identify id identity token).2 = h
  := by
  unfold Hub.identify at failed ⊢
  split
  next => rfl
  next c found =>
    rw [found] at failed
    split
    next => rfl
    next fresh =>
      dsimp only at failed
      rw [if_neg fresh] at failed
      cases failed

theorem ensures_identify (id : ConnectionId) (identity : ClientIdentity) (token : Option String)
    (r : Relay) :
    Ensures outside r
      (do
        let outcome ← atomically fun r =>
          let (outcome, hub) := r.hub.identify id identity token
          ({ r with hub }, outcome)
        pure (outcome.map connectionAnswer))
      fun deeds _ answer => Abstains deeds answer
  := by
  apply Program.Ensures.bind
  apply Program.Ensures.atomically
  intro r₁ _
  apply Program.Ensures.pure
  rw [List.append_nil]
  cases outcome : (r₁.hub.identify id identity token).1 with
  | ok id =>
    dsimp only
    rw [outcome]
    apply abstains_ok
  | error e =>
    dsimp only
    rw [identify_of_error outcome]
    apply abstains_of_idle
    apply idle_inspect

theorem ensures_dispatchTo (kept : KeepsLink outside) (hears : r.HearsLink) (id : ConnectionId)
    (kind : TransportKind) (method : String) (params : Json) :
    Ensures outside r (dispatchTo id kind method params) fun deeds _ answer => Abstains deeds answer
  := by
  have takes {α : Type} (param : Except RelayError α) {f : α → Action (Except RelayError Json)}
      (ensures : ∀ a, Ensures outside r (f a) fun deeds _ answer => Abstains deeds answer) :
      Ensures outside r (withParam param f) fun deeds _ answer => Abstains deeds answer
    := by
    cases param with
    | error e => apply ensures_refuse
    | ok a => apply ensures
  unfold dispatchTo
  split
  next =>
    apply (ensures_converse kept hears _).mono
    rintro _ _ answer ⟨-, exchanges, ends, ofLink⟩
    exact abstains_of_proceeds (proceeds_of_blames (Registry.blames_listObjects ends) ofLink)
  next => exact takes _ fun objects => ensures_query kept hears _
  next => exact takes _ fun objects => ensures_subscribeFor kept hears id kind objects
  next => exact ensures_unsubscribe kept hears id params
  next => exact takes _ fun ⟨identity, token⟩ => ensures_identify id identity token r
  next =>
    apply Program.Ensures.inspect
    intro r₁ _
    apply abstains_of_idle
    apply idle_inspect
  next => exact ensures_scheduleRequest _ r
  next => exact takes _ fun _ => ensures_scheduleRequest _ r
  next => exact takes _ fun _ => ensures_scheduleRequest _ r
  next => exact ensures_scheduleRequest _ r
  next => exact ensures_scheduleRequest _ r
  next => exact takes _ fun _ => ensures_scheduleRequest _ r
  next => apply ensures_refuse

theorem kind_of_error {h : Hub} {id : ConnectionId} {e : RelayError}
    (failed : h.kind id = .error e) :
    e = .unknownClient id
  := by
  unfold Hub.kind at failed
  split at failed
  next => cases failed
  next => exact (Except.error.inj failed).symm

theorem ensures_dispatch (kept : KeepsLink outside) (hears : r.HearsLink) (id : ConnectionId)
    (method : String) (params : Json) :
    Ensures outside r (dispatch id method params) fun deeds _ answer => Abstains deeds answer
  := by
  apply Program.Ensures.bind
  apply Program.Ensures.inspect
  intro r₁ before
  cases r₁.hub.kind id with
  | error e =>
    apply Program.Ensures.pure
    apply abstains_of_idle
    apply idle_inspect
  | ok kind =>
    apply (ensures_dispatchTo kept (kept r r₁ before hears) id kind method params).mono
    intro deeds _ answer abstains e failed refused
    exact List.forall_mem_append.2 ⟨idle_inspect r₁, abstains e failed refused⟩

/-- A response that refuses the request stands for an answer that does. -/
theorem ensures_submit (kept : KeepsLink outside) (hears : r.HearsLink) (id : ConnectionId)
    (request : Rpc.Request) :
    Ensures outside r (submit id request) fun deeds _ response => ∀ replyId body,
      response = some (.failure replyId body) → body.code ∈ RelayError.refusalCodes →
        ∀ deed ∈ deeds, deed.IsIdle
  := by
  apply Program.Ensures.bind
  apply (ensures_dispatch kept hears id request.method request.params).mono
  intro deeds _ answer abstains
  apply Program.Ensures.pure
  intro replyId body given refused
  rw [List.append_nil]
  obtain ⟨_, -, same⟩ := Option.map_eq_some_iff.1 given
  cases answer with
  | ok result => cases same
  | error e =>
    cases same
    exact abstains e rfl (e.isRefusal_iff.2 refused)

/-! ### Lists with one bad member -/

/-- One text that names no job makes the whole list be refused. -/
theorem exists_error_of_jobs {texts : List String} {text : String} (mem : text ∈ texts)
    (bad : JobId.ofText? text = none) :
    ∃ e, texts.mapM jobIdOf = .error (.invalidParams e)
  := by
  induction texts with
  | nil => cases mem
  | cons first rest ih =>
    rw [List.mapM_cons]
    cases named : JobId.ofText? first with
    | none =>
      unfold jobIdOf
      rw [named]
      exact ⟨_, rfl⟩
    | some job =>
      have read : jobIdOf first = .ok job := by
        unfold jobIdOf
        rw [named]
      cases mem with
      | head => cases bad.symm.trans named
      | tail _ mem =>
        obtain ⟨e, failed⟩ := ih mem
        rw [read, failed]
        exact ⟨e, rfl⟩

theorem exists_error_of_selection {params : Json} {texts : List String} {text : String}
    (chosen : (params.get? "all").bind Json.bool? ≠ some true)
    (listed : stringsParam params "job_ids" = .ok texts) (mem : text ∈ texts)
    (bad : JobId.ofText? text = none) :
    ∃ e, selectionParam params = .error (.invalidParams e)
  := by
  obtain ⟨e, failed⟩ := exists_error_of_jobs mem bad
  unfold selectionParam
  rw [if_neg chosen, listed]
  use e
  change (texts.mapM jobIdOf >>= fun jobs => pure (some jobs)) = _
  rw [failed]
  rfl

theorem ensures_remove {params : Json} {message : String}
    (refused : selectionParam params = .error (.invalidParams message)) (id : ConnectionId)
    (r : Relay) :
    Ensures outside r (dispatch id "job_queue.remove" params) fun deeds _ answer =>
      (answer = .error (.invalidParams message) ∨ answer = .error (.unknownClient id)) ∧
        ∀ deed ∈ deeds, deed.IsIdle
  := by
  apply Program.Ensures.bind
  apply Program.Ensures.inspect
  intro r₁ _
  cases known : r₁.hub.kind id with
  | error e =>
    rw [kind_of_error known]
    apply Program.Ensures.pure
    exact ⟨.inr rfl, idle_inspect r₁⟩
  | ok kind =>
    have same : dispatchTo id kind "job_queue.remove" params =
        pure (.error (.invalidParams message))
      := by
      change withParam (selectionParam params) _ = _
      rw [refused]
      rfl
    dsimp only
    rw [same]
    apply Program.Ensures.pure
    exact ⟨.inl rfl, idle_inspect r₁⟩

theorem ensures_badSubscribe (kept : KeepsLink outside) (hears : r.HearsLink)
    {params objects : Json} {e : InterestError} (given : params.get? "objects" = some objects)
    (refused : parseSubscription objects = .error e) (id : ConnectionId) :
    Ensures outside r (dispatch id "objects.subscribe" params) fun deeds _ answer =>
      answer = .error (.invalidInterest e) ∧ (∀ deed ∈ deeds, deed.IsIdle) ∨
        answer = .error (.unknownClient id)
  := by
  apply Program.Ensures.bind
  apply Program.Ensures.inspect
  intro r₁ before
  cases known : r₁.hub.kind id with
  | error e =>
    rw [kind_of_error known]
    apply Program.Ensures.pure
    exact .inr rfl
  | ok kind =>
    have same : dispatchTo id kind "objects.subscribe" params = subscribeFor id kind objects := by
      change withParam (objectsParam params) _ = _
      unfold objectsParam
      rw [given]
      rfl
    dsimp only
    rw [same]
    rw [subscribeFor_eq]
    split
    next =>
      unfold subscribe
      rw [refused]
      apply Program.Ensures.bind
      apply Program.Ensures.pure
      apply (ensures_confirm kept (kept r r₁ before hears) id _).mono
      rintro deeds _ final (⟨rfl, idle⟩ | lost)
      · exact .inl ⟨rfl, List.forall_mem_append.2 ⟨idle_inspect r₁, idle⟩⟩
      · exact .inr lost
    next =>
      unfold peek
      rw [refused]
      apply Program.Ensures.bind
      apply Program.Ensures.pure
      apply Program.Ensures.pure
      exact .inl ⟨rfl, idle_inspect r₁⟩

/-- A request that is refused was carried out without changing anything: every step taken for it,
whatever others did before, left the relay as it was, and nothing was started.  So a list of jobs to
remove with one bad member removes none, and a subscription with one bad object makes no other
interest. -/
theorem refused_unchanged (kept : KeepsLink outside) (hears : r.HearsLink) (id : ConnectionId)
    (params : Json) :
    (∀ method deeds r' e, Gives outside r (dispatch id method params) deeds r' (.error e) →
        e.isRefusal = true → ∀ deed ∈ deeds, deed.IsIdle) ∧
      (∀ method requestId deeds r' replyId body,
        Gives outside r (submit id ⟨method, params, requestId⟩) deeds r'
          (some (.failure replyId body)) →
        body.code ∈ RelayError.refusalCodes → ∀ deed ∈ deeds, deed.IsIdle) ∧
      (∀ texts text, (params.get? "all").bind Json.bool? ≠ some true →
        stringsParam params "job_ids" = .ok texts → text ∈ texts → JobId.ofText? text = none →
        ∀ deeds r' answer,
          Gives outside r (dispatch id "job_queue.remove" params) deeds r' answer →
          ((∃ message, answer = .error (.invalidParams message)) ∨
              answer = .error (.unknownClient id)) ∧
            ∀ deed ∈ deeds, deed.IsIdle) ∧
      ∀ objects fields name value, params.get? "objects" = some objects →
        objects.fields? = some fields → fields.get? name = some value → value ≠ .null →
        attributesOf? value = none →
        ∀ deeds r' answer,
          Gives outside r (dispatch id "objects.subscribe" params) deeds r' answer →
          (∃ e, answer = .error (.invalidInterest e)) ∧ (∀ deed ∈ deeds, deed.IsIdle) ∨
            answer = .error (.unknownClient id)
  := by
  have : Nonempty Routine := ⟨.wireReader 0⟩
  refine ⟨?_, ?_, ?_, ?_⟩
  · intro method deeds r' e gives
    exact (ensures_dispatch kept hears id method params).of_gives gives e rfl
  · intro method requestId deeds r' replyId body gives
    exact (ensures_submit kept hears id _).of_gives gives replyId body rfl
  · intro texts text chosen listed mem bad deeds r' answer gives
    obtain ⟨message, refused⟩ := exists_error_of_selection chosen listed mem bad
    obtain ⟨given, idle⟩ := (ensures_remove refused id r).of_gives gives
    exact ⟨given.imp_left fun same => ⟨message, same⟩, idle⟩
  · intro objects fields name value given named found proper bad deeds r' answer gives
    have refused : ∃ e, parseSubscription objects = .error e := by
      apply exists_error_of_readObjects named found
      split
      next => contradiction
      next => rw [bad, Option.map_none]
    obtain ⟨e, refused⟩ := refused
    obtain ⟨same, idle⟩ | lost := (ensures_badSubscribe kept hears given refused id).of_gives gives
    · exact .inl ⟨⟨e, same⟩, idle⟩
    · exact .inr lost

/-- A session asks to remove two jobs, of which the second one is none. -/
theorem refused_unchanged_jobs :
    let r : Relay := { hub := (Hub.register {} .duplex .mailbox 4).2 }
    let params : Json := .ofMembers [("job_ids", .array [.string "0A", .string "none"])]
    let refusal : RelayError := .invalidParams (JobId.invalidMessage "none")
    Gives Eq r (dispatch 1 "job_queue.remove" params) [.stepped r r] r (.error refusal) ∧
      ∀ deed ∈ ([.stepped r r] : List (Deed Relay Signal Routine)), deed.IsIdle
  := by
  intro r params refusal
  have kept : KeepsLink Eq := by
    rintro r _ rfl hears
    exact hears
  have hears : r.HearsLink := by
    rintro script ⟨⟩
  have gives : Gives Eq r (dispatch 1 "job_queue.remove" params) [.stepped r r] r
      (.error refusal)
    := by
    intro k
    apply Process.Goes.step rfl
    exact Process.Goes.here r (k (.error refusal))
  exact ⟨gives, (refused_unchanged kept hears 1 params).1 _ _ _ _ gives rfl⟩

end

end Action

end ControlRelay
