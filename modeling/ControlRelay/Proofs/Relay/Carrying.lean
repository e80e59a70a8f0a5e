import ControlRelay.Proofs.Process.Yielding
import ControlRelay.Proofs.Registry.Effects
import ControlRelay.Proofs.Relay.Access
import ControlRelay.Proofs.Relay.Releasing
import ControlRelay.Relay.Events
import ControlRelay.Relay.Sessions

/-!
# How requests are carried out

Every request does to rights and interests what `Access.afterRequest` says, whatever the control
process replies and whatever others do in between, unless a connection is lost meanwhile and the
request is refused for that.  What the relay does of its own accord loses connections at most.
-/

namespace ControlRelay

open Program

namespace Action

/-- An action that is carried out among others who at most lose connections. -/
abbrev Yields {α : Type} (r : Relay) (a : Action α) (post : Relay → α → Prop) : Prop :=
  Program.Yields Relay.Thins r a post

section

variable {α : Type} {r r' : Relay} {id : ConnectionId}

theorem yields_of_links {a : Action α} (links : Links a) (r : Relay) :
    Yields r a fun r' _ => r.Thins r'
  := Yields.of_keeps links (fun _ => Access.Thins.refl _) Access.Thins.trans id
    fun links => links.aside.thins

/-- A dialogue is carried out to one of its ends. -/
theorem yields_converse (dialogue : Control.Dialogue α) (r : Relay) :
    Yields r (converse dialogue) fun r' a =>
      r.Thins r' ∧ ∃ exchanges, dialogue.Ends exchanges a
  := by
  induction dialogue generalizing r with
  | done a => exact Yields.pure ⟨Access.Thins.refl _, [], rfl⟩
  | ask c next ih =>
    apply Yields.bind
    apply (yields_of_links (links_call c) r).mono
    intro r₁ reply thins
    apply (ih reply r₁).mono
    rintro r' a ⟨thins', exchanges, ends⟩
    exact ⟨thins.trans thins', ⟨c, reply⟩ :: exchanges,
      Control.Dialogue.ends_ask_iff.2 ⟨reply, exchanges, rfl, ends⟩⟩

/-- To work on the registry is to carry out a dialogue of it and to put the registry that it comes
to in its place. -/
theorem yields_withRegistry (f : Registry → Control.Dialogue (Registry × α)) (r : Relay) :
    Yields r (withRegistry f) fun r' a =>
      ∃ before after : Relay, r.Thins before ∧ before.Thins after ∧ r'.hub = after.hub ∧
        ∃ exchanges, (f before.registry).Ends exchanges (r'.registry, a)
  := by
  apply Yields.bind
  have locks : Yields r lockRegistry fun r' _ => r.Thins r' := by
    apply Yields.bind
    apply Yields.atomically
    intro r₁ thins
    generalize r₁.registryLock.ask = asked
    obtain ⟨ticket, registryLock⟩ := asked
    replace thins : r.Thins { r₁ with registryLock } := thins
    cases ticket with
    | none => exact Yields.pure thins
    | some ticket => exact Yields.await _ _ thins
  apply locks.mono
  intro r₁ _ locked
  apply Yields.bind
  apply Yields.inspect
  intro before others
  apply Yields.bind
  apply (yields_converse (f before.registry) before).mono
  rintro r₂ ⟨registry, a⟩ ⟨conversed, exchanges, ends⟩
  apply Yields.bind
  apply Yields.update
  intro after others'
  apply Yields.pure
  have stored : (unlocked { after with registry }).hub = after.hub ∧
      (unlocked { after with registry }).registry = registry
    := by
    unfold unlocked
    dsimp only
    split <;> exact ⟨rfl, rfl⟩
  rw [stored.2]
  exact ⟨before, after, locked.trans others, conversed.trans others', stored.1, exchanges, ends⟩

/-! ### The registry -/

/-- Work on the registry: the interests are set, or they are those that were found there. -/
theorem thins_of_worked {before after : Relay} {interest : ConnectionId → Option Interest}
    (thins : r.Thins before) (thins' : before.Thins after) (hub : r'.hub = after.hub)
    (worked : ∀ other, r'.access.interest other = interest other ∨
      interest other = r.access.interest other ∧
        r'.access.interest other = before.access.interest other) :
    Access.Thins { r.access with interest } r'.access
  := by
  have party : r'.access.party = after.access.party := by
    dsimp only [Relay.access]
    rw [hub]
  have thinned := thins.trans thins'
  constructor
  · exact (congrArg Hub.auth hub).trans thinned.auth
  · exact (congrArg Hub.ids hub).trans thinned.ids
  · intro other
    rw [party]
    apply thinned.party
  · intro other
    obtain set | ⟨kept, found⟩ := worked other
    · exact .inl set
    · dsimp only
      rw [found, kept, party]
      obtain same | ⟨lost, dropped⟩ := thins.interest other
      · exact .inl same
      · exact .inr ⟨thins'.party_eq_none lost, dropped⟩

/-- Work on the registry that leaves the interests of others alone. -/
theorem thins_of_worked_for {before after : Relay} (thins : r.Thins before)
    (thins' : before.Thins after) (hub : r'.hub = after.hub)
    (others : ∀ other ≠ id, r'.access.interest other = before.access.interest other) :
    (r.access.setInterest id (r'.access.interest id)).Thins r'.access
  := by
  apply thins_of_worked thins thins' hub
  intro other
  by_cases same : other = id
  · left
    rw [same, Function.update_self]
  · exact .inr ⟨Function.update_of_ne same _ _, others other same⟩

/-- To drop an interest leaves all others as they are. -/
theorem yields_removeSubscriber (id : ConnectionId) (r : Relay) :
    Yields r (removeSubscriber (.connection id)) fun r' _ =>
      (r.access.setInterest id none).Thins r'.access
  := by
  apply (yields_withRegistry _ r).mono
  rintro r' _ ⟨before, after, thins, thins', hub, exchanges, ends⟩
  have table := (Registry.settles_of_remove ends).table_eq
  have dropped : r'.access.interest id = none := by
    dsimp only [Relay.access]
    rw [table, SubscriptionTable.interest?_removeClient_self]
  rw [← dropped]
  apply thins_of_worked_for thins thins' hub
  intro other differs
  dsimp only [Relay.access]
  rw [table]
  apply SubscriptionTable.interest?_removeClient_of_ne
  simpa using differs

/-- To subscribe changes the interest of the connection, unless it is lost meanwhile, and leaves all
others as they are. -/
theorem yields_subscribe {objects : Json} {changes : InterestChanges}
    (parsed : parseSubscription objects = .ok changes) (id : ConnectionId) (r : Relay) :
    Yields r (subscribe (.connection id) objects) fun r' _ =>
      (r.access.setInterest id (r'.access.interest id)).Thins r'.access ∧
        (r'.access.interest id = Access.changed (r.access.interest id) changes ∨
          r'.access.party id = none)
  := by
  unfold subscribe
  rw [parsed]
  apply (yields_withRegistry _ r).mono
  rintro r' _ ⟨before, after, thins, thins', hub, exchanges, ends⟩
  have table := (Registry.settles_of_subscribe ends).table_eq
  have applied : r'.access.interest id = Access.changed (before.access.interest id) changes := by
    dsimp only [Relay.access]
    rw [table]
    apply SubscriptionTable.interest?_apply_self
  constructor
  · apply thins_of_worked_for thins thins' hub
    intro other differs
    dsimp only [Relay.access]
    rw [table]
    apply SubscriptionTable.interest?_apply_of_ne
    simpa using differs
  · rw [applied]
    obtain same | ⟨lost, -⟩ := thins.interest id
    · left
      rw [same]
    · right
      dsimp only [Relay.access]
      rw [hub]
      exact thins'.party_eq_none lost

theorem yields_answerQuery (request : Except InterestError Interest) (r : Relay) :
    Yields r (answerQuery request) fun r' _ => r.Thins r'
  := by
  cases request with
  | error e => exact Yields.pure (Access.Thins.refl _)
  | ok request =>
    apply Yields.bind
    apply (yields_withRegistry _ r).mono
    rintro r₁ part ⟨before, after, thins, thins', hub, exchanges, ends⟩
    obtain ⟨-, same⟩ := Control.Dialogue.ends_pure_iff.1 ends
    obtain ⟨registry, -⟩ := Prod.mk.inj same
    have looked : r.Thins r₁ := by
      apply thins_of_worked thins thins' hub
      intro other
      right
      dsimp only [Relay.access]
      rw [registry]
      exact ⟨rfl, rfl⟩
    apply (yields_of_links (links_converse _) r₁).mono
    intro r' _ conversed
    exact looked.trans conversed

/-! ### Requests -/

/-- A connection that is lost while it subscribes is left without interest. -/
theorem yields_confirm (answer : Except RelayError Snapshot)
    {r₀ r₁ : Relay} {interest : Option Interest}
    (others : (r₀.access.setInterest id (r₁.access.interest id)).Thins r₁.access)
    (own : r₁.access.interest id = interest ∨ r₁.access.party id = none) :
    Yields r₁ (confirm id answer) fun r' _ =>
      (r₀.access.setInterest id interest).Thins r'.access
  := by
  apply Yields.bind
  apply Yields.inspect
  intro r₂ thins
  have thinned := others.trans thins
  cases lives : r₂.hub.contains id with
  | true =>
    apply Yields.pure
    have there : (r₂.access.party id).isSome = true := by rw [Relay.isSome_party_iff, lives]
    have subscribed : r₁.access.interest id = interest := by
      apply own.resolve_right
      intro lost
      rw [thins.party_eq_none lost] at there
      cases there
    rw [← subscribed]
    apply thinned
  | false =>
    apply Yields.bind
    apply (yields_removeSubscriber id r₂).mono
    intro r' _ removed
    apply Yields.pure
    have gone : r₂.access.party id = none := by
      rw [← Option.isNone_iff_eq_none, ← Option.not_isSome, Relay.isSome_party_iff, lives]
      rfl
    apply Access.Thins.of_setInterest thinned removed gone

theorem yields_subscribeFor {party : Party} (objects : Json) (r : Relay) :
    Yields r (subscribeFor id party.kind objects) fun r' _ =>
      (r.access.subscribed id party objects).Thins r'.access
  := by
  rw [subscribeFor_eq]
  unfold Access.subscribed
  cases pushed : party.kind.supportsPush with
  | true =>
    apply Yields.bind
    cases parsed : parseSubscription objects with
    | ok changes =>
      apply (yields_subscribe parsed id r).mono
      rintro r₁ answer ⟨others, own⟩
      apply yields_confirm answer others own
    | error e =>
      unfold subscribe
      rw [parsed]
      apply Yields.pure
      dsimp only
      rw [← r.access.setInterest_self id]
      apply yields_confirm (.error (.invalidInterest e)) _ (.inl rfl)
      rw [Access.setInterest_self]
      apply Access.Thins.refl
  | false =>
    rw [if_neg Bool.false_ne_true]
    apply Yields.bind
    apply (yields_answerQuery _ r).mono
    intro r' _ thins
    apply Yields.pure
    cases parseSubscription objects <;> apply thins

theorem isAuthorized_eq (r : Relay) (id : ConnectionId) :
    r.hub.isAuthorized id =
      match r.access.party id with
      | some party => .ok party.isAuthorized
      | none => .error (.unknownClient id)
  := by
  unfold Hub.isAuthorized
  dsimp only [Relay.access]
  cases r.hub.connections.get? id <;> rfl

/-- Whether the connection may drop the interest of a target. -/
def permission (id target : ConnectionId) (r : Relay) : Except RelayError Unit := do
  if target = id then pure ()
  else
    requireAuthorized r.hub id
    if r.hub.contains target then pure () else .error (.unknownClient target)

theorem unsubscribe_eq (id : ConnectionId) (params : Json) :
    unsubscribe id params =
      (match Access.targetOf id params with
      | .error e => pure (.error e)
      | .ok target => do
        match ← inspect (permission id target) with
        | .error e => pure (.error e)
        | .ok () => do
          let _ ← removeSubscriber (.connection target)
          pure (.ok (connectionAnswer target)))
  := rfl

/-- A live connection may drop its own interest, and if it is authorized that of another one that
lives. -/
theorem permission_eq_ok_iff {target : ConnectionId} {party : Party}
    (known : r.access.party id = some party) :
    permission id target r = .ok () ↔
      (target = id || party.isAuthorized && (r.access.party target).isSome) = true
  := by
  unfold permission requireAuthorized
  rw [isAuthorized_eq, known, Relay.isSome_party_iff]
  by_cases same : target = id
  · simp [same]
    rfl
  · cases authorized : party.isAuthorized <;> cases r.hub.contains target <;>
      simp [same, authorized, bind, Except.bind, pure, Except.pure]

/-- A lost connection may drop its own interest only. -/
theorem own_of_permission {target : ConnectionId} (lost : r.access.party id = none)
    (allowed : permission id target r = .ok ()) :
    target = id
  := by
  unfold permission requireAuthorized at allowed
  rw [isAuthorized_eq, lost] at allowed
  by_contra other
  rw [if_neg other] at allowed
  cases allowed

theorem yields_unsubscribe {party : Party} (known : r.access.party id = some party)
    (params : Json) :
    Yields r (unsubscribe id params) fun r' _ =>
      r.access.Carries (r.access.unsubscribed id party params) r'.access
  := by
  rw [unsubscribe_eq]
  unfold Access.unsubscribed
  cases Access.targetOf id params with
  | error e => exact Yields.pure (.inl (Access.Thins.refl _))
  | ok target =>
    apply Yields.bind
    apply Yields.inspect
    intro r₁ thins
    have lives := thins.party id
    rw [known] at lives
    dsimp only
    cases allowed : permission id target r₁ with
    | ok =>
      apply Yields.bind
      apply (yields_removeSubscriber target r₁).mono
      intro r' _ removed
      apply Yields.pure
      left
      rw [if_pos]
      · exact (thins.setInterest target none).trans removed
      · obtain lives | lost := lives
        · obtain own | granted := Bool.or_eq_true_iff.1 ((permission_eq_ok_iff lives).1 allowed)
          · rw [own, Bool.true_or]
          · obtain ⟨authorized, there⟩ := Bool.and_eq_true_iff.1 granted
            rw [thins.party_eq there] at there
            rw [authorized, there, Bool.true_and, Bool.or_true]
        · have own := own_of_permission lost allowed
          simp [own]
    | error e =>
      apply Yields.pure
      by_cases permitted : (target = id || party.isAuthorized && (r.access.party target).isSome)
      · right
        refine ⟨?_, thins⟩
        rw [if_pos permitted]
        change r.access.Loses r₁.access
        obtain lives | lost := lives
        · use target
          have refused : ¬permission id target r₁ = .ok () := by
            rw [allowed]
            nofun
          rw [permission_eq_ok_iff lives] at refused
          obtain same | lost := thins.party target
          · rw [same] at refused
            exact absurd permitted refused
          · refine ⟨?_, lost⟩
            obtain own | granted := Bool.or_eq_true_iff.1 permitted
            · rw [of_decide_eq_true own, known]
              rfl
            · exact (Bool.and_eq_true_iff.1 granted).2
        · exact ⟨id, by rw [known]; rfl, lost⟩
      · left
        rw [if_neg permitted]
        apply thins

theorem yields_schedule (f : Relay → Scheduler.Step × α) (r : Relay) :
    Yields r (schedule f) fun r' _ => r.Thins r'
  := by
  apply Yields.bind
  apply Yields.atomically
  intro r₁ thins
  dsimp only
  generalize f r₁ = result
  obtain ⟨⟨scheduler, effects⟩, a⟩ := result
  obtain ⟨evicted, evicts⟩ := r₁.exists_evicts_carriedOut scheduler effects
  have carried := thins.trans evicts.thins
  apply Yields.bind
  have launches (epochs : List Nat) (r₂ : Relay) :
      Yields r₂ (epochs.forM fun epoch => launch (.loadChain epoch .asking)) fun r' _ => r' = r₂
    := by
    induction epochs with
    | nil => exact Yields.pure rfl
    | cons epoch epochs ih =>
      apply Yields.bind
      exact fun k => .fork (.here ⟨(), rfl, ih⟩)
  apply (launches _ _).mono
  rintro _ _ rfl
  exact Yields.pure carried

/-- What the hub makes of a client that says who it is. -/
theorem access_identify {party : Party} (known : r.access.party id = some party)
    (identity : ClientIdentity) (token : Option String) :
    { r with hub := (r.hub.identify id identity token).2 }.access =
      if party.identity.isNone then
        r.access.setParty id (some (r.access.identifiedAs party identity token))
      else r.access
  := by
  obtain ⟨c, found, rfl⟩ := Option.map_eq_some_iff.1 known
  unfold Hub.identify
  rw [found]
  dsimp only
  cases fresh : c.identity with
  | some _ => rfl
  | none =>
    rw [Option.isSome_none, if_neg Bool.false_ne_true]
    dsimp only [Relay.access, Access.setParty, Access.identifiedAs]
    congr 1
    funext other
    rw [SortedMap.get?_insert, Function.update_apply]
    split <;> rfl

theorem identify_of_lost (lost : r.access.party id = none) (identity : ClientIdentity)
    (token : Option String) :
    (r.hub.identify id identity token).2 = r.hub
  := by
  unfold Hub.identify
  rw [Option.map_eq_none_iff.1 lost]

theorem yields_identify {party : Party} (known : r.access.party id = some party)
    (params : Json) :
    Yields r (dispatchTo id party.kind "connection.identify" params) fun r' _ =>
      (r.access.identified id party params).Thins r'.access
  := by
  dsimp only [dispatchTo]
  unfold Access.identified
  cases identityParam params with
  | error e => exact Yields.pure (Access.Thins.refl _)
  | ok presented =>
    obtain ⟨identity, token⟩ := presented
    apply Yields.bind
    apply Yields.atomically
    intro r₁ thins
    apply Yields.pure
    dsimp only
    have lives := thins.party id
    rw [known] at lives
    obtain lives | lost := lives
    · have same : r₁.access.identifiedAs party = r.access.identifiedAs party := by
        unfold Access.identifiedAs
        rw [thins.auth]
      have changed := thins.setParty id (r.access.identifiedAs party identity token)
      rw [access_identify lives, same]
      rw [lives, Option.isSome_some, if_pos rfl] at changed
      split
      next => apply changed
      next => apply thins
    · have changed := thins.setParty id (r.access.identifiedAs party identity token)
      rw [lost, Option.isSome_none, if_neg Bool.false_ne_true] at changed
      rw [identify_of_lost lost]
      split
      next => apply changed
      next => apply thins

/-- What a request of a live connection does, unless it is refused since a connection is lost. -/
theorem yields_dispatchTo {party : Party} (known : r.access.party id = some party)
    (method : String) (params : Json) :
    Yields r (dispatchTo id party.kind method params) fun r' _ =>
      r.access.Carries (r.access.afterRequestOf id party method params) r'.access
  := by
  have leaves {a : Action (Except RelayError Json)} (links : Links a) :
      Yields r a fun r' _ => r.access.Carries r.access r'.access
    := (yields_of_links links r).mono fun _ _ => .inl
  have schedules (f : Scheduler → Float → Except RelayError Scheduler.Step) :
      Yields r (scheduleRequest f) fun r' _ => r.access.Carries r.access r'.access
    := (yields_schedule _ r).mono fun _ _ => .inl
  have refuses (e : RelayError) :
      Yields r (pure (.error e) : Action (Except RelayError Json)) fun r' _ =>
        r.access.Carries r.access r'.access
    := Yields.pure (.inl (Access.Thins.refl _))
  have takes {α : Type} (param : Except RelayError α) {f : α → Action (Except RelayError Json)}
      (yields : ∀ a, Yields r (f a) fun r' _ => r.access.Carries r.access r'.access) :
      Yields r (withParam param f) fun r' _ => r.access.Carries r.access r'.access
    := by
    cases param with
    | error e => apply refuses
    | ok a => apply yields
  unfold dispatchTo
  split
  next => exact leaves (links_converse _)
  next =>
    refine takes _ fun objects => Yields.bind ?_
    apply (yields_answerQuery _ r).mono
    intro r' _ thins
    exact Yields.pure (.inl thins)
  next =>
    unfold Access.afterRequestOf
    cases objectsParam params with
    | error e => exact refuses e
    | ok objects => exact (yields_subscribeFor objects r).mono fun _ _ => .inl
  next => exact yields_unsubscribe known params
  next => exact (yields_identify known params).mono fun _ _ => .inl
  next => exact leaves (links_inspect _)
  next => exact schedules _
  next => exact takes _ fun _ => schedules _
  next => exact takes _ fun _ => schedules _
  next => exact schedules _
  next => exact schedules _
  next => exact takes _ fun _ => schedules _
  next other =>
    unfold Access.afterRequestOf
    split
    all_goals first
      | exact refuses _
      | contradiction

theorem kind_eq_of_party {party : Party} (known : r.access.party id = some party) :
    r.hub.kind id = .ok party.kind
  := by
  obtain ⟨c, found, rfl⟩ := Option.map_eq_some_iff.1 known
  unfold Hub.kind
  rw [found]

theorem kind_eq_of_lost (lost : r.access.party id = none) :
    r.hub.kind id = .error (.unknownClient id)
  := by
  unfold Hub.kind
  rw [Option.map_eq_none_iff.1 lost]

/-- A request of a live connection is carried out for it; one of a lost connection is refused. -/
theorem yields_dispatch_of {method : String} {params : Json}
    {post : Relay → Except RelayError Json → Prop}
    (stable : ∀ {r₁ r₂ a}, post r₁ a → r₁.Thins r₂ → post r₂ a)
    (live : ∀ party, r.access.party id = some party →
      Yields r (dispatchTo id party.kind method params) post)
    (refused : ∀ r', r.Thins r' → r'.access.party id = none →
      post r' (.error (.unknownClient id))) :
    Yields r (dispatch id method params) post
  := by
  apply Yields.bind
  apply Yields.inspect
  intro r₁ thins
  cases found : r₁.access.party id with
  | none =>
    rw [kind_eq_of_lost found]
    exact Yields.pure (refused r₁ thins found)
  | some party =>
    rw [kind_eq_of_party found]
    have known : r.access.party id = some party := by
      rw [← found]
      apply (thins.party_eq _).symm
      rw [found, Option.isSome_some]
    exact (live party known).of_outside Access.Thins.trans stable thins

theorem yields_dispatch (id : ConnectionId) (method : String) (params : Json) (r : Relay) :
    Yields r (dispatch id method params) fun r' _ =>
      r.access.Carries (r.access.afterRequest id method params) r'.access
  := by
  apply yields_dispatch_of
  · intro r₁ r₂ _ carries thins
    exact carries.thins thins
  · intro party known
    unfold Access.afterRequest
    rw [known]
    exact yields_dispatchTo known method params
  · intro r' thins lost
    cases known : r.access.party id with
    | none =>
      unfold Access.afterRequest
      rw [known]
      exact .inl thins
    | some party =>
      refine .inr ⟨⟨id, ?_, lost⟩, thins⟩
      rw [Access.isSome_party_afterRequest, known, Option.isSome_some]

/-- Whatever happens, connections are listed only for those who are authorized. -/
theorem yields_connection_list (id : ConnectionId) (params : Json) (r : Relay) :
    Yields r (dispatch id "connection.list" params) fun _ outcome =>
      ∀ listed, outcome = .ok listed →
        ∃ party, r.access.party id = some party ∧ party.isAuthorized = true
  := by
  apply yields_dispatch_of
  · intro r₁ r₂ _ listed _
    apply listed
  · intro party known
    apply Yields.inspect
    intro r₁ thins listed succeeded
    use party, known
    cases authorized : party.isAuthorized with
    | true => rfl
    | false =>
      unfold requireAuthorized at succeeded
      rw [isAuthorized_eq] at succeeded
      obtain same | lost := thins.party id
      · rw [same, known] at succeeded
        dsimp only at succeeded
        rw [authorized] at succeeded
        cases succeeded
      · rw [lost] at succeeded
        cases succeeded
  · rintro r' _ _ listed ⟨⟩

theorem yields_submit (id : ConnectionId) (request : Rpc.Request) (r : Relay) :
    Yields r (submit id request) fun r' _ =>
      r.access.Carries (r.access.afterRequest id request.method request.params) r'.access
  := by
  apply Yields.bind
  apply (yields_dispatch id _ _ r).mono
  intro r' _ carries
  exact Yields.pure carries

/-! ### Connections -/

theorem yields_connect {others : Relay → Relay → Prop} (kind : TransportKind) (sink : Sink)
    (capacity : Nat) (r : Relay) :
    Program.Yields others r (connect kind sink capacity) fun r' id =>
      ∃ r₁, others r r₁ ∧ r'.access = r₁.access.connected kind ∧ id = r₁.access.ids.next.1
  := by
  apply Yields.atomically
  intro r₁ before
  refine ⟨r₁, before, ?_, rfl⟩
  dsimp only [Relay.access, Access.connected, Access.setParty, Hub.register]
  congr 1
  funext other
  rw [SortedMap.get?_insert, Function.update_apply]
  split <;> rfl

theorem access_unregister (r : Relay) (id : ConnectionId) :
    (r.unregister id).access = r.access.setParty id none
  := by
  obtain ⟨hub, registry, -⟩ := r.unregister_parts id
  dsimp only [Relay.access, Access.setParty]
  rw [hub, registry]
  congr 1
  funext other
  rw [Hub.unregister, SortedMap.get?_erase, Function.update_apply]
  split <;> rfl

theorem yields_disconnect (id : ConnectionId) (r : Relay) :
    Yields r (disconnect id) fun r' _ => (r.access.disconnected id).Thins r'.access
  := by
  apply Yields.bind
  apply Yields.update
  intro r₁ thins
  apply Yields.bind
  apply (yields_removeSubscriber id _).mono
  intro r' _ removed
  apply Yields.pure
  rw [access_unregister] at removed
  exact ((thins.lost id).setInterest id none).trans removed

/-! ### What the relay does of its own accord -/

/-- To drop the interests of lost connections is to lose connections at most. -/
theorem yields_removals {ids : List ConnectionId} (lost : ∀ id ∈ ids, r.access.party id = none) :
    Yields r
      (ids.forM fun id => do
        let _ ← removeSubscriber (.connection id))
      fun r' _ => r.Thins r'
  := by
  induction ids generalizing r with
  | nil => exact Yields.pure (Access.Thins.refl _)
  | cons id ids ih =>
    apply Yields.bind
    apply Yields.bind
    apply (yields_removeSubscriber id r).mono
    intro r₁ _ removed
    have thins : r.Thins r₁ := removed.of_drop (lost id List.mem_cons_self)
    apply Yields.pure
    apply (ih fun other mem => thins.party_eq_none (lost other (List.mem_cons_of_mem _ mem))).mono
    intro r' _ others
    exact thins.trans others

theorem yields_deliver (target : Target) (note : Rpc.Notification) (r : Relay) :
    Yields r (deliver target note) fun r' _ => r.Thins r'
  := by
  apply Yields.bind
  apply Yields.atomically
  intro r₁ thins
  have evicts := r₁.evicts_deliver target note
  have evicted : ∀ id ∈ (r₁.deliver target note).1,
      (r₁.deliver target note).2.access.party id = none
    := by
    intro id mem
    dsimp only [Relay.access]
    rw [evicts.connection, if_pos mem]
    rfl
  apply (yields_removals evicted).mono
  intro r' _ removed
  exact (thins.trans evicts.thins).trans removed

/-- Work on the registry that leaves its table alone. -/
theorem yields_registry {f : Registry → Control.Dialogue (Registry × α)}
    (table : ∀ {registry registry' exchanges a}, (f registry).Ends exchanges (registry', a) →
      registry'.table = registry.table)
    (r : Relay) :
    Yields r (withRegistry f) fun r' _ => r.Thins r'
  := by
  apply (yields_withRegistry _ r).mono
  rintro r' a ⟨before, after, thins, thins', hub, exchanges, ends⟩
  apply thins_of_worked thins thins' hub
  intro other
  right
  dsimp only [Relay.access]
  rw [table ends]
  exact ⟨rfl, rfl⟩

theorem yields_handleEvent (event : ControlEvent) (r : Relay) :
    Yields r (handleEvent event) fun r' _ => r.Thins r'
  := by
  cases event with
  | connected => exact Yields.pure (Access.Thins.refl _)
  | stateChanged status =>
    apply Yields.bind
    have changes : Yields r (registryControlChanged status) fun r' _ => r.Thins r' := by
      apply yields_registry
      intro registry registry' exchanges a ends
      obtain ⟨r₁, changed, same⟩ := Control.Dialogue.ends_of_last (fun _ => ⟨_, rfl⟩) ends
      obtain ⟨rfl, -⟩ := Prod.mk.inj (Control.Dialogue.done.inj same)
      exact Registry.table_of_controlChanged changed
    apply changes.mono
    intro r₁ _ first
    apply Yields.bind
    apply (yields_schedule _ r₁).mono
    intro r₂ _ second
    cases stateNotification? status with
    | none => exact Yields.pure (first.trans second)
    | some note =>
      apply (yields_deliver .all note r₂).mono
      intro r' _ third
      exact (first.trans second).trans third
  | status status eventtime =>
    apply Yields.bind
    have pushes : Yields r (pushStatus status eventtime) fun r' _ => r.Thins r' := by
      apply yields_registry
      intro registry registry' exchanges a ends
      obtain ⟨rfl, -⟩ := Prod.mk.inj (Control.Dialogue.ends_pure_iff.1 ends).2
      rfl
    apply pushes.mono
    intro r₁ parts thins
    have hands (r₂ : Relay) :
        Yields r₂ (parts.forM (handPart eventtime)) fun r' _ => r₂.Thins r'
      := by
      induction parts generalizing r₂ with
      | nil => exact Yields.pure (Access.Thins.refl _)
      | cons part parts ih =>
        apply Yields.bind
        have hand : Yields r₂ (handPart eventtime part) fun r' _ => r₂.Thins r' := by
          obtain ⟨who, part⟩ := part
          cases who with
          | connection id => apply yields_deliver
          | scheduler => exact yields_schedule (fun r => (r.scheduler.statusChanged part, ())) r₂
        apply hand.mono
        intro r₃ _ first
        apply (ih r₃).mono
        intro r' _ others
        exact first.trans others
    apply (hands r₁).mono
    intro r' _ handed
    exact thins.trans handed
  | gcodeResponse text => apply yields_deliver
  | other method params => apply yields_deliver

theorem yields_resync (r : Relay) :
    Yields r resync fun r' _ => r.Thins r'
  := by
  apply yields_registry
  intro registry registry' exchanges a ends
  exact (Registry.settles_of_resync ends).table_eq

theorem yields_loadChain (epoch : Nat) (stage : LoadStage) (r : Relay) :
    Yields r (loadChain epoch stage) fun r' _ => r.Thins r'
  := by
  apply Yields.bind
  apply Yields.inspect
  intro r₁ thins
  split
  next => exact Yields.pure thins
  next => exact Yields.pure thins
  next =>
    apply Yields.bind
    apply (yields_of_links (links_call _) r₁).mono
    intro r' _ called
    exact Yields.pure (thins.trans called)
  next =>
    apply Yields.bind
    apply Yields.inspect
    intro r' others
    apply Yields.bind
    apply Yields.await
    exact Yields.pure (thins.trans others)
  next =>
    apply Yields.bind
    apply (yields_schedule _ r₁).mono
    intro r' _ scheduled
    exact Yields.pure (thins.trans scheduled)

end

end Action

end ControlRelay
