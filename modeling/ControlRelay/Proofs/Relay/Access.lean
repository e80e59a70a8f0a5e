import ControlRelay.Proofs.Relay.Evicting
import ControlRelay.Proofs.Relay.Linking
import ControlRelay.Relay.Requests
import Mathlib.Logic.Function.Basic

/-!
# What requests do to connections and interests

An `Access` is what the relay knows of the rights of its connections and of their interests.  What a
request does to it depends on nothing else: `Access.afterRequest`.
-/

namespace ControlRelay

/-- What is known of a live connection: what it can do. -/
structure Party where
  kind : TransportKind
  identity : Option ClientIdentity := none
  authorized : Bool := false

/-- Whether the client has identified itself and is authorized. -/
def Party.isAuthorized (p : Party) : Bool := p.identity.isSome && p.authorized

/-- The rights of the live connections, and the interests of connections. -/
@[ext]
structure Access where
  auth : Config.AuthSettings
  ids : Sequence
  party : ConnectionId → Option Party
  interest : ConnectionId → Option Interest

namespace Access

/-- The access with another interest of a connection. -/
def setInterest (a : Access) (id : ConnectionId) (interest : Option Interest) : Access :=
  { a with interest := Function.update a.interest id interest }

/-- The access with other knowledge of a connection. -/
def setParty (a : Access) (id : ConnectionId) (party : Option Party) : Access :=
  { a with party := Function.update a.party id party }

/-- An interest with the changes made. -/
def changed (interest : Option Interest) (changes : InterestChanges) : Option Interest :=
  let interest := SubscriptionTable.change (interest.getD ∅) changes
  if interest.isEmpty then none else some interest

/-- Whose interest a request of `id` to unsubscribe is about. -/
def targetOf (id : ConnectionId) (params : Json) : Except RelayError ConnectionId :=
  match params.get? "connection_id" with
  | none => .ok id
  | some .null => .ok id
  | some v =>
    match v.nat? with
    | some n => .ok n
    | none => .error (.invalidParams "'connection_id' must be an integer")

/-- What is known of a connection once it has identified itself. -/
def identifiedAs (a : Access) (party : Party) (identity : ClientIdentity)
    (token : Option String) : Party :=
  { party with identity := some identity, authorized := a.auth.authorizes identity token }

/-- What a live connection that subscribes to objects does. -/
def subscribed (a : Access) (id : ConnectionId) (party : Party) (objects : Json) : Access :=
  match parseSubscription objects with
  | .ok changes =>
    if party.kind.supportsPush then a.setInterest id (changed (a.interest id) changes) else a
  | .error _ => a

/-- What a request of a live connection to unsubscribe does. -/
def unsubscribed (a : Access) (id : ConnectionId) (party : Party) (params : Json) : Access :=
  match targetOf id params with
  | .ok target =>
    if target = id || party.isAuthorized && (a.party target).isSome then a.setInterest target none
    else a
  | .error _ => a

/-- What a live connection does that says who it is. -/
def identified (a : Access) (id : ConnectionId) (party : Party) (params : Json) : Access :=
  match Action.identityParam params with
  | .ok (identity, token) =>
    if party.identity.isNone then a.setParty id (some (a.identifiedAs party identity token))
    else a
  | .error _ => a

/-- What a request of a live connection does. -/
def afterRequestOf (a : Access) (id : ConnectionId) (party : Party) (method : String)
    (params : Json) : Access :=
  match method with
  | "objects.subscribe" =>
    match Action.objectsParam params with
    | .ok objects => a.subscribed id party objects
    | .error _ => a
  | "objects.unsubscribe" => a.unsubscribed id party params
  | "connection.identify" => a.identified id party params
  | _ => a

/-- What a request of a connection does. -/
def afterRequest (a : Access) (id : ConnectionId) (method : String) (params : Json) : Access :=
  match a.party id with
  | some party => a.afterRequestOf id party method params
  | none => a

/-- The access after a connection was made. -/
def connected (a : Access) (kind : TransportKind) : Access :=
  { a.setParty a.ids.next.1 (some { kind }) with ids := a.ids.next.2 }

/-- The access after a connection has ended. -/
def disconnected (a : Access) (id : ConnectionId) : Access :=
  (a.setParty id none).setInterest id none

/-- Connections may have been lost, and of those the interest may have been dropped. -/
structure Thins (a a' : Access) : Prop where
  auth : a'.auth = a.auth
  ids : a'.ids = a.ids
  party : ∀ id, a'.party id = a.party id ∨ a'.party id = none
  interest : ∀ id, a'.interest id = a.interest id ∨ a'.party id = none ∧ a'.interest id = none

/-- Only live connections have interests. -/
def Rooted (a : Access) : Prop := ∀ id, a.party id = none → a.interest id = none

/-- A connection was lost. -/
def Loses (a a' : Access) : Prop := ∃ id, (a.party id).isSome ∧ a'.party id = none

/-- A change was made, or it was refused since a connection was lost. -/
def Carries (a after a' : Access) : Prop := after.Thins a' ∨ after.Loses a' ∧ a.Thins a'

section

variable {a a' a'' : Access} {id : ConnectionId}

theorem interest_setInterest (a : Access) (id : ConnectionId) (interest : Option Interest)
    (other : ConnectionId) :
    (a.setInterest id interest).interest other = if other = id then interest else a.interest other
  := Function.update_apply ..

theorem setInterest_self (a : Access) (id : ConnectionId) :
    a.setInterest id (a.interest id) = a
  := by
  unfold setInterest
  rw [Function.update_eq_self]

theorem party_setParty (a : Access) (id : ConnectionId) (party : Option Party)
    (other : ConnectionId) :
    (a.setParty id party).party other = if other = id then party else a.party other
  := Function.update_apply ..

theorem Thins.refl (a : Access) :
    Thins a a
  := ⟨rfl, rfl, fun _ => .inl rfl, fun _ => .inl rfl⟩

/-- A connection that is there at the end was there before. -/
theorem Thins.party_eq (thins : Thins a a') (lives : (a'.party id).isSome) :
    a'.party id = a.party id
  := by
  obtain same | lost := thins.party id
  · apply same
  · rw [lost] at lives
    cases lives

theorem Thins.interest_eq (thins : Thins a a') (lives : (a'.party id).isSome) :
    a'.interest id = a.interest id
  := by
  obtain same | ⟨lost, -⟩ := thins.interest id
  · apply same
  · rw [lost] at lives
    cases lives

theorem Thins.party_eq_none (thins : Thins a a') (gone : a.party id = none) :
    a'.party id = none
  := by
  obtain same | lost := thins.party id
  · rw [same, gone]
  · apply lost

theorem Thins.trans (first : Thins a a') (second : Thins a' a'') :
    Thins a a''
  := by
  constructor
  · rw [second.auth, first.auth]
  · rw [second.ids, first.ids]
  · intro id
    obtain same | lost := second.party id
    · rw [same]
      apply first.party
    · exact .inr lost
  · intro id
    obtain same | lost := second.interest id
    · rw [same]
      obtain same | ⟨lost, dropped⟩ := first.interest id
      · exact .inl same
      · exact .inr ⟨second.party_eq_none lost, dropped⟩
    · exact .inr lost

theorem Thins.setInterest (thins : a.Thins a') (id : ConnectionId) (interest : Option Interest) :
    (a.setInterest id interest).Thins (a'.setInterest id interest)
  := by
  constructor
  · apply thins.auth
  · apply thins.ids
  · apply thins.party
  · intro other
    rw [interest_setInterest, interest_setInterest]
    split
    next => exact .inl rfl
    next => apply thins.interest

/-- What is set for a lost connection makes no difference once its interest is dropped. -/
theorem Thins.of_setInterest {interest interest' : Option Interest}
    (first : (a.setInterest id interest).Thins a') (second : (a'.setInterest id none).Thins a'')
    (lost : a'.party id = none) :
    (a.setInterest id interest').Thins a''
  := by
  constructor
  · rw [second.auth]
    apply first.auth
  · rw [second.ids]
    apply first.ids
  · intro other
    obtain same | gone := second.party other
    · rw [same]
      apply first.party
    · exact .inr gone
  · intro other
    by_cases same : other = id
    · obtain dropped | gone := second.interest other
      · rw [interest_setInterest, if_pos same] at dropped
        rw [same] at dropped ⊢
        exact .inr ⟨second.party_eq_none lost, dropped⟩
      · exact .inr gone
    · have kept := second.interest other
      have found := first.interest other
      rw [interest_setInterest, if_neg same] at kept found ⊢
      obtain kept | gone := kept
      · rw [kept]
        obtain found | ⟨gone, dropped⟩ := found
        · exact .inl found
        · exact .inr ⟨second.party_eq_none gone, dropped⟩
      · exact .inr gone

theorem Thins.setParty (thins : a.Thins a') (id : ConnectionId) (party : Party) :
    (a.setParty id (some party)).Thins
      (if (a'.party id).isSome then a'.setParty id (some party) else a')
  := by
  split
  next lives =>
    constructor
    · apply thins.auth
    · apply thins.ids
    · intro other
      rw [party_setParty, party_setParty]
      split
      next => exact .inl rfl
      next => apply thins.party
    · intro other
      rw [party_setParty]
      split
      next same =>
        rw [same]
        exact .inl (thins.interest_eq lives)
      next => apply thins.interest
  next lost =>
    rw [Option.not_isSome_iff_eq_none] at lost
    constructor
    · apply thins.auth
    · apply thins.ids
    · intro other
      rw [party_setParty]
      split
      next same =>
        rw [same]
        exact .inr lost
      next => apply thins.party
    · apply thins.interest

/-- To drop the interest of a lost connection is to lose it. -/
theorem Thins.of_drop (thins : (a.setInterest id none).Thins a') (lost : a.party id = none) :
    a.Thins a'
  := by
  have same := a.setInterest_self id
  have begun : (a.setInterest id (a.interest id)).Thins a := by
    rw [same]
    apply Thins.refl
  rw [← same]
  exact begun.of_setInterest thins lost

theorem Thins.lost (thins : a.Thins a') (id : ConnectionId) :
    (a.setParty id none).Thins (a'.setParty id none)
  := by
  constructor
  · apply thins.auth
  · apply thins.ids
  · intro other
    rw [party_setParty, party_setParty]
    split
    next => exact .inl rfl
    next => apply thins.party
  · intro other
    obtain same | ⟨lost, dropped⟩ := thins.interest other
    · exact .inl same
    · right
      rw [party_setParty]
      exact ⟨ite_eq_left_iff.2 fun _ => lost, dropped⟩

theorem Loses.thins (loses : Loses a a') (thins : Thins a' a'') :
    Loses a a''
  := by
  obtain ⟨id, lived, gone⟩ := loses
  exact ⟨id, lived, thins.party_eq_none gone⟩

theorem Carries.thins {after : Access} (carries : Carries a after a') (thins : Thins a' a'') :
    Carries a after a''
  := by
  obtain made | ⟨loses, refused⟩ := carries
  · exact .inl (made.trans thins)
  · exact .inr ⟨loses.thins thins, refused.trans thins⟩

/-- Where only live connections have interests and none is lost, nothing is. -/
theorem Thins.eq_of_rooted (thins : a.Thins a') (rooted : a.Rooted) (lasts : ¬a.Loses a') :
    a' = a
  := by
  have lived (id : ConnectionId) (lost : a'.party id = none) : a.party id = none := by
    by_contra lives
    exact lasts ⟨id, Option.isSome_iff_ne_none.2 lives, lost⟩
  ext1
  · apply thins.auth
  · apply thins.ids
  · funext id
    obtain same | lost := thins.party id
    · apply same
    · rw [lost, lived id lost]
  · funext id
    obtain same | ⟨lost, dropped⟩ := thins.interest id
    · apply same
    · rw [dropped, rooted id (lived id lost)]

theorem auth_afterRequest (a : Access) (id : ConnectionId) (method : String) (params : Json) :
    (a.afterRequest id method params).auth = a.auth
  := by
  unfold afterRequest
  split
  next =>
    unfold afterRequestOf
    split
    next =>
      split
      next =>
        unfold subscribed
        split
        next => split <;> rfl
        next => rfl
      next => rfl
    next =>
      unfold unsubscribed
      split
      next => split <;> rfl
      next => rfl
    next =>
      unfold identified
      split
      next => split <;> rfl
      next => rfl
    next => rfl
  next => rfl

/-! ### What a request can do -/

/-- A request changes what is known of a connection only by identifying it, for the first time. -/
theorem party_afterRequest (a : Access) (id : ConnectionId) (method : String) (params : Json)
    (other : ConnectionId) :
    (a.afterRequest id method params).party other = a.party other ∨
      id = other ∧ method = "connection.identify" ∧
        ∃ identity token party, Action.identityParam params = .ok (identity, token) ∧
          a.party other = some party ∧ party.identity = none ∧
          (a.afterRequest id method params).party other =
            some (a.identifiedAs party identity token)
  := by
  unfold afterRequest
  cases known : a.party id with
  | none => exact .inl rfl
  | some party =>
    dsimp only
    unfold afterRequestOf
    split
    next =>
      left
      split
      next =>
        unfold subscribed
        split
        next => split <;> rfl
        next => rfl
      next => rfl
    next =>
      left
      unfold unsubscribed
      split
      next => split <;> rfl
      next => rfl
    next =>
      unfold identified
      split
      next identity token presented =>
        by_cases same : other = id
        · cases fresh : party.identity with
          | some _ => exact .inl rfl
          | none =>
            right
            rw [same]
            refine ⟨rfl, rfl, identity, token, party, presented, known, fresh, ?_⟩
            rw [Option.isNone_none, if_pos rfl, party_setParty, if_pos rfl]
        · left
          split
          next => rw [party_setParty, if_neg same]
          next => rfl
      next => exact .inl rfl
    next => exact .inl rfl

theorem isSome_party_afterRequest (a : Access) (id : ConnectionId) (method : String)
    (params : Json) (other : ConnectionId) :
    ((a.afterRequest id method params).party other).isSome = (a.party other).isSome
  := by
  obtain same | ⟨-, -, identity, token, party, -, known, -, same⟩ :=
    a.party_afterRequest id method params other
  · rw [same]
  · rw [same, known, Option.isSome_some, Option.isSome_some]

/-- A request drops the interest of another connection only if its own is authorized, and does
nothing else to it. -/
theorem interest_afterRequest (a : Access) (id : ConnectionId) (method : String) (params : Json)
    {other : ConnectionId} (differs : other ≠ id) :
    (a.afterRequest id method params).interest other = a.interest other ∨
      (a.afterRequest id method params).interest other = none ∧
        ∃ party, a.party id = some party ∧ party.isAuthorized = true
  := by
  unfold afterRequest
  cases known : a.party id with
  | none => exact .inl rfl
  | some party =>
    dsimp only
    unfold afterRequestOf
    split
    next =>
      left
      split
      next =>
        unfold subscribed
        split
        next =>
          split
          next => rw [interest_setInterest, if_neg differs]
          next => rfl
        next => rfl
      next => rfl
    next =>
      unfold unsubscribed
      split
      next target _ =>
        split
        next allowed =>
          obtain own | granted := Bool.or_eq_true_iff.1 allowed
          · left
            rw [of_decide_eq_true own, interest_setInterest, if_neg differs]
          · rw [interest_setInterest]
            split
            next => exact .inr ⟨rfl, party, rfl, (Bool.and_eq_true_iff.1 granted).1⟩
            next => exact .inl rfl
        next => exact .inl rfl
      next => exact .inl rfl
    next =>
      left
      unfold identified
      split
      next => split <;> rfl
      next => rfl
    next => exact .inl rfl

theorem Rooted.afterRequest (rooted : a.Rooted) (id : ConnectionId) (method : String)
    (params : Json) :
    (a.afterRequest id method params).Rooted
  := by
  intro other lost
  have gone : a.party other = none := by
    rw [← Option.isNone_iff_eq_none, ← Option.not_isSome,
      ← a.isSome_party_afterRequest id method params, lost]
    rfl
  by_cases same : other = id
  · unfold Access.afterRequest
    rw [← same, gone]
    exact rooted other gone
  · obtain kept | ⟨dropped, -⟩ := a.interest_afterRequest id method params same
    · rw [kept]
      exact rooted other gone
    · apply dropped

theorem Rooted.setInterest_none (rooted : a.Rooted) (id : ConnectionId) :
    (a.setInterest id none).Rooted
  := by
  intro other lost
  rw [interest_setInterest]
  split
  next => rfl
  next => exact rooted other lost

theorem Rooted.connected (rooted : a.Rooted) (kind : TransportKind) :
    (a.connected kind).Rooted
  := by
  intro other lost
  change (a.setParty a.ids.next.1 (some { kind })).party other = none at lost
  rw [party_setParty] at lost
  split at lost
  next => cases lost
  next => exact rooted other lost

theorem Rooted.disconnected (rooted : a.Rooted) (id : ConnectionId) :
    (a.disconnected id).Rooted
  := by
  intro other lost
  change (a.setParty id none).party other = none at lost
  unfold Access.disconnected
  rw [party_setParty] at lost
  rw [interest_setInterest]
  split
  next => rfl
  next differs =>
    rw [if_neg differs] at lost
    exact rooted other lost

end

end Access

namespace Relay

/-- What the relay knows of rights and interests. -/
def access (r : Relay) : Access where
  auth := r.hub.auth
  ids := r.hub.ids
  party id := (r.hub.connections.get? id).map fun c => ⟨c.kind, c.identity, c.authorized⟩
  interest id := r.registry.table.interest? (.connection id)

/-- Connections may have been lost, and of those the interest may have been dropped. -/
def Thins (r r' : Relay) : Prop := r.access.Thins r'.access

section

variable {r r' r'' : Relay} {id : ConnectionId}

theorem Aside.thins (aside : Aside r r') :
    Thins r r'
  := by
  have same : r'.access = r.access := by
    unfold access
    rw [aside.hub, aside.registry]
  unfold Thins
  rw [same]
  apply Access.Thins.refl

theorem Evicts.thins {evicted : List ConnectionId} (evicts : Evicts evicted r r') :
    Thins r r'
  := by
  constructor
  · apply evicts.auth
  · apply evicts.ids
  · intro id
    dsimp only [access]
    rw [evicts.connection]
    split
    next => exact .inr rfl
    next => exact .inl rfl
  · intro id
    dsimp only [access]
    rw [evicts.registry]
    exact .inl rfl

theorem isSome_party_iff :
    (r.access.party id).isSome = r.hub.contains id
  := by
  dsimp only [access]
  rw [Option.isSome_map]
  rfl

end

end Relay

end ControlRelay
