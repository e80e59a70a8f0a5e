import ControlRelay.Proofs.Relay.Carrying
import ControlRelay.Relay.Services

/-!
# Who may do what

Clients connect, make requests and leave, and the relay does things of its own accord, one after
another; each of these is carried out by a process, and at any time others may evict connections.
Along every such run the rights of a connection are decided once, when it identifies itself first,
and a connection without them can neither change the interest of another one nor list connections.
So what it requests makes no difference to the interest of any other.
-/

namespace ControlRelay

open Program

/-- A client is authorized by its name or by the key. -/
theorem Config.AuthSettings.authorizes_iff {auth : AuthSettings} {identity : ClientIdentity}
    {token : Option String} :
    auth.authorizes identity token = true ↔
      identity.clientName ∈ auth.trustedClients ∨
        ∃ key, auth.apiKey = some key ∧ key ≠ "" ∧ token = some key
  := by
  unfold authorizes
  rw [Bool.or_eq_true_iff, List.contains_iff_mem]
  apply or_congr_right
  cases auth.apiKey with
  | none => simp
  | some key =>
    cases token with
    | none => simp
    | some token =>
      simp only [Bool.and_eq_true, Bool.not_eq_true', decide_eq_true_eq, Option.some.injEq,
        exists_eq_left']
      rw [← Bool.not_eq_true, String.isEmpty_iff, @eq_comm String token]

namespace Access

/-- The same is known of all connections but those left out, of which only the ends are known. -/
structure Agrees (leftOut : ConnectionId → Bool) (a b : Access) : Prop where
  auth : b.auth = a.auth
  ids : b.ids = a.ids
  lives : ∀ id, (b.party id).isSome = (a.party id).isSome
  party : ∀ id, leftOut id = false → b.party id = a.party id
  interest : ∀ id, leftOut id = false → b.interest id = a.interest id

section

variable {a b : Access} {leftOut : ConnectionId → Bool} {id : ConnectionId}

theorem Agrees.refl (leftOut : ConnectionId → Bool) (a : Access) :
    Agrees leftOut a a
  := ⟨rfl, rfl, fun _ => rfl, fun _ _ => rfl, fun _ _ => rfl⟩

theorem Agrees.setInterest (agrees : Agrees leftOut a b) (id : ConnectionId)
    (interest : Option Interest) :
    Agrees leftOut (a.setInterest id interest) (b.setInterest id interest)
  := by
  refine ⟨agrees.auth, agrees.ids, agrees.lives, agrees.party, fun other kept => ?_⟩
  rw [interest_setInterest, interest_setInterest, agrees.interest other kept]

theorem Agrees.setParty (agrees : Agrees leftOut a b) (id : ConnectionId) (party : Option Party) :
    Agrees leftOut (a.setParty id party) (b.setParty id party)
  := by
  refine ⟨agrees.auth, agrees.ids, fun other => ?_, fun other kept => ?_, agrees.interest⟩
  · rw [party_setParty, party_setParty]
    split
    next => rfl
    next => apply agrees.lives
  · rw [party_setParty, party_setParty, agrees.party other kept]

theorem Agrees.leaveInterest (agrees : Agrees leftOut a b) (left : leftOut id = true)
    (interest : Option Interest) :
    Agrees leftOut (a.setInterest id interest) b
  := by
  refine ⟨agrees.auth, agrees.ids, agrees.lives, agrees.party, fun other kept => ?_⟩
  rw [interest_setInterest, if_neg, agrees.interest other kept]
  rintro rfl
  rw [left] at kept
  cases kept

theorem Agrees.leaveParty (agrees : Agrees leftOut a b) (left : leftOut id = true)
    (lives : (a.party id).isSome) (party : Party) :
    Agrees leftOut (a.setParty id (some party)) b
  := by
  refine ⟨agrees.auth, agrees.ids, fun other => ?_, fun other kept => ?_, agrees.interest⟩
  · rw [party_setParty, agrees.lives]
    split
    next same => rw [same, lives, Option.isSome_some]
    next => rfl
  · rw [party_setParty, if_neg, agrees.party other kept]
    rintro rfl
    rw [left] at kept
    cases kept

theorem Agrees.afterRequest (agrees : Agrees leftOut a b) (kept : leftOut id = false)
    (method : String) (params : Json) :
    Agrees leftOut (a.afterRequest id method params) (b.afterRequest id method params)
  := by
  unfold Access.afterRequest
  rw [agrees.party id kept]
  split
  next party _ =>
    unfold afterRequestOf
    split
    next =>
      split
      next =>
        unfold subscribed
        split
        next =>
          rw [agrees.interest id kept]
          split
          next => apply agrees.setInterest
          next => apply agrees
        next => apply agrees
      next => apply agrees
    next =>
      unfold unsubscribed
      split
      next =>
        rw [agrees.lives]
        split
        next => apply agrees.setInterest
        next => apply agrees
      next => apply agrees
    next =>
      unfold identified
      split
      next =>
        unfold identifiedAs
        rw [agrees.auth]
        split
        next => apply agrees.setParty
        next => apply agrees
      next => apply agrees
    next => apply agrees
  next => apply agrees

/-- A request of a connection that is left out and not authorized makes no difference. -/
theorem Agrees.leaveRequest (agrees : Agrees leftOut a b) (left : leftOut id = true)
    (unauthorized : ∀ party, a.party id = some party → party.isAuthorized = false)
    (method : String) (params : Json) :
    Agrees leftOut (a.afterRequest id method params) b
  := by
  unfold Access.afterRequest
  split
  next party known =>
    unfold afterRequestOf
    split
    next =>
      split
      next =>
        unfold subscribed
        split
        next =>
          split
          next => apply agrees.leaveInterest left
          next => apply agrees
        next => apply agrees
      next => apply agrees
    next =>
      unfold unsubscribed
      rw [unauthorized party known]
      split
      next target _ =>
        split
        next allowed =>
          have own : target = id := by simpa using allowed
          rw [own]
          apply agrees.leaveInterest left
        next => apply agrees
      next => apply agrees
    next =>
      unfold identified
      split
      next =>
        split
        next => apply agrees.leaveParty left (by rw [known, Option.isSome_some])
        next => apply agrees
      next => apply agrees
    next => apply agrees
  next => apply agrees

end

end Access

/-! ### What happens -/

/-- What happens to a relay. -/
inductive Occurrence where
  | connected (kind : TransportKind) (sink : Sink) (capacity : Nat)
  /-- A connection makes a request. -/
  | requested (id : ConnectionId) (request : Rpc.Request)
  | disconnected (id : ConnectionId)
  /-- The event loop reads that a connection was evicted. -/
  | evicted (id : ConnectionId)
  /-- The event loop handles an event. -/
  | reported (event : ControlEvent)
  /-- A subscription that failed is tried again. -/
  | resynced
  /-- A load chain goes on. -/
  | loaded (epoch : Nat) (stage : LoadStage)

namespace Occurrence

/-- How a process goes on after a request. -/
def respond (id : ConnectionId) : Option Rpc.Response → RelayProcess
  | some response => .enter (.reply id response.text)
  | none => .done

/-- The process that carries it out. -/
def process : Occurrence → RelayProcess
  | connected kind sink capacity => Action.connect kind sink capacity fun _ => .done
  | requested id request => Action.submit id request (respond id)
  | disconnected id => (Action.disconnect id).process
  | evicted id => Action.removeSubscriber (.connection id) fun _ => .done
  | reported event => (Action.handleEvent event).process
  | resynced => Action.resync fun _ => .done
  | loaded epoch stage => Action.continue? (Action.loadChain epoch stage)

/-- What it does to rights and interests. -/
def effect (a : Access) : Occurrence → Access
  | connected kind _ _ => a.connected kind
  | requested id request => a.afterRequest id request.method request.params
  | disconnected id => a.disconnected id
  | evicted id => a.setInterest id none
  | reported _ | resynced | loaded _ _ => a

/-- The connection that it is a request of. -/
def requester? : Occurrence → Option ConnectionId
  | requested id _ => some id
  | _ => none

/-- The connection that is made. -/
def opened? (r : Relay) : Occurrence → Option ConnectionId
  | connected _ _ _ => some r.hub.ids.next.1
  | _ => none

/-- It happens from beginning to end, among others. -/
def Happens (others : Relay → Relay → Prop) (o : Occurrence) (r r' : Relay) : Prop :=
  ∃ r₁ last, Process.Completes others r o.process r₁ last ∧ others r₁ r'

section

variable {r r' : Relay} {o : Occurrence}

theorem Happens.mono {others others' : Relay → Relay → Prop} (happens : Happens others o r r')
    (implies : ∀ {r r'}, others r r' → others' r r') :
    Happens others' o r r'
  := by
  obtain ⟨r₁, last, completes, after⟩ := happens
  exact ⟨r₁, last, completes.mono implies, implies after⟩

/-- A connection is made, and others act before and after that. -/
theorem exists_of_connected {others : Relay → Relay → Prop} {kind : TransportKind} {sink : Sink}
    {capacity : Nat} (happens : Happens others (.connected kind sink capacity) r r') :
    ∃ r₁ r₂, others r r₁ ∧ r₂.access = r₁.access.connected kind ∧ others r₂ r'
  := by
  obtain ⟨r₂, last, completes, after⟩ := happens
  obtain ⟨id, -, r₁, before, made, -⟩ :=
    (Action.yields_connect kind sink capacity r).of_completes completes fun _ => .inl rfl
  exact ⟨r₁, r₂, before, made, after⟩

/-- All else has its effect, or it is a request that is refused since a connection is lost. -/
theorem carries_of_happens (happens : Happens Relay.Thins o r r')
    (unopened : o.opened? r = none) :
    r.access.Carries (o.effect r.access) r'.access
  := by
  obtain ⟨r₁, last, completes, after⟩ := happens
  apply Access.Carries.thins _ after
  cases o with
  | connected => cases unopened
  | requested id request =>
    obtain ⟨response, -, carries⟩ := (Action.yields_submit id request r).of_completes completes
      (by rintro (_ | response) <;> simp [respond])
    apply carries
  | disconnected id =>
    obtain ⟨-, -, thins⟩ :=
      (Action.yields_disconnect id r).of_completes completes fun _ => .inl rfl
    exact .inl thins
  | evicted id =>
    obtain ⟨-, -, thins⟩ :=
      (Action.yields_removeSubscriber id r).of_completes completes fun _ => .inl rfl
    exact .inl thins
  | reported event =>
    obtain ⟨-, -, thins⟩ :=
      (Action.yields_handleEvent event r).of_completes completes fun _ => .inl rfl
    exact .inl thins
  | resynced =>
    obtain ⟨-, -, thins⟩ := (Action.yields_resync r).of_completes completes fun _ => .inl rfl
    exact .inl thins
  | loaded epoch stage =>
    obtain ⟨-, -, thins⟩ := (Action.yields_loadChain epoch stage r).of_completes completes
      (by rintro (_ | routine) <;> simp)
    exact .inl thins

end

end Occurrence

/-- Nobody was evicted. -/
def Relay.Lasts (r r' : Relay) : Prop := r.Thins r' ∧ ¬r.access.Loses r'.access

namespace Occurrence

/-- It happens while nobody is evicted. -/
structure Passes (o : Occurrence) (r r' : Relay) : Prop where
  happens : o.Happens Relay.Lasts r r'
  lasts : ∀ id, r.hub.contains id = true → r'.hub.contains id = true ∨ o = .disconnected id

section

variable {r r' : Relay} {o : Occurrence} {a : Access}

theorem rooted_effect (rooted : a.Rooted) (o : Occurrence) :
    (o.effect a).Rooted
  := by
  cases o with
  | connected kind => apply rooted.connected
  | requested id request => apply rooted.afterRequest
  | disconnected id => apply rooted.disconnected
  | evicted id => apply rooted.setInterest_none
  | _ => apply rooted

/-- Whoever lives after the effect of something was there before and has not ended by it. -/
theorem lived_of_effect (unopened : o.opened? r = none) {id : ConnectionId}
    (lives : ((o.effect a).party id).isSome) :
    (a.party id).isSome ∧ o ≠ .disconnected id
  := by
  cases o with
  | connected => cases unopened
  | requested who request =>
    rw [effect, Access.isSome_party_afterRequest] at lives
    exact ⟨lives, nofun⟩
  | disconnected who =>
    change ((a.setParty who none).party id).isSome at lives
    rw [Access.party_setParty] at lives
    split at lives
    next => cases lives
    next differs =>
      refine ⟨lives, fun same => differs ?_⟩
      injection same with same
      exact same.symm
  | _ => exact ⟨lives, nofun⟩

/-- Without evictions, what happens has exactly its effect. -/
theorem access_of_passes (passes : Passes o r r') (rooted : r.access.Rooted) :
    r'.access = o.effect r.access
  := by
  cases unopened : o.opened? r with
  | some id =>
    cases o with
    | connected kind sink capacity =>
      obtain ⟨r₁, r₂, before, made, after⟩ := exists_of_connected passes.happens
      have first := before.1.eq_of_rooted rooted before.2
      rw [first] at made
      have last := after.1.eq_of_rooted (by rw [made]; exact rooted.connected kind) after.2
      rw [last, made]
      rfl
    | _ => cases unopened
  | none =>
    have kept : ¬(o.effect r.access).Loses r'.access := by
      rintro ⟨id, lives, lost⟩
      obtain ⟨lived, stays⟩ := lived_of_effect unopened lives
      rw [Relay.isSome_party_iff] at lived
      have there := (passes.lasts id lived).resolve_right stays
      rw [← Relay.isSome_party_iff, lost] at there
      cases there
    obtain thins | ⟨loses, -⟩ :=
      carries_of_happens (passes.happens.mono fun lasts => lasts.1) unopened
    · exact thins.eq_of_rooted (rooted_effect rooted o) kept
    · apply absurd loses kept

theorem agrees_effect {b : Access} {leftOut : ConnectionId → Bool}
    (agrees : a.Agrees leftOut b) (kept : o.requester?.any leftOut = false) :
    (o.effect a).Agrees leftOut (o.effect b)
  := by
  cases o with
  | connected kind =>
    have made := agrees.setParty a.ids.next.1 (some { kind })
    unfold effect Access.connected
    rw [agrees.ids]
    exact ⟨made.auth, rfl, made.lives, made.party, made.interest⟩
  | requested id request => exact agrees.afterRequest kept _ _
  | disconnected id => exact (agrees.setParty id none).setInterest id none
  | evicted id => exact agrees.setInterest id none
  | _ => exact agrees

/-- A connection that is made is not identified. -/
theorem party_of_opened {id : ConnectionId} {p : Party} (happens : Happens Relay.Thins o r r')
    (opened : o.opened? r = some id) (lives : r'.access.party id = some p) :
    p.identity = none ∧ p.authorized = false
  := by
  have there : (r'.access.party id).isSome := by rw [lives, Option.isSome_some]
  cases o with
  | connected kind sink capacity =>
    obtain ⟨r₁, r₂, before, made, after⟩ := exists_of_connected happens
    have known := after.party_eq there
    rw [lives, made] at known
    have same : id = r₁.access.ids.next.1 := by
      rw [before.ids]
      exact (Option.some.inj opened).symm
    change _ = (r₁.access.setParty r₁.access.ids.next.1 (some { kind })).party id at known
    rw [Access.party_setParty, if_pos same] at known
    obtain rfl := Option.some.inj known
    exact ⟨rfl, rfl⟩
  | _ => cases opened

/-- What is known of a connection changes only when it identifies itself, for the first time. -/
theorem party_of_happens {id : ConnectionId} {p : Party} (happens : Happens Relay.Thins o r r')
    (unmade : o.opened? r ≠ some id) (lives : r'.access.party id = some p) :
    r.access.party id = some p ∨
      ∃ request identity token before, o = .requested id request ∧
        request.method = "connection.identify" ∧
        Action.identityParam request.params = .ok (identity, token) ∧
        r.access.party id = some before ∧ before.identity = none ∧
        p = r.access.identifiedAs before identity token
  := by
  have there : (r'.access.party id).isSome := by rw [lives, Option.isSome_some]
  cases unopened : o.opened? r with
  | some made =>
    cases o with
    | connected kind sink capacity =>
      left
      obtain ⟨r₁, r₂, before, made, after⟩ := exists_of_connected happens
      have differs : id ≠ r₁.access.ids.next.1 := by
        rw [before.ids]
        rintro rfl
        apply unmade rfl
      have known := after.party_eq there
      rw [made] at known
      change _ = (r₁.access.setParty r₁.access.ids.next.1 (some { kind })).party id at known
      rw [Access.party_setParty, if_neg differs] at known
      rw [← before.party_eq (by rw [← known, there]), ← known, lives]
    | _ => cases unopened
  | none =>
    obtain thins | ⟨-, thins⟩ := carries_of_happens happens unopened
    · have known := thins.party_eq there
      rw [lives] at known
      cases o with
      | connected => cases unopened
      | requested who request =>
        obtain same | ⟨rfl, method, identity, token, before, presented, found, fresh, changed⟩ :=
          r.access.party_afterRequest who request.method request.params id
        · left
          rw [← same]
          apply known.symm
        · right
          rw [effect, changed] at known
          exact ⟨request, identity, token, before, rfl, method, presented, found, fresh,
            Option.some.inj known⟩
      | disconnected who =>
        left
        change _ = (r.access.setParty who none).party id at known
        rw [Access.party_setParty] at known
        split at known
        next => cases known
        next => apply known.symm
      | _ => exact .inl known.symm
    · left
      rw [← thins.party_eq there, lives]

theorem auth_of_happens (happens : Happens Relay.Thins o r r') :
    r'.hub.auth = r.hub.auth
  := by
  cases unopened : o.opened? r with
  | some made =>
    cases o with
    | connected kind sink capacity =>
      obtain ⟨r₁, r₂, before, made, after⟩ := exists_of_connected happens
      have same := congrArg Access.auth made
      exact after.auth.trans (same.trans before.auth)
    | _ => cases unopened
  | none =>
    obtain thins | ⟨-, thins⟩ := carries_of_happens happens unopened
    · apply thins.auth.trans
      cases o with
      | requested id request => apply Access.auth_afterRequest
      | _ => rfl
    · apply thins.auth

/-- A request changes the interest of another connection only if that one is lost, or if the
connection is authorized. -/
theorem interest_of_requested {id other : ConnectionId} {request : Rpc.Request}
    (happens : Happens Relay.Thins (.requested id request) r r') (differs : other ≠ id) :
    r'.access.interest other = r.access.interest other ∨
      r'.access.interest other = none ∧
        (r.hub.isAuthorized id = .ok true ∨ r'.hub.contains other = false)
  := by
  have lost_of (lost : r'.access.party other = none) : r'.hub.contains other = false := by
    rw [← Relay.isSome_party_iff, lost, Option.isSome_none]
  obtain thins | ⟨-, thins⟩ := carries_of_happens happens rfl
  · obtain same | ⟨lost, dropped⟩ := thins.interest other
    · rw [same]
      obtain kept | ⟨dropped, party, known, authorized⟩ :=
        r.access.interest_afterRequest id request.method request.params differs
      · exact .inl kept
      · refine .inr ⟨dropped, .inl ?_⟩
        rw [Action.isAuthorized_eq, known, ← authorized]
    · exact .inr ⟨dropped, .inr (lost_of lost)⟩
  · obtain same | ⟨lost, dropped⟩ := thins.interest other
    · exact .inl same
    · exact .inr ⟨dropped, .inr (lost_of lost)⟩

end

end Occurrence

/-! ### Runs -/

/-- What happens one after another, with the relay after each of it. -/
abbrev Course := List (Occurrence × Relay)

namespace Course

/-- The relay in the end. -/
def final (start : Relay) : Course → Relay
  | [] => start
  | (_, r) :: later => final r later

/-- The relays from the first to the last. -/
def states (start : Relay) (course : Course) : List Relay := start :: course.map Prod.snd

/-- The connections that are made. -/
def opened (start : Relay) : Course → List ConnectionId
  | [] => []
  | (o, r) :: later => (o.opened? start).toList ++ opened r later

/-- All of it happens in this way. -/
def Follows (step : Occurrence → Relay → Relay → Prop) (start : Relay) : Course → Prop
  | [] => True
  | (o, r) :: later => step o start r ∧ Follows step r later

section

variable {start start' : Relay} {course course' : Course} {id : ConnectionId}

theorem final_append (start : Relay) (course course' : Course) :
    final start (course ++ course') = final (final start course) course'
  := by
  induction course generalizing start with
  | nil => rfl
  | cons step course ih => apply ih

theorem follows_append {step : Occurrence → Relay → Relay → Prop} :
    Follows step start (course ++ course') ↔
      Follows step start course ∧ Follows step (final start course) course'
  := by
  induction course generalizing start with
  | nil => simp [Follows, final]
  | cons step course ih =>
    obtain ⟨o, r⟩ := step
    rw [List.cons_append, Follows, Follows, ih, and_assoc, final]

theorem Follows.mono {step step' : Occurrence → Relay → Relay → Prop}
    (follows : Follows step start course) (implies : ∀ {o r r'}, step o r r' → step' o r r') :
    Follows step' start course
  := by
  induction course generalizing start with
  | nil => trivial
  | cons _ course ih => exact ⟨implies follows.1, ih follows.2⟩

theorem auth_final (follows : Follows (Occurrence.Happens Relay.Thins) start course) :
    (final start course).hub.auth = start.hub.auth
  := by
  induction course generalizing start with
  | nil => rfl
  | cons step course ih =>
    obtain ⟨happens, later⟩ := follows
    rw [final, ih later, Occurrence.auth_of_happens happens]

/-- A connection that lives in the end and was not made meanwhile was there before; and if it was
identified then, it is still the same. -/
theorem exists_party {p' : Party} (follows : Follows (Occurrence.Happens Relay.Thins) start course)
    (unmade : id ∉ opened start course) (lives : (final start course).access.party id = some p') :
    ∃ p, start.access.party id = some p ∧ (p.identity.isSome → p' = p)
  := by
  induction course generalizing start with
  | nil => exact ⟨p', lives, fun _ => rfl⟩
  | cons step course ih =>
    obtain ⟨o, r⟩ := step
    obtain ⟨happens, later⟩ := follows
    rw [opened, List.mem_append, not_or, Option.mem_toList] at unmade
    obtain ⟨p, known, kept⟩ := ih later unmade.2 lives
    obtain same | ⟨request, identity, token, before, -, -, -, found, fresh, -⟩ :=
      Occurrence.party_of_happens happens unmade.1 known
    · exact ⟨p, same, kept⟩
    · use before, found
      rw [fresh]
      nofun

/-- The last step of a course, which identifies a connection or not. -/
theorem follows_concat {step : Occurrence → Relay → Relay → Prop} {o : Occurrence} {r : Relay} :
    Follows step start (course ++ [(o, r)]) ↔
      Follows step start course ∧ step o (final start course) r
  := by
  rw [follows_append]
  simp [Follows]

/-- Whoever a connection is, it has said so in a request, before which it was nobody. -/
theorem exists_identification {p : Party}
    (follows : Follows (Occurrence.Happens Relay.Thins) start course)
    (fresh : ∀ p, start.access.party id = some p → p.identity = none ∧ p.authorized = false)
    (lives : (final start course).access.party id = some p) :
    (p.identity = none ∧ p.authorized = false) ∨
      ∃ before request r later, course = before ++ (.requested id request, r) :: later ∧
        request.method = "connection.identify" ∧
        ∃ identity token p₀, Action.identityParam request.params = .ok (identity, token) ∧
          (final start before).access.party id = some p₀ ∧ p₀.identity = none ∧
          p.identity = some identity ∧ p.authorized = start.hub.auth.authorizes identity token
  := by
  induction course using List.reverseRecOn generalizing p with
  | nil => exact .inl (fresh p lives)
  | append_singleton course step ih =>
    obtain ⟨o, r⟩ := step
    obtain ⟨earlier, happens⟩ := follows_concat.1 follows
    rw [final_append] at lives
    by_cases made : o.opened? (final start course) = some id
    · exact .inl (Occurrence.party_of_opened happens made lives)
    · obtain same | ⟨request, identity, token, p₀, rfl, method, presented, found, fresh, rfl⟩ :=
        Occurrence.party_of_happens happens made lives
      · obtain undecided | ⟨before, request, r₁, later, rfl, decided⟩ := ih earlier same
        · exact .inl undecided
        · exact .inr ⟨before, request, r₁, later ++ [(o, r)], by simp, decided⟩
      · right
        use course, request, r, [], rfl, method, identity, token, p₀, presented, found, fresh, rfl
        change (final start course).hub.auth.authorizes identity token = _
        rw [auth_final earlier]

/-- Two courses that differ in requests of connections that are left out, and never authorized, come
to the same for all others. -/
theorem agrees_final {leftOut : ConnectionId → Bool}
    (follows : Follows Occurrence.Passes start course)
    (follows' : Follows Occurrence.Passes start' course')
    (agrees : start.access.Agrees leftOut start'.access) (rooted : start.access.Rooted)
    (rooted' : start'.access.Rooted)
    (unauthorized : ∀ r ∈ states start course, ∀ id, leftOut id = true →
      r.hub.isAuthorized id ≠ .ok true)
    (same : course'.map Prod.fst =
      (course.map Prod.fst).filter fun o => !o.requester?.any leftOut) :
    (final start course).access.Agrees leftOut (final start' course').access
  := by
  induction course generalizing start start' course' with
  | nil =>
    rw [List.map_eq_nil_iff.1 same]
    apply agrees
  | cons step course ih =>
    obtain ⟨o, r⟩ := step
    obtain ⟨passes, later⟩ := follows
    have exact_effect := Occurrence.access_of_passes passes rooted
    have rooted_after : r.access.Rooted := by
      rw [exact_effect]
      exact Occurrence.rooted_effect rooted o
    have unauthorized_after := fun r' mem => unauthorized r' (List.mem_cons_of_mem _ mem)
    cases left : o.requester?.any leftOut with
    | true =>
      rw [List.map_cons, List.filter_cons_of_neg (by simp [left])] at same
      apply ih later follows' _ rooted_after rooted' unauthorized_after same
      rw [exact_effect]
      cases o with
      | requested id request =>
        apply agrees.leaveRequest left
        intro party known
        have denied := unauthorized start List.mem_cons_self id left
        rw [Action.isAuthorized_eq, known] at denied
        cases authorized : party.isAuthorized with
        | true =>
          apply absurd _ denied
          rw [← authorized]
        | false => rfl
      | _ => cases left
    | false =>
      rw [List.map_cons, List.filter_cons_of_pos (by simp [left])] at same
      cases course' with
      | nil => cases same
      | cons step' course' =>
        obtain ⟨o', r'⟩ := step'
        obtain ⟨rfl, rest⟩ := List.cons.inj same
        obtain ⟨passes', later'⟩ := follows'
        have exact_effect' := Occurrence.access_of_passes passes' rooted'
        apply ih later later' _ rooted_after _ unauthorized_after rest
        · rw [exact_effect, exact_effect']
          exact Occurrence.agrees_effect agrees left
        · rw [exact_effect']
          exact Occurrence.rooted_effect rooted' o'

/-- Let anything happen, in whatever order, while others may evict connections at any time.  Then
what a connection is and whether it is authorized is decided by one request: the first one by which
it says who it is.  It is authorized if its name is trusted or it presents the configured key, if
this is not empty.  After that it stays the same, as long as it lives.  A request drops the interest
of another connection only if its own is authorized at that time, unless that other one is lost,
and does nothing else to it; and only those who are authorized get the list of connections.  If
nobody is evicted, then requests of connections that are never authorized can as well be left out:
the interest of any other connection will be the same in the end. -/
theorem authority_respected (follows : Follows (Occurrence.Happens Relay.Thins) start course) :
    (∀ id,
      (∀ c, start.hub.connections.get? id = some c → c.identity = none ∧ c.authorized = false) →
      ∀ c, (final start course).hub.connections.get? id = some c →
        (c.identity = none ∧ c.authorized = false) ∨
          ∃ before request r later, course = before ++ (.requested id request, r) :: later ∧
            (∀ c, (final start before).hub.connections.get? id = some c → c.identity = none) ∧
            request.method = "connection.identify" ∧
            ∃ identity token, Action.identityParam request.params = .ok (identity, token) ∧
              c.identity = some identity ∧
              (c.authorized = true ↔
                identity.clientName ∈ start.hub.auth.trustedClients ∨
                  ∃ key, start.hub.auth.apiKey = some key ∧ key ≠ "" ∧ token = some key)) ∧
    (∀ before later, course = before ++ later → ∀ id c c',
      id ∉ opened (final start before) later →
      (final start before).hub.connections.get? id = some c → c.identity.isSome →
      (final start course).hub.connections.get? id = some c' →
      c'.identity = c.identity ∧ c'.authorized = c.authorized) ∧
    (∀ before id request r later, course = before ++ (.requested id request, r) :: later →
      ∀ other ≠ id,
        r.registry.table.interest? (.connection other) =
            (final start before).registry.table.interest? (.connection other) ∨
          r.registry.table.interest? (.connection other) = none ∧
            ((final start before).hub.isAuthorized id = .ok true ∨
              r.hub.contains other = false)) ∧
    (∀ r id params, Action.Yields r (Action.dispatch id "connection.list" params)
      fun _ outcome => ∀ listed, outcome = .ok listed → r.hub.isAuthorized id = .ok true) ∧
    (∀ start' course' leftOut id, start'.access = start.access → start.access.Rooted →
      Follows Occurrence.Passes start course → Follows Occurrence.Passes start' course' →
      (∀ r ∈ states start course, ∀ other, leftOut other = true →
        r.hub.isAuthorized other ≠ .ok true) →
      course'.map Prod.fst =
        (course.map Prod.fst).filter (fun o => !o.requester?.any leftOut) →
      leftOut id = false →
      (final start' course').registry.table.interest? (.connection id) =
        (final start course).registry.table.interest? (.connection id))
  := by
  have known_of {r : Relay} {id : ConnectionId} {c : Connection}
      (found : r.hub.connections.get? id = some c) :
      r.access.party id = some ⟨c.kind, c.identity, c.authorized⟩
    := by
    dsimp only [Relay.access]
    rw [found]
    rfl
  refine ⟨?_, ?_, ?_, ?_, ?_⟩
  · intro id fresh c found
    have nobody_yet (p : Party) (known : start.access.party id = some p) :
        p.identity = none ∧ p.authorized = false
      := by
      obtain ⟨c, found, rfl⟩ := Option.map_eq_some_iff.1 known
      exact fresh c found
    obtain undecided | ⟨before, request, r, later, rfl, method, identity, token, p₀, presented,
        known, nobody, named, decided⟩ :=
      exists_identification follows nobody_yet (known_of found)
    · exact .inl undecided
    · right
      refine ⟨before, request, r, later, rfl, ?_, method, identity, token, presented, named, ?_⟩
      · intro c' found'
        have same := known_of found'
        rw [known] at same
        obtain rfl := Option.some.inj same
        apply nobody
      · rw [← Config.AuthSettings.authorizes_iff, ← decided]
  · rintro before later rfl id c c' unmade found identified found'
    rw [final_append] at found'
    obtain ⟨p, known, kept⟩ := exists_party (follows_append.1 follows).2 unmade (known_of found')
    rw [known_of found] at known
    obtain rfl := Option.some.inj known
    injection kept identified with _ identity authorized
    exact ⟨identity, authorized⟩
  · rintro before id request r later rfl other differs
    exact Occurrence.interest_of_requested (follows_append.1 follows).2.1 differs
  · intro r id params
    apply (Action.yields_connection_list id params r).mono
    intro _ outcome listed listing succeeded
    obtain ⟨party, known, authorized⟩ := listed listing succeeded
    rw [Action.isAuthorized_eq, known, ← authorized]
  · intro start' course' leftOut id alike rooted passes passes' unauthorized same kept
    have agrees := agrees_final passes passes' (by rw [alike]; apply Access.Agrees.refl) rooted
      (by rw [alike]; exact rooted) unauthorized same
    exact agrees.interest id kept

end

/-! ### A guest -/

/-- The course in which these happen without others. -/
def alone (start : Relay) : List Occurrence → Course
  | [] => []
  | o :: later =>
    let r := (o.process.alone 100 start).1
    (o, r) :: alone r later

/-- Whether all of these come to an end, and no connection does. -/
def lasts (start : Relay) : List Occurrence → Bool
  | [] => true
  | o :: later =>
    let (r, last) := o.process.alone 100 start
    last.isOver && start.hub.connections.keys.all r.hub.contains && lasts r later

theorem map_fst_alone (start : Relay) (occurrences : List Occurrence) :
    (alone start occurrences).map Prod.fst = occurrences
  := by
  induction occurrences generalizing start with
  | nil => rfl
  | cons o later ih =>
    rw [alone, List.map_cons, ih]

theorem follows_alone {start : Relay} {occurrences : List Occurrence}
    (lasts : lasts start occurrences = true) :
    Follows Occurrence.Passes start (alone start occurrences)
  := by
  induction occurrences generalizing start with
  | nil => trivial
  | cons o later ih =>
    rw [Course.lasts, Bool.and_eq_true, Bool.and_eq_true] at lasts
    obtain ⟨⟨stops, kept⟩, others⟩ := lasts
    have refl (r : Relay) : r.Lasts r := by
      refine ⟨Access.Thins.refl _, ?_⟩
      rintro ⟨id, lives, lost⟩
      rw [lost] at lives
      cases lives
    use ⟨⟨_, _, Process.completes_alone refl stops, refl _⟩, fun id lives => .inl ?_⟩, ih others
    exact List.all_eq_true.1 kept id (SortedMap.mem_keys_iff.2 (SortedMap.contains_iff.1 lives))

/-- A relay with a key and without clients. -/
def guestRelay : Relay where
  hub := { auth := { apiKey := some "key" } }
  script := some {}

def guestRequest (method : String) (members : List (String × Json)) : Rpc.Request :=
  ⟨method, .ofMembers members, some (.ofNat 1)⟩

/-- The second client wants the speed of the fan.  The first one presents a wrong key, and asks for
the interest of the second one to be dropped. -/
def guestOccurrences : List Occurrence :=
  [.connected .duplex .mailbox 4, .connected .duplex .mailbox 4,
    .requested 1 (guestRequest "connection.identify"
      [("client_name", .string "guest"), ("access_token", .string "guess")]),
    .requested 2 (guestRequest "objects.subscribe"
      [("objects", .ofMembers [("fan", .array [.string "speed"])])]),
    .requested 1 (guestRequest "objects.unsubscribe" [("connection_id", .ofNat 2)])]

/-- Without the requests of the first client it comes to the same. -/
theorem authority_of_guest :
    let kept := guestOccurrences.filter fun o => !o.requester?.any (· == 1)
    (final guestRelay (alone guestRelay kept)).registry.table.interest? (.connection 2) =
        (final guestRelay (alone guestRelay guestOccurrences)).registry.table.interest?
          (.connection 2) ∧
      ((final guestRelay (alone guestRelay guestOccurrences)).registry.table.interest?
        (.connection 2)).isSome = true
  := by
  intro kept
  have passes : Follows Occurrence.Passes guestRelay (alone guestRelay guestOccurrences) :=
    follows_alone (by decide +kernel)
  have passes' : Follows Occurrence.Passes guestRelay (alone guestRelay kept) :=
    follows_alone (by decide +kernel)
  have unauthorized : (states guestRelay (alone guestRelay guestOccurrences)).all
      (fun r => (r.hub.isAuthorized 1).toOption != some true) = true
    := by decide +kernel
  constructor
  · obtain ⟨-, -, -, -, unchanged⟩ :=
      authority_respected (passes.mono fun passes => passes.happens.mono fun lasts => lasts.1)
    apply unchanged guestRelay _ (· == 1) 2 rfl _ passes passes'
    · intro r mem other left authorized
      have refused := List.all_eq_true.1 unauthorized r mem
      rw [← eq_of_beq left, authorized] at refused
      cases refused
    · rw [map_fst_alone, map_fst_alone]
    · rfl
    · intro id _
      rfl
  · decide +kernel

end Course

end ControlRelay
