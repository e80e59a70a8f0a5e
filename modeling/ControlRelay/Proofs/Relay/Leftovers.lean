import ControlRelay.Proofs.Relay.Turns

/-!
# No interest is left behind

Over every run of a pool, an interest outlives its connection only as long as somebody is about to
drop it: its connection is reported as evicted, or a process releases it.  So when all processes are
idle and all evictions have been read, only connections that are there have interests, and the
composite asks for nothing else.
-/

namespace ControlRelay

open Program

namespace Relay

/-- An idle process waits for something that has nothing to do with clients and their interests:
whatever these are, it may come to its end, or to where it goes on by name, without changing
them. -/
inductive Idle : RelayProcess → Prop where
  | ended {p : RelayProcess} (stops : p.isOver = true) : Idle p
  | step {run : Relay → Relay × RelayProcess} (seen : Relay → Relay)
      (before : ∀ r, Aside r (seen r)) (after : ∀ r, Aside (seen r) (run (seen r)).1)
      (next : ∀ r, Idle (run (seen r)).2) :
      Idle (.step run)
  | wait {signals : List Signal} {deadline : Option Nat} {p : RelayProcess} (next : Idle p) :
      Idle (.wait signals deadline p)
  | fork {child p : RelayProcess} (started : Idle child) (next : Idle p) : Idle (.fork child p)

section

variable {id : ConnectionId} {p : RelayProcess}

theorem not_releases_of_idle (idle : Idle p) :
    ¬Releases id p
  := by
  -- a relay in which the connection has left an interest
  let table : SubscriptionTable Subscriber :=
    { clients := (∅ : SortedMap Subscriber Interest).insert (.connection id) ∅ }
  let r : Relay := { registry := { table } }
  induction idle with
  | ended stops =>
    intro releases
    cases releases <;> cases stops
  | @step run seen before after _ ih =>
    intro releases
    cases releases with
    | step next =>
      apply ih r
      apply next
      · rw [(before r).hub]
        rfl
      · unfold Registry.HasEntry
        rw [(after r).registry, (before r).registry]
        change ((∅ : SortedMap Subscriber Interest).insert _ ∅ |>.get? _).isSome = true
        rw [SortedMap.get?_insert_self]
        rfl
  | wait _ ih =>
    intro releases
    cases releases with
    | wait next => exact ih next
  | fork _ _ _ ih =>
    intro releases
    cases releases with
    | fork next => exact ih next

end

end Relay

/-! ### Kinds of connections -/

namespace Relay

/-- Every connection has got its identifier before. -/
def Issued (bound : Nat) (r : Relay) : Prop := ∀ id kind, r.kind? id = some kind → id.toNat < bound

/-- Only connections that can be pushed to have interests, the composite is what it should be, and
no identifier has been given twice. -/
structure Clean (r : Relay) : Prop where
  entries : ∀ id, r.registry.HasEntry id → ∃ kind, r.kind? id = some kind ∧ kind.supportsPush = true
  sound : r.registry.table.Sound
  issued : r.Issued r.hub.ids.current.toNat

/-- With a new connection its kind becomes known. -/
theorem Issues.exists_kinds {r r' : Relay} {kinds : ConnectionId → TransportKind}
    (issues : Issues r r') (known : r.Kinds kinds) (issued : r.Issued r.hub.ids.current.toNat)
    (enough : r.hub.ids.current.toNat + 1 < UInt64.size) :
    ∃ kinds', r'.Kinds kinds' ∧ r'.Issued r'.hub.ids.current.toNat ∧
      (∀ id, id.toNat < r.hub.ids.current.toNat → kinds' id = kinds id) ∧
      r.hub.ids.current.toNat ≤ r'.hub.ids.current.toNat ∧
      r'.hub.ids.current.toNat ≤ r.hub.ids.current.toNat + 1
  := by
  have next (step : r'.hub.ids = r.hub.ids.next.2) :
      r'.hub.ids.current.toNat = r.hub.ids.current.toNat + 1
    := by
    rw [step, Sequence.next, UInt64.toNat_add]
    exact Nat.mod_eq_of_lt enough
  have grown : r.hub.ids.current.toNat ≤ r'.hub.ids.current.toNat ∧
      r'.hub.ids.current.toNat ≤ r.hub.ids.current.toNat + 1
    := by
    obtain same | step := issues.ids
    · rw [same]
      omega
    · have stepped := next step
      omega
  use fun id =>
    if id.toNat < r.hub.ids.current.toNat then kinds id else (r'.kind? id).getD .duplex
  refine ⟨fun id kind found => ?_, fun id kind found => ?_, fun id old => if_pos old, grown⟩
  · dsimp only
    split
    next old =>
      obtain before | ⟨rfl, -⟩ := issues.kind id kind found
      · exact known id kind before
      · exact absurd old (Nat.lt_irrefl _)
    next => rw [found, Option.getD_some]
  · obtain before | ⟨rfl, step⟩ := issues.kind id kind found
    · exact (issued id kind before).trans_le grown.1
    · rw [next step]
      exact Nat.lt_succ_self _

end Relay

namespace Pool

section

/-- Over a whole run every connection has one kind, unless identifiers run out. -/
theorem exists_kinds (pool : Pool) {happenings : List Happening}
    (kept : ∀ kinds, pool.relay.Kinds kinds → ∃ standing, Kept kinds standing pool)
    (issued : pool.relay.Issued pool.relay.hub.ids.current.toNat)
    (orderly : pool.Orderly happenings)
    (enough : pool.relay.hub.ids.current.toNat + happenings.length < UInt64.size) :
    ∃ kinds,
      (∀ p ∈ pool.states happenings, p.relay.Kinds kinds ∧
        p.relay.Issued (pool.run happenings).relay.hub.ids.current.toNat) ∧
      (pool.run happenings).relay.hub.ids.current.toNat ≤
        pool.relay.hub.ids.current.toNat + happenings.length
  := by
  induction happenings using List.reverseRecOn with
  | nil =>
    use fun id => (pool.relay.kind? id).getD .duplex
    constructor
    · intro p mem
      rw [List.mem_singleton.1 mem]
      refine ⟨fun id kind known => ?_, issued⟩
      dsimp only
      rw [known, Option.getD_some]
    · apply Nat.le_refl
  | append_singleton happenings happening ih =>
    obtain ⟨before, admitted⟩ := orderly_concat.1 orderly
    rw [List.length_append, List.length_singleton] at enough
    obtain ⟨kinds, known, grown⟩ := ih before (by omega)
    obtain ⟨standing, start⟩ := kept kinds (known pool (mem_states _ _)).1
    obtain ⟨standing', kept'⟩ := start.exists_run before fun p mem => (known p mem).1
    obtain ⟨known', issued'⟩ := known _ (run_mem_states pool happenings)
    obtain ⟨kinds', later, issued'', same, least, most⟩ :=
      (kept'.exists_next known' admitted).2.exists_kinds known' issued' (by omega)
    rw [run_concat, List.length_append, List.length_singleton]
    use kinds'
    constructor
    · intro p mem
      rw [states_concat] at mem
      obtain earlier | last := List.mem_append.1 mem
      · obtain ⟨knownHere, issuedHere⟩ := known p earlier
        constructor
        · intro id kind found
          rw [same id (issuedHere id kind found)]
          exact knownHere id kind found
        · intro id kind found
          exact (issuedHere id kind found).trans_le least
      · rw [List.mem_singleton.1 last]
        exact ⟨later, issued''⟩
    · omega

theorem kept_started {relay : Relay} {kinds : ConnectionId → TransportKind} (clean : relay.Clean)
    (known : relay.Kinds kinds) (s : EventService) (tick : Nat) :
    Kept kinds (fun _ => .free) (started relay s tick)
  := by
  refine ⟨fun i p found => ?_, fun _ _ => rfl, ⟨?_, fun _ => trivial, ?_, ?_⟩, ?_, ?_, clean.sound⟩
  · rw [List.mem_singleton.1 (List.mem_of_getElem? found)]
    apply Relay.Behaves.enter
  · rintro i ticket ⟨⟩
  · rintro i j ticket ⟨⟩
  · rintro i ticket ⟨⟩
  · intro _ id entry
    obtain ⟨kind, found, -⟩ := clean.entries id entry
    exact .inl (Relay.contains_iff.2 ⟨kind, found⟩)
  · intro id entry
    obtain ⟨kind, found, pushed⟩ := clean.entries id entry
    rw [← known id kind found]
    exact pushed

/-- The composite is the union of what the scheduler and the live connections want, if nobody else
has an interest. -/
theorem union_of_live {r : Relay} (sound : r.registry.table.Sound)
    (live : ∀ id, r.registry.HasEntry id → r.hub.contains id = true) (object : String) :
    AttributeSet.IsUnion
      (fun set => ∃ who : Subscriber, (∀ id, who = .connection id → r.hub.contains id = true) ∧
        r.registry.table.asks who object = some set)
      (r.registry.table.composite.get? object)
  := by
  apply (sound.union_composite object).congr
  intro set
  constructor
  · rintro ⟨who, asked⟩
    refine ⟨who, ?_, asked⟩
    rintro id rfl
    apply live
    unfold Registry.HasEntry
    unfold SubscriptionTable.asks at asked
    cases interest : r.registry.table.interest? (.connection id) with
    | none =>
      rw [interest] at asked
      cases asked
    | some => rfl
  · rintro ⟨who, -, asked⟩
    exact ⟨who, asked⟩

/-- Let clients connect, subscribe, unsubscribe and leave in any way, let notifications evict them,
and let the control process answer what it likes, while all processes take their steps in any order
in which nobody goes on without its turn at the registry.  (Topic services have no objects of their
own, and identifiers do not run out.)  Then an interest is never that of a request-response
connection.  As long as the channel of evictions has its reader, the connection of an interest
lives, or is reported as evicted, or there is a process that releases it.  Hence when nothing is
reported and everything that goes on is idle, only live connections have interests, and the
composite is the union of what they and the scheduler want. -/
theorem no_interest_left {relay : Relay} {s : EventService} {tick : Nat}
    {happenings : List Happening} {pool : Pool} (clean : relay.Clean)
    (orderly : (started relay s tick).Orderly happenings)
    (enough : relay.hub.ids.current.toNat + happenings.length < UInt64.size)
    (reached : pool = (started relay s tick).run happenings) :
    (∀ id, pool.relay.registry.HasEntry id → ∀ p ∈ (started relay s tick).states happenings,
      ∀ kind, p.relay.kind? id = some kind → kind ≠ .requestResponse) ∧
    (pool.relay.evictions.hasReader = true →
      (∀ id, pool.relay.registry.HasEntry id →
        pool.relay.hub.contains id = true ∨ id ∈ pool.relay.evictions.items ∨
          ∃ p ∈ pool.processes, Relay.Releases id p) ∧
      (pool.relay.evictions.items = [] → (∀ p ∈ pool.processes, Relay.Idle p) →
        (∀ id, pool.relay.registry.HasEntry id → pool.relay.hub.contains id = true) ∧
        ∀ object, AttributeSet.IsUnion
          (fun set => ∃ who : Subscriber,
            (∀ id, who = .connection id → pool.relay.hub.contains id = true) ∧
              pool.relay.registry.table.asks who object = some set)
          (pool.relay.registry.table.composite.get? object)))
  := by
  obtain ⟨kinds, known, -⟩ := exists_kinds (started relay s tick)
    (fun kinds known => ⟨_, kept_started clean known s tick⟩) clean.issued orderly enough
  have start := kept_started clean (known _ (mem_states _ _)).1 s tick
  obtain ⟨standing, kept⟩ := start.exists_run orderly fun p mem => (known p mem).1
  rw [← reached] at kept
  refine ⟨fun id entry p mem kind found => ?_, fun reads => ⟨kept.cared reads, ?_⟩⟩
  · have pushed := kept.pushed id entry
    rw [← (known p mem).1 id kind found] at pushed
    rintro rfl
    cases pushed
  · intro unreported idle
    have live (id : ConnectionId) (entry : pool.relay.registry.HasEntry id) :
        pool.relay.hub.contains id = true
      := by
      obtain lives | reported | ⟨p, mem, releases⟩ := kept.cared reads id entry
      · exact lives
      · rw [unreported] at reported
        cases reported
      · exact absurd releases (Relay.not_releases_of_idle (idle p mem))
    exact ⟨live, union_of_live kept.sound live⟩

end

/-! ### A client that leaves while it subscribes -/

/-- A relay without clients. -/
def racingRelay : Relay where
  script := some {}

def racingService : EventService := ⟨0, .events, 1000, true⟩

/-- A request for the speed of the fan. -/
def subscriptionText : String :=
  (Json.ofMembers [("jsonrpc", .string "2.0"), ("id", .ofNat 1),
    ("method", .string "objects.subscribe"),
    ("params", .ofMembers [("objects", .ofMembers [("fan", .array [.string "speed"])])])]).text

/-- Two clients subscribe.  The first one leaves after its request has been taken, and its interest
is dropped before the subscription puts it in. -/
def racingHappenings : List Happening :=
  [.begins (.openSession 4), .goes 0, .goes 0, .begins (.openSession 4), .goes 1, .goes 1,
    .begins (.received 2 subscriptionText), .goes 2, .goes 3, .goes 3, .goes 3, .goes 3, .goes 3,
    .begins (.received 1 subscriptionText), .goes 4, .goes 5,
    .begins (.closeSession 1), .goes 6, .goes 6, .goes 6, .goes 6,
    .goes 5, .goes 5, .goes 5, .goes 5, .goes 5, .goes 5, .goes 5]

def racingPool : Pool := (started racingRelay racingService 0).run racingHappenings

/-- The interest of the first client is dropped again, and that of the second one stays. -/
theorem no_interest_left_of_racer :
    racingPool.relay.hub.contains 1 = false ∧ ¬racingPool.relay.registry.HasEntry 1 ∧
      racingPool.relay.registry.HasEntry 2
  := by
  have clean : racingRelay.Clean := by
    refine ⟨?_, SubscriptionTable.sound_empty, ?_⟩
    · rintro id ⟨⟩
    · rintro id kind ⟨⟩
  have orderly : (started racingRelay racingService 0).Orderly racingHappenings := by
    decide +kernel
  have stopped : racingPool.processes.all Process.isOver = true := by decide +kernel
  have idle (p : RelayProcess) (mem : p ∈ racingPool.processes) : Relay.Idle p :=
    .ended (List.all_eq_true.1 stopped p mem)
  have reads : racingPool.relay.evictions.hasReader = true := by decide +kernel
  have unreported : racingPool.relay.evictions.items = [] := by decide +kernel
  have lost : racingPool.relay.hub.contains 1 = false := by decide +kernel
  have reached : racingPool = (started racingRelay racingService 0).run racingHappenings := rfl
  have left := no_interest_left clean orderly (by decide) reached
  refine ⟨lost, fun entry => ?_, by decide +kernel⟩
  have lives := ((left.2 reads).2 unreported idle).1 1 entry
  rw [lost] at lives
  cases lives

end Pool

end ControlRelay
