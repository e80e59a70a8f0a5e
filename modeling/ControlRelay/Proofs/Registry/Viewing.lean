import ControlRelay.Proofs.Interest.Request
import ControlRelay.Proofs.Interest.Slice
import ControlRelay.Proofs.Registry.Effects
import ControlRelay.Proofs.Registry.Synced

/-!
# What a subscriber sees

A subscriber keeps a view: it starts with the snapshot that its subscription gave and merges every
part of a status that it gets after that.  While its interest stays and the control process stays
ready, the acknowledged subscription covers the interest, so nothing that other subscribers do
changes a value in the cache that the view has.
-/

namespace ControlRelay.Registry

open Control (Dialogue Exchange)
open SubscriptionTable (partsOf)

/-- The parts that a subscriber gets in a turn, with the time of their push. -/
def Turn.partsFor (who : Subscriber) (turn : Turn) : List (Fields × Float) :=
  match turn.operation, turn.answer with
  | .push _ eventtime, .parts parts => (partsOf who parts).map (·, eventtime)
  | _, _ => []

/-- The view of a subscriber after a turn: the parts are merged into it. -/
def viewNext (who : Subscriber) (view : StatusCache) (turn : Turn) : StatusCache :=
  (turn.partsFor who).foldl (fun view part => view.merge part.1 part.2) view

/-- The view of a subscriber after turns, of which the last one comes first. -/
def viewAfter (who : Subscriber) (view : StatusCache) : List Turn → StatusCache
  | [] => view
  | turn :: earlier => viewNext who (viewAfter who view earlier) turn

/-- The value of an attribute in the newest push that carries one. -/
def newest? (object field : String) : List Turn → Option Json
  | [] => none
  | turn :: earlier =>
    (turn.operation.push?.bind fun push => push.1.valueOf? object field).or
      (newest? object field earlier)

/-- Turns in which the interest of a subscriber and the readiness of the control process stay as
they are; the last one comes first. -/
inductive Meanwhile (who : Subscriber) (r : Registry) : List Turn → Registry → Prop where
  | start : Meanwhile who r [] r
  | turn {later : List Turn} {r₁ r₂ : Registry} {turn : Turn} (earlier : Meanwhile who r later r₁)
      (ends : (r₁.perform turn.operation).Ends turn.exchanges (r₂, turn.answer))
      (interest : r₂.table.interest? who = r₁.table.interest? who)
      (ready : r₂.controlReady = r₁.controlReady) :
      Meanwhile who r (turn :: later) r₂

/-- An attribute that a subscriber is interested in. -/
def Wants (r : Registry) (who : Subscriber) (object field : String) : Prop :=
  ∃ set, r.table.asks who object = some set ∧ field ∈ set

/-- The control process is ready, and the acknowledged subscription covers what a subscriber is
interested in. -/
structure Covers (who : Subscriber) (r : Registry) : Prop where
  ready : r.controlReady = true
  covered : ∀ object field, r.Wants who object field →
    ∃ held, (r.synced.getD ∅).get? object = some held ∧ field ∈ held

section

variable {who : Subscriber} {r r' : Registry} {operation : Operation} {object field : String}

theorem wants_congr (same : r'.table.interest? who = r.table.interest? who)
    (object field : String) :
    r'.Wants who object field ↔ r.Wants who object field
  := by
  unfold Wants SubscriptionTable.asks
  rw [same]

/-- What is asked for is covered once the subscription is the one wanted. -/
theorem exists_covers_of_current (sound : r.table.Sound) (current : r.Current) {set : AttributeSet}
    (asked : r.table.asks who object = some set) :
    ∃ held, (r.synced.getD ∅).get? object = some held ∧ held.covers set = true ∧
      ∀ field ∈ set, field ∈ held
  := by
  rw [current]
  have union := sound.union_composite object
  rw [← composite] at union
  cases held : r.composite.get? object with
  | none =>
    rw [held] at union
    cases union set ⟨who, asked⟩
  | some held_set =>
    rw [held] at union
    use held_set, rfl, union.covers ⟨who, asked⟩
    intro field mem
    apply (union.2.1 field).2
    use set, ⟨who, asked⟩

/-- The composite covers everybody. -/
theorem covers_of_current (sound : r.table.Sound) (current : r.Current)
    (ready : r.controlReady = true) :
    Covers who r
  := by
  use ready
  rintro object field ⟨set, asked, mem⟩
  obtain ⟨held, found, -, members⟩ := exists_covers_of_current sound current asked
  use held, found, members field mem

/-- To bring the subscription up to date leaves it and the values as they are, or takes in the
result of a new subscription, which then is the one wanted. -/
theorem SyncEnds.values {calls : List Exchange} {outcome : Except RelayError Unit}
    (ends : SyncEnds r calls (r', outcome)) (ready : r.controlReady = true) :
    (r'.cache = r.cache ∧ r'.synced = r.synced) ∨
      (∃ status eventtime, r'.cache = r.cache.absorb status eventtime (r.synced.getD ∅)) ∧
        r'.Current
  := by
  cases ends with
  | deferred unready => cases unready.symm.trans ready
  | current => exact .inl ⟨rfl, rfl⟩
  | acknowledged _ _ result => exact .inr ⟨⟨_, _, rfl⟩, rfl⟩
  | failed => exact .inl ⟨rfl, rfl⟩

/-- What a turn does to the values while the subscription covers what a subscriber wants: a push is
taken in, and otherwise every value that is known and wanted stays. -/
theorem Covers.affects (covers : Covers who r) (sound : r'.table.Sound)
    (affects : Affects r operation r')
    (interest : r'.table.interest? who = r.table.interest? who)
    (ready : r'.controlReady = r.controlReady) :
    Covers who r' ∧
      match operation.push? with
      | some (status, eventtime) => r'.cache = r.cache.merge status eventtime
      | none => ∀ object field value, r.Wants who object field →
          r.cache.valueOf? object field = some value → r'.cache.valueOf? object field = some value
  := by
  have wants := wants_congr interest
  cases affects with
  | pushed status eventtime => exact ⟨⟨covers.ready, covers.covered⟩, rfl⟩
  | stopped => cases ready.trans covers.ready
  | prepared unpushed prepares =>
    rw [unpushed]
    constructor
    · use prepares.ready covers.ready
      intro object field wanted
      rw [prepares.synced]
      apply covers.covered object field ((wants object field).1 wanted)
    · intro object field value _ known
      rw [prepares.cache]
      apply known
  | synced unpushed prepares ends =>
    rw [unpushed]
    have prepared := prepares.ready covers.ready
    obtain ⟨cache, synced⟩ | ⟨⟨status, eventtime, absorbs⟩, current⟩ := ends.values prepared
    · constructor
      · use ready.trans covers.ready
        intro object field wanted
        rw [synced, prepares.synced]
        apply covers.covered object field ((wants object field).1 wanted)
      · intro object field value _ known
        rw [cache, prepares.cache]
        apply known
    · constructor
      · apply covers_of_current sound current (ready.trans covers.ready)
      · intro object field value wanted known
        obtain ⟨held, covered, mem⟩ := covers.covered object field wanted
        rw [absorbs, prepares.cache, prepares.synced]
        apply StatusCache.valueOf?_absorb covered mem known

/-! ### Views -/

/-- To merge the parts of a push is to merge those of its values that the subscriber wants. -/
theorem valueOf?_merge_parts (r : Registry) (who : Subscriber) (status : Fields)
    (eventtime : Float) (view : StatusCache) (object field : String) :
    (((partsOf who (r.table.route status)).map (·, eventtime)).foldl
        (fun view part => view.merge part.1 part.2) view).valueOf? object field =
      ((r.table.asks who object).bind fun set =>
        if field ∈ set then status.valueOf? object field else none).or
        (view.valueOf? object field)
  := by
  rw [SubscriptionTable.partsOf_route, SubscriptionTable.partOf?, SubscriptionTable.asks]
  cases r.table.interest? who with
  | none => rfl
  | some interest =>
    rw [Option.bind_some, Option.bind_some, ← SubscriptionTable.valueOf?_slice]
    dsimp only
    split
    next empty =>
      rw [SortedMap.isEmpty_iff.1 empty]
      rfl
    next => apply StatusCache.valueOf?_merge

/-- A view changes by the pushed values that the subscriber wants. -/
theorem valueOf?_viewNext {turn : Turn}
    (ends : (r.perform turn.operation).Ends turn.exchanges (r', turn.answer)) (view : StatusCache)
    (object field : String) :
    (viewNext who view turn).valueOf? object field =
      (turn.operation.push?.bind fun push => (r.table.asks who object).bind fun set =>
        if field ∈ set then push.1.valueOf? object field else none).or
        (view.valueOf? object field)
  := by
  obtain ⟨operation, exchanges, answer⟩ := turn
  cases operation with
  | push status eventtime =>
    obtain ⟨rfl, same⟩ := Dialogue.ends_pure_iff.1 ends
    obtain ⟨-, rfl⟩ := Prod.mk.inj same
    apply valueOf?_merge_parts
  | _ => rfl

/-- All values of a view are wanted, and they are those in the cache. -/
def Views (r : Registry) (who : Subscriber) (view : StatusCache) : Prop :=
  ∀ object field value, view.valueOf? object field = some value →
    r.Wants who object field ∧ r.cache.valueOf? object field = some value

theorem Views.next {view : StatusCache} {turn : Turn} (views : Views r who view)
    (covers : Covers who r) (sound : r'.table.Sound)
    (ends : (r.perform turn.operation).Ends turn.exchanges (r', turn.answer))
    (interest : r'.table.interest? who = r.table.interest? who)
    (ready : r'.controlReady = r.controlReady) :
    Views r' who (viewNext who view turn)
  := by
  obtain ⟨-, values⟩ := covers.affects sound (affects_of_perform ends) interest ready
  intro object field value found
  rw [valueOf?_viewNext ends] at found
  rw [wants_congr interest]
  cases pushed : turn.operation.push? with
  | none =>
    rw [pushed] at found values
    obtain ⟨wanted, known⟩ := views object field value found
    use wanted, values object field value wanted known
  | some push =>
    rw [pushed] at found values
    obtain ⟨status, eventtime⟩ := push
    rw [values, StatusCache.valueOf?_merge]
    rw [Option.bind_some] at found
    obtain carried | ⟨uncarried, seen⟩ := Option.or_eq_some_iff.1 found
    · obtain ⟨set, asked, carried⟩ := Option.bind_eq_some_iff.1 carried
      obtain ⟨mem, carried⟩ := Option.ite_none_right_eq_some.1 carried
      rw [carried]
      exact ⟨⟨set, asked, mem⟩, rfl⟩
    · obtain ⟨⟨set, asked, mem⟩, known⟩ := views object field value seen
      rw [asked, Option.bind_some, if_pos mem] at uncarried
      rw [uncarried, known]
      exact ⟨⟨set, asked, mem⟩, rfl⟩

/-! ### The snapshot of a subscription -/

/-- What the acknowledged subscription covers is answered from the cache alone. -/
theorem cachedPart_of_covered {request : Interest} (ready : r.controlReady = true)
    (covered : ∀ object set, request.get? object = some set →
      ∃ held, (r.synced.getD ∅).get? object = some held ∧ held.covers set = true) :
    r.cachedPart request = ⟨⟨r.cache.eventtime, r.cache.snapshot request⟩, ∅⟩
  := by
  dsimp only [cachedPart]
  rw [ready, (SortedMap.filter_of_all _).1, (SortedMap.filter_of_all _).2]
  · rfl
  all_goals
    rintro ⟨object, set⟩ mem
    obtain ⟨held, found, covers⟩ := covered object set (SortedMap.get?_eq_some_iff.2 mem)
    dsimp only
    rw [found]
    apply covers

/-- What a subscription selects is the interest in these objects afterwards. -/
theorem asks_of_selected {table : SubscriptionTable Subscriber} {changes : InterestChanges}
    {objects : Json} (parsed : parseSubscription objects = .ok changes)
    (applied : r.table = (table.apply who changes).2) {set : AttributeSet}
    (selected : changes.selected.get? object = some set) :
    r.table.asks who object = some set
  := by
  rw [InterestChanges.selected, SortedMap.get?_filterMap] at selected
  obtain ⟨change, named, rfl⟩ := Option.bind_eq_some_iff.1 selected
  rw [applied, SubscriptionTable.asks_apply_self, named]
  simp [isEmpty_of_parseSubscription parsed named]

/-- A snapshot is given only if the subscription could be made. -/
theorem ok_of_answered {outcome : Except RelayError Unit} {request : Interest}
    {queries : List Exchange} {snapshot : Snapshot}
    (ends : Dialogue.Ends
      (match outcome with
      | .error e => pure (r, .error e)
      | .ok () => do
        let answer ← (r.cachedPart request).complete
        pure (r, answer))
      queries (r', .ok snapshot)) :
    outcome = .ok () ∧ r' = r ∧ (r.cachedPart request).complete.Ends queries (.ok snapshot)
  := by
  cases outcome with
  | error e =>
    obtain ⟨-, same⟩ := Dialogue.ends_pure_iff.1 ends
    cases same
  | ok =>
    obtain ⟨answer, completed, same⟩ := Dialogue.ends_of_last (fun _ => ⟨_, rfl⟩) ends
    obtain ⟨rfl, rfl⟩ := Prod.mk.inj (Dialogue.done.inj same)
    exact ⟨rfl, rfl, completed⟩

theorem SyncEnds.current_of_ok {calls : List Exchange} (ends : SyncEnds r calls (r', .ok ()))
    (ready : r.controlReady = true) :
    r'.Current
  := by
  cases ends with
  | deferred unready => cases unready.symm.trans ready
  | current _ current => apply current
  | acknowledged => rfl

/-- How a subscription that succeeds while the control process is ready ends. -/
theorem settled_of_subscribe {changes : InterestChanges} {exchanges : List Exchange}
    {snapshot : Snapshot} (inStep : r.InStep) (ready : r.controlReady = true)
    (ends : (r.subscribe who changes).Ends exchanges (r', .ok snapshot)) :
    r'.table = (r.table.apply who changes).2 ∧ r'.controlReady = true ∧ r'.Current ∧
      ∃ queries, (r'.cachedPart changes.selected).complete.Ends queries (.ok snapshot)
  := by
  unfold subscribe at ends
  dsimp only at ends
  split at ends
  next =>
    obtain ⟨⟨r₁, outcome⟩, calls, queries, rfl, synced, answered⟩ := Dialogue.ends_bind_iff.1 ends
    obtain ⟨rfl, rfl, completed⟩ := ok_of_answered answered
    have ends := syncEnds_of_ends synced
    obtain ⟨table, control⟩ := ends.kept
    exact ⟨table, control.trans ready, ends.current_of_ok ready, queries, completed⟩
  next unchanged =>
    obtain ⟨⟨r₁, outcome⟩, calls, queries, rfl, unsynced, answered⟩ :=
      Dialogue.ends_bind_iff.1 ends
    obtain ⟨rfl, rfl, completed⟩ := ok_of_answered answered
    obtain ⟨-, same⟩ := Dialogue.ends_pure_iff.1 unsynced
    obtain ⟨rfl, -⟩ := Prod.mk.inj same
    rw [Bool.or_eq_true, not_or, SubscriptionTable.apply_fst_iff, not_not, Bool.not_eq_true]
      at unchanged
    have current : r.synced.getD ∅ = r.composite := inStep.clean_iff.1 unchanged.2
    exact ⟨rfl, ready, current.trans unchanged.1.symm, queries, completed⟩

/-- A subscription that succeeds while the control process is ready is answered with the values in
the cache of all that it selects. -/
theorem Run.snapshot_of_subscribe {history : List Turn} (run : Run history r)
    (ready : r.controlReady = true) {objects : Json} {exchanges : List Exchange}
    {snapshot : Snapshot}
    (ends : (r.perform (.subscribe who objects)).Ends exchanges (r', .snapshot (.ok snapshot))) :
    ∃ changes, parseSubscription objects = .ok changes ∧
      r'.table = (r.table.apply who changes).2 ∧ Covers who r' ∧
      snapshot = ⟨r'.cache.eventtime, r'.cache.snapshot changes.selected⟩
  := by
  have sound : r'.table.Sound := (affects_of_perform ends).sound run.sound
  dsimp only [perform] at ends
  split at ends
  next =>
    obtain ⟨-, same⟩ := Dialogue.ends_pure_iff.1 ends
    cases same
  next changes parsed =>
    obtain ⟨⟨r₁, answer⟩, performed, same⟩ := Dialogue.ends_of_last (fun _ => ⟨_, rfl⟩) ends
    cases Dialogue.done.inj same
    obtain ⟨applied, control, current, queries, completed⟩ :=
      settled_of_subscribe run.inStep ready performed
    have part : r₁.cachedPart changes.selected =
        ⟨⟨r₁.cache.eventtime, r₁.cache.snapshot changes.selected⟩, ∅⟩ := by
      apply cachedPart_of_covered control
      intro object set selected
      obtain ⟨held, found, covered, -⟩ :=
        exists_covers_of_current sound current (asks_of_selected parsed applied selected)
      use held, found, covered
    rw [part] at completed
    obtain ⟨-, same⟩ := Dialogue.ends_pure_iff.1 completed
    cases same
    exact ⟨changes, parsed, applied, covers_of_current sound current control, rfl⟩

/-! ### Views after a subscription -/

theorem Meanwhile.run {history later : List Turn} {r₁ r₂ : Registry} (run : Run history r₁)
    (meanwhile : Meanwhile who r₁ later r₂) :
    Run (later ++ history) r₂
  := by
  induction meanwhile with
  | start => apply run
  | turn _ ends _ _ ih => apply Run.turn ih ends

theorem Meanwhile.covers {history later : List Turn} {r₁ r₂ : Registry} (run : Run history r₁)
    (covers : Covers who r₁) (meanwhile : Meanwhile who r₁ later r₂) :
    Covers who r₂
  := by
  induction meanwhile with
  | start => apply covers
  | turn earlier ends interest ready ih =>
    have sound := (affects_of_perform ends).sound (earlier.run run).sound
    apply (ih.affects sound (affects_of_perform ends) interest ready).1

theorem Meanwhile.views {history later : List Turn} {r₁ r₂ : Registry} {view : StatusCache}
    (run : Run history r₁) (covers : Covers who r₁) (views : Views r₁ who view)
    (meanwhile : Meanwhile who r₁ later r₂) :
    Views r₂ who (viewAfter who view later)
  := by
  induction meanwhile with
  | start => apply views
  | turn earlier ends interest ready ih =>
    have sound := (affects_of_perform ends).sound (earlier.run run).sound
    apply ih.next (earlier.covers run covers) sound ends interest ready

theorem Meanwhile.interest {later : List Turn} {r₁ r₂ : Registry}
    (meanwhile : Meanwhile who r₁ later r₂) :
    r₂.table.interest? who = r₁.table.interest? who
  := by
  induction meanwhile with
  | start => rfl
  | turn _ _ interest _ ih => rw [interest, ih]

/-- Of what a subscriber wants, a view has the values of the newest pushes. -/
theorem Meanwhile.valueOf? {later : List Turn} {r₁ r₂ : Registry} (view : StatusCache)
    (meanwhile : Meanwhile who r₁ later r₂) (wanted : r₁.Wants who object field) :
    (viewAfter who view later).valueOf? object field =
      (newest? object field later).or (view.valueOf? object field)
  := by
  induction meanwhile with
  | start => rfl
  | turn earlier ends _ _ ih =>
    obtain ⟨set, asked, mem⟩ := (wants_congr earlier.interest object field).2 wanted
    rw [viewAfter, valueOf?_viewNext ends, asked, ih, newest?, Option.or_assoc]
    simp only [Option.bind_some, if_pos mem]

/-- For every run and every subscription that succeeds in it while the control process is ready:
start a view with the snapshot that it gives, and merge every part that the subscriber gets in later
turns, whatever these are.  As long as its interest and the readiness of the control process stay
as they are, every value in the view is the one in the cache, and of every attribute that the
subscriber wants the view has the value in the newest push that carries one, or else that of the
snapshot.  The subscriber wants all that it has subscribed to, and the snapshot has the values of
the cache. -/
theorem Run.view_is_current {history later : List Turn} {r₁ r₂ : Registry} (run : Run history r)
    (ready : r.controlReady = true) {objects : Json} {exchanges : List Exchange}
    {snapshot : Snapshot}
    (ends : (r.perform (.subscribe who objects)).Ends exchanges (r₁, .snapshot (.ok snapshot)))
    (meanwhile : Meanwhile who r₁ later r₂) :
    let view := viewAfter who (({} : StatusCache).merge snapshot.status snapshot.eventtime) later
    (∀ object field value, view.valueOf? object field = some value →
        r₂.cache.valueOf? object field = some value) ∧
      (∀ object field, r₂.Wants who object field →
        view.valueOf? object field =
          (newest? object field later).or (snapshot.status.valueOf? object field)) ∧
      ∃ changes, parseSubscription objects = .ok changes ∧
        (∀ object set, changes.selected.get? object = some set →
          r₂.table.asks who object = some set) ∧
        snapshot = ⟨r₁.cache.eventtime, r₁.cache.snapshot changes.selected⟩
  := by
  intro view
  obtain ⟨changes, parsed, applied, covers, rfl⟩ := run.snapshot_of_subscribe ready ends
  have run₁ : Run (⟨.subscribe who objects, exchanges, _⟩ :: history) r₁ := .turn run ends
  have start (object field : String) :
      (({} : StatusCache).merge (r₁.cache.snapshot changes.selected)
        r₁.cache.eventtime).valueOf? object field =
        (r₁.cache.snapshot changes.selected).valueOf? object field
    := by
    rw [StatusCache.valueOf?_merge]
    apply Option.or_none
  have views : Views r₁ who (({} : StatusCache).merge (r₁.cache.snapshot changes.selected)
      r₁.cache.eventtime)
    := by
    intro object field value found
    rw [start, StatusCache.valueOf?_snapshot] at found
    obtain ⟨set, selected, found⟩ := Option.bind_eq_some_iff.1 found
    obtain ⟨mem, known⟩ := Option.ite_none_right_eq_some.1 found
    exact ⟨⟨set, asks_of_selected parsed applied selected, mem⟩, known⟩
  and_intros
  · intro object field value found
    apply (meanwhile.views run₁ covers views object field value found).2
  · intro object field wanted
    rw [← start]
    apply meanwhile.valueOf? _ ((wants_congr meanwhile.interest object field).1 wanted)
  · use changes, parsed
    constructor
    · intro object set selected
      rw [SubscriptionTable.asks, meanwhile.interest]
      apply asks_of_selected parsed applied selected
    · rfl

end

/-! ### Another client joins -/

/-- The answer to a subscription with values of the fan. -/
def fanAnswer (members : List (String × Json)) : Json :=
  .ofMembers [("status", .ofMembers [("fan", .ofMembers members)])]

/-- The registry after the first client has subscribed to the speed of the fan. -/
def subscribed : Registry :=
  Registry.acknowledged { table := waiting.table, controlReady := true } fanSpeed
    (fanAnswer [("speed", .ofNat 1)])

/-- A push of the speed. -/
def fanStatus : Fields := SortedMap.ofList [("fan", .ofMembers [("speed", .ofNat 2)])]

def speeding : Turn where
  operation := .push fanStatus 0.0
  exchanges := []
  answer := .parts [(.connection 1, fanStatus)]

/-- The interest in the power and the speed of the fan. -/
def fanPowerAndSpeed : Interest :=
  SortedMap.ofList [("fan", AttributeSet.ofNames ["power", "speed"])]

/-- The registry with the interest of a second client. -/
def shared : Registry :=
  { (subscribed.push fanStatus 0.0).1 with
    table :=
      ⟨SortedMap.ofList [(.connection 1, fanSpeed), (.connection 2, fanPowerAndSpeed)],
        fanPowerAndSpeed⟩ }

/-- The registry after the second client has subscribed; the answer tells the speed from before the
push. -/
def joined : Registry :=
  shared.acknowledged fanPowerAndSpeed (fanAnswer [("power", .ofNat 7), ("speed", .ofNat 1)])

def joining : Turn where
  operation :=
    .subscribe (.connection 2) (.object [("fan", .array [.string "power", .string "speed"])])
  exchanges :=
    [⟨subscribeCall fanPowerAndSpeed,
      .ok (fanAnswer [("power", .ofNat 7), ("speed", .ofNat 1)])⟩]
  answer := .snapshot (.ok ⟨joined.cache.eventtime, joined.cache.snapshot fanPowerAndSpeed⟩)

/-- When a second client has joined, the first one sees the speed that was pushed last, and the
cache has it too. -/
theorem view_is_current_joining :
    let view := viewAfter (.connection 1)
      (({} : StatusCache).merge (subscribed.cache.snapshot fanSpeed) subscribed.cache.eventtime)
      [joining, speeding]
    view.valueOf? "fan" "speed" = some (.ofNat 2) ∧
      joined.cache.valueOf? "fan" "speed" = some (.ofNat 2)
  := by
  intro view
  have ready : Run [becomingReady] { controlReady := true } := .turn .start rfl
  have ends : (Registry.perform { controlReady := true }
        (.subscribe (.connection 1) (.object [("fan", .array [.string "speed"])]))).Ends
      [⟨subscribeCall fanSpeed, .ok (fanAnswer [("speed", .ofNat 1)])⟩]
      (subscribed,
        .snapshot (.ok ⟨subscribed.cache.eventtime, subscribed.cache.snapshot fanSpeed⟩)) := rfl
  have pushed : Meanwhile (.connection 1) subscribed [speeding] (subscribed.push fanStatus 0.0).1 :=
    .turn .start rfl rfl rfl
  have meanwhile : Meanwhile (.connection 1) subscribed [joining, speeding] joined :=
    .turn pushed rfl rfl rfl
  obtain ⟨current, newest, -⟩ := ready.view_is_current rfl ends meanwhile
  have wanted : joined.Wants (.connection 1) "fan" "speed" :=
    ⟨AttributeSet.ofNames ["speed"], rfl, rfl⟩
  have seen : view.valueOf? "fan" "speed" = some (.ofNat 2) := newest "fan" "speed" wanted
  exact ⟨seen, current "fan" "speed" (.ofNat 2) seen⟩

end ControlRelay.Registry
