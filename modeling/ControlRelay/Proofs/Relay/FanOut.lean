import ControlRelay.Proofs.Relay.Accounts
import ControlRelay.Proofs.Relay.Pool

/-!
# Fan-out

While a client stays, keeps its interest and is duplex, it gets one status update for every push of
values of the control process of which its interest selects something, with the part that its
interest selects, in the order in which the frames were handed to the link, whatever else happens to
the relay in between.
-/

namespace ControlRelay

/-- The pushes of values that wait in the channel. -/
def Relay.pushes (r : Relay) : List StatusPush := r.events.items.filterMap ControlEvent.push?

namespace Pool

/-- What a happening hands to the link. -/
def handed? (pool : Pool) : Happening → Option Frame.Outcome
  | .reads wire => pool.relay.nextOn? wire
  | _ => none

/-- What is handed to the link during a list of happenings, in order. -/
def handedOf (pool : Pool) : List Happening → List Frame.Outcome
  | [] => []
  | happening :: happenings =>
    (pool.handed? happening).toList ++ (pool.next happening).handedOf happenings

/-- The status updates that are put into a mailbox during a list of happenings, in order. -/
def putOf (id : ConnectionId) (pool : Pool) : List Happening → List String
  | [] => []
  | happening :: happenings =>
    Relay.put id pool.relay (pool.next happening).relay ++
      (pool.next happening).putOf id happenings

/-- Whether a process is the event loop between two turns. -/
def isBetween : RelayProcess → Bool
  | .enter (.eventLoop _ _) => true
  | .wait _ _ (.enter (.eventLoop _ _)) => true
  | _ => false

section

variable {id : ConnectionId} {interest : Option Interest} {owed : Option String} {pool : Pool}

/-- Where one of the bystanders has gone on, all are bystanders. -/
theorem bystanders_set {others : List RelayProcess} (bystanders : ∀ p ∈ others, Relay.Bystander id p)
    (index : Nat) {p : RelayProcess} (goesOn : Relay.Bystander id p) :
    ∀ q ∈ others.set index p, Relay.Bystander id q
  := by
  intro q mem
  cases List.mem_or_eq_of_mem_set mem with
  | inl mem => apply bystanders q mem
  | inr same =>
    rw [same]
    apply goesOn

/-- Whatever happens, the event loop owes what it owes, and while the client is served this is
accounted for. -/
theorem Sound.next (sound : Sound id interest owed pool) (happening : Happening) :
    ∃ owed', Sound id interest owed' (pool.next happening) ∧
      (pool.relay.hub.mailboxes.contains id = true → pool.relay.Serves id interest →
        (pool.next happening).relay.Serves id interest →
        Relay.Accounts id interest owed pool.relay (pool.next happening).relay
          (((pool.handed? happening).bind ControlEvent.ofFrame?).toList.filter
            ControlEvent.isUpdate) owed')
  := by
  have spared {r : Relay} (spares : Relay.Spares id pool.relay r) :
      pool.relay.hub.mailboxes.contains id = true → pool.relay.Serves id interest →
        r.Serves id interest → Relay.Accounts id interest owed pool.relay r [] owed
    := fun mailbox serves _ => spares.accounts mailbox serves.handled
  cases happening with
  | reads wire =>
    use owed, ⟨sound.loop, sound.others⟩
    intro mailbox serves _
    apply Relay.accounts_readStep mailbox serves.handled
  | loops =>
    obtain ⟨owed', advances, loop, started⟩ := exists_owes_goOn sound.loop pool.relay
    use owed', ⟨loop, List.forall_mem_append.2 ⟨sound.others, started⟩⟩
    intro mailbox serves stays
    apply (advances serves stays).accounts mailbox serves.handled
  | goes index =>
    cases found : pool.others[index]? with
    | none =>
      rw [next_goes_of_none found]
      exact ⟨owed, sound, spared pool.relay.spares_refl⟩
    | some p =>
      obtain ⟨spares, goesOn, started⟩ :=
        bystander_goOn (sound.others p (List.mem_of_getElem? found)) pool.relay
      rw [next_goes found]
      have others := List.forall_mem_append.2 ⟨bystanders_set sound.others index goesOn, started⟩
      exact ⟨owed, ⟨sound.loop, others⟩, spared spares⟩
  | begins errand =>
    have others := List.forall_mem_append.2
      ⟨sound.others, List.forall_mem_singleton.2 (bystander_errand errand)⟩
    exact ⟨owed, ⟨sound.loop, others⟩, spared pool.relay.spares_refl⟩
  | befalls incident =>
    use owed, ⟨sound.loop, sound.others⟩
    apply spared (spares_incident pool.relay incident)

theorem Sound.exists_run (sound : Sound id interest owed pool) (happenings : List Happening) :
    ∃ owed', Sound id interest owed' (pool.run happenings)
  := by
  induction happenings generalizing pool owed with
  | nil => exact ⟨owed, sound⟩
  | cons happening happenings ih =>
    obtain ⟨owed', sound', -⟩ := sound.next happening
    apply ih sound'

/-- Over a run in which the client is served, what waited in the channel and what was handed on is
what was taken out and what waits in the end, and what was owed and comes to be owed for that is
what was put into the mailbox and what is owed in the end. -/
theorem Sound.balance (sound : Sound id interest owed pool)
    (mailbox : pool.relay.hub.mailboxes.contains id = true) (happenings : List Happening)
    (serves : ∀ p ∈ pool.states happenings, p.relay.Serves id interest) :
    ∃ owed' taken, Sound id interest owed' (pool.run happenings) ∧
      pool.relay.updates ++
          ((pool.handedOf happenings).filterMap ControlEvent.ofFrame?).filter ControlEvent.isUpdate =
        taken ++ (pool.run happenings).relay.updates ∧
      owed.toList ++ taken.filterMap (·.owed interest) =
        pool.putOf id happenings ++ owed'.toList
  := by
  induction happenings generalizing pool owed with
  | nil => exact ⟨owed, [], sound, by simp [handedOf, run], by simp [putOf]⟩
  | cons happening happenings ih =>
    obtain ⟨owed₁, sound₁, accounts⟩ := sound.next happening
    have later : ∀ p ∈ (pool.next happening).states happenings, p.relay.Serves id interest :=
      fun p mem => serves p (List.mem_cons_of_mem _ mem)
    obtain ⟨mailbox₁, taken₁, events₁, paid₁⟩ :=
      accounts mailbox (serves pool List.mem_cons_self) (later _ (mem_states _ _))
    obtain ⟨owed₂, taken₂, sound₂, events₂, paid₂⟩ := ih sound₁ mailbox₁ later
    have first : (pool.handed? happening).toList.filterMap ControlEvent.ofFrame? =
        ((pool.handed? happening).bind ControlEvent.ofFrame?).toList
      := by
      cases pool.handed? happening with
      | none => rfl
      | some outcome =>
        cases passed : ControlEvent.ofFrame? outcome <;> simp [passed]
    use owed₂, taken₁ ++ taken₂, sound₂
    constructor
    · rw [handedOf, List.filterMap_append, List.filter_append, first, ← List.append_assoc, events₁,
        List.append_assoc, events₂, List.append_assoc]
      rfl
    · rw [List.filterMap_append, ← List.append_assoc, paid₁, List.append_assoc, paid₂, putOf,
        List.append_assoc]

/-- Between two turns nothing is owed. -/
theorem owed_of_isBetween {p : RelayProcess} (owes : Relay.Owes id interest owed p)
    (between : isBetween p = true) :
    owed = none
  := by
  cases owes with
  | done => rfl
  | between => rfl
  | step => cases between
  | fork => cases between
  | wait next =>
    cases next with
    | done => rfl
    | between => rfl
    | _ => cases between

end

/-- A pool that is reached once the event loop of a relay has begun. -/
def Reached (pool : Pool) : Prop :=
  ∃ relay s tick happenings, pool = (started relay s tick).run happenings

/-! ### Pushes -/

section

variable {id : ConnectionId} {interest : Option Interest}

theorem filterMap_push?_filter (events : List ControlEvent) :
    (events.filter ControlEvent.isUpdate).filterMap ControlEvent.push? =
      events.filterMap ControlEvent.push?
  := by
  rw [List.filterMap_filter]
  congr 1
  funext event
  cases event with
  | other method params => exact ite_self _
  | _ => rfl

/-- The texts owed for events are those for the pushes among them, if no event is a namesake. -/
theorem filterMap_owed {events : List ControlEvent}
    (others : ∀ event ∈ events, event.isNamesake = false) :
    events.filterMap (·.owed interest) =
      (events.filterMap ControlEvent.push?).filterMap (·.textFor? interest)
  := by
  rw [List.filterMap_filterMap]
  apply List.filterMap_congr
  intro event mem
  apply ControlEvent.owed_of_isNamesake (others event mem)

theorem filterMap_push?_ofFrame? (outcomes : List Frame.Outcome) :
    (outcomes.filterMap ControlEvent.ofFrame?).filterMap ControlEvent.push? =
      outcomes.filterMap StatusPush.ofOutcome?
  := by
  rw [List.filterMap_filterMap]
  congr 1
  funext outcome
  apply (ControlEvent.ofFrame?_cases outcome).1

/-- No push that waits in the channel or is handed on is a namesake of status updates. -/
def Unnamed (pool : Pool) (happenings : List Happening) : Prop :=
  (∀ event ∈ pool.relay.events.items, event.isNamesake = false) ∧
    ∀ outcome ∈ pool.handedOf happenings, Frame.isNamesake outcome = false

instance (pool : Pool) (happenings : List Happening) : Decidable (pool.Unnamed happenings) :=
  inferInstanceAs (Decidable (_ ∧ _))

section

variable {pool pool' : Pool} {happenings : List Happening} {taken : List ControlEvent}
  (events : pool.relay.updates ++
      ((pool.handedOf happenings).filterMap ControlEvent.ofFrame?).filter ControlEvent.isUpdate =
    taken ++ pool'.relay.updates)

include events

/-- The pushes that wait and are handed on are those that are taken out and wait in the end. -/
theorem pushes_of_balance :
    pool.relay.pushes ++ (pool.handedOf happenings).filterMap StatusPush.ofOutcome? =
      taken.filterMap ControlEvent.push? ++ pool'.relay.pushes
  := by
  have pushes := congrArg (List.filterMap ControlEvent.push?) events
  rwa [List.filterMap_append, List.filterMap_append, Relay.updates, Relay.updates,
    filterMap_push?_filter, filterMap_push?_filter, filterMap_push?_filter,
    filterMap_push?_ofFrame?] at pushes

theorem isNamesake_of_balance (unnamed : pool.Unnamed happenings) :
    ∀ event ∈ taken, event.isNamesake = false
  := by
  intro event mem
  have found := events ▸ List.mem_append_left pool'.relay.updates mem
  cases List.mem_append.1 found with
  | inl waits => apply unnamed.1 event (List.mem_filter.1 waits).1
  | inr comes =>
    obtain ⟨outcome, mem, passed⟩ := List.mem_filterMap.1 (List.mem_filter.1 comes).1
    have other := (ControlEvent.ofFrame?_cases outcome).2 (unnamed.2 outcome mem)
    rwa [passed] at other

end

/-- As long as something is still owed, what was put into the mailbox is what was owed at first, if
anything, and the texts for the first of the pushes that were taken. -/
theorem exists_handled {owed : Option String} {pushes : List StatusPush} {put : List String}
    (paid : put <+: owed.toList ++ pushes.filterMap (·.textFor? interest)) :
    ∃ begun : Option String, ∃ handled, handled <+: pushes ∧
      put = begun.toList ++ handled.filterMap (·.textFor? interest) ∧
      (begun = owed ∨ begun = none ∧ put = [])
  := by
  cases owed with
  | none =>
    obtain ⟨handled, taken, texts⟩ := List.prefix_filterMap_iff.1 paid
    exact ⟨none, handled, taken, texts, .inl rfl⟩
  | some text =>
    cases put with
    | nil => exact ⟨none, [], List.nil_prefix, rfl, .inr ⟨rfl, rfl⟩⟩
    | cons first put =>
      obtain ⟨rfl, later⟩ := List.cons_prefix_cons.1 paid
      obtain ⟨handled, taken, rfl⟩ := List.prefix_filterMap_iff.1 later
      exact ⟨some first, handled, taken, rfl, .inl rfl⟩

/-- Over a run in which the client is served, the pushes that wait and are handed on are those that
are handled and those that wait, and what is put into the mailbox is what was owed at first, if
anything, and the texts for the handled ones. -/
theorem Sound.exists_pushes {pool : Pool} {owed : Option String} {happenings : List Happening}
    (sound : Sound id interest owed pool)
    (mailbox : pool.relay.hub.mailboxes.contains id = true)
    (serves : ∀ p ∈ pool.states happenings, p.relay.Serves id interest)
    (unnamed : pool.Unnamed happenings) :
    ∃ begun : Option String, ∃ handled waiting,
      pool.relay.pushes ++ (pool.handedOf happenings).filterMap StatusPush.ofOutcome? =
        handled ++ waiting ∧
      pool.putOf id happenings = begun.toList ++ handled.filterMap (·.textFor? interest) ∧
      (begun = owed ∨ begun = none ∧ pool.putOf id happenings = []) ∧
      (isBetween (pool.run happenings).loop = true →
        waiting = (pool.run happenings).relay.pushes)
  := by
  obtain ⟨owed', taken, sound', events, paid⟩ := sound.balance mailbox happenings serves
  have pushes := pushes_of_balance events
  rw [filterMap_owed (isNamesake_of_balance events unnamed)] at paid
  cases owed' with
  | none =>
    refine ⟨owed, _, _, pushes, ?_, .inl rfl, fun _ => rfl⟩
    rw [paid, Option.toList_none, List.append_nil]
  | some due =>
    obtain ⟨begun, handled, ⟨rest, same⟩, put, begins⟩ := exists_handled ⟨_, paid.symm⟩
    use begun, handled, rest ++ (pool.run happenings).relay.pushes
    rw [pushes, ← same, List.append_assoc]
    use rfl, put, begins
    intro between
    cases owed_of_isBetween sound'.loop between

end

/-! ### The speed of a fan -/

/-- The interest in the speed of the fan. -/
def speedInterest : Interest := SortedMap.ofList [("fan", AttributeSet.ofNames ["speed"])]

/-- A push of the speed and the power of the fan, as the control process sends it. -/
def fanFrame : Json :=
  .ofMembers [("method", .string Control.statusUpdatePush),
    ("params", .ofMembers
      [("status", .ofMembers
        [("fan", .ofMembers [("power", .string "on"), ("speed", .string "full")])])])]

/-- The bytes of this push. -/
def fanBytes : List UInt8 := fanFrame.chars.map Char.toUInt8 ++ [Frame.terminator]

/-- A relay that reads a wire, with one client that wants the speed. -/
def fanRelay : Relay where
  wires := [{ isRead := true }]
  hub := {
    connections := SortedMap.ofList [(1, { kind := .duplex, sink := .mailbox })]
    mailboxes := SortedMap.ofList [(1, { capacity := 4 })] }
  registry := {
    table := ⟨SortedMap.ofList [(.connection 1, speedInterest)], speedInterest⟩ }

/-- The push comes in.  While another client opens a session, the event loop takes the push and hands
it on. -/
def fanHappenings : List Happening :=
  [.befalls (.sent 0 fanBytes), .reads 0, .reads 0, .loops, .begins (.openSession 4), .loops,
    .loops, .goes 0, .loops, .loops, .goes 0, .loops]

def fanService : EventService := ⟨0, .events, 1000, true⟩

end Pool

end ControlRelay
