import ControlRelay.Proofs.Registry.Viewing

/-!
# The latest values

The control process sends pushes and results of subscriptions.  The registry takes in a result as
soon as it comes, but the pushes wait for one another and are handled in the order in which they
were sent, so a result may overtake some of them.  `settled?` tells what the cache makes of all that
was sent: of an attribute it has the value that was sent last, unless that came in a result which
was passed over.

All lists here have the last first.
-/

namespace ControlRelay.Registry

open Control (Dialogue Exchange)

/-- The value of an attribute in the last of some pushes that carries one. -/
def lastPushed? (object field : String) (pushes : List (Fields × Float)) : Option Json :=
  pushes.findSome? fun push => push.1.valueOf? object field

/-- What the control process sends of values. -/
inductive Sent where
  | push (push : Fields × Float)
  /-- The result of a subscription that was made while `previous` was subscribed.  When it is taken
  in, the pushes that it has overtaken were sent before it and are not handled yet. -/
  | result (answer : Json) (previous : Interest) (overtaken : List (Fields × Float))

/-- The value that is sent of an attribute. -/
def Sent.valueOf? (object field : String) : Sent → Option Json
  | .push (status, _) => status.valueOf? object field
  | .result answer _ _ => (splitStatus answer).1.valueOf? object field

/-- Whether what is sent of an attribute makes no difference to the cache.  That is so of a result
which has overtaken a push of the attribute, or which finds the attribute subscribed and its value
known. -/
def Sent.passedOver (object field : String) (known : Option Json) : Sent → Bool
  | .push _ => false
  | .result _ previous overtaken =>
    (lastPushed? object field overtaken).isSome ||
      (previous.get? object).any (·.contains field) && known.isSome

/-- The value of an attribute in the cache once all that was sent is taken in. -/
def settled? (start : StatusCache) (object field : String) : List Sent → Option Json
  | [] => start.valueOf? object field
  | sent :: earlier =>
    let known := settled? start object field earlier
    if sent.passedOver object field known then known
    else (sent.valueOf? object field).or known

/-- What an exchange tells of values: a subscription that is acknowledged does, while `r` is the
registry and `waiting` are the pushes that are not handled yet. -/
def sentBy? (r : Registry) (waiting : List (Fields × Float)) (exchange : Exchange) : Option Sent :=
  match exchange.reply with
  | .ok result =>
    if exchange.call.method = Control.subscribeMethod
    then some (.result result (r.synced.getD ∅) waiting)
    else none
  | .error _ => none

/-- What was sent and the pushes that wait to be handled, while the control process is not lost.
Pushes are sent at any time and handled in that order, and any turns are taken in between. -/
inductive Hears (r₀ : Registry) : List Sent → List (Fields × Float) → Registry → Prop where
  | start (waiting : List (Fields × Float)) : Hears r₀ (waiting.map .push) waiting r₀
  | sends {sent : List Sent} {waiting : List (Fields × Float)} {r : Registry}
      (push : Fields × Float) (earlier : Hears r₀ sent waiting r) :
      Hears r₀ (.push push :: sent) (push :: waiting) r
  | handles {sent : List Sent} {push : Fields × Float} {waiting : List (Fields × Float)}
      {r r' : Registry} {answer : Answer} (earlier : Hears r₀ sent (waiting ++ [push]) r)
      (ends : (r.perform (.push push.1 push.2)).Ends [] (r', answer)) :
      Hears r₀ sent waiting r'
  | turn {sent : List Sent} {waiting : List (Fields × Float)} {r r' : Registry} (turn : Turn)
      (earlier : Hears r₀ sent waiting r) (unpushed : turn.operation.push? = none)
      (runs : turn.operation.stopsControl = false)
      (ends : (r.perform turn.operation).Ends turn.exchanges (r', turn.answer)) :
      Hears r₀ (turn.exchanges.filterMap (r.sentBy? waiting) ++ sent) waiting r'

section

variable {r₀ r r' : Registry} {object field : String} {sent earlier newer : List Sent}
  {waiting : List (Fields × Float)} {exchanges : List Exchange}

/-! ### What a turn takes in -/

/-- Queries tell the cache nothing. -/
theorem filterMap_sentBy?_of_quiet (quiet : Quiet exchanges) :
    exchanges.filterMap (r.sentBy? waiting) = []
  := by
  rw [List.filterMap_eq_nil_iff]
  intro exchange mem
  unfold sentBy?
  cases exchange.reply with
  | ok result => apply if_neg (quiet exchange mem)
  | error e => rfl

/-- A turn takes in what it is sent: nothing, or the result of one subscription. -/
theorem Settles.takesIn {wanting : Registry} (prepares : Prepares r wanting)
    (settles : Settles wanting exchanges r') (waiting : List (Fields × Float)) :
    (exchanges.filterMap (r.sentBy? waiting) = [] ∧ r'.cache = r.cache) ∨
      ∃ result, exchanges.filterMap (r.sentBy? waiting) =
          [.result result (r.synced.getD ∅) waiting] ∧
        r'.cache =
          r.cache.absorb (splitStatus result).1 (splitStatus result).2 (r.synced.getD ∅)
  := by
  cases settles with
  | kept quiet => exact .inl ⟨filterMap_sentBy?_of_quiet quiet, prepares.cache⟩
  | synced ends quiet =>
    rw [List.filterMap_append, filterMap_sentBy?_of_quiet quiet, List.append_nil]
    cases ends with
    | deferred => exact .inl ⟨rfl, prepares.cache⟩
    | current => exact .inl ⟨rfl, prepares.cache⟩
    | failed => exact .inl ⟨rfl, prepares.cache⟩
    | acknowledged ready stale result =>
      right
      use result, rfl
      rw [← prepares.cache, ← prepares.synced]
      rfl

/-! ### The value in the cache -/

theorem lastPushed?_cons (push : Fields × Float) (pushes : List (Fields × Float)) :
    lastPushed? object field (push :: pushes) =
      (push.1.valueOf? object field).or (lastPushed? object field pushes)
  := by
  unfold lastPushed?
  rw [List.findSome?_cons]
  cases push.1.valueOf? object field <;> rfl

theorem lastPushed?_append (later pushes : List (Fields × Float)) :
    lastPushed? object field (later ++ pushes) =
      (lastPushed? object field later).or (lastPushed? object field pushes)
  := List.findSome?_append

/-- Pushes are not passed over. -/
theorem settled?_pushes (start : StatusCache) (pushes : List (Fields × Float)) :
    settled? start object field (pushes.map .push) =
      (lastPushed? object field pushes).or (start.valueOf? object field)
  := by
  induction pushes with
  | nil => rfl
  | cons push pushes ih =>
    rw [List.map_cons, lastPushed?_cons, Option.or_assoc, ← ih]
    rfl

/-- What carries no value of an attribute makes no difference. -/
theorem settled?_append {start : StatusCache}
    (none_carries : ∀ sent ∈ newer, sent.valueOf? object field = none) :
    settled? start object field (newer ++ earlier) = settled? start object field earlier
  := by
  induction newer with
  | nil => rfl
  | cons sent newer ih =>
    obtain ⟨uncarried, none_carries⟩ := List.forall_mem_cons.1 none_carries
    rw [List.cons_append, settled?, ih none_carries, uncarried]
    split <;> rfl

/-- Where the pushes that wait are split in two, the earlier of them are all that the cache lacks of
what was sent before the others. -/
theorem Hears.settled {first others : List (Fields × Float)}
    (hears : Hears r₀ (others.map .push ++ sent) (others ++ first) r) :
    (lastPushed? object field first).or (r.cache.valueOf? object field) =
      settled? r₀.cache object field sent
  := by
  generalize all_eq : others.map Sent.push ++ sent = all at hears
  generalize waiting_eq : others ++ first = waiting at hears
  induction hears generalizing first others sent with
  | start waiting =>
    obtain rfl := waiting_eq
    rw [List.map_append, List.append_cancel_left_eq] at all_eq
    rw [all_eq, settled?_pushes]
  | sends push hears ih =>
    cases others with
    | nil =>
      obtain rfl : sent = _ := all_eq
      obtain rfl : first = _ := waiting_eq
      rw [lastPushed?_cons, Option.or_assoc, ih (List.nil_append _) (List.nil_append _)]
      rfl
    | cons last others =>
      obtain ⟨-, all_eq⟩ := List.cons_eq_cons.1 all_eq
      obtain ⟨-, waiting_eq⟩ := List.cons_eq_cons.1 waiting_eq
      apply ih all_eq waiting_eq
  | @handles _ push _ _ _ _ hears ends ih =>
    obtain ⟨-, same⟩ := Dialogue.ends_pure_iff.1 ends
    obtain ⟨rfl, -⟩ := Prod.mk.inj same
    rw [← waiting_eq, List.append_assoc] at ih
    rw [← ih all_eq rfl, lastPushed?_append, Option.or_assoc, lastPushed?_cons, Option.or_assoc]
    apply congrArg ((lastPushed? object field first).or ·)
    apply StatusCache.valueOf?_merge
  | turn turn hears unpushed runs ends ih =>
    obtain ⟨wanting, prepares, settles⟩ := exists_settles_of_perform unpushed runs ends
    obtain ⟨nothing, same⟩ | ⟨answer, told, absorbs⟩ := settles.takesIn prepares _
    · rw [nothing] at all_eq
      rw [same]
      apply ih all_eq waiting_eq
    · -- The result came after all the pushes that wait, so there are no others.
      rw [told] at all_eq
      cases others with
      | cons => cases (List.cons_eq_cons.1 all_eq).1
      | nil =>
        obtain rfl : _ = _ := all_eq
        obtain rfl : first = _ := waiting_eq
        have known := ih (List.nil_append _) (List.nil_append _)
        rw [absorbs, StatusCache.valueOf?_absorb_eq_ite, List.singleton_append, settled?, ← known,
          Sent.passedOver]
        cases lastPushed? object field first <;> rfl

/-- Whatever is sent in whatever order, and whatever turns are taken: once the pushes are handled
that were sent before the last result, the cache has of an attribute the value that was sent last
exactly if that came in a push, or in a result that was not passed over, or if it had that value
anyway.  A result is passed over if it has overtaken a push of the attribute, which is handled after
it, or if it finds the attribute subscribed and its value known.  Every snapshot that asks for the
attribute has the value in the cache. -/
theorem Hears.cached_is_last_sent_iff {unhandled : List (Fields × Float)} {last : Sent}
    {value : Json}
    (hears : Hears r₀ (unhandled.map .push ++ (newer ++ last :: earlier)) unhandled r)
    (object field : String) (carried : last.valueOf? object field = some value)
    (none_newer : ∀ sent ∈ newer, sent.valueOf? object field = none) :
    (r.cache.valueOf? object field = some value ↔
        last.passedOver object field (settled? r₀.cache object field earlier) = false ∨
          settled? r₀.cache object field earlier = some value) ∧
      ∀ (request : Interest) (set : AttributeSet), request.get? object = some set → field ∈ set →
        (r.cache.snapshot request).valueOf? object field = r.cache.valueOf? object field
  := by
  constructor
  · have waits : Hears r₀ (unhandled.map .push ++ (newer ++ last :: earlier)) (unhandled ++ []) r
      := by rwa [List.append_nil]
    have settled : r.cache.valueOf? object field = _ := waits.settled
    rw [settled, settled?_append none_newer, settled?, carried]
    cases last.passedOver object field (settled? r₀.cache object field earlier) <;> simp
  · intro request set asked mem
    rw [StatusCache.valueOf?_snapshot, asked, Option.bind_some, if_pos mem]

end

/-! ### A push that is overtaken -/

/-- The first client subscribes to the speed of the fan. -/
def subscribing : Turn where
  operation := .subscribe (.connection 1) (.object [("fan", .array [.string "speed"])])
  exchanges := [⟨subscribeCall fanSpeed, .ok (fanAnswer [("speed", .ofNat 1)])⟩]
  answer := .snapshot (.ok ⟨subscribed.cache.eventtime, subscribed.cache.snapshot fanSpeed⟩)

theorem hears_subscribing :
    Hears {} [.result (fanAnswer [("speed", .ofNat 1)]) ∅ []] [] subscribed
  := by
  have ready : Hears {} [] [] { controlReady := true } :=
    .turn becomingReady (.start []) rfl rfl rfl
  apply Hears.turn subscribing ready rfl rfl rfl

/-- The speed is pushed and handled, and the cache has it. -/
theorem cached_is_last_sent_speeding :
    (subscribed.push fanStatus 0.0).1.cache.valueOf? "fan" "speed" = some (.ofNat 2)
  := by
  have sent : Hears {} _ ([] ++ [(fanStatus, 0.0)]) subscribed :=
    .sends (fanStatus, 0.0) hears_subscribing
  have hears : Hears {} ([].map .push ++ ([] ++ .push (fanStatus, 0.0) :: _)) []
      (subscribed.push fanStatus 0.0).1 := .handles sent rfl
  obtain ⟨cached_iff, -⟩ := hears.cached_is_last_sent_iff "fan" "speed" rfl (by rintro _ ⟨⟩)
  apply cached_iff.2
  left
  rfl

/-- The client leaves. -/
def leaving : Turn where
  operation := .remove (.connection 1)
  exchanges := [⟨subscribeCall ∅, .ok (.object [])⟩]
  answer := .removed true

/-- The registry after the client has left. -/
def left : Registry := Registry.acknowledged { subscribed with table := {} } ∅ (.object [])

/-- The registry after another client has subscribed to the speed. -/
def arrived : Registry :=
  Registry.acknowledged
    { left with table := ⟨SortedMap.ofList [(.connection 2, fanSpeed)], fanSpeed⟩ } fanSpeed
    (fanAnswer [("speed", .ofNat 3)])

def arriving : Turn where
  operation := .subscribe (.connection 2) (.object [("fan", .array [.string "speed"])])
  exchanges := [⟨subscribeCall fanSpeed, .ok (fanAnswer [("speed", .ofNat 3)])⟩]
  answer := .snapshot (.ok ⟨arrived.cache.eventtime, arrived.cache.snapshot fanSpeed⟩)

/-- A push of the speed is sent and waits while its client leaves and another one subscribes.  The
answer to that subscription tells a newer speed, but the push is handled after it and the cache has
the older speed from then on. -/
theorem cached_is_older_arriving :
    let r := (arrived.push fanStatus 0.0).1
    ∃ earlier last, Hears {} (last :: earlier) [] r ∧
      r.controlReady = true ∧ r.synced = some fanSpeed ∧
      last.valueOf? "fan" "speed" = some (.ofNat 3) ∧
      r.cache.valueOf? "fan" "speed" = some (.ofNat 2) ∧
      (r.cache.snapshot fanSpeed).valueOf? "fan" "speed" = some (.ofNat 2)
  := by
  intro r
  have left : Hears {} _ [(fanStatus, 0.0)] left :=
    .turn leaving (.sends (fanStatus, 0.0) hears_subscribing) rfl rfl rfl
  have arrived : Hears {} _ ([] ++ [(fanStatus, 0.0)]) arrived :=
    .turn arriving left rfl rfl rfl
  exact ⟨_, _, .handles arrived rfl, rfl, rfl, rfl, rfl, rfl⟩

end ControlRelay.Registry
