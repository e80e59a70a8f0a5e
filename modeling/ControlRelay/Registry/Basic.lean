import ControlRelay.Interest.Cache
import ControlRelay.Interest.Table
import ControlRelay.Control.Dialogue

/-!
# The registry of interests

The registry knows who wants to hear of what, keeps the one subscription at the control process
equal to the union of all interests, and answers queries from the values that subscription
brings.  A subscription that could not be made leaves the registry dirty until it is tried
again.  Each operation is carried out as a whole before the next one begins, also while it
waits for the control process.
-/

namespace ControlRelay

/-- Who has an interest: a connection, or the scheduler, which comes last in every order. -/
inductive Subscriber where
  | connection (id : UInt64)
  | scheduler
  deriving DecidableEq, Repr

namespace Subscriber

/-- The place in the order of subscribers. -/
def rank : Subscriber → Nat
  | connection id => id.toNat
  | scheduler => UInt64.size

theorem rank_injective {a b : Subscriber} (h : a.rank = b.rank) :
    a = b
  := by
  cases a with
  | connection i =>
    cases b with
    | connection j => rw [UInt64.toNat_inj.mp h]
    | scheduler => exact absurd h (Nat.ne_of_lt i.toNat_lt)
  | scheduler =>
    cases b with
    | connection j => exact absurd h.symm (Nat.ne_of_lt j.toNat_lt)
    | scheduler => rfl

instance : LE Subscriber := ⟨fun a b => a.rank ≤ b.rank⟩

instance : LT Subscriber := ⟨fun a b => a.rank < b.rank⟩

instance : DecidableLT Subscriber := fun a b => inferInstanceAs (Decidable (a.rank < b.rank))

instance : Std.LawfulOrderLT Subscriber where
  lt_iff a b := by
    change a.rank < b.rank ↔ a.rank ≤ b.rank ∧ ¬b.rank ≤ a.rank
    omega

instance : Std.IsLinearOrder Subscriber where
  le_refl a := Nat.le_refl a.rank
  le_trans _ _ _ := Nat.le_trans
  le_antisymm _ _ h h' := rank_injective (Nat.le_antisymm h h')
  le_total a b := Nat.le_total a.rank b.rank

end Subscriber

/-- Current values and their time. -/
structure Snapshot where
  eventtime : Float
  status : Fields

/-- The snapshot as the result of a request. -/
def Snapshot.toJson (s : Snapshot) : Json :=
  .ofMembers [("eventtime", .ofFloat s.eventtime), ("status", .ofFields s.status)]

/-- The registry. -/
structure Registry where
  table : SubscriptionTable Subscriber := {}
  cache : StatusCache := {}
  /-- The subscription that the control process last acknowledged on this connection. -/
  synced : Option Interest := none
  /-- Whether the acknowledged subscription is not the one wanted. -/
  dirty : Bool := false
  controlReady : Bool := false

namespace Registry

instance : Inhabited Registry := ⟨{}⟩

/-- The union of all interests. -/
def composite (r : Registry) : Interest := r.table.composite

/-- The values and the time in the answer to a subscription or a query. -/
def splitStatus (result : Json) : Fields × Float :=
  (((result.get? "status").bind Json.fields?).getD ∅,
    ((result.get? "eventtime").bind Json.float?).getD 0.0)

/-- The call that subscribes to all of `composite`. -/
def subscribeCall (composite : Interest) : Control.Call where
  method := Control.subscribeMethod
  params := .ofMembers [("objects", composite.toJson),
    ("response_template", .ofMembers [("method", .string Control.statusUpdatePush)])]

/-- The registry after its subscription to `composite` was acknowledged. -/
def acknowledged (r : Registry) (composite : Interest) (result : Json) : Registry :=
  let (status, eventtime) := splitStatus result
  { r with
    cache := r.cache.absorb status eventtime (r.synced.getD ∅)
    synced := some composite
    dirty := false }

/-- Brings the subscription up to date if the control process is ready. -/
def sync (r : Registry) : Control.Dialogue (Registry × Except RelayError Unit) :=
  if !r.controlReady then
    .done ({ r with dirty := !r.composite.isEmpty || r.synced.isSome }, .ok ())
  else if r.synced = some r.composite || r.synced.isNone && r.composite.isEmpty then
    .done ({ r with dirty := false }, .ok ())
  else
    .ask (subscribeCall r.composite) fun
      | .ok result => .done (r.acknowledged r.composite result, .ok ())
      | .error e => .done ({ r with dirty := true }, .error e)

/-- The part of an answer that the cache gives, and what is left to be asked for. -/
structure PartialSnapshot where
  snapshot : Snapshot
  uncovered : Interest

/-- Answers from the cache what the subscription covers, and everything while the control
process is not ready. -/
def cachedPart (r : Registry) (request : Interest) : PartialSnapshot :=
  let cached (part : Interest) : Snapshot := ⟨r.cache.eventtime, r.cache.snapshot part⟩
  if !r.controlReady then ⟨cached request, ∅⟩
  else
    let synced := r.synced.getD ∅
    let isCovered (object : String) (set : AttributeSet) : Bool :=
      match synced.get? object with
      | some held => held.covers set
      | none => false
    ⟨cached (request.filter isCovered), request.filter fun object set => !isCovered object set⟩

/-- The larger of two times; a time that is not a number gives way to the other. -/
def laterOf (a b : Float) : Float :=
  if a.isNaN then b else if b.isNaN then a else if a < b then b else a

/-- The snapshot with what a query for the uncovered part has brought. -/
def PartialSnapshot.fill (p : PartialSnapshot) (result : Json) : Snapshot :=
  let (queried, time) := splitStatus result
  { eventtime := laterOf p.snapshot.eventtime time
    status := p.uncovered.entries.foldl (fun status (object, set) =>
      match (queried.get? object).bind Json.fields? with
      | some fields => status.insert object (.ofFields (set.filter fields))
      | none => status) p.snapshot.status }

/-- The whole answer; what the cache does not give is asked for. -/
def PartialSnapshot.complete (p : PartialSnapshot) :
    Control.Dialogue (Except RelayError Snapshot) :=
  if p.uncovered.isEmpty then .done (.ok p.snapshot)
  else
    .ask ⟨Control.queryMethod, .ofMembers [("objects", p.uncovered.toJson)]⟩ fun
      | .ok result => .done (.ok (p.fill result))
      | .error e => .done (.error e)

/-- Makes the changes that a subscription asks for and gives the values of what it selects.
If the control process does not take the subscription, the interest stays all the same. -/
def subscribe (r : Registry) (who : Subscriber) (changes : InterestChanges) :
    Control.Dialogue (Registry × Except RelayError Snapshot) := do
  let (changed, table) := r.table.apply who changes
  let r := { r with table }
  let (r, outcome) ← if changed || r.dirty then r.sync else pure (r, .ok ())
  match outcome with
  | .error e => pure (r, .error e)
  | .ok () => do
    let answer ← (r.cachedPart changes.selected).complete
    pure (r, answer)

/-- Drops all interest of a subscriber; also tells whether it had any. -/
def remove (r : Registry) (who : Subscriber) : Control.Dialogue (Registry × Bool) :=
  let hadInterest := (r.table.interest? who).isSome
  let (changed, table) := r.table.removeClient who
  let r := { r with table }
  if changed then do
    let (r, _) ← r.sync
    pure (r, hadInterest)
  else pure (r, hadInterest)

/-- Takes in a push and splits it among the subscribers. -/
def push (r : Registry) (status : Fields) (eventtime : Float) :
    Registry × List (Subscriber × Fields) :=
  ({ r with cache := r.cache.merge status eventtime }, r.table.route status)

/-- Takes in the state of the control process.  When it stops being ready, it forgets the
subscription, and the cache is no longer good; when it becomes ready, it is subscribed to
anew. -/
def controlChanged (r : Registry) (status : ControlStatus) : Control.Dialogue Registry :=
  if status.isReady = r.controlReady then .done r
  else if !status.isReady then
    .done { r with
      controlReady := false
      cache := r.cache.clear
      synced := none
      dirty := !r.composite.isEmpty }
  else
    let r := { r with controlReady := true }
    if r.dirty || !r.composite.isEmpty then do
      let (r, _) ← r.sync
      pure r
    else .done r

/-- Tries a subscription that failed again; tells whether all is well after it. -/
def resync (r : Registry) : Control.Dialogue (Registry × Bool) :=
  if !r.dirty then .done (r, true)
  else do
    let (r, outcome) ← r.sync
    match outcome with
    | .ok () => pure (r, !r.dirty)
    | .error _ => pure (r, false)

/-- The names of all objects of the control process. -/
def listObjects : Control.Dialogue Reply :=
  .ask ⟨Control.listMethod, .ofMembers []⟩ fun
    | .ok result => .done (.ok ((result.get? "objects").getD result))
    | .error e => .done (.error e)

end Registry

end ControlRelay
