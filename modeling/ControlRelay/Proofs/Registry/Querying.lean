import ControlRelay.Proofs.Interest.Cache
import ControlRelay.Proofs.Registry.Run

/-!
# What a query asks for and gives

A query is answered object by object.  The cache serves an object while the control process is not
ready, and when the acknowledged subscription covers what is requested of the object; all other
objects are asked for in one call.  Each object in the answer comes from its source as a whole, and
has the attributes that were requested and no others, whatever the control process replies.
-/

namespace ControlRelay.Registry

open Control (Call Dialogue Exchange)

/-- A request for values that makes no subscription. -/
inductive Asking where
  | query
  | peek

namespace Asking

/-- The operation that answers it. -/
def operation (objects : Json) : Asking → Operation
  | query => .query objects
  | peek => .peek objects

/-- What its payload asks for. -/
def request (objects : Json) : Asking → Except InterestError Interest
  | query => parseQuery objects
  | peek => (parseSubscription objects).map InterestChanges.selected

end Asking

/-- Whether the cache answers for attributes of an object. -/
def serves (r : Registry) (object : String) (set : AttributeSet) : Bool :=
  !r.controlReady ||
    match (r.synced.getD ∅).get? object with
    | some held => held.covers set
    | none => false

/-- What the cache does not answer for. -/
def unserved (r : Registry) (request : Interest) : Interest :=
  request.filter fun object set => !r.serves object set

/-- The fields that an answer takes of an object: those in the cache if it serves them, and
otherwise those that were queried. -/
def source? (r : Registry) (queried : Fields) (object : String) (set : AttributeSet) :
    Option Fields :=
  if r.serves object set then r.cache.objects.get? object else queried.fieldsOf? object

/-- The call that queries an interest. -/
def queryCall (interest : Interest) : Call :=
  ⟨Control.queryMethod, .ofMembers [("objects", interest.toJson)]⟩

/-- The status in the reply to a query. -/
def queriedBy : List Exchange → Fields
  | [⟨_, .ok result⟩] => (splitStatus result).1
  | _ => ∅

/-- How a query for `request` ends. -/
inductive QueryEnds (r : Registry) (request : Interest) :
    List Exchange → Except RelayError Snapshot → Prop where
  | served (all : r.unserved request = ∅) :
      QueryEnds r request [] (.ok (r.cachedPart request).snapshot)
  | asked (remains : r.unserved request ≠ ∅) (reply : Reply) :
      QueryEnds r request [⟨queryCall (r.unserved request), reply⟩]
        (reply.map (r.cachedPart request).fill)

section

variable {r : Registry} {request : Interest} {exchanges : List Exchange}
  {result : Except RelayError Snapshot} {object field : String} {set : AttributeSet}

theorem get?_unserved_iff :
    (r.unserved request).get? object = some set ↔
      request.get? object = some set ∧ r.serves object set = false
  := by
  rw [unserved, SortedMap.get?_filter, Option.filter_eq_some_iff, Bool.not_eq_true']

/-- The cache gives what it serves, and the rest is left to be asked for. -/
theorem cachedPart_eq (r : Registry) (request : Interest) :
    r.cachedPart request =
      ⟨⟨r.cache.eventtime, r.cache.snapshot (request.filter r.serves)⟩, r.unserved request⟩
  := by
  obtain ⟨table, cache, synced, dirty, controlReady⟩ := r
  cases controlReady with
  | false =>
    let r : Registry := ⟨table, cache, synced, dirty, false⟩
    have all : ∀ entry ∈ request.entries, r.serves entry.1 entry.2 = true := by
      intro entry _
      rfl
    rw [unserved, (SortedMap.filter_of_all all).1, (SortedMap.filter_of_all all).2]
    rfl
  | true => rfl

/-- What was queried of an uncovered object comes before what was known. -/
theorem get?_fill (p : PartialSnapshot) (result : Json) (object : String) :
    (p.fill result).status.get? object =
      ((p.uncovered.get? object).bind fun set =>
        ((splitStatus result).1.fieldsOf? object).map fun fields => .ofFields (set.filter fields)).or
        (p.snapshot.status.get? object)
  := by
  let change (name : String) (set : AttributeSet) (known : Option Json) : Option Json :=
    (((splitStatus result).1.fieldsOf? name).map fun fields => .ofFields (set.filter fields)).or
      known
  unfold PartialSnapshot.fill
  dsimp only
  rw [SortedMap.get?_foldl_entries p.uncovered change]
  · cases p.uncovered.get? object <;> rfl
  · intro status name set
    dsimp only [change]
    rw [Fields.fieldsOf?]
    cases ((splitStatus result).1.get? name).bind Json.fields? with
    | none => rfl
    | some fields => apply SortedMap.get?_insert_self
  · intro status name set other ne
    dsimp only
    cases ((splitStatus result).1.get? name).bind Json.fields? with
    | none => rfl
    | some fields => apply SortedMap.get?_insert_of_ne status ne

/-- Each object of an answer comes from its source. -/
theorem get?_fill_cachedPart (r : Registry) (request : Interest) (result : Json)
    (object : String) :
    ((r.cachedPart request).fill result).status.get? object =
      (request.get? object).bind fun set =>
        (r.source? (splitStatus result).1 object set).map fun fields => .ofFields (set.filter fields)
  := by
  rw [get?_fill, cachedPart_eq]
  dsimp only
  rw [unserved, SortedMap.get?_filter, StatusCache.snapshot, SortedMap.get?_filterMap,
    SortedMap.get?_filter]
  cases request.get? object with
  | none => rfl
  | some set =>
    cases served : r.serves object set with
    | false => simp [Option.filter_some, source?, served]
    | true => simp [Option.filter_some, source?, served]

/-- What is served needs no query. -/
theorem fill_of_served (all : r.unserved request = ∅) (result : Json) :
    ((r.cachedPart request).fill result).status = (r.cachedPart request).snapshot.status
  := by
  rw [cachedPart_eq]
  dsimp only [PartialSnapshot.fill]
  rw [all]
  rfl

/-- Every query ends in one of these ways. -/
theorem queryEnds_of_ends (ends : (r.cachedPart request).complete.Ends exchanges result) :
    QueryEnds r request exchanges result
  := by
  have left : (r.cachedPart request).uncovered = r.unserved request := by rw [cachedPart_eq]
  unfold PartialSnapshot.complete at ends
  rw [left] at ends
  split at ends
  next all =>
    obtain ⟨rfl, rfl⟩ := Dialogue.ends_pure_iff.1 ends
    exact .served (SortedMap.isEmpty_iff.1 all)
  next remains =>
    replace remains := mt SortedMap.isEmpty_iff.2 remains
    obtain ⟨reply, rest, rfl, answered⟩ := Dialogue.ends_ask_iff.1 ends
    have given : rest = [] ∧ result = reply.map (r.cachedPart request).fill := by
      cases reply <;> exact Dialogue.ends_pure_iff.1 answered
    obtain ⟨rfl, rfl⟩ := given
    exact .asked remains reply

/-! ### Answers object by object -/

/-- A request that was answered object by object. -/
structure AnsweredByObject (r : Registry) (request : Interest) (exchanges : List Exchange)
    (result : Except RelayError Snapshot) : Prop where
  /-- There is one query at most, and none if the cache serves everything. -/
  single : exchanges.length ≤ 1
  spared_iff : exchanges = [] ↔
    ∀ object set, request.get? object = some set → r.serves object set = true
  /-- The query names what the cache does not serve. -/
  queries : ∀ exchange ∈ exchanges,
    exchange.call.method = Control.queryMethod ∧
      ∃ asked : Interest, exchange.call.params = .ofMembers [("objects", asked.toJson)] ∧
        ∀ object set, asked.get? object = some set ↔
          request.get? object = some set ∧ r.serves object set = false
  /-- It fails exactly if the query does. -/
  fails_iff : ∀ e, result = .error e ↔ ∃ call, exchanges = [⟨call, .error e⟩]
  /-- Each object in the answer was requested, and has its fields from one source. -/
  objects : ∀ snapshot, result = .ok snapshot → ∀ object,
    snapshot.status.get? object =
      (request.get? object).bind fun set =>
        (r.source? (queriedBy exchanges) object set).map fun fields =>
          .ofFields (set.filter fields)
  /-- So each value in the answer was requested, and is that of its source. -/
  values : ∀ snapshot, result = .ok snapshot → ∀ object field,
    snapshot.status.valueOf? object field =
      (request.get? object).bind fun set =>
        if field ∈ set then
          if r.serves object set then r.cache.valueOf? object field
          else (queriedBy exchanges).valueOf? object field
        else none

theorem unserved_eq_empty_iff :
    r.unserved request = ∅ ↔
      ∀ object set, request.get? object = some set → r.serves object set = true
  := by
  rw [SortedMap.eq_empty_iff]
  constructor
  · intro nothing object set asked
    rw [← Bool.not_eq_false]
    intro unserved
    cases (nothing object).symm.trans (get?_unserved_iff.2 ⟨asked, unserved⟩)
  · intro all object
    apply Option.eq_none_iff_forall_ne_some.2
    intro set left
    obtain ⟨asked, unserved⟩ := get?_unserved_iff.1 left
    cases unserved.symm.trans (all object set asked)

/-- The values of an object that comes from its source. -/
theorem valueOf?_of_source {status queried : Fields}
    (found : status.get? object =
      (request.get? object).bind fun set =>
        (r.source? queried object set).map fun fields => .ofFields (set.filter fields))
    (field : String) :
    status.valueOf? object field =
      (request.get? object).bind fun set =>
        if field ∈ set then
          if r.serves object set then r.cache.valueOf? object field
          else queried.valueOf? object field
        else none
  := by
  have fetched (set : AttributeSet) :
      (if r.serves object set then r.cache.valueOf? object field
        else queried.valueOf? object field) =
        (r.source? queried object set).bind fun fields => fields.get? field
    := by
    unfold source?
    split <;> rfl
  unfold Fields.valueOf? at fetched ⊢
  rw [Fields.fieldsOf?, found]
  cases request.get? object with
  | none => rfl
  | some set =>
    rw [Option.bind_some, Option.bind_some, fetched]
    cases r.source? queried object set with
    | none => simp
    | some fields => simp [Json.fields?_ofFields, AttributeSet.get?_filter]

theorem QueryEnds.get?_status {snapshot : Snapshot}
    (ends : QueryEnds r request exchanges (.ok snapshot)) (object : String) :
    snapshot.status.get? object =
      (request.get? object).bind fun set =>
        (r.source? (queriedBy exchanges) object set).map fun fields =>
          .ofFields (set.filter fields)
  := by
  generalize same : Except.ok snapshot = result at ends
  cases ends with
  | served all =>
    obtain rfl := Except.ok.inj same
    rw [← fill_of_served all .null]
    apply get?_fill_cachedPart
  | asked remains reply =>
    cases reply with
    | error e => cases same
    | ok value =>
      obtain rfl := Except.ok.inj same
      apply get?_fill_cachedPart

theorem QueryEnds.answeredByObject (ends : QueryEnds r request exchanges result) :
    AnsweredByObject r request exchanges result
  := by
  have objects (snapshot : Snapshot) (given : result = .ok snapshot) (object : String) :=
    QueryEnds.get?_status (given ▸ ends) object
  have values (snapshot : Snapshot) (given : result = .ok snapshot) (object : String) :=
    valueOf?_of_source (objects snapshot given object)
  cases ends with
  | served all =>
    constructor
    case single => exact Nat.zero_le 1
    case spared_iff => exact iff_of_true rfl (unserved_eq_empty_iff.1 all)
    case queries => exact List.forall_mem_nil _
    case fails_iff => simp
    case objects => exact objects
    case values => exact values
  | asked remains reply =>
    constructor
    case single => exact Nat.le_refl 1
    case spared_iff =>
      exact iff_of_false (List.cons_ne_nil _ _) (mt unserved_eq_empty_iff.2 remains)
    case queries =>
      intro exchange mem
      obtain rfl := List.mem_singleton.1 mem
      use rfl, r.unserved request, rfl
      intro object set
      apply get?_unserved_iff
    case fails_iff => cases reply <;> simp [Except.map]
    case objects => exact objects
    case values => exact values

/-- Every request that makes no subscription is answered object by object, unless it is refused. -/
theorem answered_of_ends {r' : Registry} {request : Except InterestError Interest}
    {answer : Answer} :
    (r.answerQuery request).Ends exchanges (r', answer) →
      r' = r ∧ ∃ result, answer = .snapshot result ∧
        match request with
        | .error e => exchanges = [] ∧ result = .error (.invalidInterest e)
        | .ok request => r.AnsweredByObject request exchanges result
  := by
  intro ends
  cases request with
  | error e =>
    obtain ⟨rfl, same⟩ := Dialogue.ends_pure_iff.1 ends
    obtain ⟨rfl, rfl⟩ := Prod.mk.inj same
    exact ⟨rfl, _, rfl, rfl, rfl⟩
  | ok request =>
    obtain ⟨result, completed, same⟩ := Dialogue.ends_of_last (fun _ => ⟨_, rfl⟩) ends
    obtain ⟨rfl, rfl⟩ := Prod.mk.inj (Dialogue.done.inj same)
    exact ⟨rfl, result, rfl, (queryEnds_of_ends completed).answeredByObject⟩

end

end ControlRelay.Registry
