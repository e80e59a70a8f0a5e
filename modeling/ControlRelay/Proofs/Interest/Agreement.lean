import ControlRelay.Proofs.Interest.ReadBack
import ControlRelay.Relay.Action

/-!
# Queries and subscriptions of one payload

A payload is read in two ways, as what a query asks for and as what a subscription changes.  The two
refuse the same payloads for the same reason.  Of a payload that they read, they tell apart only two
things: `null`, which asks for all attributes and cancels, and a list without names, which asks for
nothing and cancels too.
-/

namespace ControlRelay

/-- The change that a subscription makes where a query of the same value asks for a set. -/
def AttributeSet.change (set : AttributeSet) : Json → Option AttributeSet
  | .null => none
  | _ => if set.isEmpty then none else some set

section

variable {set set' : AttributeSet} {value : Json}

theorem AttributeSet.change_of_ne_null (given : value ≠ .null) :
    set.change value = if set.isEmpty then none else some set
  := by
  unfold change
  split
  next => contradiction
  next => rfl

theorem AttributeSet.change_eq_none_iff :
    set.change value = none ↔ set.isEmpty = true ∨ value = .null
  := by
  by_cases given : value = .null
  · subst given
    exact iff_of_true rfl (.inr rfl)
  · rw [change_of_ne_null given, or_iff_left given]
    simp

theorem AttributeSet.change_eq_some_iff :
    set.change value = some set' ↔ set' = set ∧ set.isEmpty = false ∧ value ≠ .null
  := by
  by_cases given : value = .null
  · subst given
    exact iff_of_false nofun fun ⟨_, _, proper⟩ => proper rfl
  · rw [change_of_ne_null given, Option.ite_none_left_eq_some, Option.some_inj,
      Bool.not_eq_true, and_comm, and_iff_left given, @eq_comm _ set]

/-- What a subscription reads of an object is told by what a query reads of it. -/
theorem subscribed?_eq (value : Json) :
    subscribed? value = (queried? value).map (·.change value)
  := by
  by_cases given : value = .null
  · subst given
    rfl
  · unfold subscribed? queried?
    split
    next => contradiction
    next => simp only [AttributeSet.change_of_ne_null given]

end

section

variable {α β : Type} {read : Json → Option α} {read' : Json → Option β} {payload : Json}

/-- Two ways to read that refuse the same values refuse the same payloads, and for the same
reason. -/
theorem readObjects_eq_error_iff (refuses : ∀ value, (read value).isNone = (read' value).isNone)
    (e : InterestError) :
    readObjects read payload = .error e ↔ readObjects read' payload = .error e
  := by
  rw [readObjects_eq, readObjects_eq]
  cases payload.fields? with
  | none => simp only [Except.error.injEq]
  | some objects =>
    simp only [refuses]
    cases objects.entries.find? fun entry => (read' entry.2).isNone with
    | none => exact iff_of_false nofun nofun
    | some entry => simp only [Except.error.injEq]

/-- A payload that is read is an object, and the result has what its members are read as. -/
theorem exists_of_readObjects {result : SortedMap String α}
    (given : readObjects read payload = .ok result) :
    ∃ objects, payload.fields? = some objects ∧
      ∀ object, result.get? object = (objects.get? object).bind read ∧
        result.contains object = objects.contains object
  := by
  cases named : payload.fields? with
  | none =>
    rw [readObjects_eq, named] at given
    cases given
  | some objects =>
    obtain ⟨reads, same⟩ := (readObjects_eq_ok_iff named).1 given
    use objects, rfl
    intro object
    use same object
    unfold SortedMap.contains
    rw [same]
    cases found : objects.get? object with
    | none => rfl
    | some value => exact Option.isSome_iff_ne_none.2 (reads object value found)

end

/-- A query and a subscription of the same payload are refused alike, with the same error.
Otherwise both name the objects of the payload.  Where the query asks for a set, the subscription
cancels if the set has no names or the payload has `null`, and selects just that set if not.  So if
the payload has no `null`, to peek at what a subscription would give is to answer a query for the
sets that are not empty. -/
theorem parsers_agree (payload : Json) :
    (∀ e, parseSubscription payload = .error e ↔ parseQuery payload = .error e) ∧
      ((∃ changes, parseSubscription payload = .ok changes) ↔
        ∃ request, parseQuery payload = .ok request) ∧
      ∀ request changes, parseQuery payload = .ok request →
        parseSubscription payload = .ok changes →
        ∃ objects, payload.fields? = some objects ∧
          (∀ object, request.contains object = objects.contains object ∧
            changes.contains object = objects.contains object) ∧
          (∀ object value set, objects.get? object = some value →
            request.get? object = some set →
            (changes.get? object = some none ↔ set.isEmpty = true ∨ value = .null) ∧
            ∀ set', changes.get? object = some (some set') ↔
              set' = set ∧ set.isEmpty = false ∧ value ≠ .null) ∧
          ((∀ object, objects.get? object ≠ some .null) →
            changes.selected = request.filter (fun _ set => !set.isEmpty) ∧
            Action.query payload = Action.answerQuery (.ok request) ∧
            Action.peek payload =
              Action.answerQuery (.ok (request.filter fun _ set => !set.isEmpty)))
  := by
  have refuses (value : Json) : (subscribed? value).isNone = (queried? value).isNone := by
    rw [subscribed?_eq, Option.isNone_map]
  have errors (e : InterestError) :
      parseSubscription payload = .error e ↔ parseQuery payload = .error e
    := readObjects_eq_error_iff refuses e
  refine ⟨errors, ?_, ?_⟩
  · cases subscription : parseSubscription payload with
    | error e =>
      rw [(errors e).1 subscription]
      exact iff_of_false nofun nofun
    | ok changes =>
      cases query : parseQuery payload with
      | error e => cases ((errors e).2 query).symm.trans subscription
      | ok request => exact iff_of_true ⟨changes, rfl⟩ ⟨request, rfl⟩
  · intro request changes query subscription
    have reads : readObjects queried? payload = .ok request := query
    have reads' : readObjects subscribed? payload = .ok changes := subscription
    obtain ⟨objects, named, asked⟩ := exists_of_readObjects reads
    obtain ⟨objects', named', changed⟩ := exists_of_readObjects reads'
    obtain rfl := Option.some.inj (named.symm.trans named')
    -- every object of the query is changed as its value says
    have follows {object : String} {value : Json} {set : AttributeSet}
        (found : objects.get? object = some value) (asks : request.get? object = some set) :
        changes.get? object = some (set.change value)
      := by
      rw [(asked object).1, found, Option.bind_some] at asks
      rw [(changed object).1, found, Option.bind_some, subscribed?_eq, asks, Option.map_some]
    refine ⟨objects, named, fun object => ⟨(asked object).2, (changed object).2⟩, ?_, ?_⟩
    · intro object value set found asks
      rw [follows found asks, Option.some_inj, AttributeSet.change_eq_none_iff]
      use Iff.rfl
      intro set'
      rw [Option.some_inj, AttributeSet.change_eq_some_iff]
    · intro filled
      have selected : changes.selected = request.filter fun _ set => !set.isEmpty := by
        apply SortedMap.ext_get?
        intro object
        apply Option.ext
        intro set
        rw [InterestChanges.get?_selected_eq_some_iff, SortedMap.get?_filter,
          Option.filter_eq_some_iff, Bool.not_eq_true']
        cases found : objects.get? object with
        | none =>
          rw [(changed object).1, (asked object).1, found]
          simp
        | some value =>
          have proper : value ≠ .null := by
            rintro rfl
            exact filled object found
          have named : request.contains object = true := by
            rw [(asked object).2, SortedMap.contains, found]
            rfl
          obtain ⟨asks, held⟩ := SortedMap.contains_iff.1 named
          rw [follows found held, held, Option.some_inj, Option.some_inj,
            AttributeSet.change_eq_some_iff]
          constructor
          · rintro ⟨rfl, filled, -⟩
            exact ⟨rfl, filled⟩
          · rintro ⟨rfl, filled⟩
            exact ⟨rfl, filled, proper⟩
      refine ⟨selected, ?_, ?_⟩
      · rw [Action.query, query]
      · rw [Action.peek, subscription, ← selected]
        rfl

end ControlRelay
