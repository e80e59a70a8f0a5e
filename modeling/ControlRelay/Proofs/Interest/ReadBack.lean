import ControlRelay.Proofs.Interest.History
import ControlRelay.Proofs.Interest.Payload

/-!
# Interests are read back as they are written

`"*"` is no attribute: no set that is read names it, and no union of such sets.  That is what makes
the form that is written for the control process, in which `null` stands for all attributes,
readable as a query, and what is read is the interest that was written.
-/

namespace ControlRelay

universe u

/-! ### Sets without a `"*"` among their names -/

/-- `"*"` is not among the names of the set. -/
def AttributeSet.Plain : AttributeSet → Prop
  | all => True
  | only names => names.contains allAttributes = false

/-- No set of the interest names `"*"`. -/
def Interest.Plain (i : Interest) : Prop :=
  ∀ object set, i.get? object = some set → set.Plain

/-- A set that names `"*"` has all attributes. -/
theorem AttributeSet.Plain.eq_all {set : AttributeSet} (plain : set.Plain)
    (mem : allAttributes ∈ set) :
    set = .all
  := by
  cases set with
  | all => rfl
  | only names =>
    have absent : names.contains allAttributes = false := plain
    rw [AttributeSet.mem_only_iff, absent] at mem
    cases mem

/-- What a payload asks for does not name `"*"`. -/
theorem Asks.plain {value : Json} {set : AttributeSet} (asks : Asks value set) :
    set.Plain
  := by
  cases asks with
  | whole => trivial
  | starred => trivial
  | named unstarred told =>
    apply Bool.eq_false_iff.2
    rw [Ne, told]
    exact unstarred

theorem Queried.plain {value : Json} {set : AttributeSet} (means : Queried value set) :
    set.Plain
  := by
  cases means with
  | null => trivial
  | asked asks => exact asks.plain

theorem Subscribed.plain {value : Json} {set : AttributeSet} (means : Subscribed value (some set)) :
    set.Plain
  := by
  cases means with
  | asked asks => exact asks.plain

/-- The union of sets that do not name `"*"` does not name it. -/
theorem AttributeSet.IsUnion.plain {family : AttributeSet → Prop} {union : AttributeSet}
    (total : IsUnion family (some union)) (plain : ∀ set, family set → set.Plain) :
    union.Plain
  := by
  obtain ⟨-, names, whole⟩ := total
  cases union with
  | all => trivial
  | only known =>
    apply Bool.eq_false_iff.2
    intro mem
    obtain ⟨set, among, named⟩ := (names allAttributes).1 mem
    rw [(plain set among).eq_all named] at among
    cases whole.2 among

/-! ### Writing and reading -/

theorem SortedMap.get?_mapValues {κ : Type u} {ν μ : Type} [LT κ] [DecidableLT κ] [LE κ]
    [Std.LawfulOrderLT κ] [Std.IsLinearOrder κ] (f : κ → ν → μ) (m : SortedMap κ ν) (k : κ) :
    (m.mapValues f).get? k = (m.get? k).map (f k)
  := by
  apply Option.ext
  intro w
  rw [get?_eq_some_iff, Option.map_eq_some_iff]
  simp only [mapValues, List.mem_map, get?_eq_some_iff]
  grind

/-- The members of an interest that is written are its sets. -/
theorem Interest.fields?_toJson (i : Interest) :
    i.toJson.fields? = some (i.mapValues fun _ set => set.toJson)
  := Json.fields?_ofFields _

/-- What is written of an object: nothing, `null` for all attributes, or the names in increasing
order. -/
inductive Written : Option AttributeSet → Option Json → Prop where
  | absent : Written none none
  | whole : Written (some .all) (some .null)
  | names {names : NameSet} {sorted : List String} (increasing : sorted.Pairwise (· < ·))
      (members : ∀ name, name ∈ sorted ↔ names.contains name = true) :
      Written (some (.only names)) (some (.ofStrings sorted))

theorem Interest.written (i : Interest) (object : String) :
    Written (i.get? object) ((i.mapValues fun _ set => set.toJson).get? object)
  := by
  rw [SortedMap.get?_mapValues]
  cases i.get? object with
  | none => exact .absent
  | some set =>
    cases set with
    | all => exact .whole
    | only names =>
      apply Written.names (List.pairwise_map.2 names.ordered)
      intro name
      exact SortedMap.mem_keys_iff_contains

/-- The names that are written ask for the set. -/
theorem asks_toJson {names : NameSet} (plain : (AttributeSet.only names).Plain) :
    Asks (AttributeSet.only names).toJson (.only names)
  := by
  have told (name : String) :
      names.contains name = true ↔ .string name ∈ names.keys.map Json.string
    := by
    rw [List.mem_map_of_injective fun _ _ => Json.string.inj, SortedMap.mem_keys_iff_contains]
  apply Asks.named _ told
  rw [← told]
  exact Bool.eq_false_iff.1 plain

/-- What is written of a set is read as the set. -/
theorem queried?_toJson {set : AttributeSet} (plain : set.Plain) :
    queried? set.toJson = some set
  := by
  cases set with
  | all => rfl
  | only names =>
    have readable : Readable (AttributeSet.only names).toJson := .inl (.names names.keys)
    obtain ⟨read, found⟩ := Option.ne_none_iff_exists'.1 ((queried?_ne_none_iff _).2 readable)
    rw [found, (queried_of_queried? found).unique (.asked (asks_toJson plain))]

theorem Interest.Plain.parseQuery_toJson {i : Interest} (plain : i.Plain) :
    parseQuery i.toJson = .ok i
  := by
  rw [parseQuery_eq, readObjects_eq_ok_iff i.fields?_toJson]
  constructor
  · intro object value found
    rw [SortedMap.get?_mapValues] at found
    obtain ⟨set, held, rfl⟩ := Option.map_eq_some_iff.1 found
    rw [queried?_toJson (plain object set held)]
    nofun
  · intro object
    rw [SortedMap.get?_mapValues]
    cases held : i.get? object with
    | none => rfl
    | some set => exact (queried?_toJson (plain object set held)).symm

/-! ### Interests that come about by requests -/

section

variable (κ : Type u) [LE κ] [LT κ] [DecidableLT κ] [Std.LawfulOrderLT κ] [Std.IsLinearOrder κ]

/-- Interests that requests make: what a query asks for, what a subscription selects, and the
composite of a table into which only such interests were put. -/
inductive Requested : Interest → Prop where
  | queried {payload : Json} {i : Interest} (parsed : parseQuery payload = .ok i) : Requested i
  | selected {payload : Json} {changes : InterestChanges}
      (parsed : parseSubscription payload = .ok changes) : Requested changes.selected
  | united (updates : List (SubscriptionTable.Update κ))
      (requested : ∀ client changes, .apply client changes ∈ updates → Requested changes.selected) :
      Requested (SubscriptionTable.after updates).composite

end

variable {κ : Type u} [LE κ] [LT κ] [DecidableLT κ] [Std.LawfulOrderLT κ] [Std.IsLinearOrder κ]

theorem InterestChanges.get?_selected_eq_some_iff {changes : InterestChanges} {object : String}
    {set : AttributeSet} :
    changes.selected.get? object = some set ↔ changes.get? object = some (some set)
  := by
  unfold selected
  rw [SortedMap.get?_filterMap, Option.bind_eq_some_iff]
  constructor
  · rintro ⟨change, named, rfl⟩
    exact named
  · intro named
    exact ⟨some set, named, rfl⟩

theorem plain_of_parseQuery {payload : Json} {i : Interest} (parsed : parseQuery payload = .ok i) :
    i.Plain
  := by
  obtain ⟨objects, -, means⟩ := fulfils_of_readObjects queried_of_queried? Queried.unique parsed
  intro object set held
  obtain ⟨value, -, means⟩ := (means object set).1 held
  exact means.plain

theorem plain_of_parseSubscription {payload : Json} {changes : InterestChanges}
    (parsed : parseSubscription payload = .ok changes) :
    changes.selected.Plain
  := by
  obtain ⟨objects, -, means⟩ :=
    fulfils_of_readObjects subscribed_of_subscribed? Subscribed.unique parsed
  intro object set held
  obtain ⟨value, -, means⟩ := (means object (some set)).1 (changes.get?_selected_eq_some_iff.1 held)
  exact means.plain

/-- What a client asks for was put into the table by one of its updates. -/
theorem SubscriptionTable.plain_composite {updates : List (Update κ)}
    (plain : ∀ client changes, .apply client changes ∈ updates → changes.selected.Plain) :
    (after updates).composite.Plain
  := by
  intro object union held
  have total := (sound_after updates).union_composite object
  rw [held] at total
  apply total.plain
  rintro set ⟨client, asked⟩
  obtain ⟨earlier, changes, later, rfl, named, -, -⟩ :=
    (asks_after_eq_some_iff updates client object set).1 asked
  apply plain client changes (by simp) object set
  exact InterestChanges.get?_selected_eq_some_iff.2 named

theorem Requested.plain {i : Interest} (requested : Requested κ i) :
    i.Plain
  := by
  induction requested with
  | queried parsed => exact plain_of_parseQuery parsed
  | selected parsed => exact plain_of_parseSubscription parsed
  | united updates _ ih => exact SubscriptionTable.plain_composite ih

/-- An interest that comes about by requests names `"*"` nowhere, and it is written so that a query
reads it back: all attributes of an object as `null`, named ones as the list of their names in
increasing order, and no other object.  No other interest is written like it. -/
theorem Requested.read_back {i : Interest} (requested : Requested κ i) :
    (∀ object names, i.get? object = some (.only names) → names.contains allAttributes = false) ∧
      parseQuery i.toJson = .ok i ∧
      (∃ objects, i.toJson.fields? = some objects ∧
        ∀ object, Written (i.get? object) (objects.get? object)) ∧
      ∀ other : Interest, other.toJson = i.toJson → other = i
  := by
  have plain := requested.plain
  use fun object names held => plain object (.only names) held, plain.parseQuery_toJson
  constructor
  · exact ⟨_, i.fields?_toJson, i.written⟩
  · intro other same
    exact Interest.toJson_inj.1 same

/-- What two subscriptions select. -/
def shared : List (SubscriptionTable.Update Nat) :=
  [.apply 1 (.ofList [("bed", some .all), ("fan", some (.ofNames ["power", "speed"]))]),
    .apply 2 (.ofList [("bed", some (.ofNames ["target"])), ("fan", some (.ofNames ["rpm"]))])]

theorem requested_shared :
    Requested Nat (SubscriptionTable.after shared).composite
  := by
  have first : parseSubscription (.ofMembers
      [("bed", .ofStrings ["target", allAttributes]), ("fan", .ofStrings ["speed", "power"])]) =
        .ok (.ofList [("bed", some .all), ("fan", some (.ofNames ["power", "speed"]))])
    := rfl
  have second : parseSubscription (.ofMembers
      [("fan", .ofStrings ["rpm", "rpm"]), ("bed", .ofStrings ["target"])]) =
        .ok (.ofList [("bed", some (.ofNames ["target"])), ("fan", some (.ofNames ["rpm"]))])
    := rfl
  apply Requested.united
  intro client changes mem
  rcases List.mem_cons.1 mem with same | mem
  · obtain ⟨rfl, rfl⟩ := SubscriptionTable.Update.apply.inj same
    exact .selected first
  · obtain ⟨rfl, rfl⟩ := SubscriptionTable.Update.apply.inj (List.mem_singleton.1 mem)
    exact .selected second

/-- The composite of two subscriptions, as it is written and read back. -/
theorem Requested.read_back_shared :
    (SubscriptionTable.after shared).composite.toJson =
        .ofMembers [("bed", .null), ("fan", .ofStrings ["power", "rpm", "speed"])] ∧
      parseQuery (SubscriptionTable.after shared).composite.toJson =
        .ok (SubscriptionTable.after shared).composite
  := by
  obtain ⟨-, read, -⟩ := Requested.read_back requested_shared
  exact ⟨rfl, read⟩

end ControlRelay
