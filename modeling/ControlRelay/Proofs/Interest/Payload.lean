import ControlRelay.Proofs.Interest.AttributeSet
import ControlRelay.Proofs.Interest.Request
import Mathlib.Data.List.Basic

/-!
# How payloads are read

The members of a payload are read in key order, and the first that cannot be read decides.  What
can be read of an object is `null`, `"*"` or a list of names, and one thing more: since a list is
not looked at behind a `"*"`, whatever stands there is overlooked.  The set that a list asks for is
told by its items, in whatever order they come and however often.
-/

namespace ControlRelay

universe u v

/-- The first entry with a property is the one with the least key. -/
theorem SortedMap.find?_entries_eq_some_iff {κ : Type u} {ν : Type v} [LT κ] [DecidableLT κ] [LE κ]
    [Std.LawfulOrderLT κ] [Std.IsLinearOrder κ] {m : SortedMap κ ν} {p : κ × ν → Bool}
    {entry : κ × ν} :
    m.entries.find? p = some entry ↔
      (m.get? entry.1 = some entry.2 ∧ p entry = true) ∧
        ∀ k v, k < entry.1 → m.get? k = some v → p (k, v) = false
  := by
  simp only [List.find?_eq_some_iff_append, get?_eq_some_iff]
  constructor
  · rintro ⟨holds, before, after, same, fails⟩
    have ordered := m.ordered
    rw [same] at ordered ⊢
    refine ⟨⟨by simp, holds⟩, fun k v less mem => ?_⟩
    rcases List.mem_append.1 mem with earlier | later
    · simpa using fails (k, v) earlier
    · cases later with
      | head => exact absurd less Std.lt_irrefl
      | tail _ later =>
        have greater := (List.pairwise_cons.1 (List.pairwise_append.1 ordered).2.1).1 (k, v) later
        exact absurd (Std.lt_trans less greater) Std.lt_irrefl
  · rintro ⟨⟨mem, holds⟩, first⟩
    obtain ⟨before, after, same⟩ := List.append_of_mem mem
    have ordered := m.ordered
    rw [same] at ordered
    use holds, before, after, same
    rintro ⟨k, v⟩ earlier
    have less := (List.pairwise_append.1 ordered).2.2 (k, v) earlier entry List.mem_cons_self
    simp [first k v less (by simp [same, earlier])]

/-! ### Going through the members -/

section

variable {α : Type} {read : Json → Option α} {payload : Json} {objects : Fields}

/-- One member is read. -/
def readMember (read : Json → Option α) (acc : SortedMap String α) (entry : String × Json) :
    Except InterestError (SortedMap String α) :=
  match read entry.2 with
  | some a => .ok (acc.insert entry.1 a)
  | none => .error (.invalidAttributes entry.1)

theorem foldlM_readMember (read : Json → Option α) (entries : List (String × Json))
    (acc : SortedMap String α) :
    entries.foldlM (readMember read) acc =
      match entries.find? fun entry => (read entry.2).isNone with
      | some entry => .error (.invalidAttributes entry.1)
      | none => .ok (entries.foldl (fun acc entry =>
          (read entry.2).elim acc fun a => acc.insert entry.1 a) acc)
  := by
  induction entries generalizing acc with
  | nil => rfl
  | cons entry rest ih =>
    rw [List.foldlM_cons, List.find?_cons, List.foldl_cons]
    cases found : read entry.2 with
    | none =>
      rw [readMember, found]
      rfl
    | some a =>
      rw [readMember, found]
      apply ih

/-- A payload is refused for the first member that cannot be read; otherwise every member is. -/
theorem readObjects_eq (read : Json → Option α) (payload : Json) :
    readObjects read payload =
      match payload.fields? with
      | none => .error .notAnObject
      | some objects =>
        match objects.entries.find? fun entry => (read entry.2).isNone with
        | some entry => .error (.invalidAttributes entry.1)
        | none => .ok (objects.filterMap fun _ => read)
  := by
  unfold readObjects
  cases payload.fields? with
  | none => rfl
  | some objects =>
    apply (foldlM_readMember read objects.entries ∅).trans
    have made : (objects.entries.foldl (fun acc entry =>
        (read entry.2).elim acc fun a => acc.insert entry.1 a) ∅ : SortedMap String α) =
          objects.filterMap fun _ => read
      := by
      apply SortedMap.ext_get?
      intro object
      rw [SortedMap.get?_filterMap,
        SortedMap.get?_foldl_entries objects fun _ value known => (read value).or known]
      · cases objects.get? object with
        | none => rfl
        | some value => exact Option.or_none
      · intro acc object value
        cases read value with
        | none => rfl
        | some a => apply SortedMap.get?_insert_self
      · intro acc object value other ne
        cases read value with
        | none => rfl
        | some a => apply SortedMap.get?_insert_of_ne acc ne
    rw [made]

/-- Of a payload that is read, every member is. -/
theorem readObjects_eq_ok_iff {result : SortedMap String α} (given : payload.fields? = some objects) :
    readObjects read payload = .ok result ↔
      (∀ object value, objects.get? object = some value → read value ≠ none) ∧
        ∀ object, result.get? object = (objects.get? object).bind read
  := by
  rw [readObjects_eq, given]
  dsimp only
  cases first : objects.entries.find? fun entry => (read entry.2).isNone with
  | none =>
    have reads : ∀ object value, objects.get? object = some value → read value ≠ none := by
      intro object value found
      simpa using List.find?_eq_none.1 first (object, value) (SortedMap.get?_eq_some_iff.1 found)
    constructor
    · rintro ⟨⟩
      use reads
      apply SortedMap.get?_filterMap
    · rintro ⟨-, same⟩
      apply congrArg Except.ok
      apply SortedMap.ext_get?
      intro object
      rw [SortedMap.get?_filterMap, same]
  | some entry =>
    obtain ⟨⟨found, refused⟩, -⟩ := SortedMap.find?_entries_eq_some_iff.1 first
    refine iff_of_false nofun ?_
    rintro ⟨reads, -⟩
    exact reads entry.1 entry.2 found (Option.isNone_iff_eq_none.1 refused)

end

/-! ### How a payload is judged -/

/-- The first object whose member is not good. -/
def FirstRefused (Good : Json → Prop) (objects : Fields) (object : String) : Prop :=
  (∃ value, objects.get? object = some value ∧ ¬Good value) ∧
    ∀ other value, other < object → objects.get? other = some value → Good value

theorem FirstRefused.unique {Good : Json → Prop} {objects : Fields} {object other : String}
    (first : FirstRefused Good objects object) (first' : FirstRefused Good objects other) :
    object = other
  := by
  obtain ⟨⟨value, found, bad⟩, before⟩ := first
  obtain ⟨⟨value', found', bad'⟩, before'⟩ := first'
  have not_less : ¬object < other := fun less => bad (before' object value less found)
  have not_greater : ¬other < object := fun less => bad' (before other value' less found')
  exact Std.le_antisymm (Std.not_lt.1 not_greater) (Std.not_lt.1 not_less)

/-- How a payload is answered whose members have to be good: it is refused if it is no object, or
for the first member that is not good. -/
structure Judged {α : Type} (Good : Json → Prop) (payload : Json) (outcome : Except InterestError α) :
    Prop where
  ok_iff : (∃ result, outcome = .ok result) ↔
    ∃ objects, payload.fields? = some objects ∧
      ∀ object value, objects.get? object = some value → Good value
  notAnObject_iff : outcome = .error .notAnObject ↔ payload.fields? = none
  invalid_iff (object : String) : outcome = .error (.invalidAttributes object) ↔
    ∃ objects, payload.fields? = some objects ∧ FirstRefused Good objects object

section

variable {α : Type} {read : Json → Option α} {Good : Json → Prop} {payload : Json}
  {objects : Fields}

/-- The member that is found to be refused is the first that is not good. -/
theorem firstRefused_of_find? (good : ∀ value, read value ≠ none ↔ Good value)
    {entry : String × Json}
    (first : objects.entries.find? (fun entry => (read entry.2).isNone) = some entry) :
    FirstRefused Good objects entry.1
  := by
  obtain ⟨⟨found, refused⟩, least⟩ := SortedMap.find?_entries_eq_some_iff.1 first
  constructor
  · use entry.2, found
    rw [← good, not_not]
    exact Option.isNone_iff_eq_none.1 refused
  · intro other value less named
    rw [← good, ← Option.isSome_iff_ne_none]
    simpa using least other value less named

theorem judged_readObjects (good : ∀ value, read value ≠ none ↔ Good value) (payload : Json) :
    Judged Good payload (readObjects read payload)
  := by
  rw [readObjects_eq]
  cases given : payload.fields? with
  | none => constructor <;> simp [given]
  | some objects =>
    dsimp only
    cases first : objects.entries.find? fun entry => (read entry.2).isNone with
    | none =>
      have all : ∀ object value, objects.get? object = some value → Good value := by
        intro object value found
        rw [← good]
        simpa using List.find?_eq_none.1 first (object, value) (SortedMap.get?_eq_some_iff.1 found)
      constructor
      · exact iff_of_true ⟨_, rfl⟩ ⟨objects, given, all⟩
      · simp [given]
      · intro object
        refine iff_of_false (by simp) ?_
        rintro ⟨others, given', ⟨value, found, refused⟩, -⟩
        obtain rfl := Option.some.inj (given.symm.trans given')
        exact refused (all object value found)
    | some entry =>
      have refused := firstRefused_of_find? good first
      constructor
      · refine iff_of_false (by simp) ?_
        rintro ⟨others, given', all⟩
        obtain rfl := Option.some.inj (given.symm.trans given')
        obtain ⟨⟨value, found, bad⟩, -⟩ := refused
        exact bad (all entry.1 value found)
      · simp [given]
      · intro object
        constructor
        · rintro ⟨⟩
          exact ⟨objects, given, refused⟩
        · rintro ⟨others, given', refused'⟩
          obtain rfl := Option.some.inj (given.symm.trans given')
          rw [refused'.unique refused]

end

/-! ### What can be read of an object -/

/-- What is to be said of an object: `null`, all attributes, or a list of names. -/
inductive Listed : Json → Prop where
  | null : Listed .null
  | whole : Listed (.string allAttributes)
  | names (names : List String) : Listed (.ofStrings names)

/-- A list in which something that is no string stands behind names and a `"*"`. -/
inductive Overlooked : Json → Prop where
  | behind (names : List String) {rest : List Json} {item : Json} (mem : item ∈ rest)
      (strange : item.string? = none) :
      Overlooked (.array (names.map .string ++ .string allAttributes :: rest))

theorem string?_of_mem {names : List String} {item : Json} (mem : item ∈ names.map Json.string) :
    item.string? ≠ none
  := by
  obtain ⟨name, -, rfl⟩ := List.mem_map.1 mem
  nofun

/-- Lists of names have nothing else in them. -/
theorem Listed.not_overlooked {value : Json} (listed : Listed value) :
    ¬Overlooked value
  := by
  intro overlooked
  cases overlooked with
  | @behind names rest item mem strange =>
    generalize same : Json.array (names.map .string ++ .string allAttributes :: rest) = value at listed
    cases listed with
    | null => cases same
    | whole => cases same
    | names others =>
      have among : item ∈ others.map Json.string := by
        rw [← Json.array.inj same]
        simp [mem]
      exact string?_of_mem among strange

/-- Items that are all strings are a list of names. -/
theorem exists_names_of_strings {items : List Json} (strings : ∀ item ∈ items, item.string? ≠ none) :
    ∃ names : List String, items = names.map .string
  := by
  induction items with
  | nil => use []; rfl
  | cons item items ih =>
    obtain ⟨first, rest⟩ := List.forall_mem_cons.1 strings
    obtain ⟨names, rfl⟩ := ih rest
    cases item with
    | string name => use name :: names; rfl
    | _ => cases first rfl

/-- A list can be read if its items are names up to the end, or up to a `"*"`. -/
theorem attributesOfItems?_ne_none_iff {items : List Json} {names : NameSet} :
    attributesOfItems? names items ≠ none ↔
      (∃ texts : List String, items = texts.map .string) ∨
        ∃ (texts : List String) (rest : List Json),
          items = texts.map .string ++ .string allAttributes :: rest
  := by
  constructor
  · intro reads
    fun_induction attributesOfItems? names items with
    | case1 => exact .inl ⟨[], rfl⟩
    | case2 names rest => exact .inr ⟨[], rest, rfl⟩
    | case3 names text rest _ ih =>
      obtain ⟨texts, rfl⟩ | ⟨texts, rest, rfl⟩ := ih reads
      · exact .inl ⟨text :: texts, rfl⟩
      · exact .inr ⟨text :: texts, rest, rfl⟩
    | case4 => cases reads rfl
  · rintro (⟨texts, rfl⟩ | ⟨texts, rest, rfl⟩)
    · induction texts generalizing names with
      | nil => nofun
      | cons text texts ih =>
        rw [List.map_cons, attributesOfItems?]
        split
        next => nofun
        next => exact ih
    · induction texts generalizing names with
      | nil =>
        rw [List.map_nil, List.nil_append, attributesOfItems?, if_pos rfl]
        nofun
      | cons text texts ih =>
        rw [List.map_cons, List.cons_append, attributesOfItems?]
        split
        next => nofun
        next => exact ih

/-- Which lists can be read. -/
theorem attributesOf?_array_ne_none_iff {items : List Json} :
    attributesOf? (.array items) ≠ none ↔ Listed (.array items) ∨ Overlooked (.array items)
  := by
  apply attributesOfItems?_ne_none_iff.trans
  constructor
  · rintro (⟨texts, rfl⟩ | ⟨texts, rest, rfl⟩)
    · exact .inl (.names texts)
    · by_cases strange : ∃ item ∈ rest, item.string? = none
      · obtain ⟨item, mem, strange⟩ := strange
        exact .inr (.behind texts mem strange)
      · push Not at strange
        obtain ⟨others, rfl⟩ := exists_names_of_strings strange
        left
        have listed := Listed.names (texts ++ allAttributes :: others)
        rwa [Json.ofStrings, List.map_append, List.map_cons] at listed
  · rintro (listed | overlooked)
    · cases listed with
      | names texts => exact .inl ⟨texts, rfl⟩
    · cases overlooked with
      | behind texts mem strange => exact .inr ⟨texts, _, rfl⟩

/-- What can be read besides `null`. -/
theorem attributesOf?_ne_none_iff {value : Json} (filled : value ≠ .null) :
    attributesOf? value ≠ none ↔ Listed value ∨ Overlooked value
  := by
  cases value with
  | null => contradiction
  | array items => exact attributesOf?_array_ne_none_iff
  | string name =>
    rw [attributesOf?]
    split
    next same =>
      subst same
      exact iff_of_true nofun (.inl .whole)
    next differ =>
      refine iff_of_false (by simp) ?_
      rintro (listed | overlooked)
      · apply differ
        cases listed
        rfl
      · cases overlooked
  | _ =>
    refine iff_of_false (by simp [attributesOf?]) ?_
    rintro (listed | overlooked)
    · cases listed
    · cases overlooked

/-! ### What is asked for -/

/-- The set that the payload of an object asks for. -/
inductive Asks : Json → AttributeSet → Prop where
  | whole : Asks (.string allAttributes) .all
  | starred {items : List Json} (mem : .string allAttributes ∈ items) : Asks (.array items) .all
  | named {items : List Json} {names : NameSet} (unstarred : .string allAttributes ∉ items)
      (told : ∀ name, names.contains name = true ↔ .string name ∈ items) :
      Asks (.array items) (.only names)

theorem Asks.unique {value : Json} {set set' : AttributeSet} (asks : Asks value set)
    (asks' : Asks value set') :
    set = set'
  := by
  cases asks with
  | whole => cases asks'; rfl
  | starred mem =>
    cases asks' with
    | starred => rfl
    | named unstarred => contradiction
  | named unstarred told =>
    cases asks' with
    | starred => contradiction
    | named unstarred' told' =>
      congr 1
      apply NameSet.ext_contains
      intro name
      rw [Bool.eq_iff_iff, told, told']

/-- What a list asks for does not depend on the order of its items. -/
theorem Asks.congr {items others : List Json} {set : AttributeSet} (asks : Asks (.array items) set)
    (same : ∀ item, item ∈ items ↔ item ∈ others) :
    Asks (.array others) set
  := by
  cases asks with
  | starred mem => exact .starred ((same _).1 mem)
  | named unstarred told =>
    apply Asks.named (mt (same _).2 unstarred)
    intro name
    rw [told, same]

/-- A list asks for all attributes exactly if it has a `"*"`. -/
theorem Asks.eq_all_iff {items : List Json} {set : AttributeSet} (asks : Asks (.array items) set) :
    set = .all ↔ .string allAttributes ∈ items
  := by
  cases asks with
  | starred mem => exact iff_of_true rfl mem
  | named unstarred => exact iff_of_false nofun unstarred

theorem attributesOfItems?_eq_some {items : List Json} {names : NameSet} {set : AttributeSet}
    (reads : attributesOfItems? names items = some set) :
    (.string allAttributes ∈ items ∧ set = .all) ∨
      .string allAttributes ∉ items ∧ ∃ found, set = .only found ∧
        ∀ name, found.contains name = true ↔ names.contains name = true ∨ .string name ∈ items
  := by
  fun_induction attributesOfItems? names items with
  | case1 names =>
    obtain rfl := Option.some.inj reads
    exact .inr ⟨List.not_mem_nil, names, rfl, by simp⟩
  | case2 names rest =>
    obtain rfl := Option.some.inj reads
    exact .inl ⟨List.mem_cons_self, rfl⟩
  | case3 names text rest plain ih =>
    obtain ⟨mem, rfl⟩ | ⟨unstarred, found, rfl, told⟩ := ih reads
    · exact .inl ⟨List.mem_cons_of_mem _ mem, rfl⟩
    · refine .inr ⟨?_, found, rfl, ?_⟩
      · simp [unstarred, Ne.symm plain]
      · intro name
        rw [told, NameSet.contains_insert]
        grind
  | case4 => cases reads

theorem asks_of_attributesOf? {value : Json} {set : AttributeSet}
    (reads : attributesOf? value = some set) :
    Asks value set
  := by
  cases value with
  | string name =>
    rw [attributesOf?] at reads
    obtain ⟨rfl, same⟩ := Option.ite_none_right_eq_some.1 reads
    rw [← Option.some.inj same]
    exact .whole
  | array items =>
    obtain ⟨mem, rfl⟩ | ⟨unstarred, found, rfl, told⟩ := attributesOfItems?_eq_some reads
    · exact .starred mem
    · apply Asks.named unstarred
      intro name
      rw [told]
      simp [SortedMap.contains]
  | _ => cases reads

/-! ### What the parsers make of a payload -/

/-- What a query reads of the payload of an object. -/
def queried? : Json → Option AttributeSet
  | .null => some .all
  | value => attributesOf? value

/-- What a subscription reads of the payload of an object. -/
def subscribed? : Json → Option (Option AttributeSet)
  | .null => some none
  | value => (attributesOf? value).map fun set => if set.isEmpty then none else some set

theorem parseQuery_eq :
    parseQuery = readObjects queried?
  := rfl

theorem parseSubscription_eq :
    parseSubscription = readObjects subscribed?
  := rfl

/-- What can be read of an object. -/
def Readable (value : Json) : Prop := Listed value ∨ Overlooked value

theorem queried?_ne_none_iff (value : Json) :
    queried? value ≠ none ↔ Readable value
  := by
  by_cases given : value = .null
  · subst given
    exact iff_of_true nofun (.inl .null)
  · unfold queried?
    split
    next => contradiction
    next => exact attributesOf?_ne_none_iff given

theorem subscribed?_ne_none_iff (value : Json) :
    subscribed? value ≠ none ↔ Readable value
  := by
  by_cases given : value = .null
  · subst given
    exact iff_of_true nofun (.inl .null)
  · unfold subscribed?
    split
    next => contradiction
    next => exact (not_congr Option.map_eq_none_iff).trans (attributesOf?_ne_none_iff given)

/-- What the payload of an object means in a query. -/
inductive Queried : Json → AttributeSet → Prop where
  | null : Queried .null .all
  | asked {value : Json} {set : AttributeSet} (asks : Asks value set) : Queried value set

/-- What the payload of an object means in a subscription. -/
inductive Subscribed : Json → Option AttributeSet → Prop where
  | null : Subscribed .null none
  | emptied {value : Json} {set : AttributeSet} (asks : Asks value set) (empty : set.isEmpty = true) :
      Subscribed value none
  | asked {value : Json} {set : AttributeSet} (asks : Asks value set) (filled : set.isEmpty = false) :
      Subscribed value (some set)

theorem Queried.unique {value : Json} {set set' : AttributeSet} (means : Queried value set)
    (means' : Queried value set') :
    set = set'
  := by
  cases means with
  | null =>
    cases means' with
    | null => rfl
    | asked asks' => cases asks'
  | asked asks =>
    cases means' with
    | null => cases asks
    | asked asks' => exact asks.unique asks'

theorem Subscribed.unique {value : Json} {change change' : Option AttributeSet}
    (means : Subscribed value change) (means' : Subscribed value change') :
    change = change'
  := by
  cases means with
  | null =>
    cases means' with
    | null => rfl
    | emptied => rfl
    | asked asks' => cases asks'
  | emptied asks empty =>
    cases means' with
    | null => rfl
    | emptied => rfl
    | asked asks' filled =>
      rw [asks.unique asks', filled] at empty
      cases empty
  | asked asks filled =>
    cases means' with
    | null => cases asks
    | emptied asks' empty =>
      rw [asks.unique asks', empty] at filled
      cases filled
    | asked asks' => rw [asks.unique asks']

theorem queried_of_queried? {value : Json} {set : AttributeSet} (reads : queried? value = some set) :
    Queried value set
  := by
  unfold queried? at reads
  split at reads
  next =>
    obtain rfl := Option.some.inj reads
    exact .null
  next => exact .asked (asks_of_attributesOf? reads)

theorem subscribed_of_subscribed? {value : Json} {change : Option AttributeSet}
    (reads : subscribed? value = some change) :
    Subscribed value change
  := by
  unfold subscribed? at reads
  split at reads
  next =>
    obtain rfl := Option.some.inj reads
    exact .null
  next =>
    obtain ⟨set, found, rfl⟩ := Option.map_eq_some_iff.1 reads
    have asks := asks_of_attributesOf? found
    split
    next empty => exact .emptied asks empty
    next filled => exact .asked asks (Bool.eq_false_iff.2 filled)

/-- The result has for each object of the payload what its value means, and nothing else. -/
def Fulfils {α : Type} (Means : Json → α → Prop) (payload : Json) (result : SortedMap String α) : Prop :=
  ∃ objects, payload.fields? = some objects ∧
    ∀ object a, result.get? object = some a ↔
      ∃ value, objects.get? object = some value ∧ Means value a

theorem fulfils_of_readObjects {α : Type} {read : Json → Option α} {Means : Json → α → Prop}
    (sound : ∀ {value a}, read value = some a → Means value a)
    (unique : ∀ {value a a'}, Means value a → Means value a' → a = a')
    {payload : Json} {result : SortedMap String α} (given : readObjects read payload = .ok result) :
    Fulfils Means payload result
  := by
  cases named : payload.fields? with
  | none =>
    rw [readObjects_eq, named] at given
    cases given
  | some objects =>
    obtain ⟨reads, same⟩ := (readObjects_eq_ok_iff named).1 given
    use objects, named
    intro object a
    rw [same, Option.bind_eq_some_iff]
    constructor
    · rintro ⟨value, found, read⟩
      exact ⟨value, found, sound read⟩
    · rintro ⟨value, found, means⟩
      obtain ⟨a', read⟩ := Option.ne_none_iff_exists'.1 (reads object value found)
      rw [unique means (sound read)]
      exact ⟨value, found, read⟩

/-! ### Where something is overlooked -/

/-- No overlooked member comes to matter: one before it cannot be read. -/
def Unseen (payload : Json) : Prop :=
  ∀ objects, payload.fields? = some objects →
    ∀ object value, objects.get? object = some value → Overlooked value →
      ∃ other value', other < object ∧ objects.get? other = some value' ∧ ¬Readable value'

/-- If nothing overlooked comes to matter, the same member is the first to be refused. -/
theorem firstRefused_iff {payload : Json} {objects : Fields} (given : payload.fields? = some objects)
    (unseen : Unseen payload) {object : String} :
    FirstRefused Readable objects object ↔ FirstRefused Listed objects object
  := by
  constructor
  · rintro ⟨⟨value, found, unreadable⟩, before⟩
    use ⟨value, found, fun listed => unreadable (.inl listed)⟩
    intro earlier value' less found'
    obtain listed | overlooked := before earlier value' less found'
    · exact listed
    · obtain ⟨first, bad, less', found'', refused⟩ := unseen objects given earlier value' found' overlooked
      exact absurd (before first bad (Std.lt_trans less' less) found'') refused
  · rintro ⟨⟨value, found, unlisted⟩, before⟩
    constructor
    · use value, found
      rintro (listed | overlooked)
      · exact unlisted listed
      · obtain ⟨first, bad, less, found', refused⟩ := unseen objects given object value found overlooked
        exact refused (.inl (before first bad less found'))
    · intro earlier value' less found'
      exact .inl (before earlier value' less found')

/-- Where something is overlooked, a payload that is read is misjudged. -/
theorem not_judged_of_overlooked {α : Type} {payload : Json} {objects : Fields}
    (given : payload.fields? = some objects) {object : String} {value : Json}
    (found : objects.get? object = some value) (overlooked : Overlooked value) {result : α} :
    ¬Judged Listed payload (.ok result)
  := by
  intro judged
  obtain ⟨others, given', all⟩ := judged.ok_iff.1 ⟨result, rfl⟩
  obtain rfl := Option.some.inj (given.symm.trans given')
  exact (all object value found).not_overlooked overlooked

/-- A payload is judged by what it has to have exactly if nothing overlooked comes to matter. -/
theorem judged_listed_iff {α : Type} {payload : Json} {outcome : Except InterestError α}
    (judged : Judged Readable payload outcome) :
    Judged Listed payload outcome ↔ Unseen payload
  := by
  constructor
  · intro strict objects given object value found overlooked
    cases outcome with
    | ok result => cases not_judged_of_overlooked given found overlooked strict
    | error error =>
      cases error with
      | notAnObject => cases given.symm.trans (strict.notAnObject_iff.1 rfl)
      | invalidAttributes first =>
        obtain ⟨others, given', ⟨value', found', unreadable⟩, -⟩ := (judged.invalid_iff first).1 rfl
        obtain rfl := Option.some.inj (given.symm.trans given')
        obtain ⟨others, given'', -, before⟩ := (strict.invalid_iff first).1 rfl
        obtain rfl := Option.some.inj (given.symm.trans given'')
        have not_greater : ¬object < first :=
          fun less => (before object value less found).not_overlooked overlooked
        have ne : first ≠ object := by
          rintro rfl
          obtain rfl := Option.some.inj (found.symm.trans found')
          exact unreadable (.inr overlooked)
        exact ⟨first, value', Std.lt_of_le_of_ne (Std.not_lt.1 not_greater) ne, found', unreadable⟩
  · intro unseen
    constructor
    · rw [judged.ok_iff]
      constructor
      · rintro ⟨objects, given, all⟩
        use objects, given
        intro object value found
        obtain listed | overlooked := all object value found
        · exact listed
        · obtain ⟨first, bad, -, found', refused⟩ := unseen objects given object value found overlooked
          exact absurd (all first bad found') refused
      · rintro ⟨objects, given, all⟩
        exact ⟨objects, given, fun object value found => .inl (all object value found)⟩
    · exact judged.notAnObject_iff
    · intro object
      rw [judged.invalid_iff]
      apply exists_congr
      intro objects
      apply and_congr_right
      intro given
      exact firstRefused_iff given unseen

/-- A list whose items are names is read. -/
theorem reads_of_strings {items : List Json} (strings : ∀ item ∈ items, item.string? ≠ none) :
    attributesOf? (.array items) ≠ none
  := by
  obtain ⟨names, rfl⟩ := exists_names_of_strings strings
  exact attributesOf?_array_ne_none_iff.2 (.inl (.names names))

/-- A list that is read although something in it is no string has a `"*"`. -/
theorem starred_of_reads {items : List Json} (reads : attributesOf? (.array items) ≠ none)
    {item : Json} (mem : item ∈ items) (strange : item.string? = none) :
    .string allAttributes ∈ items
  := by
  obtain listed | overlooked := attributesOf?_array_ne_none_iff.1 reads
  · cases listed with
    | names => exact absurd strange (string?_of_mem mem)
  · cases overlooked with
    | behind => exact List.mem_append_right _ List.mem_cons_self

/-- Two lists of the same items that are both read ask for the same. -/
theorem attributesOf?_congr {items others : List Json} (same : ∀ item, item ∈ items ↔ item ∈ others)
    (reads : attributesOf? (.array items) ≠ none) (reads' : attributesOf? (.array others) ≠ none) :
    attributesOf? (.array items) = attributesOf? (.array others)
  := by
  obtain ⟨set, asked⟩ := Option.ne_none_iff_exists'.1 reads
  obtain ⟨set', asked'⟩ := Option.ne_none_iff_exists'.1 reads'
  rw [asked, asked', ((asks_of_attributesOf? asked).congr same).unique (asks_of_attributesOf? asked')]

/-- The order of a list's items, or that some come again, matters exactly if it has a `"*"` and
something that is no string. -/
theorem order_matters_iff {items : List Json} :
    (∃ others, (∀ item, item ∈ items ↔ item ∈ others) ∧
        attributesOf? (.array items) ≠ attributesOf? (.array others)) ↔
      .string allAttributes ∈ items ∧ ∃ item ∈ items, item.string? = none
  := by
  constructor
  · rintro ⟨others, same, differ⟩
    have strange : ∃ item ∈ items, item.string? = none := by
      by_contra all
      push Not at all
      apply differ
      apply attributesOf?_congr same (reads_of_strings all)
      apply reads_of_strings
      intro item mem
      exact all item ((same item).2 mem)
    obtain ⟨item, mem, none⟩ := strange
    refine ⟨?_, item, mem, none⟩
    by_cases reads : attributesOf? (.array items) = Option.none
    · have reads' : attributesOf? (.array others) ≠ Option.none := by
        rw [reads] at differ
        exact differ.symm
      exact (same _).2 (starred_of_reads reads' ((same item).1 mem) none)
    · exact starred_of_reads reads mem none
  · rintro ⟨starred, item, mem, strange⟩
    by_cases reads : attributesOf? (.array items) = none
    · use .string allAttributes :: items
      constructor
      · simp [starred]
      · rw [reads, attributesOf?, attributesOfItems?, if_pos rfl]
        nofun
    · use item :: items
      constructor
      · simp [mem]
      · have refused : attributesOf? (.array (item :: items)) = none := by
          cases item with
          | string name => cases strange
          | _ => rfl
        rw [refused]
        exact reads

/-- `parseQuery` and `parseSubscription` answer any payload by whether its members can be read: it is
no object, or the first member in key order that cannot be read is named, or all is read and each
object gets what its value asks for.  What can be read is `null`, `"*"`, a list of names, and a list
that has names only up to a `"*"`.  So they judge the payload by whether its members are `null`,
`"*"` or lists of names exactly if nothing stands overlooked behind a `"*"` before the first member
that cannot be read.  Two lists of the same items that are both read ask for the same, all
attributes exactly if they have a `"*"`; one order of the items is read and another is not exactly
if there is a `"*"` among them and something that is no string. -/
theorem payload_judged (payload : Json) :
    (Judged Readable payload (parseQuery payload) ∧
        Judged Readable payload (parseSubscription payload)) ∧
      ((Judged Listed payload (parseQuery payload) ↔ Unseen payload) ∧
        (Judged Listed payload (parseSubscription payload) ↔ Unseen payload)) ∧
      ((∀ interest, parseQuery payload = .ok interest → Fulfils Queried payload interest) ∧
        ∀ changes, parseSubscription payload = .ok changes → Fulfils Subscribed payload changes) ∧
      ∀ items,
        (∀ others, (∀ item, item ∈ items ↔ item ∈ others) →
          attributesOf? (.array items) ≠ none → attributesOf? (.array others) ≠ none →
            attributesOf? (.array items) = attributesOf? (.array others)) ∧
        ((∃ others, (∀ item, item ∈ items ↔ item ∈ others) ∧
            attributesOf? (.array items) ≠ attributesOf? (.array others)) ↔
          .string allAttributes ∈ items ∧ ∃ item ∈ items, item.string? = none) ∧
        ∀ set, attributesOf? (.array items) = some set →
          (set = .all ↔ .string allAttributes ∈ items)
  := by
  rw [parseQuery_eq, parseSubscription_eq]
  have query := judged_readObjects queried?_ne_none_iff payload
  have subscription := judged_readObjects subscribed?_ne_none_iff payload
  use ⟨query, subscription⟩, ⟨judged_listed_iff query, judged_listed_iff subscription⟩
  constructor
  · constructor
    · intro interest parsed
      exact fulfils_of_readObjects queried_of_queried? Queried.unique parsed
    · intro changes parsed
      exact fulfils_of_readObjects subscribed_of_subscribed? Subscribed.unique parsed
  · intro items
    use fun others same => attributesOf?_congr same, order_matters_iff
    intro set asked
    exact (asks_of_attributesOf? asked).eq_all_iff

/-- A payload in which a number stands behind a `"*"`. -/
def starredFirst : Json :=
  .ofMembers [("bed", .null), ("fan", .array [.string allAttributes, .ofNat 5])]

/-- The same payload with the number first. -/
def starredLast : Json :=
  .ofMembers [("bed", .null), ("fan", .array [.ofNat 5, .string allAttributes])]

/-- The number that stands behind the `"*"` is overlooked: the payload is read, though one of its
lists is no list of names.  With the number first it is refused. -/
theorem payload_misjudged_starredFirst :
    (¬Judged Listed starredFirst (parseQuery starredFirst) ∧
        ¬Judged Listed starredFirst (parseSubscription starredFirst)) ∧
      (parseQuery starredFirst = .ok (.ofList [("bed", .all), ("fan", .all)]) ∧
        parseSubscription starredFirst = .ok (.ofList [("bed", none), ("fan", some .all)])) ∧
      parseQuery starredLast = .error (.invalidAttributes "fan") ∧
      parseSubscription starredLast = .error (.invalidAttributes "fan")
  := by
  have overlooked : Overlooked (.array [.string allAttributes, .ofNat 5]) :=
    .behind [] (List.mem_singleton_self _) rfl
  have found : (SortedMap.ofList [("bed", Json.null),
      ("fan", .array [.string allAttributes, .ofNat 5])]).get? "fan" =
        some (.array [.string allAttributes, .ofNat 5])
    := rfl
  refine ⟨⟨?_, ?_⟩, ⟨rfl, rfl⟩, rfl, rfl⟩
  · exact not_judged_of_overlooked rfl found overlooked
  · exact not_judged_of_overlooked rfl found overlooked

end ControlRelay
