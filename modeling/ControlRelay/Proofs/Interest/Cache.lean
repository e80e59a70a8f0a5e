import ControlRelay.Interest.Cache
import ControlRelay.Proofs.Interest.AttributeSet

/-!
# The values in a status cache

A status and a cache are known by the values of their attributes, `valueOf?`.  A push overwrites
the values it carries, the result of a subscription leaves those that are known of attributes
subscribed before, and a snapshot has the values of the attributes it is asked for.
-/

namespace ControlRelay

/-- The fields of an object in a status. -/
def Fields.fieldsOf? (status : Fields) (object : String) : Option Fields :=
  (status.get? object).bind Json.fields?

/-- The value of an attribute in a status. -/
def Fields.valueOf? (status : Fields) (object field : String) : Option Json :=
  (status.fieldsOf? object).bind fun fields => fields.get? field

theorem AttributeSet.get?_filter (set : AttributeSet) (fields : Fields) (field : String) :
    (set.filter fields).get? field = if field ∈ set then fields.get? field else none
  := by
  cases set with
  | all => rfl
  | only names =>
    rw [AttributeSet.filter, SortedMap.get?_filter]
    cases fields.get? field with
    | none => simp
    | some value => simp [Option.filter_some]

namespace StatusCache

/-- The known value of an attribute. -/
def valueOf? (c : StatusCache) (object field : String) : Option Json :=
  (c.objects.get? object).bind fun fields => fields.get? field

theorem get?_objects_update (f : String → Fields → Fields → Fields) (c : StatusCache)
    (status : Fields) (eventtime : Float) (object : String) :
    (update f c status eventtime).objects.get? object =
      match status.fieldsOf? object with
      | some fields => some (f object ((c.objects.get? object).getD ∅) fields)
      | none => c.objects.get? object
  := by
  let change (name : String) (value : Json) (known : Option Fields) : Option Fields :=
    match value.fields? with
    | some fields => some (f name (known.getD ∅) fields)
    | none => known
  unfold update
  dsimp only
  rw [SortedMap.get?_foldl_entries status change]
  · unfold Fields.fieldsOf?
    cases status.get? object with
    | none => rfl
    | some value => rfl
  · intro objects name value
    dsimp only [change]
    cases value.fields? with
    | none => rfl
    | some fields => apply SortedMap.get?_insert_self
  · intro objects name value other ne
    dsimp only
    cases value.fields? with
    | none => rfl
    | some fields => apply SortedMap.get?_insert_of_ne objects ne

/-- The values of an object that a status carries are overwritten by them. -/
theorem get?_foldl_insert (fields known : Fields) (field : String) :
    (fields.entries.foldl (fun known (field, value) => known.insert field value) known).get? field =
      (fields.get? field).or (known.get? field)
  := by
  rw [SortedMap.get?_foldl_entries fields fun _ value _ => some value]
  · cases fields.get? field <;> rfl
  · intro known name value
    apply SortedMap.get?_insert_self
  · intro known name value other ne
    apply SortedMap.get?_insert_of_ne known ne

/-- A push overwrites the values that it carries. -/
theorem valueOf?_merge (c : StatusCache) (status : Fields) (eventtime : Float)
    (object field : String) :
    (c.merge status eventtime).valueOf? object field =
      (status.valueOf? object field).or (c.valueOf? object field)
  := by
  unfold valueOf? Fields.valueOf? merge
  rw [get?_objects_update]
  cases status.fieldsOf? object with
  | none => rfl
  | some fields =>
    dsimp only [Option.bind_some]
    rw [get?_foldl_insert]
    cases c.objects.get? object <;> rfl

/-- The values of an object that a subscription brings: those that are kept stay as they are. -/
theorem get?_foldl_insert_unless (keeps : String → Bool) (fields known : Fields)
    (field : String) :
    (fields.entries.foldl (fun known (field, value) =>
        if keeps field && known.contains field then known else known.insert field value)
        known).get? field =
      if keeps field && (known.get? field).isSome then known.get? field
      else (fields.get? field).or (known.get? field)
  := by
  rw [SortedMap.get?_foldl_entries fields fun field value known =>
    if keeps field && known.isSome then known else some value]
  · cases fields.get? field <;> simp
  · intro known name value
    dsimp only
    rw [← SortedMap.contains]
    split
    next => rfl
    next => apply SortedMap.get?_insert_self
  · intro known name value other ne
    dsimp only
    split
    next => rfl
    next => apply SortedMap.get?_insert_of_ne known ne

/-- What the result of a subscription carries is taken in, but for attributes that were subscribed
before and whose value is known. -/
theorem valueOf?_absorb_eq_ite (c : StatusCache) (status : Fields) (eventtime : Float)
    (previous : Interest) (object field : String) :
    (c.absorb status eventtime previous).valueOf? object field =
      if (previous.get? object).any (·.contains field) && (c.valueOf? object field).isSome
      then c.valueOf? object field
      else (status.valueOf? object field).or (c.valueOf? object field)
  := by
  unfold valueOf? Fields.valueOf? absorb
  rw [get?_objects_update]
  cases status.fieldsOf? object with
  | none => simp
  | some fields =>
    cases previous.get? object with
    | none =>
      apply (get?_foldl_insert_unless (fun _ => false) fields _ field).trans
      cases c.objects.get? object <;> rfl
    | some set =>
      apply (get?_foldl_insert_unless set.contains fields _ field).trans
      cases c.objects.get? object <;> rfl

theorem valueOf?_absorb {c : StatusCache} {status : Fields} {eventtime : Float}
    {previous : Interest} {object field : String} {set : AttributeSet} {value : Json}
    (covered : previous.get? object = some set) (mem : field ∈ set)
    (known : c.valueOf? object field = some value) :
    (c.absorb status eventtime previous).valueOf? object field = some value
  := by
  rw [valueOf?_absorb_eq_ite, covered, known]
  apply if_pos (Bool.and_eq_true_iff.2 ⟨mem, rfl⟩)

/-- A snapshot has the values that it is asked for. -/
theorem valueOf?_snapshot (c : StatusCache) (request : Interest) (object field : String) :
    (c.snapshot request).valueOf? object field =
      (request.get? object).bind fun set =>
        if field ∈ set then c.valueOf? object field else none
  := by
  unfold Fields.valueOf? Fields.fieldsOf? snapshot valueOf?
  rw [SortedMap.get?_filterMap]
  cases request.get? object with
  | none => rfl
  | some set =>
    cases c.objects.get? object with
    | none => simp
    | some fields => simp [Json.fields?_ofFields, AttributeSet.get?_filter]

end StatusCache

end ControlRelay
