import ControlRelay.Proofs.Interest.Composite
import ControlRelay.Proofs.Registry.Moves

/-!
# What a turn does to the registry

A turn takes in a push, or hears that the control process stopped, or else it makes an update of the
table at most and then may bring the subscription up to date.  `Affects` says this of all parts of
the registry.  So the table of every run comes about by updates, and its composite is the union of
all interests.
-/

namespace ControlRelay.Registry

open Control (Dialogue Exchange)
open SubscriptionTable (Update)

/-- The push that is taken in. -/
def Operation.push? : Operation → Option (Fields × Float)
  | .push status eventtime => some (status, eventtime)
  | _ => none

/-- The registry before it brings its subscription up to date: interests may be others, or the
control process has become ready. -/
structure Prepares (r wanting : Registry) : Prop where
  table : wanting.table = r.table ∨ ∃ update, wanting.table = (r.table.perform update).2
  cache : wanting.cache = r.cache
  synced : wanting.synced = r.synced
  ready : r.controlReady = true → wanting.controlReady = true

/-- What the performance of an operation does to the registry `r`. -/
inductive Affects (r : Registry) : Operation → Registry → Prop where
  | pushed (status : Fields) (eventtime : Float) :
      Affects r (.push status eventtime) { r with cache := r.cache.merge status eventtime }
  | stopped (status : ControlStatus) :
      Affects r (.controlChanged status)
        { r with
          controlReady := false
          cache := r.cache.clear
          synced := none
          dirty := !r.composite.isEmpty }
  | prepared {operation : Operation} {wanting : Registry} (unpushed : operation.push? = none)
      (prepares : Prepares r wanting) :
      Affects r operation wanting
  | synced {operation : Operation} {calls : List Exchange} {wanting r' : Registry}
      {outcome : Except RelayError Unit} (unpushed : operation.push? = none)
      (prepares : Prepares r wanting) (ends : SyncEnds wanting calls (r', outcome)) :
      Affects r operation r'

/-- A registry with the interests that are wanted brings its subscription up to date or has no need
to, and queries may follow. -/
inductive Settles (wanting : Registry) : List Exchange → Registry → Prop where
  | kept {queries : List Exchange} (quiet : Quiet queries) : Settles wanting queries wanting
  | synced {calls queries : List Exchange} {r' : Registry} {outcome : Except RelayError Unit}
      (ends : SyncEnds wanting calls (r', outcome)) (quiet : Quiet queries) :
      Settles wanting (calls ++ queries) r'

section

variable {r r' : Registry} {operation : Operation} {exchanges : List Exchange}

theorem Prepares.refl (r : Registry) :
    Prepares r r
  := ⟨.inl rfl, rfl, rfl, id⟩

theorem prepares_update (r : Registry) (update : Update Subscriber) :
    Prepares r { r with table := (r.table.perform update).2 }
  := ⟨.inr ⟨update, rfl⟩, rfl, rfl, id⟩

theorem settles_of_subscribe {who : Subscriber} {changes : InterestChanges}
    {snapshot : Except RelayError Snapshot}
    (ends : (r.subscribe who changes).Ends exchanges (r', snapshot)) :
    Settles { r with table := (r.table.apply who changes).2 } exchanges r'
  := by
  unfold subscribe at ends
  dsimp only at ends
  split at ends
  next =>
    obtain ⟨⟨r₁, outcome⟩, calls, queries, rfl, synced, answered⟩ :=
      Dialogue.ends_bind_iff.1 ends
    obtain ⟨quiet, rfl⟩ := quiet_of_answered answered
    apply Settles.synced (syncEnds_of_ends synced) quiet
  next =>
    obtain ⟨⟨r₁, outcome⟩, calls, queries, rfl, unsynced, answered⟩ :=
      Dialogue.ends_bind_iff.1 ends
    obtain ⟨quiet, rfl⟩ := quiet_of_answered answered
    obtain ⟨rfl, same⟩ := Dialogue.ends_pure_iff.1 unsynced
    obtain ⟨rfl, rfl⟩ := Prod.mk.inj same
    apply Settles.kept quiet

theorem settles_of_remove {who : Subscriber} {hadInterest : Bool}
    (ends : (r.remove who).Ends exchanges (r', hadInterest)) :
    Settles { r with table := (r.table.removeClient who).2 } exchanges r'
  := by
  unfold remove at ends
  dsimp only at ends
  split at ends
  next =>
    obtain ⟨⟨r₁, outcome⟩, synced, same⟩ := Dialogue.ends_of_last (fun _ => ⟨_, rfl⟩) ends
    obtain ⟨rfl, -⟩ := Prod.mk.inj (Dialogue.done.inj same)
    rw [← List.append_nil exchanges]
    apply Settles.synced (syncEnds_of_ends synced) quiet_nil
  next =>
    obtain ⟨rfl, same⟩ := Dialogue.ends_pure_iff.1 ends
    obtain ⟨rfl, -⟩ := Prod.mk.inj same
    apply Settles.kept quiet_nil

theorem settles_of_ready {status : ControlStatus} (ready : status.isReady = true)
    (ends : (r.controlChanged status).Ends exchanges r') :
    Settles { r with controlReady := true } exchanges r'
  := by
  unfold controlChanged at ends
  rw [ready] at ends
  split at ends
  next same =>
    obtain ⟨rfl, rfl⟩ := Dialogue.ends_pure_iff.1 ends
    rw [same]
    apply Settles.kept quiet_nil
  next =>
    rw [if_neg (by simp)] at ends
    dsimp only at ends
    split at ends
    next =>
      obtain ⟨⟨r₁, outcome⟩, synced, same⟩ := Dialogue.ends_of_last (fun _ => ⟨_, rfl⟩) ends
      obtain rfl := Dialogue.done.inj same
      rw [← List.append_nil exchanges]
      apply Settles.synced (syncEnds_of_ends synced) quiet_nil
    next =>
      obtain ⟨rfl, rfl⟩ := Dialogue.ends_pure_iff.1 ends
      apply Settles.kept quiet_nil

theorem settles_of_resync {clean : Bool} (ends : r.resync.Ends exchanges (r', clean)) :
    Settles r exchanges r'
  := by
  unfold resync at ends
  split at ends
  next =>
    obtain ⟨rfl, same⟩ := Dialogue.ends_pure_iff.1 ends
    obtain ⟨rfl, -⟩ := Prod.mk.inj same
    apply Settles.kept quiet_nil
  next =>
    obtain ⟨⟨r₁, outcome⟩, synced, same⟩ :=
      Dialogue.ends_of_last (by rintro ⟨r₁, e | _⟩ <;> exact ⟨_, rfl⟩) ends
    have unchanged : r₁ = r' := by
      cases outcome with
      | error e => apply congrArg Prod.fst (Dialogue.done.inj same)
      | ok => apply congrArg Prod.fst (Dialogue.done.inj same)
    obtain rfl := unchanged
    rw [← List.append_nil exchanges]
    apply Settles.synced (syncEnds_of_ends synced) quiet_nil

theorem settles_of_answerQuery {request : Except InterestError Interest} {answer : Answer}
    (ends : (r.answerQuery request).Ends exchanges (r', answer)) :
    Settles r exchanges r'
  := by
  cases request with
  | error e =>
    obtain ⟨rfl, same⟩ := Dialogue.ends_pure_iff.1 ends
    obtain ⟨rfl, -⟩ := Prod.mk.inj same
    apply Settles.kept quiet_nil
  | ok request =>
    obtain ⟨snapshot, completed, same⟩ := Dialogue.ends_of_last (fun _ => ⟨_, rfl⟩) ends
    obtain ⟨rfl, -⟩ := Prod.mk.inj (Dialogue.done.inj same)
    apply Settles.kept (quiet_of_complete completed)

/-- A turn that neither takes in a push nor hears that the control process stopped makes an update
of the table at most, or takes the control process for ready, and settles the registry. -/
theorem exists_settles_of_perform {answer : Answer} (unpushed : operation.push? = none)
    (runs : operation.stopsControl = false)
    (ends : (r.perform operation).Ends exchanges (r', answer)) :
    ∃ wanting, Prepares r wanting ∧ Settles wanting exchanges r'
  := by
  cases operation with
  | subscribe who objects =>
    dsimp only [perform] at ends
    split at ends
    next =>
      obtain ⟨rfl, same⟩ := Dialogue.ends_pure_iff.1 ends
      obtain ⟨rfl, -⟩ := Prod.mk.inj same
      exact ⟨r', .refl r', .kept quiet_nil⟩
    next changes _ =>
      obtain ⟨⟨r₁, snapshot⟩, performed, same⟩ := Dialogue.ends_of_last (fun _ => ⟨_, rfl⟩) ends
      obtain ⟨rfl, -⟩ := Prod.mk.inj (Dialogue.done.inj same)
      exact ⟨_, prepares_update r (.apply who changes), settles_of_subscribe performed⟩
  | remove who =>
    obtain ⟨⟨r₁, hadInterest⟩, performed, same⟩ := Dialogue.ends_of_last (fun _ => ⟨_, rfl⟩) ends
    obtain ⟨rfl, -⟩ := Prod.mk.inj (Dialogue.done.inj same)
    exact ⟨_, prepares_update r (.removeClient who), settles_of_remove performed⟩
  | push => cases unpushed
  | controlChanged status =>
    obtain ⟨r₁, performed, same⟩ := Dialogue.ends_of_last (fun _ => ⟨_, rfl⟩) ends
    obtain ⟨rfl, -⟩ := Prod.mk.inj (Dialogue.done.inj same)
    have ready : status.isReady = true := by simpa [Operation.stopsControl] using runs
    have prepares : Prepares r { r with controlReady := true } :=
      ⟨.inl rfl, rfl, rfl, fun _ => rfl⟩
    exact ⟨_, prepares, settles_of_ready ready performed⟩
  | resync =>
    obtain ⟨⟨r₁, clean⟩, performed, same⟩ := Dialogue.ends_of_last (fun _ => ⟨_, rfl⟩) ends
    obtain ⟨rfl, -⟩ := Prod.mk.inj (Dialogue.done.inj same)
    exact ⟨r, .refl r, settles_of_resync performed⟩
  | query objects => exact ⟨r, .refl r, settles_of_answerQuery ends⟩
  | peek objects => exact ⟨r, .refl r, settles_of_answerQuery ends⟩
  | listObjects =>
    obtain ⟨reply, asked, same⟩ := Dialogue.ends_of_last (fun _ => ⟨_, rfl⟩) ends
    obtain ⟨rfl, -⟩ := Prod.mk.inj (Dialogue.done.inj same)
    exact ⟨r, .refl r, .kept (quiet_of_listObjects asked)⟩

theorem affects_of_stop {status : ControlStatus} (stops : status.isReady = false)
    (ends : (r.controlChanged status).Ends exchanges r') :
    Affects r (.controlChanged status) r'
  := by
  unfold controlChanged at ends
  rw [stops] at ends
  split at ends
  next =>
    obtain ⟨rfl, rfl⟩ := Dialogue.ends_pure_iff.1 ends
    apply Affects.prepared rfl (.refl r')
  next =>
    obtain ⟨rfl, rfl⟩ := Dialogue.ends_pure_iff.1 ends
    apply Affects.stopped

theorem Settles.affects {wanting : Registry} (unpushed : operation.push? = none)
    (prepares : Prepares r wanting) (settles : Settles wanting exchanges r') :
    Affects r operation r'
  := by
  cases settles with
  | kept => apply Affects.prepared unpushed prepares
  | synced ends => apply Affects.synced unpushed prepares ends

/-- Every turn affects the registry in one of these ways. -/
theorem affects_of_perform {answer : Answer}
    (ends : (r.perform operation).Ends exchanges (r', answer)) :
    Affects r operation r'
  := by
  cases stops : operation.stopsControl with
  | false =>
    cases pushes : operation.push? with
    | none =>
      obtain ⟨wanting, prepares, settles⟩ := exists_settles_of_perform pushes stops ends
      apply settles.affects pushes prepares
    | some push =>
      cases operation with
      | push status eventtime =>
        obtain ⟨rfl, same⟩ := Dialogue.ends_pure_iff.1 ends
        obtain ⟨rfl, -⟩ := Prod.mk.inj same
        apply Affects.pushed
      | _ => cases pushes
  | true =>
    cases operation with
    | controlChanged status =>
      obtain ⟨r₁, performed, same⟩ := Dialogue.ends_of_last (fun _ => ⟨_, rfl⟩) ends
      obtain ⟨rfl, -⟩ := Prod.mk.inj (Dialogue.done.inj same)
      apply affects_of_stop _ performed
      simpa [Operation.stopsControl] using stops
    | _ => cases stops

/-! ### The table -/

/-- To bring the subscription up to date leaves the interests and the control process alone. -/
theorem SyncEnds.kept {calls : List Exchange} {outcome : Except RelayError Unit}
    (ends : SyncEnds r calls (r', outcome)) :
    r'.table = r.table ∧ r'.controlReady = r.controlReady
  := by
  cases ends <;> constructor <;> rfl

theorem Settles.table_eq {wanting : Registry} (settles : Settles wanting exchanges r') :
    r'.table = wanting.table
  := by
  cases settles with
  | kept => rfl
  | synced ends => apply ends.kept.1

theorem table_of_controlChanged {status : ControlStatus}
    (ends : (r.controlChanged status).Ends exchanges r') :
    r'.table = r.table
  := by
  cases ready : status.isReady with
  | true => exact (settles_of_ready ready ends).table_eq
  | false =>
    unfold controlChanged at ends
    rw [ready] at ends
    split at ends <;> rw [(Dialogue.ends_pure_iff.1 ends).2]

theorem Prepares.sound {wanting : Registry} (sound : r.table.Sound)
    (prepares : Prepares r wanting) :
    wanting.table.Sound
  := by
  obtain same | ⟨update, updated⟩ := prepares.table
  · rw [same]
    apply sound
  · rw [updated]
    apply sound.perform

theorem Affects.sound (sound : r.table.Sound) (affects : Affects r operation r') :
    r'.table.Sound
  := by
  cases affects with
  | pushed => apply sound
  | stopped => apply sound
  | prepared _ prepares => apply prepares.sound sound
  | synced _ prepares ends =>
    rw [ends.kept.1]
    apply prepares.sound sound

/-- In every run the composite is the union of the interests. -/
theorem Run.sound {history : List Turn} (run : Run history r) :
    r.table.Sound
  := by
  induction run with
  | start => apply SubscriptionTable.sound_empty
  | turn _ ends ih => apply (affects_of_perform ends).sound ih

end

end ControlRelay.Registry
