import ControlRelay.Proofs.Hub.Delivering
import ControlRelay.Proofs.Link.Wired
import ControlRelay.Proofs.Scheduler.Routine

/-!
# Deliveries and evictions

A delivery takes the connections away that it evicts, and reports them.  The registry, its lock and
all else that the hub knows of connections are left alone.
-/

namespace ControlRelay.Relay

/-- These connections were evicted and reported, and else nothing was done to any connection or to
the registry. -/
structure Evicts (evicted : List ConnectionId) (r r' : Relay) : Prop where
  connection : ∀ id, r'.hub.connections.get? id =
    if id ∈ evicted then none else r.hub.connections.get? id
  ids : r'.hub.ids = r.hub.ids
  auth : r'.hub.auth = r.hub.auth
  registry : r'.registry = r.registry
  registryLock : r'.registryLock = r.registryLock
  evictions : r'.evictions = r.evictions.sent evicted

section

variable {r r' r'' : Relay} {evicted more : List ConnectionId}

theorem evicts_of_same (hub : r'.hub = r.hub) (registry : r'.registry = r.registry)
    (registryLock : r'.registryLock = r.registryLock) (evictions : r'.evictions = r.evictions) :
    Evicts [] r r'
  := by
  constructor
  · simp [hub]
  · rw [hub]
  · rw [hub]
  · apply registry
  · apply registryLock
  · rw [evictions, Inbox.sent_nil]

theorem Evicts.trans (first : Evicts evicted r r') (second : Evicts more r' r'') :
    Evicts (evicted ++ more) r r''
  := by
  constructor
  · intro id
    rw [second.connection, first.connection]
    by_cases mem : id ∈ evicted <;> simp [mem]
  · rw [second.ids, first.ids]
  · rw [second.auth, first.auth]
  · rw [second.registry, first.registry]
  · rw [second.registryLock, first.registryLock]
  · rw [second.evictions, first.evictions, Inbox.sent_append]

/-- To drop a connection record leaves all else alone but who is told. -/
theorem unregister_parts (r : Relay) (id : ConnectionId) :
    (r.unregister id).hub = (r.hub.unregister id).2 ∧ (r.unregister id).registry = r.registry ∧
      (r.unregister id).registryLock = r.registryLock ∧
      (r.unregister id).evictions = r.evictions
  := by
  unfold unregister
  dsimp only
  split
  next => split <;> exact ⟨rfl, rfl, rfl, rfl⟩
  next => exact ⟨rfl, rfl, rfl, rfl⟩

/-- What a fold of reports adds to the channel of evictions. -/
theorem evictions_foldl_reports (r : Relay) (evicted : List ConnectionId) :
    (evicted.foldl (fun r id =>
      let r := if r.evictions.hasReader then
        { r with evictions := { r.evictions with items := r.evictions.items ++ [id] } } else r
      (r.raise .evicted).raise (.gone id)) r).evictions = r.evictions.sent evicted
  := by
  induction evicted generalizing r with
  | nil => exact r.evictions.sent_nil.symm
  | cons id evicted ih =>
    rw [List.foldl_cons, ih]
    apply Eq.trans _ (r.evictions.sent_append [id] evicted).symm
    apply congrArg (Inbox.sent · evicted)
    unfold Inbox.sent
    dsimp only
    split <;> rfl

theorem evicts_deliver (r : Relay) (target : Target) (note : Rpc.Notification) :
    Evicts (r.deliver target note).1 r (r.deliver target note).2
  := by
  have others : (fun r : Relay => (r.hub, r.registry, r.registryLock)) (r.deliver target note).2 =
      ((r.hub.deliver target note).hub, r.registry, r.registryLock)
    := by
    dsimp only [deliver]
    apply (foldl_keeps (fun r => (r.hub, r.registry, r.registryLock)) _ _ _).trans
    · apply (foldl_keeps (fun r => (r.hub, r.registry, r.registryLock)) _ _ _).trans
      · apply (foldl_keeps (fun r => (r.hub, r.registry, r.registryLock)) _ _ _).trans rfl
        intro r id
        rfl
      · intro r published
        rfl
    · intro r id
      split <;> rfl
  obtain ⟨hub, others⟩ := Prod.mk.inj others
  obtain ⟨registry, registryLock⟩ := Prod.mk.inj others
  obtain ⟨ids, auth⟩ := Hub.ids_auth_deliver r.hub target note
  constructor
  · intro id
    rw [hub]
    apply Hub.get?_connections_deliver
  · rw [hub, ids]
  · rw [hub, auth]
  · apply registry
  · apply registryLock
  · apply (evictions_foldl_reports _ _).trans
    apply congrArg (Inbox.sent · _)
    apply (foldl_keeps Relay.evictions _ _ _).trans
    · apply (foldl_keeps Relay.evictions _ _ _).trans rfl
      intro r id
      rfl
    · intro r published
      rfl

theorem exists_evicts_carriedOut (r : Relay) (scheduler : Scheduler)
    (effects : List SchedulerEffect) :
    ∃ evicted, Evicts evicted r (effects.foldl carryOut { r with scheduler })
  := by
  have each (r : Relay) (effect : SchedulerEffect) : ∃ evicted, Evicts evicted r (r.carryOut effect)
    := by
    cases effect with
    | announce event => exact ⟨_, r.evicts_deliver _ _⟩
    | _ => exact ⟨[], evicts_of_same rfl rfl rfl rfl⟩
  have all (effects : List SchedulerEffect) (start : Relay) :
      ∃ evicted, Evicts evicted start (effects.foldl carryOut start)
    := by
    induction effects generalizing start with
    | nil => exact ⟨[], evicts_of_same rfl rfl rfl rfl⟩
    | cons effect effects ih =>
      obtain ⟨evicted, first⟩ := each start effect
      obtain ⟨more, others⟩ := ih (start.carryOut effect)
      exact ⟨evicted ++ more, first.trans others⟩
  obtain ⟨evicted, evicts⟩ := all effects { r with scheduler }
  have begun : Evicts [] r { r with scheduler } := evicts_of_same rfl rfl rfl rfl
  exact ⟨_, begun.trans evicts⟩

end

end ControlRelay.Relay
