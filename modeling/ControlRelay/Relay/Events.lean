import ControlRelay.Relay.Requests

/-!
# Control events

The event loop handles what the control process reports, one event after another: it finishes
every delivery for a push before it looks at the next, so each client hears of the pushes in the
order of the wire.  It also drops the interest of connections that were evicted, and tries a
subscription that failed again from time to time.
-/

namespace ControlRelay.Action

open Program

/-- What clients are told about a state of the control process. -/
def stateNotification? (status : ControlStatus) : Option Rpc.Notification :=
  match status.state with
  | .ready => some .controlReady
  | .shutdown => some (.controlShutdown status.toJson)
  | .errored => some (.controlShutdown status.toJson)
  | .disconnected => some .controlDisconnected
  | .starting => none

/-- The parameters with which a push is passed on. -/
def passedOnParams : Json → List Json
  | .null => []
  | .array items => items
  | other => [other]

/-- Hands one part of a push to the subscriber it is for. -/
def handPart (eventtime : Float) : Subscriber × Fields → Action Unit
  | (.connection id, part) => deliver (.connection id) (.statusUpdate part eventtime)
  | (.scheduler, part) => scheduleStep (·.statusChanged part)

/-- Handles an event. -/
def handleEvent : ControlEvent → Action Unit
  | .connected _ => pure ()
  | .stateChanged status => do
    registryControlChanged status
    scheduleStep (·.controlChanged status)
    match stateNotification? status with
    | some note => deliver .all note
    | none => pure ()
  | .status status eventtime => do
    let parts ← pushStatus status eventtime
    parts.forM (handPart eventtime)
  | .gcodeResponse text => deliver .all (.gcodeResponse text)
  | .other method params => deliver .all ⟨method, passedOnParams params⟩

/-- What the event loop does next. -/
inductive EventTurn where
  | event (event : ControlEvent)
  | evicted (id : ConnectionId)
  /-- It is time to try again; so it will be at `next`. -/
  | tick (isOn : Bool) (next : Nat)
  | closed
  | idle

/-- The time of the tick after the one at `tick`: a period later, counted from now if that tick
comes late. -/
def nextTick (period tick now : Nat) : Nat := if tick + 5 < now then now + period else tick + period

/-- Chooses what the event loop does next: an event, an eviction, or the tick. -/
def chooseTurn (s : EventService) (tick : Nat) (r : Relay) : Relay × EventTurn :=
  match r.events.items, r.evictions.items with
  | event :: items, _ => ({ r with events := { r.events with items } }, .event event)
  | [], evictions =>
    if !r.events.hasSender then (r, .closed)
    else
      match evictions, s.readsEvictions with
      | id :: items, true => ({ r with evictions := { r.evictions with items } }, .evicted id)
      | _, _ =>
        if tick ≤ r.clock then (r, .tick (r.isRunning s.switch) (nextTick s.period tick r.clock))
        else (r, .idle)

/-- The relay after the end of the event loop: nobody reads the events any more. -/
def eventsEnded (s : EventService) (r : Relay) : Relay :=
  let r := { r with events := { r.events with items := [], hasReader := false } }
  let r := if s.readsEvictions then
    { r with evictions := { r.evictions with items := [], hasReader := false } } else r
  r.finish s.service (.ok ())

/-- One turn of the event loop, with the next tick due at `tick`. -/
def eventLoop (s : EventService) (tick : Nat) : Action (Option Routine) := do
  match ← atomically (chooseTurn s tick) with
  | .event event => do
    handleEvent event
    pure (some (.eventLoop s tick))
  | .evicted id => do
    let _ ← removeSubscriber (.connection id)
    pure (some (.eventLoop s tick))
  | .tick true next => do
    let _ ← resync
    pure (some (.eventLoop s next))
  | .tick false _ => do
    update (eventsEnded s)
    pure none
  | .closed => do
    update (eventsEnded s)
    pure none
  | .idle => do
    await [.events, .evicted] (some tick)
    pure (some (.eventLoop s tick))

/-- Starts to handle events, with `period` milliseconds between two ticks.  Whoever comes first
reads the evictions.  Without a period there is nothing to do. -/
def runEvents (service : Nat) (switch : Switch) (period : Nat) : Action (Option Routine) := do
  let (now, readsEvictions) ← atomically fun r =>
    ({ r with evictionsTaken := true }, r.clock, !r.evictionsTaken)
  let s : EventService := { service, switch, period, readsEvictions }
  if period = 0 then
    update (eventsEnded s)
    pure none
  else pure (some (.eventLoop s now))

end ControlRelay.Action
