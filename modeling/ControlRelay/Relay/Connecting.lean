import ControlRelay.Relay.Action

/-!
# Connecting to the control process

A wire that is attached to the link is served by two processes: one writes the frames of calls,
the other reads and hands every frame to the link until the wire ends.  The link service makes
the connection to the socket of the control process and makes it again after every loss.
-/

namespace ControlRelay.Action

open Program

/-- Milliseconds after which a service looks whether it was switched off. -/
def pollInterval : Nat := 200

/-- What the process that writes does next. -/
inductive WriteTurn where
  | wrote
  | idle
  | ended

/-- Writes a frame, or ends the writing: when the other end takes nothing, or when frames are
not sent on this wire any more and all are written. -/
def writeStep (k : Nat) (r : Relay) : Relay × WriteTurn :=
  let w := r.wire k
  let stopped := r.onWire k fun w => { w with isWritten := false, queue := [] }
  match w.writeNext? with
  | some w => (r.onWire k fun _ => w, .wrote)
  | none =>
    if w.queue.isEmpty && r.link.writer = some k then (r, .idle)
    else (stopped, .ended)

/-- One turn of the process that writes. -/
def wireWriter (k : Nat) : Action (Option Routine) := do
  match ← atomically (writeStep k) with
  | .wrote => pure (some (.wireWriter k))
  | .ended => pure none
  | .idle => do
    await [.queued k]
    pure (some (.wireWriter k))

/-- What the process that reads does next. -/
inductive ReadTurn where
  | progressed
  | idle
  | ended

/-- Hands the next frame to the link, or reads more, or takes in the end of the wire. -/
def readStep (k : Nat) (r : Relay) : Relay × ReadTurn :=
  let w := r.wire k
  if !w.isRead then (r, .ended)
  else
    match w.decoder.next with
    | (some result, decoder) =>
      ((r.onWire k fun w => { w with decoder }).onLink (·.receiveFrame result), .progressed)
    | (none, decoder) =>
      if !w.incoming.isEmpty then (r.onWire k fun w => { w with decoder }.readChunk, .progressed)
      else if w.isEnded then
        let r := r.onLink (·.lose w.generation)
        ((r.onWire k fun w => { w with isRead := false }).raise (.unread k), .ended)
      else (r.onWire k fun w => { w with decoder }, .idle)

/-- One turn of the process that reads. -/
def wireReader (k : Nat) : Action (Option Routine) := do
  match ← atomically (readStep k) with
  | .progressed => pure (some (.wireReader k))
  | .ended => pure none
  | .idle => do
    await [.arrived k]
    pure (some (.wireReader k))

/-- Asks the control process for its state. -/
def refreshStatus : Action (Except LinkError ControlStatus) := do
  let timeout ← inspect (·.callTimeout)
  match ← callLink ⟨Control.infoMethod, .ofMembers []⟩ timeout with
  | .error e => pure (.error e)
  | .ok result =>
    match Control.stateOfParams result with
    | .ok status => pure (.ok status)
    | .error reason => pure (.error (.protocol (.malformed 0 reason)))

/-- Attaches a wire to the link and asks for the state of the control process. -/
def attach (k : Nat) : Action Unit := do
  update fun r =>
    let generation := r.link.generation
    (r.onWire k fun w => { w with generation, isRead := true, isWritten := true }).onLink
      (·.attach k)
  launch (.wireWriter k)
  launch (.wireReader k)
  fork (process do
    let _ ← refreshStatus)

/-- A new wire to the socket of the control process, if it listens. -/
def openSocket (r : Relay) : Relay × Option Nat :=
  if r.isListening then
    let k := r.wires.length
    ({ r with wires := r.wires ++ [{}], backlog := r.backlog ++ [k] }, some k)
  else (r, none)

/-- Waits before the next attempt to connect. -/
def pauseLink (s : LinkService) : Action (Option Routine) := do
  let now ← inspect (·.clock)
  await [] (some (now + s.pause))
  pure (some (.linkLoop s))

/-- Makes a connection, unless the service is switched off. -/
def linkLoop (s : LinkService) : Action (Option Routine) := do
  if ← inspect (·.isRunning s.switch) then
    match ← atomically openSocket with
    | some k => do
      attach k
      pure (some (.linkWatch s k))
    | none => pauseLink s
  else
    update (·.finish s.service (.ok ()))
    pure none

/-- The relay after the connection on a wire was given up. -/
def abandonWire (k : Nat) (r : Relay) : Relay :=
  let r := (r.onWire k fun w => { w with isRead := false }).raise (.arrived k)
  r.onLink fun link => link.lose link.generation

/-- Waits for the end of a connection, or until the service is switched off. -/
def linkWatch (s : LinkService) (k : Nat) : Action (Option Routine) := do
  let (isRead, now) ← inspect fun r => ((r.wire k).isRead, r.clock)
  if !isRead then pauseLink s
  else
    await [.unread k] (some (now + pollInterval))
    let (isRead, isOn) ← inspect fun r => ((r.wire k).isRead, r.isRunning s.switch)
    if !isRead || isOn then pure (some (.linkWatch s k))
    else
      update fun r => (abandonWire k r).finish s.service (.ok ())
      pure none

end ControlRelay.Action
