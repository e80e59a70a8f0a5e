import ControlRelay.Proofs.Link.Meaning

/-!
# How a link comes to be disconnected

The state `disconnected` is the relay's own, for the time without a connection, but its name is read
like any other.  So a link is disconnected by the loss of its connection, and by a frame that tells
this name where it tells a state.
-/

namespace ControlRelay

/-- A state is read by its name. -/
theorem Control.exists_stateOfParams_disconnected_iff {params : Json} :
    (∃ status, Control.stateOfParams params = .ok status ∧ status.state = .disconnected) ↔
      params.getString? "state" = some "disconnected"
  := by
  rw [Json.getString?, Json.bind_string?_eq_some_iff]
  constructor
  · rintro ⟨status, read, same⟩
    obtain ⟨name, named, known⟩ := (stateOfParams_eq_ok_iff.1 read).state
    rw [same] at known
    cases known
    apply named
  · intro named
    have held : ControlStatus.In params ⟨.disconnected, _⟩ :=
      ⟨⟨_, named, .disconnected⟩, Json.isText_iff.2 rfl⟩
    exact ⟨_, stateOfParams_eq_ok_iff.2 held, rfl⟩

namespace Link.System

section

variable {sys : System}

/-- A frame that tells a state by which the link is disconnected. -/
def TellsDisconnected (sys : System) (frame : Frame) : Prop :=
  ∃ params, sys.stateIn? frame = some params ∧ params.getString? "state" = some "disconnected"

/-- The event is the loss of the connection that is attached. -/
def Loses (sys : System) : Event → Prop
  | .lost generation => sys.link.writer ≠ none ∧ generation = sys.link.generation
  | _ => False

/-- With the event a change to `disconnected` is reported. -/
def ReportsDisconnected (sys : System) (event : Event) : Prop :=
  ∃ status, .stateChanged status ∈ sys.reports event ∧ status.state = .disconnected

theorem tellsDisconnected_iff {frame : Frame} :
    sys.TellsDisconnected frame ↔
      ∃ status, sys.told? (.received (.ok frame)) = some status ∧ status.state = .disconnected
  := by
  rw [told?_received_ok, TellsDisconnected]
  cases sys.stateIn? frame with
  | none =>
    constructor
    · rintro ⟨params, ⟨⟩, -⟩
    · rintro ⟨status, ⟨⟩, -⟩
  | some params =>
    have read := @Control.exists_stateOfParams_disconnected_iff params
    constructor
    · rintro ⟨_, ⟨⟩, named⟩
      obtain ⟨status, ok, same⟩ := read.2 named
      use status, by rw [Option.bind_some, ok]; rfl
    · rintro ⟨status, told, same⟩
      use params, rfl
      apply read.1
      use status
      cases ok : Control.stateOfParams params with
      | error reason =>
        rw [Option.bind_some, ok] at told
        cases told
      | ok other =>
        rw [Option.bind_some, ok] at told
        cases told
        use rfl

/-- Such a change is reported for a status that is told, if it is one. -/
theorem Matched.reportsDisconnected_iff (matched : Matched sys) (event : Event) :
    sys.ReportsDisconnected event ↔
      sys.link.status.state ≠ .disconnected ∧
        ∃ status, sys.told? event = some status ∧ status.state = .disconnected
  := by
  constructor
  · rintro ⟨status, mem, same⟩
    obtain ⟨tells, differs⟩ := matched.stateChanged_mem_reports_iff.1 mem
    rw [same] at differs
    use differs, status, told?_eq_some_iff.2 tells
  · rintro ⟨differs, status, told, same⟩
    rw [← same] at differs
    use status, matched.stateChanged_mem_reports_iff.2 ⟨told?_eq_some_iff.1 told, differs⟩

/-- An event that tells `disconnected` is the loss of the connection, or a frame. -/
theorem loses_or_tellsDisconnected {event : Event} {status : ControlStatus}
    (told : sys.told? event = some status) (same : status.state = .disconnected) :
    sys.Loses event ∨ ∃ frame, event = .received (.ok frame) ∧ sys.TellsDisconnected frame
  := by
  cases event with
  | lost generation =>
    left
    obtain ⟨current, -⟩ := Option.ite_none_right_eq_some.1 told
    simpa [Loses, Option.isSome_iff_ne_none] using current
  | received frame =>
    right
    cases frame with
    | error => cases told
    | ok frame =>
      use frame, rfl
      apply tellsDisconnected_iff.2
      use status
  | _ => cases told

/-- For every run: changes to `disconnected` are reported by nothing but the loss of the connection,
and no frame leads from another state to this one while a connection is attached, exactly if no
frame of the run names `disconnected` where it tells a state while the link is in another state. -/
theorem disconnected_by_loss_iff (events : List Event) :
    ((∀ earlier event, earlier ++ [event] <+: events →
        (after earlier).ReportsDisconnected event → (after earlier).Loses event) ∧
      ∀ earlier frame, earlier ++ [.received frame] <+: events →
        (after earlier).link.writer ≠ none →
        (after earlier).link.status.state ≠ .disconnected →
        (after (earlier ++ [.received frame])).link.status.state ≠ .disconnected) ↔
      ∀ earlier frame, earlier ++ [.received (.ok frame)] <+: events →
        (after earlier).link.status.state ≠ .disconnected →
        ¬(after earlier).TellsDisconnected frame
  := by
  constructor
  · rintro ⟨by_loss, -⟩ earlier frame run differs tells
    apply by_loss earlier (.received (.ok frame)) run
    apply ((matched_after earlier).reportsDisconnected_iff _).2
    exact ⟨differs, tellsDisconnected_iff.1 tells⟩
  · intro untold
    constructor
    · intro earlier event run reports
      obtain ⟨differs, status, told, same⟩ :=
        ((matched_after earlier).reportsDisconnected_iff event).1 reports
      obtain loses | ⟨frame, rfl, tells⟩ := loses_or_tellsDisconnected told same
      · apply loses
      · cases untold earlier frame run differs tells
    · intro earlier frame run _ differs
      have status := ((matched_after earlier).hears (.received frame)).status
      rw [after_concat, status]
      cases told : (after earlier).told? (.received frame) with
      | none => apply differs
      | some status =>
        intro same
        obtain loses | ⟨frame, is_frame, tells⟩ := loses_or_tellsDisconnected told same
        · apply loses
        · rw [is_frame] at run
          apply untold earlier frame run differs tells

end

/-- A push of a state. -/
def statePush (name : String) : Frame :=
  SortedMap.ofList
    [("method", .string "state_changed"), ("params", .ofMembers [("state", .string name)])]

/-- A connection is made, and the control process is ready. -/
def becomesReady : List Event := [.attached 0, .received (.ok (statePush "ready"))]

/-- A push that names the state disconnects the link, while its connection stays attached. -/
theorem disconnected_while_attached :
    let ready := after becomesReady
    let event := Event.received (.ok (statePush "disconnected"))
    let now := ready.next event
    ready.link.status.state = .ready ∧ ready.ReportsDisconnected event ∧ ¬ready.Loses event ∧
      now.link.status.state = .disconnected ∧ now.link.writer = some 0 ∧
      now.link.generation = ready.link.generation
  := by
  intro ready event now
  and_intros
  · rfl
  · apply ((matched_after becomesReady).reportsDisconnected_iff event).2
    exact ⟨nofun, ⟨.disconnected, ""⟩, rfl, rfl⟩
  · apply not_false
  · rfl
  · rfl
  · rfl

end Link.System

end ControlRelay
