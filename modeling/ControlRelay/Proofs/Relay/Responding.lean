import ControlRelay.Proofs.Json.ReadingBack
import ControlRelay.Proofs.Process.Recording
import ControlRelay.Proofs.Relay.Bystanders
import ControlRelay.Proofs.Rpc.Reading

/-!
# How texts are answered

Whatever text a client hands in, by whatever transport, and whatever the other processes do
meanwhile, it comes to one response or to none.  There is none exactly if the text is a request
without an id.  The response carries the id of the request, with one exception: a request of
another version, written as an array, is refused without it.
-/

namespace ControlRelay

open Program
open Rpc (Holds proper? refusal)

namespace Rpc

/-! ### Responses -/

/-- A response has a result or an error, not both, and it carries its id. -/
theorem Response.members_toText (response : Response) :
    ∃ name ∈ ["result", "error"], ∃ content,
      response.toText.members =
        [("jsonrpc", .string version), (name, content), ("id", response.id)]
  := by
  obtain ⟨outcome, id⟩ := response
  cases outcome with
  | ok result => exact ⟨"result", by decide, result, rfl⟩
  | error e => exact ⟨"error", by decide, .object e.members, rfl⟩

/-- The response as a value has the members of its text, in another order. -/
theorem Response.perm_toJson (response : Response) :
    ∃ members, response.toJson = .object members ∧ members.Perm response.toText.members
  := by
  obtain ⟨outcome, id⟩ := response
  refine ⟨_, ?_, SortedMap.perm_ofList ?_⟩
  · cases outcome with
    | ok result => rfl
    | error e =>
      have names : ["code", "message"].Pairwise (· < ·) := by decide
      have ordered : Entries.Ordered e.members := (List.pairwise_map (f := Prod.fst)).1 names
      have same : Json.ofMembers e.members = .object e.members :=
        congrArg Json.object (SortedMap.entries_ofList_of_ordered ordered)
      exact congrArg (fun error => Json.ofMembers [_, ("error", error), _]) same
  · cases outcome with
    | ok result => exact (by decide : ["jsonrpc", "result", "id"].Nodup)
    | error e => exact (by decide : ["jsonrpc", "error", "id"].Nodup)

/-- What a text is answered with. -/
structure Answers (text : String) (response : Option Response) : Prop where
  none_iff : response = none ↔ ∃ v method params id,
    Json.parse text = .ok v ∧ Holds v version method params id ∧ id.bind proper? = none
  identified : ∀ v jsonrpc method params i, Json.parse text = .ok v →
    Holds v jsonrpc method params (some i) → i ≠ .null →
    ∃ answer, response = some answer ∧ (answer.id = i ↔ jsonrpc = version ∨ v.items? = none)
  otherVersion : ∀ v jsonrpc method params id, Json.parse text = .ok v →
    Holds v jsonrpc method params id → jsonrpc ≠ version →
    response = some (refusal v "jsonrpc must be \"2.0\"")
  unread : (∀ v jsonrpc method params id, Json.parse text = .ok v →
    ¬ Holds v jsonrpc method params id) → ∃ answer, response = some answer ∧ answer.isError = true

/-- An object has the id under its name, an array has nothing under that name. -/
theorem Holds.recovered {v : Json} {jsonrpc method : String} {params id : Option Json}
    (holds : Holds v jsonrpc method params id) :
    (v.get? "id" = id ∧ v.items? = none) ∨ (v.get? "id" = none ∧ v.items? ≠ none)
  := by
  cases holds with
  | named => exact .inl ⟨rfl, rfl⟩
  | positional => exact .inr ⟨rfl, nofun⟩

theorem parseRequest_of_parse {text : String} {v : Json} (parsed : Json.parse text = .ok v) :
    parseRequest text = requestOfJson v
  := by
  rw [parseRequest, parsed]

/-- A response, or none, that follows what was read of the text. -/
inductive Follows : Except Response Request → Option Response → Prop where
  | refused (refusal : Response) : Follows (.error refusal) (some refusal)
  | unasked {method : String} {params : Json} : Follows (.ok ⟨method, params, none⟩) none
  | answered {method : String} {params : Json} (answer : Response) :
      Follows (.ok ⟨method, params, some answer.id⟩) (some answer)

/-- A response that follows what was read answers the text. -/
theorem answers_of_follows {text : String} {response : Option Response}
    (follows : Follows (parseRequest text) response) :
    Answers text response
  := by
  -- what was read of a text that holds a request
  have read {v : Json} {jsonrpc method : String} {params id : Option Json}
      (parsed : Json.parse text = .ok v) (holds : Holds v jsonrpc method params id) :
      Follows (if jsonrpc = version then .ok ⟨method, params.getD .null, id.bind proper?⟩
        else .error (refusal v "jsonrpc must be \"2.0\"")) response
    := by
    rw [← requestOfJson_of_holds (Json.ordered_of_parse parsed) holds, ← parseRequest_of_parse parsed]
    exact follows
  have unread (empty : ∀ v jsonrpc method params id, Json.parse text = .ok v →
      ¬ Holds v jsonrpc method params id) :
      ∃ answer, response = some answer ∧ answer.isError = true
    := by
    cases parsed : Json.parse text with
    | error e =>
      rw [parseRequest, parsed] at follows
      cases follows
      exact ⟨_, rfl, rfl⟩
    | ok v =>
      obtain ⟨message, refused⟩ := requestOfJson_of_not_holds (Json.ordered_of_parse parsed)
        fun jsonrpc method params id => empty v jsonrpc method params id parsed
      rw [parseRequest_of_parse parsed, refused] at follows
      cases follows
      exact ⟨_, rfl, rfl⟩
  refine ⟨⟨?_, ?_⟩, ?_, ?_, unread⟩
  · rintro rfl
    by_contra empty
    suffices none_held : ∀ v jsonrpc method params id, Json.parse text = .ok v →
        ¬ Holds v jsonrpc method params id by
      obtain ⟨answer, answered, -⟩ := unread none_held
      cases answered
    intro v jsonrpc method params id parsed holds
    have follows := read parsed holds
    split at follows
    next same =>
      subst same
      refine empty ⟨v, method, params, id, parsed, holds, ?_⟩
      generalize id.bind proper? = asked at follows
      cases follows
      rfl
    next => cases follows
  · rintro ⟨v, method, params, id, parsed, holds, absent⟩
    have follows := read parsed holds
    rw [if_pos rfl, absent] at follows
    cases follows
    rfl
  · intro v jsonrpc method params i parsed holds proper
    have follows := read parsed holds
    split at follows
    next same =>
      have asked : (some i).bind proper? = some i := by
        cases i with
        | null => contradiction
        | _ => rfl
      rw [asked] at follows
      cases follows with
      | answered answer => exact ⟨answer, rfl, iff_of_true rfl (.inl same)⟩
    next other =>
      cases follows
      refine ⟨_, rfl, ?_⟩
      rw [or_iff_right other, refusal, Response.failure]
      obtain ⟨found, named⟩ | ⟨missing, positional⟩ := holds.recovered
      · exact iff_of_true (by rw [found, Option.getD_some]) named
      · rw [missing, Option.getD_none]
        exact iff_of_false (Ne.symm proper) positional
  · intro v jsonrpc method params id parsed holds other
    have follows := read parsed holds
    rw [if_neg other] at follows
    cases follows
    rfl

end Rpc

namespace Action

open Rpc (Answers)

variable {outside : Relay → Relay → Prop} {r : Relay}

/-- A request comes to a response exactly if it has an id, and the response carries that. -/
theorem follows_submit (who : ConnectionId) (request : Rpc.Request) :
    Program.Ensures outside r (submit who request) fun _ _ response =>
      Rpc.Follows (.ok request) response
  := by
  obtain ⟨method, params, id⟩ := request
  have spares : Spares who (dispatch who method params) := spares_dispatch who method params
  apply Ensures.bind
  apply (Ensures.of_keeps spares).mono
  intro _ _ outcome _
  apply Ensures.pure
  cases id with
  | none => exact .unasked
  | some id =>
    cases outcome with
    | ok result => exact .answered (.success id result)
    | error e => exact .answered (.failure id e.body)

/-- Whatever happens meanwhile, a text comes to a response, or to none, that answers it. -/
theorem ensures_submitText (who : ConnectionId) (text : String) :
    Program.Ensures outside r (submitText who text) fun _ _ response => Answers text response
  := by
  unfold submitText
  split
  next refusal refused =>
    apply Ensures.pure
    apply Rpc.answers_of_follows
    rw [refused]
    exact .refused refusal
  next request accepted =>
    apply (follows_submit who request).mono
    intro _ _ response follows
    apply Rpc.answers_of_follows
    rw [accepted]
    exact follows

/-- The response to the text of a session, if there is one, is put into the mailbox by a process
that is started for it. -/
theorem ends_receiveText (who : ConnectionId) (text : String) :
    ∃ answering : RelayProcess, receiveText who text = fork answering ∧
      ∀ (r : Relay) (deeds : List (Deed Relay Signal Routine)),
        Process.Ends outside (fun _ _ next => ∃ response, Answers text response ∧
          next = match response with
            | some answer => .enter (.reply who answer.text)
            | none => .done) deeds r answering
  := by
  refine ⟨_, rfl, fun r deeds => ?_⟩
  apply (ensures_submitText who text _ deeds).trans
  rintro _ r' _ ⟨response, _, rfl, -, answers⟩
  refine .here ⟨response, answers, ?_⟩
  cases response <;> rfl

/-- A reply waits for room, or it is put into the mailbox, or it is dropped as the session has
ended. -/
theorem ensures_reply (who : ConnectionId) (text : String) :
    Program.Ensures outside r (reply who text) fun deeds _ next => ∃ before after,
      deeds = [.stepped before after] ∧
        ((next = some (.reply who text) ∧ after = before) ∨
          (next = none ∧ (after = before ∨ ∃ m m', before.hub.mailboxes.get? who = some m ∧
            m.put? text = some m' ∧
            after.hub.mailboxes = before.hub.mailboxes.insert who m')))
  := by
  apply Ensures.bind
  apply Ensures.atomically
  intro before _
  split
  next m found =>
    split
    next => exact Ensures.pure ⟨before, _, rfl, .inr ⟨rfl, .inl rfl⟩⟩
    next =>
      split
      next m' put =>
        exact Ensures.pure ⟨before, _, rfl, .inr ⟨rfl, .inr ⟨m, m', found, put, rfl⟩⟩⟩
      next =>
        apply Ensures.bind
        apply Ensures.await
        exact Ensures.pure ⟨before, _, rfl, .inl ⟨rfl, rfl⟩⟩
  next => exact Ensures.pure ⟨before, _, rfl, .inr ⟨rfl, .inl rfl⟩⟩

/-- The response to a message under the topic of requests is published once. -/
theorem ensures_answerByTopic (s : TopicService) (who : ConnectionId) (text : String) :
    Program.Ensures outside r (answerByTopic s who text) fun deeds _ _ =>
      ∃ own response, Answers text response ∧
        match response with
        | none => deeds = own
        | some answer => ∃ before, deeds = own ++ [.stepped before (before.publish s.broker
            ⟨(TopicNames.ofInstance s.settings.instanceName).response, answer.text⟩)]
  := by
  apply Ensures.bind
  apply (ensures_submitText who text).mono
  intro own _ response answers
  cases response with
  | none => exact Ensures.pure ⟨own, none, answers, List.append_nil own⟩
  | some answer =>
    apply Ensures.update
    intro before _
    exact ⟨own, some answer, answers, before, rfl⟩

/-- The response to a text that is posted is the body of the answer. -/
theorem ensures_exchange {method target : String} {body : List UInt8} {text : String}
    (posted : httpText method target body = .ok text) :
    Program.Ensures outside r (exchange method target body) fun _ _ answer =>
      ∃ response, Answers text response ∧ answer = match response with
        | some answer => (200, some answer.toJson)
        | none => (204, none)
  := by
  unfold exchange
  rw [posted]
  dsimp only
  split
  next refusal refused =>
    apply Ensures.pure
    refine ⟨some refusal, Rpc.answers_of_follows ?_, rfl⟩
    rw [refused]
    exact .refused refusal
  next request accepted =>
    have connects : Spares 0 (connect .requestResponse .detached 0) := spares_connect _ _ _
    apply Ensures.bind
    apply (Ensures.of_keeps connects).mono
    intro _ _ who _
    apply Ensures.bind
    apply (follows_submit who request).mono
    intro _ _ response follows
    have disconnects : Spares who (disconnect who) := spares_disconnect who
    apply Ensures.bind
    apply (Ensures.of_keeps disconnects).mono
    intro _ _ _ _
    rw [← accepted] at follows
    cases response with
    | none => exact Ensures.pure ⟨none, Rpc.answers_of_follows follows, rfl⟩
    | some answer => exact Ensures.pure ⟨some answer, Rpc.answers_of_follows follows, rfl⟩

/-- What comes of a text by each of the transports, whatever happens meanwhile. -/
structure Responds (outside : Relay → Relay → Prop) (text : String) : Prop where
  /-- A session starts a process for the text.  If there is a response, the process goes on with the
  reply. -/
  session : ∀ who, ∃ answering : RelayProcess, receiveText who text = fork answering ∧
    ∀ (r : Relay) (deeds : List (Deed Relay Signal Routine)),
      Process.Ends outside (fun _ _ next => ∃ response, Answers text response ∧
        next = match response with
          | some answer => .enter (.reply who answer.text)
          | none => .done) deeds r answering
  /-- The reply waits, or it is put into the mailbox once, unless the session has ended. -/
  replied : ∀ (r : Relay) who, Program.Ensures outside r (reply who text) fun deeds _ next =>
    ∃ before after, deeds = [.stepped before after] ∧
      ((next = some (.reply who text) ∧ after = before) ∨
        (next = none ∧ (after = before ∨ ∃ m m', before.hub.mailboxes.get? who = some m ∧
          m.put? text = some m' ∧
          after.hub.mailboxes = before.hub.mailboxes.insert who m')))
  /-- If there is a response to a message under the topic of requests, it is published. -/
  published : ∀ (r : Relay) (s : TopicService) who,
    Program.Ensures outside r (answerByTopic s who text) fun deeds _ _ =>
      ∃ own response, Answers text response ∧
        match response with
        | none => deeds = own
        | some answer => ∃ before, deeds = own ++ [.stepped before (before.publish s.broker
            ⟨(TopicNames.ofInstance s.settings.instanceName).response, answer.text⟩)]
  /-- If there is a response to a text that is posted, it is the body of the answer. -/
  posted : ∀ (r : Relay) method target body, httpText method target body = .ok text →
    Program.Ensures outside r (exchange method target body) fun _ _ answer =>
      ∃ response, Answers text response ∧ answer = match response with
        | some answer => (200, some answer.toJson)
        | none => (204, none)

/-- By every transport a text comes to at most one response, and to just one if it is a request with
an id.  The response carries the id, unless the request is an array of another version.  Every
response has a result or an error, not both. -/
theorem texts_answered (outside : Relay → Relay → Prop) (text : String) :
    Responds outside text ∧
      ∀ response : Rpc.Response, ∃ name ∈ ["result", "error"], ∃ content members,
        response.toText.members =
          [("jsonrpc", .string Rpc.version), (name, content), ("id", response.id)] ∧
        response.toJson = .object members ∧ members.Perm response.toText.members
  := by
  refine ⟨⟨?_, ?_, ?_, ?_⟩, fun response => ?_⟩
  · exact fun who => ends_receiveText who text
  · exact fun r who => ensures_reply who text
  · exact fun r s who => ensures_answerByTopic s who text
  · exact fun r method target body posted => ensures_exchange posted
  · obtain ⟨name, mem, content, written⟩ := response.members_toText
    obtain ⟨members, same, perm⟩ := response.perm_toJson
    exact ⟨name, mem, content, members, written, same, perm⟩

/-- A request of another version that is written as an array is answered without its id. -/
theorem response_unidentified_positional :
    (∃ v, Json.parse "[\"1.0\",\"m\",null,7]" = .ok v ∧
      Holds v "1.0" "m" (some .null) (some (.ofNat 7))) ∧
      ∀ (r : Relay) (who : ConnectionId),
        Program.Ensures (fun _ _ => True) r (submitText who "[\"1.0\",\"m\",null,7]")
          fun _ _ response => ∃ answer, response = some answer ∧ answer.id = .null ∧
            answer.id ≠ .ofNat 7
  := by
  have canonical : (Json.array [.string "1.0", .string "m", .null, .ofNat 7]).Canonical :=
    ⟨trivial, trivial, trivial, trivial, trivial⟩
  have integral : (Json.array [.string "1.0", .string "m", .null, .ofNat 7]).Integral :=
    ⟨trivial, trivial, trivial, ⟨by decide, by decide⟩, trivial⟩
  have parsed := Json.parse_text canonical integral (by decide)
  have short : [Json.null, .ofNat 7].length ≤ 2 := by decide
  have holds : Holds (.array [.string "1.0", .string "m", .null, .ofNat 7]) "1.0" "m"
      (some .null) (some (.ofNat 7)) := .positional short
  refine ⟨⟨_, parsed, holds⟩, fun r who => ?_⟩
  apply (ensures_submitText who _).mono
  intro _ _ response answers
  have refused := answers.otherVersion _ _ _ _ _ parsed holds (by decide)
  exact ⟨_, refused, rfl, nofun⟩

end Action

end ControlRelay
