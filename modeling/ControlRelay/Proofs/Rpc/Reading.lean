import ControlRelay.Proofs.SortedMap
import ControlRelay.Rpc.Message
import Mathlib.Tactic.Common

/-!
# Which texts are requests

A request stands in a JSON value as an object that names its members, or as an array that has them
in their order.  The relay reads a request from just these values.  It looks for the id of a request
that it refuses among the members of an object, so it finds none in an array.
-/

namespace ControlRelay

namespace Json

/-! ### Objects that are read -/

/-- Only arrays are read after an opening bracket. -/
theorem exists_of_readItems {fuel depth : Nat} {first : Bool} {acc : List Json}
    {s rest : List UInt8} {v : Json} (read : readItems fuel depth first acc s = .ok (v, rest)) :
    ∃ items, v = array items
  := by
  induction fuel generalizing first acc s with
  | zero =>
    rw [readItems] at read
    cases read
  | succ fuel ih =>
    rw [readItems] at read
    dsimp only at read
    repeat' split at read
    any_goals cases read
    · exact ⟨acc.reverse, rfl⟩
    · exact ih read

/-- The members that are read after an opening brace are in the order of their names. -/
theorem exists_of_readMembers {fuel depth : Nat} {first : Bool} {acc : List (String × Json)}
    {s rest : List UInt8} {v : Json} (ordered : Entries.Ordered acc)
    (read : readMembers fuel depth first acc s = .ok (v, rest)) :
    ∃ members, v = object members ∧ Entries.Ordered members
  := by
  induction fuel generalizing first acc s with
  | zero =>
    rw [readMembers] at read
    cases read
  | succ fuel ih =>
    rw [readMembers] at read
    dsimp only at read
    repeat' split at read
    any_goals cases read
    · exact ⟨acc, rfl, ordered⟩
    · exact ih (Entries.ordered_insert ordered _ _) read

theorem exists_of_map_eq_ok {ε α β : Type} {read : Except ε α} {f : α → β} {b : β}
    (given : read.map f = .ok b) :
    ∃ a, read = .ok a ∧ f a = b
  := by
  cases read with
  | error e => cases given
  | ok a => exact ⟨a, rfl, Except.ok.inj given⟩

theorem ordered_of_readValue {fuel depth : Nat} {s rest : List UInt8}
    {members : List (String × Json)}
    (read : readValue fuel depth s = .ok (object members, rest)) :
    Entries.Ordered members
  := by
  cases fuel with
  | zero =>
    rw [readValue] at read
    cases read
  | succ fuel =>
    rw [readValue] at read
    dsimp only at read
    repeat' split at read
    any_goals cases read
    · obtain ⟨_, ⟨⟩, ordered⟩ := exists_of_readMembers List.Pairwise.nil read
      exact ordered
    · obtain ⟨_, ⟨⟩⟩ := exists_of_readItems read
    -- names and numbers are no objects
    all_goals
      obtain ⟨_, _, same⟩ := exists_of_map_eq_ok read
      cases same

/-- The members of an object that a text holds are in the order of their names. -/
theorem ordered_of_parse {text : String} {v : Json} (parsed : parse text = .ok v)
    (members : List (String × Json)) (same : v = object members) :
    Entries.Ordered members
  := by
  subst same
  unfold parse read readBytes at parsed
  split at parsed
  next whole =>
    split at whole
    next => cases whole
    next found =>
      cases parsed
      split at whole
      next =>
        cases whole
        exact ordered_of_readValue found
      next => cases whole
  next => cases parsed

namespace Shape

/-! ### Records -/

variable {name : String} {members : List Member} {values : List (Option Json)}

/-- What the members of an object make of a record that asks for `members`. -/
def memberValues (members : List Member) (entries : List (String × Json)) :
    Except ShapeError (List (Option Json)) :=
  members.mapM fun m =>
    match Entries.get? m.name entries with
    | some value => .ok (some value)
    | none => if m.absence = .refused then .error (.missingField m.name) else .ok none

/-- Whether every member of an object may stand in a record. -/
def Suits (members : List Member) (entries : List (String × Json)) : Prop :=
  ∀ entry ∈ entries, ∀ m, members.find? (·.name = entry.1) = some m → m.check entry.2 = .ok ()

theorem suits_cons_iff {entry : String × Json} {entries : List (String × Json)} :
    Suits members (entry :: entries) ↔
      (∀ m, members.find? (·.name = entry.1) = some m → m.check entry.2 = .ok ()) ∧
        Suits members entries
  := List.forall_mem_cons

/-- The members of an object are checked one after the other, and then what is left is done. -/
theorem check_eq_ok_iff {α : Type} {entries : List (String × Json)} {after : Except ShapeError α}
    {a : α} :
    (do
      for (key, value) in entries do
        match members.find? (·.name = key) with
        | some m => m.check value
        | none => pure ()
      after : Except ShapeError α) = .ok a ↔ Suits members entries ∧ after = .ok a
  := by
  induction entries with
  | nil => exact (and_iff_right nofun).symm
  | cons entry entries ih =>
    obtain ⟨key, value⟩ := entry
    rw [suits_cons_iff, and_assoc, List.forIn_cons]
    cases found : members.find? fun m : Member => m.name = key with
    | none =>
      rw [and_iff_right nofun]
      simp only [found]
      exact ih
    | some m =>
      cases checked : m.check value with
      | error e =>
        simp only [found, checked]
        refine iff_of_false nofun fun ⟨passes, _⟩ => ?_
        cases checked.symm.trans (passes m rfl)
      | ok =>
        simp only [found, checked]
        rw [and_iff_right (by rintro _ ⟨⟩; exact checked)]
        exact ih

theorem record_object_eq_ok_iff {entries : List (String × Json)} :
    record name members (.object entries) = .ok values ↔
      Suits members entries ∧ memberValues members entries = .ok values
  := check_eq_ok_iff

/-- The values of a record in an array are the items, as far as these go. -/
theorem values_of_recordItems {expected : String} {index : Nat} {items : List Json}
    (read : recordItems expected members index items = .ok (values, [])) :
    items.length ≤ members.length ∧ ∀ n : Nat, values[n]?.getD none = items[n]?
  := by
  induction members generalizing index items values with
  | nil =>
    cases read
    exact ⟨Nat.le_refl 0, fun _ => rfl⟩
  | cons m members ih =>
    cases items with
    | nil =>
      rw [recordItems] at read
      split at read
      next =>
        obtain ⟨⟨values, rest⟩, found, same⟩ := exists_of_map_eq_ok read
        cases same
        use Nat.zero_le _
        intro n
        cases n with
        | zero => rfl
        | succ n => exact (ih found).2 n
      next => cases read
    | cons v items =>
      rw [recordItems] at read
      split at read
      next => cases read
      next =>
        obtain ⟨⟨values, rest⟩, found, same⟩ := exists_of_map_eq_ok read
        cases same
        obtain ⟨short, values_eq⟩ := ih found
        use Nat.succ_le_succ short
        intro n
        cases n with
        | zero => rfl
        | succ n => exact values_eq n

theorem values_of_record_array {items : List Json}
    (read : record name members (.array items) = .ok values) :
    items.length ≤ members.length ∧ ∀ n : Nat, values[n]?.getD none = items[n]?
  := by
  unfold record at read
  dsimp only at read
  split at read
  next => cases read
  next found =>
    cases read
    exact values_of_recordItems found
  next => cases read

end Shape

end Json

namespace Rpc

open Json (Shape)

/-- The members of a request in the order of their declaration. -/
def requestMembers : List Shape.Member :=
  [.of "jsonrpc" Shape.string .refused, .of "method" Shape.string .refused,
    .of "params" Shape.any .defaulted, .of "id" Shape.any .defaulted]

/-- A JSON value holds a request: its version, its method, and its parameters and its id, which may
be left out. -/
inductive Holds : Json → String → String → Option Json → Option Json → Prop where
  /-- By the names of the members. -/
  | named {members : List (String × Json)} {jsonrpc method : String}
      (versioned : Entries.get? "jsonrpc" members = some (.string jsonrpc))
      (called : Entries.get? "method" members = some (.string method)) :
      Holds (.object members) jsonrpc method (Entries.get? "params" members)
        (Entries.get? "id" members)
  /-- By their order. -/
  | positional {jsonrpc method : String} {rest : List Json} (short : rest.length ≤ 2) :
      Holds (.array (.string jsonrpc :: .string method :: rest)) jsonrpc method rest[0]? rest[1]?

variable {v : Json} {jsonrpc method : String} {params id : Option Json}

theorem suits_request {members : List (String × Json)} (ordered : Entries.Ordered members)
    (versioned : Entries.get? "jsonrpc" members = some (.string jsonrpc))
    (called : Entries.get? "method" members = some (.string method)) :
    Shape.Suits requestMembers members
  := by
  rintro ⟨name, value⟩ mem m found
  have held := (Entries.get?_eq_some_iff ordered).2 mem
  have named : m.name = name := by simpa using List.find?_some found
  have declared := List.mem_of_find?_eq_some found
  subst named
  simp only [requestMembers, List.mem_cons, List.not_mem_nil, or_false] at declared
  rcases declared with rfl | rfl | rfl | rfl
  · cases held.symm.trans versioned
    rfl
  · cases held.symm.trans called
    rfl
  · rfl
  · rfl

theorem memberValues_request_iff {members : List (String × Json)} :
    Shape.memberValues requestMembers members =
        .ok [some (.string jsonrpc), some (.string method), params, id] ↔
      Entries.get? "jsonrpc" members = some (.string jsonrpc) ∧
        Entries.get? "method" members = some (.string method) ∧
        Entries.get? "params" members = params ∧ Entries.get? "id" members = id
  := by
  simp only [Shape.memberValues, requestMembers, Shape.Member.of, List.mapM_cons, List.mapM_nil]
  cases Entries.get? "jsonrpc" members <;> cases Entries.get? "method" members <;>
    cases Entries.get? "params" members <;> cases Entries.get? "id" members <;>
    simp [bind, Except.bind, pure, Except.pure]

theorem positional_request_iff {items : List Json} :
    Shape.record "RpcRequest" requestMembers (.array items) =
        .ok [some (.string jsonrpc), some (.string method), params, id] ↔
      ∃ rest, items = .string jsonrpc :: .string method :: rest ∧ rest.length ≤ 2 ∧
        params = rest[0]? ∧ id = rest[1]?
  := by
  constructor
  · intro read
    obtain ⟨short, values⟩ := Shape.values_of_record_array read
    match items with
    | [] => cases values 0
    | [_] => cases values 1
    | _ :: _ :: rest =>
      cases values 0
      cases values 1
      exact ⟨rest, rfl, Nat.le_of_succ_le_succ (Nat.le_of_succ_le_succ short), values 2, values 3⟩
  · rintro ⟨rest, rfl, short, rfl, rfl⟩
    match rest with
    | [] => rfl
    | [_] => rfl
    | [_, _] => rfl
    | _ :: _ :: _ :: _ => simp at short

/-- A request is read from just the values that hold one. -/
theorem record_request_iff (ordered : ∀ members, v = .object members → Entries.Ordered members) :
    Shape.record "RpcRequest" requestMembers v =
        .ok [some (.string jsonrpc), some (.string method), params, id] ↔
      Holds v jsonrpc method params id
  := by
  constructor
  · intro read
    cases v with
    | object members =>
      rw [Shape.record_object_eq_ok_iff, memberValues_request_iff] at read
      obtain ⟨-, versioned, called, rfl, rfl⟩ := read
      exact .named versioned called
    | array items =>
      obtain ⟨rest, rfl, short, rfl, rfl⟩ := positional_request_iff.1 read
      exact .positional short
    | _ => cases read
  · intro holds
    cases holds with
    | named versioned called =>
      rw [Shape.record_object_eq_ok_iff, memberValues_request_iff]
      exact ⟨suits_request (ordered _ rfl) versioned called, versioned, called, rfl, rfl⟩
    | positional short => exact positional_request_iff.2 ⟨_, rfl, short, rfl, rfl⟩

/-- The value, if it is not `null`. -/
def proper? : Json → Option Json
  | .null => none
  | v => some v

/-- The response that refuses a value. -/
def refusal (v : Json) (message : String) : Response :=
  .failure ((v.get? "id").getD .null) ⟨invalidRequestCode, message⟩

/-- What becomes of a value that holds a request. -/
theorem requestOfJson_of_holds
    (ordered : ∀ members, v = .object members → Entries.Ordered members)
    (holds : Holds v jsonrpc method params id) :
    requestOfJson v =
      if jsonrpc = version then .ok ⟨method, params.getD .null, id.bind proper?⟩
      else .error (refusal v "jsonrpc must be \"2.0\"")
  := by
  have read := (record_request_iff ordered).2 holds
  unfold requestMembers at read
  unfold requestOfJson
  dsimp only
  rw [read]
  rfl

/-- A value that holds no request is refused. -/
theorem requestOfJson_of_not_holds
    (ordered : ∀ members, v = .object members → Entries.Ordered members)
    (empty : ∀ jsonrpc method params id, ¬ Holds v jsonrpc method params id) :
    ∃ message, requestOfJson v = .error (refusal v message)
  := by
  unfold requestOfJson
  dsimp only
  split
  next e _ => exact ⟨e.message, rfl⟩
  next read => exact absurd ((record_request_iff ordered).1 read) (empty _ _ _ _)
  next => exact ⟨_, rfl⟩

end Rpc

end ControlRelay
