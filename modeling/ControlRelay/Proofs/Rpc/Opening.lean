import ControlRelay.Proofs.SortedMap
import ControlRelay.Rpc.Notification
import Mathlib.Tactic.Common

/-!
# How texts open

The text of a notification opens with its method, and the text of a response opens otherwise, so a
text tells whether it is the notification of a method.
-/

namespace ControlRelay

namespace Json

/-- Whether no character of a name is escaped. -/
def isPlain (name : String) : Bool := name.toList.all fun c => escapeChar c = [c]

/-- A character inside a string stands for itself, or a backslash comes before it. -/
theorem escapeChar_cases (c : Char) :
    (escapeChar c = [c] ∧ c ≠ '"' ∧ c ≠ '\\') ∨ ∃ d rest, escapeChar c = '\\' :: d :: rest
  := by
  fun_cases escapeChar c
  case case9 quote backslash _ _ _ _ _ _ => exact .inl ⟨rfl, quote, backslash⟩
  all_goals exact .inr ⟨_, _, rfl⟩

/-- Plain characters up to a quote are told by their escaped text. -/
theorem eq_of_escaped {name other rest rest' : List Char}
    (plain : ∀ c ∈ name, escapeChar c = [c])
    (same : name ++ '"' :: rest = other.flatMap escapeChar ++ '"' :: rest') :
    name = other
  := by
  induction name generalizing other with
  | nil =>
    cases other with
    | nil => rfl
    | cons d other =>
      rw [List.flatMap_cons] at same
      obtain ⟨itself, differs, -⟩ | ⟨_, _, escaped⟩ := escapeChar_cases d
      · rw [itself] at same
        exact absurd (List.cons.inj same).1.symm differs
      · rw [escaped] at same
        cases (List.cons.inj same).1
  | cons c name ih =>
    have itself := plain c List.mem_cons_self
    cases other with
    | nil =>
      obtain ⟨rfl, -⟩ := List.cons.inj same
      cases itself
    | cons d other =>
      rw [List.flatMap_cons] at same
      obtain ⟨single, -⟩ | ⟨_, _, escaped⟩ := escapeChar_cases d
      · rw [single, List.append_assoc, List.singleton_append] at same
        obtain ⟨rfl, rest_same⟩ := List.cons.inj same
        rw [ih (fun e mem => plain e (List.mem_cons_of_mem _ mem)) rest_same]
      · rw [escaped] at same
        obtain ⟨rfl, -⟩ := List.cons.inj same
        cases itself

/-- A plain name is told by the text that begins with it in quotes. -/
theorem eq_of_quoted {name other : String} {rest rest' : List Char} (plain : isPlain name = true)
    (same : quoted name ++ rest = quoted other ++ rest') :
    name = other
  := by
  have single : ∀ c ∈ name.toList, escapeChar c = [c] := by simpa [isPlain] using plain
  have escaped : name.toList.flatMap escapeChar = name.toList := by
    rw [List.flatMap_def, List.map_congr_left single, ← List.flatMap_def]
    apply List.flatMap_singleton'
  have inside := (List.cons.inj same).2
  simp only [List.append_eq, escaped, List.append_assoc, List.singleton_append] at inside
  apply String.toList_inj.1 (eq_of_escaped single inside)

end Json

namespace Rpc

/-- The text of every message up to its second member. -/
def versionText : List Char :=
  '{' :: (Json.quoted "jsonrpc" ++ ':' :: (Json.quoted version ++ [',']))

namespace Notification

/-- The text of the notifications of a method up to their parameters. -/
def methodText (method : String) : List Char :=
  Json.quoted "method" ++ ':' :: (Json.quoted method ++ [','])

/-- Whether a text opens as the notifications of a method do. -/
def opens (method text : String) : Bool :=
  (versionText ++ methodText method).isPrefixOf text.toList

theorem exists_toList_text (n : Notification) :
    ∃ rest, n.text.toList = versionText ++ (methodText n.method ++ rest)
  := by
  have ordered : Entries.Ordered
      [("jsonrpc", Json.string version), ("method", .string n.method), ("params", .array n.params)]
    := by
    have names : ["jsonrpc", "method", "params"].Pairwise (· < ·) := by decide
    exact (List.pairwise_map (f := Prod.fst)).1 names
  unfold text toJson Json.text Json.ofMembers
  rw [String.toList_ofList, SortedMap.entries_ofList_of_ordered ordered]
  use Json.quoted "params" ++ ':' :: ((Json.array n.params).chars ++ ['}'])
  simp [Json.chars, Json.membersChars, versionText, methodText]

/-- The text of a notification opens as those of a method do exactly if it is one of them. -/
theorem opens_text_iff (n : Notification) {method : String} (plain : Json.isPlain method = true) :
    opens method n.text = true ↔ n.method = method
  := by
  obtain ⟨rest, written⟩ := n.exists_toList_text
  rw [opens, written, List.isPrefixOf_iff_prefix, List.prefix_append_right_inj]
  constructor
  · rintro ⟨more, same⟩
    simp only [methodText, List.append_assoc, List.cons_append] at same
    have methods := (List.cons.inj (List.append_cancel_left same)).2
    rw [Json.eq_of_quoted plain methods]
  · rintro rfl
    apply List.prefix_append

end Notification

theorem Response.exists_toList_text (r : Response) :
    ∃ name ∈ ["result", "error"], ∃ rest, r.text.toList = versionText ++ (Json.quoted name ++ rest)
  := by
  obtain ⟨outcome, id⟩ := r
  unfold text ResponseText.text Json.text
  rw [String.toList_ofList]
  cases outcome with
  | ok result =>
    use "result", List.mem_cons_self, ':' :: (result.chars ++ Json.membersChars [("id", id)])
    simp [toText, ResponseText.members, Json.chars, Json.membersChars, versionText]
  | error e =>
    use "error", List.mem_cons_of_mem _ List.mem_cons_self,
      ':' :: ((Json.object e.members).chars ++ Json.membersChars [("id", id)])
    simp [toText, ResponseText.members, Json.chars, Json.membersChars, versionText]

/-- No response opens as a notification does. -/
theorem Response.opens_text (r : Response) (method : String) :
    Notification.opens method r.text = false
  := by
  obtain ⟨name, mem, rest, written⟩ := r.exists_toList_text
  rw [Bool.eq_false_iff, Ne, Notification.opens, written, List.isPrefixOf_iff_prefix,
    List.prefix_append_right_inj]
  rintro ⟨more, same⟩
  simp only [Notification.methodText, List.append_assoc, List.cons_append] at same
  have names : "method" = name := Json.eq_of_quoted (by decide) same
  rw [← names] at mem
  simp at mem

end Rpc

end ControlRelay
