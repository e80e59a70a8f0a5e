import ControlRelay.Interest.Attributes

/-!
# Requests for objects

Clients name the objects they want in an `objects` payload: an object whose members are lists
of attributes, `"*"` for all attributes, or `null`.  In a query `null` means all attributes; in
a subscription it cancels the interest in the object, and so does an empty list.
-/

namespace ControlRelay

/-- Why an `objects` payload is refused. -/
inductive InterestError where
  | notAnObject
  | invalidAttributes (object : String)
  deriving DecidableEq, Repr

/-- What the error says. -/
def InterestError.message : InterestError → String
  | notAnObject => "'objects' must be a JSON object mapping names to attribute lists"
  | invalidAttributes object => "invalid attribute list for object '" ++ object ++ "'"

/-- The name that stands for all attributes. -/
def allAttributes : String := "*"

/-- The attributes in a list of names, all of them if `"*"` is met; `none` if something that is
no string is met before. -/
def attributesOfItems? (names : NameSet) : List Json → Option AttributeSet
  | [] => some (.only names)
  | .string name :: rest =>
    if name = allAttributes then some .all
    else attributesOfItems? (names.insert name ()) rest
  | _ :: _ => none

/-- The attributes that the payload of one object asks for. -/
def attributesOf? : Json → Option AttributeSet
  | .string name => if name = allAttributes then some .all else none
  | .array items => attributesOfItems? ∅ items
  | _ => none

/-- Reads each member in key order, the first that is refused deciding. -/
def readObjects {α : Type} (read : Json → Option α) (payload : Json) :
    Except InterestError (SortedMap String α) :=
  match payload.fields? with
  | none => .error .notAnObject
  | some objects =>
    objects.entries.foldlM (fun acc (object, value) =>
      match read value with
      | some a => .ok (acc.insert object a)
      | none => .error (.invalidAttributes object)) ∅

/-- Reads the payload of a one-time query. -/
def parseQuery : Json → Except InterestError Interest :=
  readObjects fun
    | .null => some .all
    | value => attributesOf? value

/-- Reads the payload of a subscription. -/
def parseSubscription : Json → Except InterestError InterestChanges :=
  readObjects fun
    | .null => some none
    | value => (attributesOf? value).map fun set => if set.isEmpty then none else some set

end ControlRelay
