/-!
# Log filters

A filter says which lines of the log are written.  It is a list of directives with commas in
between: a level for everything, or a target with a level for the lines of targets whose name
begins so.  Of the directives that apply to a line, the one with the longest target decides.
-/

namespace ControlRelay

/-- How important a line is; a filter at one level lets all levels above it through. -/
inductive LogLevel where
  | error
  | warn
  | info
  | debug
  | trace
  deriving DecidableEq, Repr

namespace LogLevel

/-- How much a level lets through. -/
def rank : LogLevel → Nat
  | error => 1
  | warn => 2
  | info => 3
  | debug => 4
  | trace => 5

/-- All levels. -/
def all : List LogLevel := [error, warn, info, debug, trace]

/-- The name of a level. -/
def name : LogLevel → String
  | error => "error"
  | warn => "warn"
  | info => "info"
  | debug => "debug"
  | trace => "trace"

end LogLevel

/-- The least important level that is let through; `none` lets nothing through. -/
abbrev LogThreshold := Option LogLevel

/-- The threshold a word or a digit stands for. -/
def LogThreshold.ofText? (text : String) : Option LogThreshold :=
  let lower := String.ofList (text.toList.map Char.toLower)
  if lower = "off" || text = "0" then some none
  else (LogLevel.all.find? fun l => l.name = lower || toString l.rank = text).map some

/-- One directive; without a target it is about every line. -/
structure LogDirective where
  target : String
  threshold : LogThreshold
  /-- Whether it is about the lines of certain spans only. -/
  isForSpans : Bool := false
  deriving DecidableEq, Repr

namespace LogDirective

/-- Characters that a target may hold. -/
def isTargetChar (c : Char) : Bool :=
  c.isAlphanum || c = '_' || c = ':' || c = '-' || 0x80 ≤ c.toNat

/-- A target and perhaps a span in brackets, in either order. -/
def subject? (cs : List Char) : Option (String × Bool) :=
  let span? (cs : List Char) : Option (List Char) :=
    match cs with
    | '[' :: rest =>
      match rest.dropWhile (· != ']') with
      | _ :: after => some after
      | [] => none
    | _ => none
  match span? cs with
  | some rest =>
    if rest.all isTargetChar then some (String.ofList rest, true) else none
  | none =>
    match cs.takeWhile isTargetChar, cs.dropWhile isTargetChar with
    | [], _ => none
    | target, [] => some (String.ofList target, false)
    | target, rest => if span? rest = some [] then some (String.ofList target, true) else none

/-- Reads a directive; a target without a level lets everything through. -/
def ofText? (text : String) : Option LogDirective :=
  match LogThreshold.ofText? text with
  | some threshold => some { target := "", threshold }
  | none =>
    let cs := text.toList
    let before := cs.takeWhile (· != '=')
    match subject? before, cs.dropWhile (· != '=') with
    | none, _ => none
    | some (target, isForSpans), [] => some { target, threshold := some .trace, isForSpans }
    | some (target, isForSpans), ['='] => some { target, threshold := some .trace, isForSpans }
    | some (target, isForSpans), _ :: level =>
      (LogThreshold.ofText? (String.ofList level)).map fun threshold =>
        { target, threshold, isForSpans }

/-- Whether it is about the lines of a target. -/
def appliesTo (d : LogDirective) (target : String) : Bool :=
  !d.isForSpans && d.target.toList.isPrefixOf target.toList

end LogDirective

/-- A list of directives. -/
structure LogFilter where
  directives : List LogDirective

namespace LogFilter

/-- The parts of a text between commas that are not empty. -/
def parts (text : String) : List String :=
  (text.splitOn ",").filter fun part => !part.isEmpty

/-- Without any directive, errors are let through. -/
def ofDirectives (directives : List LogDirective) : LogFilter :=
  ⟨if directives.isEmpty then [{ target := "", threshold := some .error }] else directives⟩

/-- Reads a filter of which every directive has to be good. -/
def ofText? (text : String) : Option LogFilter :=
  ((parts text).mapM LogDirective.ofText?).map ofDirectives

/-- Reads a filter and leaves out the directives that are not good. -/
def ofTextLeniently (text : String) : LogFilter :=
  ofDirectives ((parts text).filterMap LogDirective.ofText?)

/-- Whether lines of a level and a target are let through: the directive with the longest
target decides, of two with one target the later one. -/
def lets (f : LogFilter) (level : LogLevel) (target : String) : Bool :=
  let deciding := (f.directives.filter (·.appliesTo target)).foldl (fun best d =>
    match best with
    | none => some d
    | some (b : LogDirective) =>
      if b.target.length ≤ d.target.length then some d else some b) none
  match deciding.bind (·.threshold) with
  | some threshold => level.rank ≤ threshold.rank
  | none => false

end LogFilter

end ControlRelay
