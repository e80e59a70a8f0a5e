import ControlRelay.Start.Console

/-!
# The program

Gathers what a start depends on (the arguments, the environment and the file of settings) and
shows its report.  There is no network here to listen on, so a relay with good settings ends
where it would begin to listen.
-/

namespace ControlRelay.Start

/-- The variables a start looks at, as far as they are set. -/
def environmentNow : IO Environment := do
  let names := "RUST_LOG" :: OptionName.all.map OptionName.variableName
  names.filterMapM fun name => do
    return (← IO.getEnv name).map ((name, ·))

/-- What stands at a path now, as far as reading the file there can tell.  A directory can be
opened but not read; what cannot even be opened lies behind a file on the way to it. -/
def filesAt (text : String) : IO Storage.FileSystem := do
  let path := Storage.Path.ofText text
  let nothing : Storage.FileSystem := {}
  match ← (IO.FS.readBinFile text).toBaseIO with
  | .ok bytes => return nothing.put path (.file bytes.toList)
  | .error (.noFileOrDirectory ..) => return nothing
  | .error (.inappropriateType none ..) => return nothing.put path .directory
  | .error (.inappropriateType (some _) ..) =>
    return nothing.put (path.parent?.getD path) (.file [])
  | .error e => throw e

/-- Why no relay gets beyond its listeners. -/
def noNetwork (address : ListenAddress) : Option StartError :=
  some (cannotListen address "no network")

/-- The report of a start with these arguments. -/
def reportNow (arguments : List String) : IO ConsoleReport := do
  let environment ← environmentNow
  let files ← match readOptions arguments environment with
    | .options given => filesAt (configPath given)
    | _ => pure {}
  return (start arguments environment files).report noNetwork

end ControlRelay.Start

/-- Shows the report of a start and ends with its code. -/
def main (arguments : List String) : IO UInt32 := do
  let report ← ControlRelay.Start.reportNow arguments
  IO.print report.output
  IO.eprint report.errors
  return report.code
