import ControlRelay.Start.Startup
import ControlRelay.Relay.Services

/-!
# At the console

What a start shows: texts that were asked for and the log on standard output, everything that
went wrong on standard error, and the exit code.
-/

namespace ControlRelay.Start

/-- What is shown, and the exit code. -/
structure ConsoleReport where
  code : UInt32 := 0
  output : String := ""
  errors : String := ""
  deriving DecidableEq, Repr

/-- The line that announces a start in the log. -/
def startingLine (fields : String) : String :=
  " INFO " ++ logTarget ++ ": relay-bridge starting " ++ fields ++ "\n"

/-- An error with its cause below it. -/
def StartError.text (e : StartError) : String :=
  "Error: " ++ e.message ++ "\n\nCaused by:\n    " ++ e.cause ++ "\n"

/-- How the program is called. -/
def usage : String :=
  "Usage: relay-bridge [OPTIONS]\n\nOptions:\n"
    ++ "      --config <PATH>       settings file, default " ++ defaultConfigPath ++ "\n"
    ++ "      --socket-path <PATH>  socket of the control process\n"
    ++ "      --ws-port <PORT>      port for WebSocket clients\n"
    ++ "      --http-port <PORT>    port for HTTP clients\n"
    ++ "      --log-level <LEVEL>   log filter, unless RUST_LOG is set\n"
    ++ "  -h, --help                show this text\n"
    ++ "  -V, --version             show the version\n"

/-- The failure to listen for WebSocket clients at an address, for the given cause. -/
def cannotListen (address : ListenAddress) (cause : String) : StartError :=
  ⟨Action.ListenerKind.webSocket.bindFailure ++ " on " ++ address.text, cause⟩

/-- What the console shows of an outcome.  A relay that has come as far as its listeners ends
with `listening`, if that is an error. -/
def StartOutcome.report (listening : ListenAddress → Option StartError) :
    StartOutcome → ConsoleReport
  | help => { output := usage }
  | version => { output := "relay-bridge " ++ Start.version ++ "\n" }
  | usageError => { code := 2, errors := "error: wrong arguments\n\n" ++ usage }
  | noSettings e => { code := 1, errors := e.text }
  | settled _ starting addresses =>
    let output := (starting.map startingLine).getD ""
    let error? := match addresses with
      | .error e => some e
      | .ok (ws, _) => listening ws
    match error? with
    | some e => { code := 1, output := output, errors := e.text }
    | none => { output := output }

end ControlRelay.Start
