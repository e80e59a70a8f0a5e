import ControlRelay.Start.LogFilter
import ControlRelay.Start.Options
import ControlRelay.Storage.FileSystem

/-!
# Starting up

From the arguments, the environment and the file of settings to a relay that is about to
listen: what is written to the log on the way, and the error that ends it.
-/

namespace ControlRelay.Start

open Config (Settings ConfigError)

/-- The version of the program. -/
def version : String := "0.1.0"

/-- The settings in a file; without the file the settings are the default ones. -/
def loadSettings (files : Storage.FileSystem) (path : String) : Except ConfigError Settings :=
  match files.readText (.ofText path) with
  | .ok text => Settings.parse text
  | .error .notFound => .ok {}
  | .error e => .error (.io path e.message)

/-- An error and its cause. -/
structure StartError where
  message : String
  cause : String
  deriving DecidableEq, Repr

/-- The filter of the log: the one of the environment if it is good, else that of the
settings. -/
def logFilter (environment : Environment) (settings : Settings) : LogFilter :=
  ((environment.value? "RUST_LOG").bind LogFilter.ofText?).getD
    (LogFilter.ofTextLeniently settings.logLevel)

/-- The name under which the program writes to the log. -/
def logTarget : String := "relay_bridge"

/-- The fields of the line that announces the start. -/
def startingFields (settings : Settings) : String :=
  "socket=" ++ settings.control.socketPath
    ++ " ws_port=" ++ toString settings.server.wsPort
    ++ " http_port=" ++ toString settings.server.httpPort
    ++ " topic=" ++ (if settings.topic.enabled then "true" else "false")

/-- The addresses to listen on. -/
def listenAddresses (settings : Settings) :
    Except StartError (ListenAddress × ListenAddress) := do
  let ws ← settings.server.wsAddress.mapError fun e =>
    ⟨"invalid WebSocket address", e.message⟩
  let http ← settings.server.httpAddress.mapError fun e =>
    ⟨"invalid HTTP address", e.message⟩
  pure (ws, http)

/-- How a start comes out. -/
inductive StartOutcome where
  | help
  | version
  | usageError
  /-- The settings could not be had. -/
  | noSettings (error : StartError)
  /-- There are settings, and `starting` is the line that announces the start, if the log has
  it.  The relay goes on to listen, or it fails. -/
  | settled (settings : Settings) (starting : Option String)
      (addresses : Except StartError (ListenAddress × ListenAddress))

/-- What a start comes to. -/
def start (arguments : List String) (environment : Environment) (files : Storage.FileSystem) :
    StartOutcome :=
  match readOptions arguments environment with
  | .help => .help
  | .version => .version
  | .usageError => .usageError
  | .options given =>
    let path := configPath given
    match loadSettings files path with
    | .error e => .noSettings ⟨"failed to load config from " ++ path, e.message⟩
    | .ok settings =>
      let settings := override given settings
      let isLogged := (logFilter environment settings).lets .info logTarget
      .settled settings (if isLogged then some (startingFields settings) else none)
        (listenAddresses settings)

end ControlRelay.Start
