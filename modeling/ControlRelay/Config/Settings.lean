import ControlRelay.Config.Address
import ControlRelay.Config.Delay
import ControlRelay.Toml.Reader

/-!
# Settings

All that can be configured.  Every setting has a default, so a file may give any part of them
and none is needed.  `Settings.ofToml?` reads them from a TOML document, and a setting of the
wrong type makes the whole document useless.
-/

namespace ControlRelay.Config

open Toml (Shape)

/-- The listeners for clients. -/
structure ServerSettings where
  /-- The address both listeners are bound to. -/
  bindAddress : String := "0.0.0.0"
  /-- The port for WebSocket clients. -/
  wsPort : UInt16 := 7125
  /-- The port for HTTP clients. -/
  httpPort : UInt16 := 7126
  /-- How many messages may wait for a WebSocket client. -/
  maxSendQueue : UInt64 := 256
  deriving DecidableEq, BEq

/-- The channel to the control process. -/
structure ControlSettings where
  /-- The Unix socket on which the control process listens. -/
  socketPath : String := "/tmp/control.sock"
  reconnectSeconds : UInt64 := 2
  /-- How long an answer is waited for. -/
  callTimeoutSeconds : UInt64 := 30
  /-- How often a subscription that failed is tried again. -/
  resyncSeconds : UInt64 := 5
  deriving DecidableEq, BEq

/-- The behaviour of the job queue. -/
structure JobSettings where
  /-- Whether jobs are loaded from the start on. -/
  loadOnStartup : Bool := false
  /-- Whether the next job follows a finished one of itself. -/
  automaticTransition : Bool := false
  /-- Seconds to wait before a job is loaded. -/
  transitionDelay : Float := 0.0
  /-- A script that is run before each job; empty for none. -/
  transitionScript : String := ""
  /-- The file that keeps the queue; without one it is kept in memory. -/
  queueFile : Option String := none
  deriving BEq

/-- Who may make privileged calls. -/
structure AuthSettings where
  /-- Names of clients that are authorized. -/
  trustedClients : List String := []
  /-- A token that authorizes any client. -/
  apiKey : Option String := none
  deriving DecidableEq, BEq

/-- The topic transport. -/
structure TopicSettings where
  enabled : Bool := false
  /-- What every topic's name begins with. -/
  instanceName : String := "relay"
  /-- Objects that are published on the status topic. -/
  statusObjects : List String := []
  deriving DecidableEq, BEq

/-- All settings of a relay. -/
structure Settings where
  /-- Which log lines are written, unless the environment says so. -/
  logLevel : String := "info"
  server : ServerSettings := {}
  control : ControlSettings := {}
  jobs : JobSettings := {}
  auth : AuthSettings := {}
  topic : TopicSettings := {}
  deriving BEq

instance : Inhabited Settings := ⟨{}⟩

/-- The fields of a record, given to `f` by name. -/
private def withFields {α : Type} (names : List String)
    (f : (String → Option Toml) → Option α) : Shape α := fun v => do
  let values ← Shape.record names v
  f fun name => ((names.zip values).find? (·.1 = name)).bind (·.2)

private def port : Shape UInt16 := fun v =>
  (Shape.integer 0 65535 v).map fun i => UInt16.ofNat i.toNat

private def count : Shape UInt64 := fun v =>
  (Shape.integer 0 (UInt64.size - 1) v).map fun i => UInt64.ofNat i.toNat

/-- Reads the settings of the listeners. -/
def ServerSettings.ofToml? : Shape ServerSettings :=
  withFields ["bind_address", "ws_port", "http_port", "max_send_queue"] fun get => do
    let d : ServerSettings := {}
    pure {
      bindAddress := ← Shape.field Shape.string d.bindAddress (get "bind_address")
      wsPort := ← Shape.field port d.wsPort (get "ws_port")
      httpPort := ← Shape.field port d.httpPort (get "http_port")
      maxSendQueue := ← Shape.field count d.maxSendQueue (get "max_send_queue") }

/-- Reads the settings of the connection to the control process. -/
def ControlSettings.ofToml? : Shape ControlSettings :=
  withFields ["socket_path", "reconnect_interval_secs", "call_timeout_secs",
      "resync_interval_secs"] fun get => do
    let d : ControlSettings := {}
    pure {
      socketPath := ← Shape.field Shape.string d.socketPath (get "socket_path")
      reconnectSeconds :=
        ← Shape.field count d.reconnectSeconds (get "reconnect_interval_secs")
      callTimeoutSeconds :=
        ← Shape.field count d.callTimeoutSeconds (get "call_timeout_secs")
      resyncSeconds := ← Shape.field count d.resyncSeconds (get "resync_interval_secs") }

/-- Reads the settings of the job queue. -/
def JobSettings.ofToml? : Shape JobSettings :=
  withFields ["load_on_startup", "automatic_transition", "job_transition_delay",
      "job_transition_gcode", "queue_file"] fun get => do
    let d : JobSettings := {}
    pure {
      loadOnStartup := ← Shape.field Shape.bool d.loadOnStartup (get "load_on_startup")
      automaticTransition :=
        ← Shape.field Shape.bool d.automaticTransition (get "automatic_transition")
      transitionDelay :=
        ← Shape.field Shape.float d.transitionDelay (get "job_transition_delay")
      transitionScript :=
        ← Shape.field Shape.string d.transitionScript (get "job_transition_gcode")
      queueFile := ← Shape.optionalField Shape.string (get "queue_file") }

/-- Reads whom to trust. -/
def AuthSettings.ofToml? : Shape AuthSettings :=
  withFields ["trusted_clients", "api_key"] fun get => do
    pure {
      trustedClients := ← Shape.field (Shape.list Shape.string) [] (get "trusted_clients")
      apiKey := ← Shape.optionalField Shape.string (get "api_key") }

/-- Reads the settings of the topics. -/
def TopicSettings.ofToml? : Shape TopicSettings :=
  withFields ["enabled", "instance_name", "status_objects"] fun get => do
    let d : TopicSettings := {}
    pure {
      enabled := ← Shape.field Shape.bool d.enabled (get "enabled")
      instanceName := ← Shape.field Shape.string d.instanceName (get "instance_name")
      statusObjects := ← Shape.field (Shape.list Shape.string) [] (get "status_objects") }

/-- Reads all settings. -/
def Settings.ofToml? : Shape Settings :=
  withFields ["log_level", "server", "upstream", "job_queue", "authorization", "topic"]
    fun get => do
      let d : Settings := {}
      pure {
        logLevel := ← Shape.field Shape.string d.logLevel (get "log_level")
        server := ← Shape.field ServerSettings.ofToml? {} (get "server")
        control := ← Shape.field ControlSettings.ofToml? {} (get "upstream")
        jobs := ← Shape.field JobSettings.ofToml? {} (get "job_queue")
        auth := ← Shape.field AuthSettings.ofToml? {} (get "authorization")
        topic := ← Shape.field TopicSettings.ofToml? {} (get "topic") }

/-- Why no settings could be had. -/
inductive ConfigError where
  /-- The file could not be read. -/
  | io (path reason : String)
  /-- It is no TOML document, or a setting has the wrong type. -/
  | parse
  | invalidAddress (address : String)
  deriving DecidableEq, Repr

/-- What the error says. -/
def ConfigError.message : ConfigError → String
  | io path reason => "I/O error accessing config at " ++ path ++ ": " ++ reason
  | parse => "failed to parse config TOML"
  | invalidAddress address => "invalid listen address '" ++ address ++ "'"

/-- The settings in the text of a file. -/
def Settings.parse (text : String) : Except ConfigError Settings :=
  match (Toml.parse? text).bind Settings.ofToml? with
  | some settings => .ok settings
  | none => .error .parse

namespace ServerSettings

/-- A listen address on one port. -/
def addressAt (s : ServerSettings) (port : UInt16) : Except ConfigError ListenAddress :=
  match IpAddress.parse? s.bindAddress with
  | some ip => .ok ⟨ip, port⟩
  | none => .error (.invalidAddress (s.bindAddress ++ ":" ++ toString port))

/-- Where WebSocket clients are served. -/
def wsAddress (s : ServerSettings) : Except ConfigError ListenAddress := s.addressAt s.wsPort

/-- Where HTTP clients are served. -/
def httpAddress (s : ServerSettings) : Except ConfigError ListenAddress := s.addressAt s.httpPort

end ServerSettings

namespace ControlSettings

/-- Periods and deadlines are at least a second. -/
def atLeastOneSecond (seconds : UInt64) : Nat := (max seconds 1).toNat

/-- Seconds between two attempts to connect. -/
def reconnectInterval (s : ControlSettings) : Nat := atLeastOneSecond s.reconnectSeconds

/-- Seconds a call may take. -/
def callTimeout (s : ControlSettings) : Nat := atLeastOneSecond s.callTimeoutSeconds

/-- Seconds between two looks at the subscription. -/
def resyncInterval (s : ControlSettings) : Nat := atLeastOneSecond s.resyncSeconds

end ControlSettings

/-- The delay before a job is loaded, in nanoseconds; `none` where it cannot be represented. -/
def JobSettings.delayNanos? (s : JobSettings) : Option Nat :=
  Config.delayNanos? s.transitionDelay

end ControlRelay.Config
