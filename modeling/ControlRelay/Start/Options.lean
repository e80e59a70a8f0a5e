import ControlRelay.Config.Settings

/-!
# Command line options

Every option takes a value, as the next argument or after an equals sign, and may also be given
by an environment variable, which is looked at only if the option is not on the command line.
The arguments are read from left to right, and the first thing that ends the reading decides:
an error, or the question for help or for the version.
-/

namespace ControlRelay.Start

/-- The options. -/
inductive OptionName where
  | config
  | socketPath
  | wsPort
  | httpPort
  | logLevel
  deriving DecidableEq, Repr

namespace OptionName

/-- All options, in the order in which the environment is looked at. -/
def all : List OptionName := [config, socketPath, wsPort, httpPort, logLevel]

/-- The name after the two dashes. -/
def text : OptionName → String
  | config => "config"
  | socketPath => "socket-path"
  | wsPort => "ws-port"
  | httpPort => "http-port"
  | logLevel => "log-level"

/-- The environment variable. -/
def variableName : OptionName → String
  | config => "RELAY_CONFIG"
  | socketPath => "RELAY_SOCKET_PATH"
  | wsPort => "RELAY_WS_PORT"
  | httpPort => "RELAY_HTTP_PORT"
  | logLevel => "RELAY_LOG_LEVEL"

end OptionName

/-- The port a text stands for: decimal digits after an optional sign. -/
def portOfText? (text : String) : Option UInt16 :=
  let (isNegative, digits) := match text.toList with
    | '+' :: ds => (false, ds)
    | '-' :: ds => (true, ds)
    | ds => (false, ds)
  if digits.isEmpty || !digits.all Char.isDigit then none
  else
    let n := digits.foldl (fun n c => n * 10 + (c.toNat - 0x30)) 0
    if n < 65536 && !(isNegative && n ≠ 0) then some (UInt16.ofNat n) else none

/-- Whether a text can be the value of an option. -/
def OptionName.accepts (o : OptionName) (value : String) : Bool :=
  match o with
  | config => !value.isEmpty
  | socketPath => !value.isEmpty
  | wsPort => (portOfText? value).isSome
  | httpPort => (portOfText? value).isSome
  | logLevel => true

/-- The options that were given. -/
abbrev Given := List (OptionName × String)

namespace Given

/-- The value of an option. -/
def get? (g : Given) (o : OptionName) : Option String := (g.find? (·.1 = o)).map (·.2)

/-- Adds an option, unless it is there already or the value is refused. -/
def add? (g : Given) (o : OptionName) (value : String) : Option Given :=
  if (g.get? o).isSome || !o.accepts value then none else some (g ++ [(o, value)])

end Given

/-- How the reading of the arguments ends. -/
inductive ArgumentsOutcome where
  | options (given : Given)
  | help
  | version
  /-- The arguments are wrong. -/
  | usageError
  deriving DecidableEq, Repr

/-- Flags of one letter, read from left to right. -/
def shortFlags : List Char → ArgumentsOutcome
  | 'h' :: _ => .help
  | 'V' :: _ => .version
  | _ => .usageError

/-- The parts of a long argument before and after the first equals sign. -/
def splitAtEquals (cs : List Char) : String × Option String :=
  let name := String.ofList (cs.takeWhile (· != '='))
  match cs.dropWhile (· != '=') with
  | [] => (name, none)
  | _ :: value => (name, some (String.ofList value))

/-- Whether an argument begins like an option and so is no value. -/
def isOptionLike (argument : String) : Bool :=
  match argument.toList with
  | '-' :: _ :: _ => true
  | _ => false

/-- Reads the arguments that are left after the options in `given`. -/
def readArguments (given : Given) : List String → ArgumentsOutcome
  | [] => .options given
  | argument :: rest =>
    match argument.toList with
    | ['-', '-'] => if rest.isEmpty then .options given else .usageError
    | '-' :: '-' :: cs =>
      let (name, attached) := splitAtEquals cs
      match attached with
      | some value =>
        match OptionName.all.find? (·.text = name) with
        | none => .usageError
        | some o =>
          match given.add? o value with
          | some given => readArguments given rest
          | none => .usageError
      | none =>
        if name = "help" then .help
        else if name = "version" then .version
        else
          match OptionName.all.find? (·.text = name), rest with
          | some o, value :: rest =>
            if isOptionLike value then .usageError
            else
              match given.add? o value with
              | some given => readArguments given rest
              | none => .usageError
          | _, _ => .usageError
    | '-' :: c :: cs => shortFlags (c :: cs)
    | _ => .usageError

/-- The environment variables that are set. -/
abbrev Environment := List (String × String)

/-- A variable of the environment. -/
def Environment.value? (e : Environment) (name : String) : Option String :=
  (e.find? (·.1 = name)).map (·.2)

/-- Adds the options that the environment gives. -/
def addEnvironment (environment : Environment) (given : Given) : Option Given :=
  OptionName.all.foldlM (fun given o =>
    match given.get? o, environment.value? o.variableName with
    | none, some value => given.add? o value
    | _, _ => some given) given

/-- All options from the arguments and the environment. -/
def readOptions (arguments : List String) (environment : Environment) : ArgumentsOutcome :=
  match readArguments [] arguments with
  | .options given =>
    match addEnvironment environment given with
    | some given => .options given
    | none => .usageError
  | outcome => outcome

/-- The file of settings, if no other is named. -/
def defaultConfigPath : String := "relay-bridge.toml"

/-- The file of settings. -/
def configPath (given : Given) : String := (given.get? .config).getD defaultConfigPath

/-- The settings with the options put in place of what the file says. -/
def override (given : Given) (settings : Config.Settings) : Config.Settings :=
  let port (o : OptionName) (default : UInt16) : UInt16 :=
    ((given.get? o).bind portOfText?).getD default
  { settings with
    logLevel := (given.get? .logLevel).getD settings.logLevel
    control := { settings.control with
      socketPath := (given.get? .socketPath).getD settings.control.socketPath }
    server := { settings.server with
      wsPort := port .wsPort settings.server.wsPort
      httpPort := port .httpPort settings.server.httpPort } }

end ControlRelay.Start
