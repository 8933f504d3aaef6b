import HomeEnergy.Log.Level

/-!
# Arguments of a service

What a service is told when it is started: where its settings are, how it logs, and whether it only
checks its settings. What the command line leaves open is taken from the environment, and what that
leaves open has a value of its own.

## Main results

* `Arguments.read` — the arguments of a command line and an environment, or why there are none.
-/

namespace HomeEnergy

/-- Arguments of a service. -/
structure Arguments where
  config : String := "config/homewatt.yaml"
  logLevel : String := "info"
  statusListen : Option String := none
  logDir : Option String := none
  jsonLogs : Bool := false
  noColor : Bool := false
  validate : Bool := false
deriving DecidableEq, Repr, Inhabited

/-- Why a command line is not carried out. -/
inductive ArgumentFault where
  /-- An option lacks its value, or its value must not be empty. -/
  | invalidValue
  | unknownArgument
  /-- An option is given twice. -/
  | argumentConflict
  /-- A switch is given a value. -/
  | tooManyValues
  | displayHelp
  | displayVersion
deriving DecidableEq, Repr

/-- The name of an argument fault. -/
def ArgumentFault.name : ArgumentFault → String
  | .invalidValue => "InvalidValue"
  | .unknownArgument => "UnknownArgument"
  | .argumentConflict => "ArgumentConflict"
  | .tooManyValues => "TooManyValues"
  | .displayHelp => "DisplayHelp"
  | .displayVersion => "DisplayVersion"

namespace Arguments

/-- Options with a value. -/
inductive Key where
  | config
  | logLevel
  | statusListen
  | logDir
deriving DecidableEq, Repr

/-- Options without a value. -/
inductive Switch where
  | jsonLogs
  | noColor
  | validate
deriving DecidableEq, Repr

/-- What an option may be. -/
inductive Choice where
  | key (k : Key)
  | switch (s : Switch)
  | help
  | version

/-- The keys in the order in which the environment is asked for them, with its variables. -/
def environmentNames : List (Key × String) :=
  [(.config, "HOMEWATT_CONFIG"), (.logLevel, "RUST_LOG"), (.statusListen, "HOMEWATT_STATUS_LISTEN"),
    (.logDir, "HOMEWATT_LOG_DIR")]

/-- The option with a long name. -/
def long? : String → Option Choice
  | "config" => some (.key .config)
  | "log-level" => some (.key .logLevel)
  | "status-listen" => some (.key .statusListen)
  | "log-dir" => some (.key .logDir)
  | "json-logs" => some (.switch .jsonLogs)
  | "no-color" => some (.switch .noColor)
  | "validate" => some (.switch .validate)
  | "help" => some .help
  | "version" => some .version
  | _ => none

/-- The option with a short name. -/
def short? : Char → Option Choice
  | 'c' => some (.key .config)
  | 'l' => some (.key .logLevel)
  | 'b' => some (.key .statusListen)
  | 'h' => some .help
  | 'V' => some .version
  | _ => none

/-- Whether a value of an option is a path, which must not be empty. -/
def Key.isPath : Key → Bool
  | .config | .logDir => true
  | .logLevel | .statusListen => false

/-- A command line read so far. -/
structure Reading where
  values : List (Key × String) := []
  switches : List Switch := []
  /-- The last option, while its value is not yet taken in. -/
  pending : Option (Key × Option String) := none

namespace Reading

/-- Take in a value. -/
def assign (r : Reading) (k : Key) (value : String) : Except ArgumentFault Reading :=
  if (r.values.lookup k).isSome then .error .argumentConflict
  else if k.isPath ∧ value = "" then .error .invalidValue
  else .ok { r with values := (k, value) :: r.values }

/-- Take in the value of the last option. -/
def settle (r : Reading) : Except ArgumentFault Reading :=
  match r.pending with
  | none => .ok r
  | some (_, none) => .error .invalidValue
  | some (k, some value) => { r with pending := none }.assign k value

/-- An option, perhaps with a value attached to it. -/
def choose (r : Reading) (c : Choice) (attached : Option String) : Except ArgumentFault Reading :=
  match c, attached with
  | .key k, some value => do (← r.settle).assign k value
  | .key k, none => do return { ← r.settle with pending := some (k, none) }
  | _, some _ => .error .tooManyValues
  | .switch s, none => do
    let r ← r.settle
    if s ∈ r.switches then .error .argumentConflict
    else return { r with switches := s :: r.switches }
  | .help, none => do
    let _ ← r.settle
    .error .displayHelp
  | .version, none => do
    let _ ← r.settle
    .error .displayVersion

/-- Short options behind one dash. What follows an option with a value is its value. -/
def shorts (r : Reading) : List Char → Except ArgumentFault Reading
  | [] => .ok r
  | c :: rest =>
    match short? c with
    | none => .error .unknownArgument
    | some (.key k) =>
      match rest with
      | [] => r.choose (.key k) none
      | '=' :: value => r.choose (.key k) (some (String.ofList value))
      | value => r.choose (.key k) (some (String.ofList value))
    | some choice => do shorts (← r.choose choice none) rest

/-- The name of a long option and the value attached to it. -/
def splitLong (text : List Char) : String × Option String :=
  let name := text.takeWhile (· != '=')
  match text.dropWhile (· != '=') with
  | _ :: value => (String.ofList name, some (String.ofList value))
  | [] => (String.ofList name, none)

/-- Read a command line. Apart from options and their values nothing may stand in it. -/
def line (r : Reading) : List String → Except ArgumentFault Reading
  | [] => r.settle
  | text :: rest =>
    match text.toList with
    | ['-', '-'] => if rest = [] then r.settle else .error .unknownArgument
    | '-' :: '-' :: option =>
      let (name, attached) := splitLong option
      match long? name with
      | none => .error .unknownArgument
      | some choice => do line (← r.choose choice attached) rest
    | '-' :: c :: more => do line (← r.shorts (c :: more)) rest
    | _ =>
      match r.pending with
      | some (k, none) => line { r with pending := some (k, some text) } rest
      | _ => .error .unknownArgument

/-- Fill in what the command line leaves open from the environment. -/
def fill (environment : List (String × String)) (r : Reading) :
    List (Key × String) → Except ArgumentFault Reading
  | [] => .ok r
  | (k, name) :: rest =>
    match r.values.lookup k, environment.lookup name with
    | none, some value => do fill environment (← r.assign k value) rest
    | _, _ => fill environment r rest

/-- The arguments that have been read. -/
def arguments (r : Reading) : Arguments where
  config := (r.values.lookup .config).getD "config/homewatt.yaml"
  logLevel := (r.values.lookup .logLevel).getD "info"
  statusListen := r.values.lookup .statusListen
  logDir := r.values.lookup .logDir
  jsonLogs := .jsonLogs ∈ r.switches
  noColor := .noColor ∈ r.switches
  validate := .validate ∈ r.switches

end Reading

/-- The arguments of a command line, without the name of the program, and an environment. -/
def read (line : List String) (environment : List (String × String)) :
    Except ArgumentFault Arguments := do
  let r ← Reading.line {} line
  return (← Reading.fill environment r environmentNames).arguments

/-- The level at which the service logs. -/
def level (a : Arguments) : LogLevel := .ofArgument a.logLevel

end Arguments

end HomeEnergy
