import MockProvider.Json.Printer
import MockProvider.Json.Record
import MockProvider.Text.Basic

/-!
# Configuration

How a server is set up: whether it answers preflights of browsers, how long it waits for open
connections when it stops, and how many threads serve. A configuration is read from a document,
from a file or from environment variables; what is not given has a default.
-/

namespace MockProvider

/-! ## Numbers in variables -/

/-- Why a text is no number. -/
inductive IntegerFault where
  | empty
  | badDigit
  | tooLarge
deriving DecidableEq, Repr

def IntegerFault.message : IntegerFault → String
  | .empty => "cannot parse integer from empty string"
  | .badDigit => "invalid digit found in string"
  | .tooLarge => "number too large to fit in target type"

/-- A number below a bound, continued by digits. The first digit that is none or that makes it too
    large is at fault. -/
def continueNumber (bound : Nat) : (number : Nat) → List Char → Except IntegerFault Nat
  | number, [] => .ok number
  | number, c :: cs =>
    if c.isDigit then
      let next := number * 10 + (c.toNat - '0'.toNat)
      if next < bound then continueNumber bound next cs else .error .tooLarge
    else .error .badDigit

/-- Reads a number below a bound; a plus sign may stand in front. -/
def readNumber (bound : Nat) (text : String) : Except IntegerFault Nat :=
  match text.toList with
  | [] => .error .empty
  | ['+'] => .error .badDigit
  | '+' :: digits => continueNumber bound 0 digits
  | digits => continueNumber bound 0 digits

/-! ## Errors -/

/-- Why there is no configuration. -/
inductive ConfigError where
  | unreadable (path : String)
  | notConfig
  | noDrainTimeout
  | noWorkers
  | notNumber (name value : String) (fault : IntegerFault)
deriving DecidableEq, Repr

namespace ConfigError

def message : ConfigError → String
  | .unreadable path => "Failed to read config file " ++ path
  | .notConfig => "Invalid mock server config"
  | .noDrainTimeout => "drainTimeoutMs must be greater than zero"
  | .noWorkers => "workerThreads must be at least 1"
  | .notNumber name value _ => name ++ " must be an integer, got '" ++ value ++ "'"

def messageWithCause : ConfigError → String
  | .notNumber name value fault =>
    (ConfigError.notNumber name value fault).message ++ ": " ++ fault.message
  | error => error.message

end ConfigError

/-! ## Configurations -/

/-- How a server is set up. -/
structure Config where
  corsPreflight : Bool := false
  drainTimeoutMs : UInt64 := 2000
  workerThreads : UInt64 := 1
deriving DecidableEq, Repr

namespace Config

instance : Inhabited Config := ⟨{}⟩

/-- The configuration, if a server can be set up so. -/
def checked (c : Config) : Except ConfigError Config :=
  if c.drainTimeoutMs = 0 then .error .noDrainTimeout
  else if c.workerThreads = 0 then .error .noWorkers
  else .ok c

/-! ## Documents -/

def fields : List String := ["corsPreflight", "drainTimeoutMs", "workerThreads"]

/-- Reads a choice, when it is given. -/
def choiceOf (default : Bool) : Option Json → Option Bool
  | none => some default
  | some (.bool b) => some b
  | some _ => none

/-- Reads a number, when it is given. -/
def numberOf (default : UInt64) : Option Json → Option UInt64
  | none => some default
  | some value => value.uint64?

def ofFields? : List (Option Json) → Option Config
  | [cors, drain, workers] => do
    let corsPreflight ← choiceOf false cors
    let drainTimeoutMs ← numberOf 2000 drain
    let workerThreads ← numberOf 1 workers
    return { corsPreflight, drainTimeoutMs, workerThreads }
  | _ => none

def ofText (text : String) : Except ConfigError Config :=
  match (Json.record? fields (Bytes.ofString text)).bind ofFields? with
  | some c => c.checked
  | none => .error .notConfig

/-- Reads the configuration of a file, given by its path and by what stands in it. -/
def ofFile (path : String) (content : Option String) : Except ConfigError Config :=
  match content with
  | some text => ofText text
  | none => .error (.unreadable path)

def toJson (c : Config) : Json :=
  .ofMembers
    [("corsPreflight", .bool c.corsPreflight), ("drainTimeoutMs", .ofNat c.drainTimeoutMs.toNat),
      ("workerThreads", .ofNat c.workerThreads.toNat)]

/-! ## Environments -/

/-- The values of variables. -/
abbrev Environment := String → Option String

def isOn (value : String) : Bool :=
  ["1", "true", "yes", "on"].contains (Ascii.lower (Text.trim value))

/-- Reads the number that a variable holds, when it is set. -/
def variableNumber (environment : Environment) (name : String) (default : UInt64) :
    Except ConfigError UInt64 :=
  match environment name with
  | none => .ok default
  | some value =>
    match readNumber UInt64.size (Text.trim value) with
    | .ok n => .ok n.toUInt64
    | .error fault => .error (.notNumber name value fault)

def ofEnvironment (environment : Environment) : Except ConfigError Config := do
  let corsPreflight := (environment "PACT_MOCK_SERVER_CORS").any isOn
  let drainTimeoutMs ← variableNumber environment "PACT_MOCK_SERVER_DRAIN_TIMEOUT_MS" 2000
  let workerThreads ← variableNumber environment "PACT_MOCK_SERVER_WORKER_THREADS" 1
  ({ corsPreflight, drainTimeoutMs, workerThreads } : Config).checked

/-- The configuration that variables give, or else the default one. -/
def ofEnvironmentOrDefault (environment : Environment) : Config :=
  match ofEnvironment environment with
  | .ok c => c
  | .error _ => {}

end Config

end MockProvider
