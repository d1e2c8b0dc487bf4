import QuantumWorkbench.Json.Printer
import QuantumWorkbench.Text.Literal

/-!
# Settings

Which evaluator to use and how.

## Contents
- `EvaluatorKind`: the service behind an address, or the simulator in this process.
- `Settings`: the settings with their defaults.
- `SettingsError`: why settings cannot be had; `Settings.validate` finds those that make no sense.
- `Settings.toJson`, `Settings.describe`: two written forms. Neither holds the token.
-/

namespace QuantumWorkbench

/-- The evaluators to choose from. -/
inductive EvaluatorKind where
  | service
  | simulator
deriving DecidableEq, Repr

namespace EvaluatorKind

def name : EvaluatorKind → String
  | service => "http"
  | simulator => "local"

/-- The name with a capital, as descriptions have it. -/
def title : EvaluatorKind → String
  | service => "Http"
  | simulator => "Local"

/-- An evaluator by its exact name, as in data. -/
def ofDataName? : String → Option EvaluatorKind
  | "http" => some service
  | "local" => some simulator
  | _ => none

end EvaluatorKind

/-- What is wrong with settings. -/
inductive SettingsFlaw where
  | unknownEvaluator (name : String)
  | endpointNotHttp (endpoint : String)
  | zeroTimeout
  | zeroShots
  | unknownProvider (name : String)
  | registerLimit (limit : UInt32)
deriving DecidableEq, Repr

/-- The providers whose machines the service can use. -/
def providers : List String := ["ibm", "rigetti", "google", "microsoft"]

def SettingsFlaw.message : SettingsFlaw → String
  | unknownEvaluator name => s!"Unknown evaluator: {name}"
  | endpointNotHttp endpoint => s!"Endpoint must be an http(s) URL: {endpoint}"
  | zeroTimeout => "Timeouts must be greater than zero"
  | zeroShots => "Shots must be greater than zero"
  | unknownProvider name =>
    let known := ", ".intercalate providers
    s!"Unknown provider: {name} (expected one of {known})"
  | registerLimit limit => s!"max_qubits must be in 1..=30, got {limit}"

/-- Why there are no settings. -/
inductive SettingsError where
  /-- The file cannot be read. -/
  | unreadable (path reason : String)
  /-- The text is no settings document. -/
  | malformed
  | flawed (flaw : SettingsFlaw)
deriving DecidableEq, Repr

def SettingsError.message : SettingsError → String
  | unreadable path reason => s!"IO error: {path}: {reason}"
  | malformed => "Parse error: the text is not a settings document"
  | flawed flaw => s!"Validation error: {flaw.message}"

/-- An evaluator by a name that a user gives, in any case of ASCII letters. -/
def EvaluatorKind.ofName (name : String) : Except SettingsError EvaluatorKind :=
  match name.toLower with
  | "http" | "remote" => .ok service
  | "local" | "sim" => .ok simulator
  | other => .error (.flawed (.unknownEvaluator other))

/-- The settings of an evaluator and of the generation service. -/
structure Settings where
  evaluator : EvaluatorKind := .service
  /-- The address of the service. -/
  endpoint : String := "http://localhost:8000"
  /-- The credential that generation needs. -/
  token : Option String := none
  timeoutSeconds : UInt64 := 60
  connectTimeoutSeconds : UInt64 := 10
  /-- With a provider, circuits are executed on its machines and not simulated. -/
  provider : Option String := none
  shots : UInt32 := 1024
  /-- The machine of the provider. -/
  backendName : Option String := none
  /-- The largest register that the simulator accepts. -/
  maxQubits : UInt32 := 20
deriving DecidableEq, Repr

namespace Settings

/-- The first flaw, in the order of the checks. -/
def flaw? (s : Settings) : Option SettingsFlaw :=
  if !("http://".isPrefixOf s.endpoint || "https://".isPrefixOf s.endpoint) then
    some (.endpointNotHttp s.endpoint)
  else if s.timeoutSeconds = 0 ∨ s.connectTimeoutSeconds = 0 then some .zeroTimeout
  else if s.shots = 0 then some .zeroShots
  else match s.provider.filter (!providers.contains ·) with
    | some name => some (.unknownProvider name)
    | none => if s.maxQubits = 0 ∨ 30 < s.maxQubits then some (.registerLimit s.maxQubits) else none

/-- Settings without a flaw. -/
def validate (s : Settings) : Except SettingsError Unit :=
  match s.flaw? with
  | some flaw => .error (.flawed flaw)
  | none => .ok ()

/-- The settings as data, less the token. -/
def toJson (s : Settings) : Json :=
  let text? : Option String → Json
    | some t => .str t
    | none => .null
  .obj [("evaluator", .str s.evaluator.name), ("endpoint", .str s.endpoint),
    ("timeout_seconds", .int s.timeoutSeconds.toNat),
    ("connect_timeout_seconds", .int s.connectTimeoutSeconds.toNat),
    ("provider", text? s.provider), ("shots", .int s.shots.toNat),
    ("backend_name", text? s.backendName), ("max_qubits", .int s.maxQubits.toNat)]

/-- What stands for a token wherever one would be shown. -/
def hiddenToken (token : Option String) : Option String := token.map fun _ => "[REDACTED]"

/-- The settings on one line, with the token hidden. -/
def describe (s : Settings) : String :=
  "EvaluatorConfig \x7b " ++ ", ".intercalate
    ["evaluator: " ++ s.evaluator.title,
      "endpoint: " ++ literalText s.endpoint,
      "token: " ++ optionText (hiddenToken s.token),
      s!"timeout_seconds: {s.timeoutSeconds}",
      s!"connect_timeout_seconds: {s.connectTimeoutSeconds}",
      "provider: " ++ optionText s.provider,
      s!"shots: {s.shots}",
      "backend_name: " ++ optionText s.backendName,
      s!"max_qubits: {s.maxQubits}"] ++ " \x7d"

end Settings

end QuantumWorkbench
