import QuantumWorkbench.Json.Shape
import QuantumWorkbench.Settings.Basic
import QuantumWorkbench.Yaml.Document

/-!
# Where settings come from

## Contents
- `Settings.Entry`, `Settings.entries`: the names in a settings document, each with the change that
  its value makes.
- `Settings.ofYaml`, `Settings.ofJson`: the defaults, changed by the entries of a document.
- `Settings.override`: the changes that environment variables make. A variable whose value is no
  number or no evaluator changes nothing.
- `Settings.load`: the settings of a session, from a file and the environment.
-/

namespace QuantumWorkbench.Settings

/-- A change to settings. -/
abbrev Change := Settings → Settings

/-! ## Documents -/

/-- A name in a settings document, with its readers for both notations. -/
structure Entry where
  name : String
  ofJson : Json → Except ShapeError Change
  ofYaml : Yaml.Scalar → Option Change

/-- An entry that is a text. -/
def textEntry (name : String) (set : String → Change) : Entry where
  name
  ofJson v := set <$> v.readString
  ofYaml v := some (set v.text)

/-- An entry that is a text or left open. -/
def textOptionEntry (name : String) (set : Option String → Change) : Entry where
  name
  ofJson v := set <$> v.readOption Json.readString
  ofYaml v := some (set (if v.isNull then none else some v.text))

/-- An entry that is a word of 64 bits. -/
def countEntry (name : String) (set : UInt64 → Change) : Entry where
  name
  ofJson v := set <$> v.readCount
  ofYaml v := (v.word? 64).map fun n => set (.ofNat n)

/-- An entry that is a word of 32 bits. -/
def indexEntry (name : String) (set : UInt32 → Change) : Entry where
  name
  ofJson v := set <$> v.readIndex
  ofYaml v := (v.word? 32).map fun n => set (.ofNat n)

def evaluatorEntry : Entry where
  name := "evaluator"
  ofJson v := (fun kind s => { s with evaluator := kind }) <$>
    v.readVariant ["http", "local"] EvaluatorKind.ofDataName?
  ofYaml v := (EvaluatorKind.ofDataName? v.text).map fun kind s => { s with evaluator := kind }

/-- The entries in the order in which an array lists them. -/
def entries : List Entry :=
  [evaluatorEntry,
    textEntry "endpoint" fun v s => { s with endpoint := v },
    textOptionEntry "token" fun v s => { s with token := v },
    countEntry "timeout_seconds" fun v s => { s with timeoutSeconds := v },
    countEntry "connect_timeout_seconds" fun v s => { s with connectTimeoutSeconds := v },
    textOptionEntry "provider" fun v s => { s with provider := v },
    indexEntry "shots" fun v s => { s with shots := v },
    textOptionEntry "backend_name" fun v s => { s with backendName := v },
    indexEntry "max_qubits" fun v s => { s with maxQubits := v }]

def entry? (name : String) : Option Entry := entries.find? (·.name = name)

/-- Changes `s` by the values of a document, whose known names occur once each. Unknown names are
passed over. -/
def applyEntries (seen : List String) (s : Settings) :
    List (Yaml.Scalar × Yaml.Scalar) → Option Settings
  | [] => some s
  | (key, value) :: rest =>
    match entry? key.text with
    | none => applyEntries seen s rest
    | some e =>
      if e.name ∈ seen then none
      else (e.ofYaml value).bind fun change => applyEntries (e.name :: seen) (change s) rest

/-- Changes `s` by values in the order of `entries`. -/
def applyItems (s : Settings) : List Entry → List Yaml.Scalar → Option Settings
  | _, [] => some s
  | e :: entries, value :: rest =>
    (e.ofYaml value).bind fun change => applyItems (change s) entries rest
  | [], _ :: _ => none

/-- The settings in a YAML document. -/
def ofDocument? : Yaml.Document → Option Settings
  | .entries list => applyEntries [] {} list
  | .items list => applyItems {} entries list

/-- The settings in a YAML text, which has to be flat: scalars under names, or a list of them.
Nested values, block scalars, anchors and tags are refused, also under names that are passed over.
The laws of loading use nothing of the reader but what it makes of a text. -/
def ofYaml (text : String) : Except SettingsError Settings :=
  match (Yaml.document? text).bind ofDocument? with
  | some s => .ok s
  | none => .error .malformed

/-- Changes `s` by the fields of an object. -/
def applyJson (s : Settings) : List (String × Json) → Except ShapeError Settings
  | [] => .ok s
  | (key, value) :: rest =>
    match entry? key with
    | none => applyJson s rest
    | some e => do
      let change ← e.ofJson value
      applyJson (change s) rest

/-- The settings in a JSON value. -/
def ofJson : Json → Except ShapeError Settings :=
  Json.readRecord "EvaluatorConfig"
    (entries.map fun e =>
      { name := e.name, optional := true, check := fun v => (fun _ => ()) <$> e.ofJson v })
    (applyJson {})

/-! ## The environment -/

/-- The values of environment variables. -/
abbrev Environment := String → Option String

/-- A variable with the change that its value makes, if it makes one. -/
def knownVariables : List (String × (String → Option Change)) :=
  [("QSTEP_EVALUATOR", fun v =>
      (EvaluatorKind.ofName v).toOption.map fun kind s => { s with evaluator := kind }),
    ("QSTEP_ENDPOINT", fun v => some fun s => { s with endpoint := v }),
    ("QSTEP_TOKEN", fun v => some fun s => { s with token := some v }),
    ("QSTEP_TIMEOUT", fun v =>
      (QuantumWorkbench.word? 64 v).map fun n s => { s with timeoutSeconds := .ofNat n }),
    ("QSTEP_PROVIDER", fun v => some fun s => { s with provider := some v }),
    ("QSTEP_SHOTS", fun v =>
      (QuantumWorkbench.word? 32 v).map fun n s => { s with shots := .ofNat n })]

/-- The settings with the changes that the environment makes. -/
def override (s : Settings) (env : Environment) : Settings :=
  knownVariables.foldl (fun s (name, change?) => ((env name).bind change?).elim s (· s)) s

/-- The settings of a file, which must make sense by themselves. -/
def ofFile (text : String) : Except SettingsError Settings := do
  let s ← ofYaml text
  s.validate
  return s

/-- The settings of a file, or the defaults without one, as the environment changes them. -/
def load (file : Option String) (env : Environment) : Except SettingsError Settings := do
  let s ← match file with
    | some text => ofFile text
    | none => .ok {}
  let s := s.override env
  s.validate
  return s

end QuantumWorkbench.Settings
