import QuantumWorkbench.Proofs.Checks
import QuantumWorkbench.Proofs.Settings.Sound
import QuantumWorkbench.Settings.Load

/-!
# Overrides

What the environment puts in the place of settings, and when settings are judged. The environment changes fields of
its own choice and looks at none, so that what it replaces is forgotten. It comes too late, however, for a file that
makes no sense: the settings in a file are judged before they are overridden, and then once more.

## Contents
- `IsNumber`: the numbers that variables take; `Settings.Unusable`, the values that they do not take.
- `Settings.Overrides`: the usable values of an environment; `Settings.override_eq_replace`: they are put in place.
- `Settings.AlikeBesides`: settings that agree in all that is not replaced; `Settings.replace_eq_replace_iff`: these
  are the settings that become the same.
- `Settings.ofText`, `Settings.load_eq`: how settings are loaded.
- `Settings.effective_settings`: the settings that are loaded, and what has no influence on them.
- `Settings.mended_file_refused`: a file that is refused although its only flaw is overridden.
-/

namespace QuantumWorkbench

/-! ## Numbers -/

/-- The text is a number: digits, with a plus before them if one likes. -/
def IsNumber (text : String) (n : Nat) : Prop :=
  ∃ digits : List Char, digits ≠ [] ∧ (∀ c ∈ digits, c.isDigit = true) ∧ digitsValue digits = n ∧
    (text.toList = digits ∨ text.toList = '+' :: digits)

theorem numeral?_eq_some_iff {digits : List Char} {n : Nat} :
    numeral? digits = some n ↔ digits ≠ [] ∧ (∀ c ∈ digits, c.isDigit = true) ∧ digitsValue digits = n := by
  rw [numeral?, Option.ite_none_right_eq_some, Option.some.injEq, List.all_eq_true, and_assoc]

theorem word?_eq_some_iff {bits n : Nat} {text : String} :
    word? bits text = some n ↔ IsNumber text n ∧ n < Nat.pow 2 bits := by
  rw [word?, Option.filter_eq_some_iff, numeral?_eq_some_iff, decide_eq_true_iff]
  refine and_congr_left' ?_
  split
  · rename_i rest signed
    constructor
    · rintro ⟨nonempty, digits, value⟩
      exact ⟨rest, nonempty, digits, value, .inr signed⟩
    · rintro ⟨digits, nonempty, all, value, unsigned | signed'⟩
      · rw [← unsigned, signed, List.forall_mem_cons] at all
        exact absurd all.1 (by decide)
      · cases signed.symm.trans signed'
        exact ⟨nonempty, all, value⟩
  · rename_i unsigned
    constructor
    · rintro ⟨nonempty, digits, value⟩
      exact ⟨text.toList, nonempty, digits, value, .inl rfl⟩
    · rintro ⟨digits, nonempty, all, value, rfl | signed⟩
      · exact ⟨nonempty, all, value⟩
      · exact absurd signed (unsigned digits)

namespace Settings

variable {s t d : Settings} {env env' : Environment} {file : Option String}

/-! ## The environment -/

/-- A value that a variable does not take: it names no evaluator, or is no number in the range of the field. -/
def Unusable (name value : String) : Prop :=
  (name = "QSTEP_EVALUATOR" ∧ value.toLower ∉ ["http", "remote", "local", "sim"]) ∨
  (name = "QSTEP_TIMEOUT" ∧ ¬ ∃ n < UInt64.size, IsNumber value n) ∨
  (name = "QSTEP_SHOTS" ∧ ¬ ∃ n < UInt32.size, IsNumber value n)

/-- The environment without a variable. -/
def Environment.unset (env : Environment) (name : String) : Environment := fun other =>
  if other = name then none else env other

/-- What is put in the place of settings. -/
structure Overrides where
  evaluator : Option EvaluatorKind
  endpoint : Option String
  token : Option String
  timeoutSeconds : Option UInt64
  provider : Option String
  shots : Option UInt32

/-- The usable values of the variables. -/
def Environment.overrides (env : Environment) : Overrides where
  evaluator := (env "QSTEP_EVALUATOR").bind fun value => (EvaluatorKind.ofName value).toOption
  endpoint := env "QSTEP_ENDPOINT"
  token := env "QSTEP_TOKEN"
  timeoutSeconds := ((env "QSTEP_TIMEOUT").bind (word? 64)).map .ofNat
  provider := env "QSTEP_PROVIDER"
  shots := ((env "QSTEP_SHOTS").bind (word? 32)).map .ofNat

/-- The settings with what is put in their place. -/
def Overrides.replace (o : Overrides) (s : Settings) : Settings where
  evaluator := o.evaluator.getD s.evaluator
  endpoint := o.endpoint.getD s.endpoint
  token := o.token.or s.token
  timeoutSeconds := o.timeoutSeconds.getD s.timeoutSeconds
  connectTimeoutSeconds := s.connectTimeoutSeconds
  provider := o.provider.or s.provider
  shots := o.shots.getD s.shots
  backendName := s.backendName
  maxQubits := s.maxQubits

/-- The settings with the change that one variable makes. -/
def amend (env : Environment) (s : Settings) (v : String × (String → Option Change)) : Settings :=
  ((env v.1).bind v.2).elim s (· s)

theorem override_eq_foldl (s : Settings) (env : Environment) : s.override env = knownVariables.foldl (amend env) s :=
  rfl

/-- A variable whose text is taken as it is. -/
theorem amend_text (env : Environment) (s : Settings) (name : String) (set : String → Change) :
    amend env s (name, fun text => some (set text)) = (env name).elim s (set · s) := by
  rw [amend]
  cases env name <;> rfl

/-- A variable whose text is read first. -/
theorem amend_read {α : Type} (env : Environment) (s : Settings) (name : String) (read : String → Option α)
    (set : α → Change) :
    amend env s (name, fun text => (read text).map set) = ((env name).bind read).elim s (set · s) := by
  rw [amend]
  cases env name with
  | none => rfl
  | some text =>
      show ((read text).map set).elim s (· s) = (read text).elim s (set · s)
      cases read text <;> rfl

/-- **The environment puts its usable values in place**, and leaves all else alone. -/
theorem override_eq_replace (s : Settings) (env : Environment) : s.override env = env.overrides.replace s := by
  have evaluator (s : Settings) (o : Option EvaluatorKind) :
      o.elim s (fun kind => { s with evaluator := kind }) = { s with evaluator := o.getD s.evaluator } := by
    cases o <;> rfl
  have endpoint (s : Settings) (o : Option String) :
      o.elim s (fun text => { s with endpoint := text }) = { s with endpoint := o.getD s.endpoint } := by
    cases o <;> rfl
  have token (s : Settings) (o : Option String) :
      o.elim s (fun text => { s with token := some text }) = { s with token := o.or s.token } := by
    cases o <;> rfl
  have timeout (s : Settings) (o : Option Nat) : o.elim s (fun n => { s with timeoutSeconds := .ofNat n }) =
      { s with timeoutSeconds := (o.map .ofNat).getD s.timeoutSeconds } := by
    cases o <;> rfl
  have provider (s : Settings) (o : Option String) :
      o.elim s (fun text => { s with provider := some text }) = { s with provider := o.or s.provider } := by
    cases o <;> rfl
  have shots (s : Settings) (o : Option Nat) :
      o.elim s (fun n => { s with shots := .ofNat n }) = { s with shots := (o.map .ofNat).getD s.shots } := by
    cases o <;> rfl
  rw [override_eq_foldl, Environment.overrides, Overrides.replace]
  simp only [knownVariables, List.foldl_cons, List.foldl_nil, amend_text, amend_read, evaluator, endpoint, token,
    timeout, provider, shots]

/-! ## What is left of the settings -/

/-- The settings agree in all that `o` does not replace. -/
structure AlikeBesides (s : Settings) (o : Overrides) (t : Settings) : Prop where
  evaluator : o.evaluator = none → s.evaluator = t.evaluator
  endpoint : o.endpoint = none → s.endpoint = t.endpoint
  token : o.token = none → s.token = t.token
  timeoutSeconds : o.timeoutSeconds = none → s.timeoutSeconds = t.timeoutSeconds
  connectTimeoutSeconds : s.connectTimeoutSeconds = t.connectTimeoutSeconds
  provider : o.provider = none → s.provider = t.provider
  shots : o.shots = none → s.shots = t.shots
  backendName : s.backendName = t.backendName
  maxQubits : s.maxQubits = t.maxQubits

theorem getD_eq_getD_iff {α : Type} {o : Option α} {a b : α} : o.getD a = o.getD b ↔ (o = none → a = b) := by
  cases o with
  | none => exact ⟨fun same _ => same, fun same => same rfl⟩
  | some => exact iff_of_true rfl nofun

theorem or_eq_or_iff {α : Type} {o a b : Option α} : o.or a = o.or b ↔ (o = none → a = b) := by
  cases o with
  | none => exact ⟨fun same _ => same, fun same => same rfl⟩
  | some => exact iff_of_true rfl nofun

/-- **What is replaced is forgotten**, and nothing else is. -/
theorem replace_eq_replace_iff {o : Overrides} : o.replace s = o.replace t ↔ s.AlikeBesides o t := by
  rw [Overrides.replace, Overrides.replace, mk.injEq]
  simp only [getD_eq_getD_iff, or_eq_or_iff]
  constructor
  · rintro ⟨evaluator, endpoint, token, timeout, connect, provider, shots, backend, limit⟩
    exact ⟨evaluator, endpoint, token, timeout, connect, provider, shots, backend, limit⟩
  · intro alike
    exact ⟨alike.evaluator, alike.endpoint, alike.token, alike.timeoutSeconds, alike.connectTimeoutSeconds,
      alike.provider, alike.shots, alike.backendName, alike.maxQubits⟩

/-! ## Values that are not taken -/

theorem toOption_ofName_eq_none_iff {name : String} :
    (EvaluatorKind.ofName name).toOption = none ↔ name.toLower ∉ ["http", "remote", "local", "sim"] := by
  simp only [List.mem_cons, List.not_mem_nil, or_false, not_or]
  unfold EvaluatorKind.ofName
  split
  case h_5 http remote known sim => exact iff_of_true rfl ⟨http, remote, known, sim⟩
  all_goals
    rename_i known
    rw [known]
    exact iff_of_false nofun (by decide)

theorem word?_eq_none_iff {bits : Nat} {text : String} :
    word? bits text = none ↔ ¬ ∃ n < Nat.pow 2 bits, IsNumber text n := by
  rw [Option.eq_none_iff_forall_ne_some, not_exists]
  refine forall_congr' fun n => not_congr ?_
  rw [word?_eq_some_iff, and_comm]

/-- The values that a variable does not take are those that change nothing. -/
theorem change?_eq_none_iff {v : String × (String → Option Change)} {value : String} (known : v ∈ knownVariables) :
    v.2 value = none ↔ Unusable v.1 value := by
  simp only [knownVariables, List.mem_cons, List.not_mem_nil, or_false] at known
  rcases known with rfl | rfl | rfl | rfl | rfl | rfl
  case inl =>
    rw [Option.map_eq_none_iff, toOption_ofName_eq_none_iff]
    simp [Unusable]
  case inr.inr.inr.inl | inr.inr.inr.inr.inr =>
    rw [Option.map_eq_none_iff, word?_eq_none_iff]
    simp [Unusable, UInt64.size, UInt32.size]
  all_goals simp [Unusable]

/-- Only what variables change counts of an environment. -/
theorem foldl_amend_congr {vs : List (String × (String → Option Change))}
    (same : ∀ v ∈ vs, (env v.1).bind v.2 = (env' v.1).bind v.2) (s : Settings) :
    vs.foldl (amend env) s = vs.foldl (amend env') s := by
  induction vs generalizing s with
  | nil => rfl
  | cons v vs ih =>
      rw [List.forall_mem_cons] at same
      rw [List.foldl_cons, List.foldl_cons, ih same.2, amend, amend, same.1]

/-- **A value that is not taken might as well not be set.** -/
theorem override_unset {name value : String} (set : env name = some value) (unusable : Unusable name value)
    (s : Settings) : s.override (env.unset name) = s.override env := by
  refine foldl_amend_congr (fun v known => ?_) s
  by_cases named : v.1 = name
  · have unset : env.unset name v.1 = none := if_pos named
    rw [unset, named, set, Option.bind_none, Option.bind_some]
    subst named
    exact ((change?_eq_none_iff known).mpr unusable).symm
  · have kept : env.unset name v.1 = env v.1 := if_neg named
    rw [kept]

/-! ## Loading -/

/-- The settings in a file, or the defaults without one. -/
def ofText : Option String → Except SettingsError Settings
  | some text => ofYaml text
  | none => .ok {}

/-- Settings are judged as they are in the file, and once more as the environment changes them. -/
theorem load_eq (file : Option String) (env : Environment) : load file env = (do
    let s ← ofText file
    s.validate
    (s.override env).validate
    return s.override env) := by
  cases file with
  | none =>
      rw [load, ofText, ok_bind, ok_bind, validate_eq_ok_iff.mpr sound_default]
      rfl
  | some text =>
      rw [load, ofFile, ofText]
      cases ofYaml text with
      | error => rfl
      | ok s =>
          rw [ok_bind, ok_bind]
          cases s.validate <;> rfl

theorem load_eq_ok_iff (read : ofText file = .ok d) :
    load file env = .ok s ↔ d.validate = .ok () ∧ (d.override env).validate = .ok () ∧ s = d.override env := by
  rw [load_eq, read, ok_bind]
  constructor
  · intro loaded
    obtain ⟨⟨⟩, valid, loaded⟩ := bind_eq_ok_iff.mp loaded
    obtain ⟨⟨⟩, valid', ⟨⟩⟩ := bind_eq_ok_iff.mp loaded
    exact ⟨valid, valid', rfl⟩
  · rintro ⟨valid, valid', rfl⟩
    rw [valid, ok_bind, valid', ok_bind]
    rfl

/-- Settings that make no sense in the file are refused for their first flaw there. -/
theorem load_of_flawed (read : ofText file = .ok d) {flaw : SettingsFlaw} (flawed : d.flaw? = some flaw) :
    load file env = .error (.flawed flaw) := by
  rw [load_eq, read, ok_bind, validate, flawed]
  rfl

/-- Settings that make sense in the file are judged by what the environment makes of them. -/
theorem load_of_sound (read : ofText file = .ok d) (sound : d.Sound) :
    load file env = (do
      (d.override env).validate
      return d.override env) := by
  rw [load_eq, read, ok_bind, validate_eq_ok_iff.mpr sound, ok_bind]

/-- **The settings that take effect.** Take a file that reads as the settings `d`, or no file and the defaults, and any
environment.
* What is loaded is `d` with the usable values of the environment in place. It is loaded exactly if `d` passes as it
  is and passes again as the environment changes it.
* So what the environment makes of `d` decides alone exactly unless the environment mends `d`. Settings that make no
  sense in the file are refused in every environment, for their first flaw in the file.
* Files that make sense and agree in all that is not replaced lead to the same.
* A variable with a value that is not taken might as well not be set. -/
theorem effective_settings (read : ofText file = .ok d) (env : Environment) :
    let o := env.overrides
    d.override env = o.replace d ∧
    (∀ s, load file env = .ok s ↔
      d.validate = .ok () ∧ (d.override env).validate = .ok () ∧ s = d.override env) ∧
    ((∀ s, load file env = .ok s ↔ (d.override env).validate = .ok () ∧ s = d.override env) ↔
      ((o.replace d).Sound → d.Sound)) ∧
    (¬ d.Sound → ∃ flaw, d.flaw? = some flaw ∧ ∀ env', load file env' = .error (.flawed flaw)) ∧
    (∀ file' d', ofText file' = .ok d' → d.Sound → d'.Sound → d'.AlikeBesides o d →
      load file' env = load file env) ∧
    (∀ name value, env name = some value → Unusable name value → load file (env.unset name) = load file env) := by
  intro o
  have replaced : d.override env = o.replace d := override_eq_replace d env
  have loads : ∀ s, load file env = .ok s ↔ _ := fun s => load_eq_ok_iff read
  refine ⟨replaced, loads, ?_, fun unsound => ?_, ?_, ?_⟩
  · rw [← replaced, ← validate_eq_ok_iff, ← validate_eq_ok_iff]
    constructor
    · intro counts valid
      exact ((loads _).mp ((counts _).mpr ⟨valid, rfl⟩)).1
    · intro sound s
      rw [loads]
      exact and_iff_right_of_imp fun overridden => sound overridden.1
  · cases flawed : d.flaw? with
    | none => exact absurd (flaw?_eq_none_iff.mp flawed) unsound
    | some flaw => exact ⟨flaw, rfl, fun env' => load_of_flawed read flawed⟩
  · intro file' d' read' sound sound' alike
    have same : d'.override env = d.override env := by
      rw [replaced, override_eq_replace, replace_eq_replace_iff.mpr alike]
    rw [load_of_sound read sound, load_of_sound read' sound', same]
  · intro name value set unusable
    rw [load_eq, load_eq, read, ok_bind, ok_bind, override_unset set unusable]

/-- A file with a time and a number of shots. -/
def shotsText (n : Nat) : String := s!"timeout_seconds: 5\nshots: {n}\n"

/-- An environment with a number of shots, and with a time that is none. -/
def fourShots : Environment := fun name => [("QSTEP_SHOTS", "+4"), ("QSTEP_TIMEOUT", "soon")].lookup name

theorem effective_settings_fourShots :
    ∃ d d' : Settings, ofText (some (shotsText 100)) = .ok d ∧ ofText (some (shotsText 7)) = .ok d' ∧
      d.Sound ∧ d'.Sound ∧ d'.AlikeBesides fourShots.overrides d ∧
      fourShots "QSTEP_TIMEOUT" = some "soon" ∧ Unusable "QSTEP_TIMEOUT" "soon" ∧
      load (some (shotsText 100)) fourShots = .ok { timeoutSeconds := 5, shots := 4 } ∧
      load (some (shotsText 7)) fourShots = load (some (shotsText 100)) fourShots ∧
      load (some (shotsText 100)) (fourShots.unset "QSTEP_TIMEOUT") = load (some (shotsText 100)) fourShots := by
  let d : Settings := { timeoutSeconds := 5, shots := 100 }
  let d' : Settings := { timeoutSeconds := 5, shots := 7 }
  have read : ofText (some (shotsText 100)) = .ok d := toOption_eq_some_iff.mp (by decide +kernel)
  have read' : ofText (some (shotsText 7)) = .ok d' := toOption_eq_some_iff.mp (by decide +kernel)
  have sound : d.Sound := flaw?_eq_none_iff.mp (by decide +kernel)
  have sound' : d'.Sound := flaw?_eq_none_iff.mp (by decide +kernel)
  have alike : d'.AlikeBesides fourShots.overrides d := replace_eq_replace_iff.mp (by decide +kernel)
  have unread : word? 64 "soon" = none := by decide
  have unusable : Unusable "QSTEP_TIMEOUT" "soon" := .inr (.inl ⟨rfl, word?_eq_none_iff.mp unread⟩)
  have overridden : d.override fourShots = { timeoutSeconds := 5, shots := 4 } := by decide +kernel
  have passes : (d.override fourShots).validate = .ok () := toOption_eq_some_iff.mp (by decide +kernel)
  obtain ⟨-, loads, -, -, forgets, skips⟩ := effective_settings read fourShots
  have loaded := (loads _).mpr ⟨validate_eq_ok_iff.mpr sound, passes, rfl⟩
  rw [overridden] at loaded
  exact ⟨d, d', read, read', sound, sound', alike, rfl, unusable, loaded, forgets _ d' read' sound sound' alike,
    skips _ _ rfl unusable⟩

/-- **A file that is refused although it is mended.** The only flaw in the file is a number that the environment
replaces, and what the environment makes of the settings passes. They are refused for the number that is replaced. A
file that differs in nothing else is loaded. -/
theorem mended_file_refused :
    ∃ d d' : Settings, ofText (some (shotsText 0)) = .ok d ∧ ofText (some (shotsText 7)) = .ok d' ∧
      d'.AlikeBesides fourShots.overrides d ∧ (d.override fourShots).validate = .ok () ∧
      load (some (shotsText 0)) fourShots = .error (.flawed .zeroShots) ∧
      load (some (shotsText 7)) fourShots = .ok (d.override fourShots) := by
  let d : Settings := { timeoutSeconds := 5, shots := 0 }
  let d' : Settings := { timeoutSeconds := 5, shots := 7 }
  have read : ofText (some (shotsText 0)) = .ok d := toOption_eq_some_iff.mp (by decide +kernel)
  have read' : ofText (some (shotsText 7)) = .ok d' := toOption_eq_some_iff.mp (by decide +kernel)
  have flawed : d.flaw? = some .zeroShots := by decide +kernel
  have alike : d'.AlikeBesides fourShots.overrides d := replace_eq_replace_iff.mp (by decide +kernel)
  have passes : (d.override fourShots).validate = .ok () := toOption_eq_some_iff.mp (by decide +kernel)
  have loaded : load (some (shotsText 7)) fourShots = .ok (d.override fourShots) :=
    (load_eq_ok_iff read').mpr
      ⟨toOption_eq_some_iff.mp (by decide +kernel), toOption_eq_some_iff.mp (by decide +kernel), by decide +kernel⟩
  exact ⟨d, d', read, read', alike, passes, load_of_flawed read flawed, loaded⟩

end Settings

end QuantumWorkbench
