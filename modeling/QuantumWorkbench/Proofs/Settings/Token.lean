import QuantumWorkbench.Console.Load
import QuantumWorkbench.Proofs.Settings.Overrides

/-!
# The token in settings

Loading carries a token along and does not look at it: no check depends on it, one variable sets it, and the others
leave it alone.

## Contents
- `Settings.withToken`: the same settings with another token; `Settings.AlikeButToken`, settings that differ in
  nothing else.
- `Settings.token_override`, `Settings.AlikeButToken.override`: the token and all else, as the environment changes them.
- `FileView.agree_loadSettings`: files and variables that agree up to the token lead to settings that do.
-/

namespace QuantumWorkbench

namespace Settings

/-- The settings with the given token, or with none. -/
def withToken (s : Settings) (token : Option String) : Settings := { s with token }

/-- The settings differ in the token at most. -/
def AlikeButToken (s t : Settings) : Prop := s.withToken none = t.withToken none

variable {s t : Settings} {env env' : Environment}

theorem withToken_withToken (s : Settings) (token token' : Option String) :
    (s.withToken token).withToken token' = s.withToken token' := rfl

theorem withToken_self (s : Settings) : s.withToken s.token = s := rfl

theorem validate_withToken (s : Settings) (token : Option String) : (s.withToken token).validate = s.validate := rfl

theorem AlikeButToken.withToken (alike : s.AlikeButToken t) (token : Option String) :
    s.withToken token = t.withToken token := by
  rw [← s.withToken_withToken none, ← t.withToken_withToken none, show s.withToken none = t.withToken none from alike]

theorem AlikeButToken.validate (alike : s.AlikeButToken t) : s.validate = t.validate := by
  rw [← s.validate_withToken none, ← t.validate_withToken none, show s.withToken none = t.withToken none from alike]

/-! ## The environment -/

/-- The name of the variable that holds a token. -/
def tokenVariable : String := "QSTEP_TOKEN"

theorem token_override (s : Settings) (env : Environment) :
    (s.override env).token = (env tokenVariable).or s.token := by
  rw [override_eq_replace]
  rfl

/-- Environments that agree up to the token's variable put the same in place, up to the token. -/
theorem overrides_withoutToken (same : ∀ name, name ≠ tokenVariable → env name = env' name) :
    { env.overrides with token := none } = { env'.overrides with token := none } := by
  rw [Environment.overrides, Environment.overrides, same "QSTEP_EVALUATOR" (by decide),
    same "QSTEP_ENDPOINT" (by decide), same "QSTEP_TIMEOUT" (by decide), same "QSTEP_PROVIDER" (by decide),
    same "QSTEP_SHOTS" (by decide)]

/-- **What the environment changes does not depend on the token**, and is the same up to the token's variable. -/
theorem AlikeButToken.override (alike : s.AlikeButToken t)
    (same : ∀ name, name ≠ tokenVariable → env name = env' name) :
    (s.override env).AlikeButToken (t.override env') := by
  have hidden (s : Settings) (env : Environment) :
      (s.override env).withToken none = { env.overrides with token := none }.replace (s.withToken none) := by
    rw [override_eq_replace]
    rfl
  unfold AlikeButToken
  rw [hidden, hidden, overrides_withoutToken same, alike.withToken none]

end Settings

namespace FileView

open Settings

variable {files files' : FileView} {env env' : Environment} {config : Option String}
  {evaluator : Option EvaluatorKind} {s t : Settings}

/-- The token that a session is given, by its variable or else by the settings file. -/
def token? (files : FileView) (env : Environment) (config : Option String) : Option String :=
  (env tokenVariable).or do
    let file ← (files.settingsText config).toOption
    let s ← (ofText file).toOption
    s.token

/-- The settings that a session gets out of those in its file. -/
def settle (env : Environment) (evaluator : Option EvaluatorKind) (s : Settings) : Except SettingsError Settings := do
  s.validate
  (s.override env).validate
  let s := s.override env
  return { s with evaluator := evaluator.getD s.evaluator }

theorem loadSettings_eq (files : FileView) (env : Environment) (config : Option String)
    (evaluator : Option EvaluatorKind) : files.loadSettings env config evaluator = (do
      let file ← files.settingsText config
      let s ← ofText file
      settle env evaluator s).mapError .settings := by
  rw [loadSettings]
  cases files.settingsText config with
  | error => rfl
  | ok file =>
      rw [ok_bind, ok_bind, load_eq]
      cases ofText file with
      | error => rfl
      | ok s =>
          rw [ok_bind, ok_bind, settle]
          cases s.validate with
          | error => rfl
          | ok =>
              rw [ok_bind, ok_bind]
              cases (s.override env).validate <;> rfl

theorem token_settle (settled : settle env evaluator s = .ok t) : t.token = (env tokenVariable).or s.token := by
  obtain ⟨-, -, settled⟩ := bind_eq_ok_iff.mp settled
  obtain ⟨-, -, ⟨⟩⟩ := bind_eq_ok_iff.mp settled
  exact token_override s env

/-- **The settings of a session have the token that the session is given.** -/
theorem token_loadSettings (loaded : files.loadSettings env config evaluator = .ok s) :
    s.token = files.token? env config := by
  rw [loadSettings_eq, mapError_eq_ok_iff] at loaded
  obtain ⟨file, found, loaded⟩ := bind_eq_ok_iff.mp loaded
  obtain ⟨d, read, loaded⟩ := bind_eq_ok_iff.mp loaded
  rw [token_settle loaded, token?, found]
  simp only [Except.toOption, Option.bind_eq_bind, Option.bind_some, read]

/-- Both fail alike, or both succeed with settings that differ in the token at most. -/
inductive Agree {ε : Type} : Except ε Settings → Except ε Settings → Prop where
  | error (e : ε) : Agree (.error e) (.error e)
  | ok {s t : Settings} (alike : s.AlikeButToken t) : Agree (.ok s) (.ok t)

theorem Agree.mapError {ε ε' : Type} {x y : Except ε Settings} (agree : Agree x y) (f : ε → ε') :
    Agree (x.mapError f) (y.mapError f) := by
  cases agree with
  | error e => exact .error (f e)
  | ok alike => exact .ok alike

theorem agree_settle (alike : s.AlikeButToken t) (same : ∀ name, name ≠ tokenVariable → env name = env' name) :
    Agree (settle env evaluator s) (settle env' evaluator t) := by
  have changed := alike.override same
  rw [settle, settle, alike.validate, changed.validate]
  cases t.validate with
  | error e => exact .error e
  | ok =>
      cases (t.override env').validate with
      | error e => exact .error e
      | ok =>
          let choose (u : Settings) : Settings := { u with evaluator := evaluator.getD u.evaluator }
          have chosen : choose ((s.override env).withToken none) = choose ((t.override env').withToken none) :=
            congrArg choose changed
          exact .ok chosen

/-- Two settings files, as they are found: they are the same, or they read as settings that differ in the token at
most. -/
inductive SameButToken (x y : Except SettingsError (Option String)) : Prop where
  | same (same : x = y)
  | apart {file file' : Option String} {s t : Settings} (found : x = .ok file) (found' : y = .ok file')
      (read : ofText file = .ok s) (read' : ofText file' = .ok t) (alike : s.AlikeButToken t)

/-- **Files and variables that agree up to the token lead to settings that do.** -/
theorem agree_loadSettings (same : ∀ name, name ≠ tokenVariable → env name = env' name)
    (files_same : SameButToken (files.settingsText config) (files'.settingsText config)) :
    Agree (files.loadSettings env config evaluator) (files'.loadSettings env' config evaluator) := by
  rw [loadSettings_eq, loadSettings_eq]
  apply Agree.mapError
  cases files_same with
  | same found =>
      rw [found]
      cases files'.settingsText config with
      | error e => exact .error e
      | ok file =>
          rw [ok_bind, ok_bind]
          cases ofText file with
          | error e => exact .error e
          | ok s => exact agree_settle rfl same
  | apart found found' read read' alike =>
      rw [found, found', ok_bind, ok_bind, read, read']
      exact agree_settle alike same

end FileView

end QuantumWorkbench
