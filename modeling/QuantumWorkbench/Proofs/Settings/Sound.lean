import QuantumWorkbench.Settings.Basic

/-!
# Sound settings

What the checks of settings amount to, field by field.

## Contents
- `Settings.Sound`: the settings make sense.
- `Settings.validate_eq_ok_iff`: these are the settings that pass.
- `Settings.sound_default`: the defaults are among them.
-/

namespace QuantumWorkbench.Settings

/-- The settings make sense. The evaluator, the token and the machine may be any. -/
structure Sound (s : Settings) : Prop where
  endpoint : "http://".toList <+: s.endpoint.toList ∨ "https://".toList <+: s.endpoint.toList
  timeoutSeconds : s.timeoutSeconds ≠ 0
  connectTimeoutSeconds : s.connectTimeoutSeconds ≠ 0
  shots : s.shots ≠ 0
  provider : ∀ name, s.provider = some name → name ∈ providers
  maxQubits : s.maxQubits ≠ 0 ∧ s.maxQubits ≤ 30

variable {s : Settings}

/-- A check is passed, and then the ones behind it. -/
theorem checked_eq_none_iff {p : Prop} [Decidable p] {flaw : SettingsFlaw} {rest : Option SettingsFlaw} :
    (if p then some flaw else rest) = none ↔ ¬ p ∧ rest = none := by
  by_cases fails : p
  · rw [if_pos fails]
    exact iff_of_false nofun fun passed => passed.1 fails
  · rw [if_neg fails]
    exact (and_iff_right fails).symm

theorem isHttp_iff : ("http://".isPrefixOf s.endpoint || "https://".isPrefixOf s.endpoint) = true ↔
    "http://".toList <+: s.endpoint.toList ∨ "https://".toList <+: s.endpoint.toList :=
  Bool.or_eq_true_iff.trans (or_congr String.startsWith_string_iff String.startsWith_string_iff)

theorem unknownProvider_eq_none_iff :
    s.provider.filter (!providers.contains ·) = none ↔ ∀ name, s.provider = some name → name ∈ providers := by
  rw [Option.filter_eq_none_iff]
  refine forall₂_congr fun name _ => ?_
  rw [Bool.not_eq_true', Bool.not_eq_false, List.contains_iff_mem]

theorem flaw?_eq_none_iff : s.flaw? = none ↔ s.Sound := by
  rw [flaw?, checked_eq_none_iff, checked_eq_none_iff, checked_eq_none_iff, Bool.not_eq_true', Bool.not_eq_false,
    isHttp_iff, not_or]
  cases unknown : s.provider.filter (!providers.contains ·) with
  | some name =>
      refine iff_of_false ?_ fun sound => ?_
      · rintro ⟨-, -, -, ⟨⟩⟩
      · rw [unknownProvider_eq_none_iff.mpr sound.provider] at unknown
        cases unknown
  | none =>
      rw [checked_eq_none_iff, not_or, UInt32.not_lt]
      constructor
      · rintro ⟨endpoint, ⟨timeout, connect⟩, shots, limit, -⟩
        exact ⟨endpoint, timeout, connect, shots, unknownProvider_eq_none_iff.mp unknown, limit⟩
      · intro sound
        exact ⟨sound.endpoint, ⟨sound.timeoutSeconds, sound.connectTimeoutSeconds⟩, sound.shots, sound.maxQubits, rfl⟩

/-- **What passes is what makes sense.** -/
theorem validate_eq_ok_iff : s.validate = .ok () ↔ s.Sound := by
  rw [← flaw?_eq_none_iff, validate]
  cases s.flaw? with
  | none => exact iff_of_true rfl rfl
  | some flaw => exact iff_of_false nofun nofun

theorem sound_default : ({} : Settings).Sound := flaw?_eq_none_iff.mp (by decide +kernel)

end QuantumWorkbench.Settings
