import Mathlib.Data.List.Forall2
import QuantumWorkbench.Proofs.Circuit.Loaded

/-!
# The first refusal

The look at untrusted values decides what it is said to decide. Nothing of an element of the list of gates
counts but the number under `qubit` in the object under `position`, and nothing behind the first element
that is refused.

## Contents
- `Json.HasField`, `Json.IsInteger`: what stands in a value, and which numbers are whole.
- `Json.Targets`, `Json.RegisterSize`: what an element aims at, and the register that a value declares.
- `Circuit.FirstRefused`: the first element that does not aim into the register.
- `Circuit.validateJsonGates_eq_error_iff`: that one is reported, and nothing else is.
- `Circuit.untrusted_validation`: what is refused, and in which words.
-/

namespace QuantumWorkbench

namespace Json

/-! ## What stands in a value -/

/-- The value is an object with the value `w` under the key. -/
def HasField (v : Json) (key : String) (w : Json) : Prop :=
  ∃ fields, v = .obj fields ∧ fields.lookup key = some w

/-- The value is the whole number `n`, and `n` fits 64 bits with a sign. -/
def IsInteger (v : Json) (n : Int) : Prop :=
  v = .int n ∧ -9223372036854775808 ≤ n ∧ n ≤ 9223372036854775807

/-- The value is an object with an object under `position` that has the whole number `q` under `qubit`. -/
def Targets (v : Json) (q : Int) : Prop :=
  ∃ position w, v.HasField "position" position ∧ position.HasField "qubit" w ∧ w.IsInteger q

/-- The value aims at a qubit of a register of `n` qubits. -/
def AimsInto (n : Int) (v : Json) : Prop := ∃ q, v.Targets q ∧ 0 ≤ q ∧ q < n

/-- The register that the value declares has `n` qubits. Anything but a whole number declares none. -/
def RegisterSize (v : Json) (n : Int) : Prop :=
  (∃ w, v.HasField "qubits" w ∧ w.IsInteger n) ∨
    (¬ ∃ w m, v.HasField "qubits" w ∧ w.IsInteger m) ∧ n = 0

variable {v w : Json} {key : String} {n m q : Int}

theorem field?_eq_some_iff : v.field? key = some w ↔ v.HasField key w := by
  constructor
  · intro found
    obtain ⟨fields, rfl⟩ := exists_obj_of_field? found
    exact ⟨fields, rfl, found⟩
  · rintro ⟨fields, rfl, found⟩
    exact found

theorem items?_eq_some_iff {items : List Json} : v.items? = some items ↔ v = .arr items := by
  cases v with
  | arr listed =>
      constructor
      · rintro ⟨⟩
        rfl
      · rintro ⟨⟩
        rfl
  | _ =>
      constructor
      · rintro ⟨⟩
      · rintro ⟨⟩

theorem integer?_eq_some_iff : v.integer? = some n ↔ v.IsInteger n := by
  have low : Int64.minValue.toInt = -9223372036854775808 := rfl
  have high : Int64.maxValue.toInt = 9223372036854775807 := rfl
  cases v with
  | int m =>
      rw [integer?, low, high]
      constructor
      · intro seen
        by_cases fits : -9223372036854775808 ≤ m ∧ m ≤ 9223372036854775807
        · rw [if_pos fits] at seen
          cases seen
          exact ⟨rfl, fits⟩
        · rw [if_neg fits] at seen
          cases seen
      · rintro ⟨⟨⟩, fits⟩
        exact if_pos fits
  | _ =>
      constructor
      · rintro ⟨⟩
      · rintro ⟨⟨⟩, -⟩

theorem registerSize_iff : v.RegisterSize n ↔ n = ((v.field? "qubits").bind integer?).getD 0 := by
  have seen : ∀ m, (v.field? "qubits").bind integer? = some m ↔ ∃ w, v.HasField "qubits" w ∧ w.IsInteger m := by
    intro m
    simp only [Option.bind_eq_some_iff, field?_eq_some_iff, integer?_eq_some_iff]
  cases declared : (v.field? "qubits").bind integer? with
  | none =>
      have absent : ¬ ∃ w m, v.HasField "qubits" w ∧ w.IsInteger m := by
        rintro ⟨w, m, stated⟩
        cases declared.symm.trans ((seen m).mpr ⟨w, stated⟩)
      constructor
      · rintro (⟨w, stated⟩ | ⟨-, zero⟩)
        · exact absurd ⟨w, n, stated⟩ absent
        · exact zero
      · exact fun zero => .inr ⟨absent, zero⟩
  | some m =>
      obtain ⟨w, stated⟩ := (seen m).mp declared
      constructor
      · rintro (stated' | ⟨absent, -⟩)
        · exact Option.some.inj (((seen n).mpr stated').symm.trans declared)
        · exact absurd ⟨w, m, stated⟩ absent
      · rintro rfl
        exact .inl ⟨w, stated⟩

end Json

namespace Circuit

/-! ## Elements -/

/-- What the look at an element finds is what the element aims at. -/
theorem targetOfJson?_eq_some_iff {e : Json} {q : Int} : targetOfJson? e = some q ↔ e.Targets q := by
  constructor
  · intro looked
    obtain ⟨position, found, behind⟩ := Option.bind_eq_some_iff.mp looked
    obtain ⟨_, -, behind⟩ := Option.bind_eq_some_iff.mp behind
    obtain ⟨w, qubit, whole⟩ := Option.bind_eq_some_iff.mp behind
    exact ⟨position, w, Json.field?_eq_some_iff.mp found, Json.field?_eq_some_iff.mp qubit,
      Json.integer?_eq_some_iff.mp whole⟩
  · rintro ⟨position, w, found, qubit, whole⟩
    obtain ⟨inner, rfl, -⟩ := id qubit
    -- An object passes the guard.
    rw [targetOfJson?, Json.field?_eq_some_iff.mpr found]
    show ((Json.obj inner).field? "qubit").bind Json.integer? = some q
    rw [Json.field?_eq_some_iff.mpr qubit]
    exact Json.integer?_eq_some_iff.mpr whole

theorem targetOfJson?_eq_none_iff {e : Json} : targetOfJson? e = none ↔ ¬ ∃ q, e.Targets q := by
  simp only [← targetOfJson?_eq_some_iff, Option.eq_none_iff_forall_ne_some, not_exists, ne_eq]

/-- The fault that is reported of element number `i`: that it aims at nothing, or what it aims at. -/
def Reports (e : Json) (i : Nat) (fault : Fault) : Prop :=
  (¬ ∃ q, e.Targets q) ∧ fault = .invalidGate i ∨ ∃ q, e.Targets q ∧ fault = .invalidQubit q i

/-- Element number `i` is the first that does not aim into a register of `n` qubits. -/
structure FirstRefused (n : Int) (items : List Json) (i : Nat) (e : Json) : Prop where
  found : items[i]? = some e
  astray : ¬ e.AimsInto n
  before : ∀ e' ∈ items.take i, e'.AimsInto n

variable {n : Int} {items : List Json} {fault : Fault}

/-- **One turn of the look at a list**: the element is reported, or it aims into the register and the look
goes on. -/
theorem validateJsonGates_cons_cases (n : Int) (k : Nat) (e : Json) (rest : List Json) :
    (¬ e.AimsInto n ∧ ∃ fault, validateJsonGates n k (e :: rest) = .error fault ∧ Reports e k fault) ∨
    e.AimsInto n ∧ validateJsonGates n k (e :: rest) = validateJsonGates n (k + 1) rest := by
  rw [validateJsonGates]
  cases target : targetOfJson? e with
  | none =>
      have aimless := targetOfJson?_eq_none_iff.mp target
      refine .inl ⟨?_, _, rfl, .inl ⟨aimless, rfl⟩⟩
      rintro ⟨q, own, -⟩
      exact aimless ⟨q, own⟩
  | some q =>
      have own := targetOfJson?_eq_some_iff.mp target
      by_cases outside : q < 0 ∨ n ≤ q
      · refine .inl ⟨?_, _, if_pos outside, .inr ⟨q, own, rfl⟩⟩
        rintro ⟨q', own', inside⟩
        cases target.symm.trans (targetOfJson?_eq_some_iff.mpr own')
        omega
      · exact .inr ⟨⟨q, own, by omega⟩, if_neg outside⟩

theorem Reports.unique {e : Json} {i : Nat} {fault fault' : Fault} (h : Reports e i fault)
    (h' : Reports e i fault') : fault = fault' := by
  rcases h with ⟨aimless, rfl⟩ | ⟨q, own, rfl⟩
  · rcases h' with ⟨-, rfl⟩ | ⟨q, own, -⟩
    · rfl
    · exact absurd ⟨q, own⟩ aimless
  · rcases h' with ⟨aimless, -⟩ | ⟨q', own', rfl⟩
    · exact absurd ⟨q, own⟩ aimless
    · cases (targetOfJson?_eq_some_iff.mpr own).symm.trans (targetOfJson?_eq_some_iff.mpr own')
      rfl

theorem Reports.gate {e : Json} {i : Nat} (h : Reports e i fault) : fault.gate? = some i := by
  rcases h with ⟨-, rfl⟩ | ⟨_, -, rfl⟩ <;> rfl

/-- The first element astray is the head of the list, or stands behind a head that is not astray. -/
theorem firstRefused_cons {e e' : Json} {rest : List Json} {i : Nat} :
    FirstRefused n (e :: rest) i e' ↔
      (i = 0 ∧ e' = e ∧ ¬ e.AimsInto n) ∨ ∃ k, i = k + 1 ∧ e.AimsInto n ∧ FirstRefused n rest k e' := by
  cases i with
  | zero =>
      constructor
      · rintro ⟨⟨⟩, astray, -⟩
        exact .inl ⟨rfl, rfl, astray⟩
      · rintro (⟨-, rfl, astray⟩ | ⟨_, ⟨⟩, -⟩)
        exact ⟨rfl, astray, nofun⟩
  | succ k =>
      constructor
      · rintro ⟨found, astray, before⟩
        rw [List.take_succ_cons, List.forall_mem_cons] at before
        exact .inr ⟨k, rfl, before.1, found, astray, before.2⟩
      · rintro (⟨⟨⟩, -⟩ | ⟨_, ⟨⟩, inside, found, astray, before⟩)
        refine ⟨found, astray, ?_⟩
        rw [List.take_succ_cons, List.forall_mem_cons]
        exact ⟨inside, before⟩

theorem validateJsonGates_eq_ok_iff {k : Nat} :
    validateJsonGates n k items = .ok () ↔ ∀ e ∈ items, e.AimsInto n := by
  induction items generalizing k with
  | nil => exact iff_of_true rfl (List.forall_mem_nil _)
  | cons e rest ih =>
      rw [List.forall_mem_cons]
      rcases validateJsonGates_cons_cases n k e rest with ⟨astray, _, refused, -⟩ | ⟨inside, onward⟩
      · rw [refused]
        exact iff_of_false nofun fun all => astray all.1
      · rw [onward, ih, and_iff_right inside]

/-- **The first element astray is reported**, and nothing else is. -/
theorem validateJsonGates_eq_error_iff {k : Nat} :
    validateJsonGates n k items = .error fault ↔
      ∃ i e, FirstRefused n items i e ∧ Reports e (k + i) fault := by
  induction items generalizing k with
  | nil =>
      refine iff_of_false nofun ?_
      rintro ⟨_, _, ⟨⟨⟩, -, -⟩, -⟩
  | cons e rest ih =>
      simp only [firstRefused_cons]
      rcases validateJsonGates_cons_cases n k e rest with ⟨astray, own, refused, reports⟩ | ⟨inside, onward⟩
      · rw [refused]
        constructor
        · rintro ⟨⟩
          exact ⟨0, e, .inl ⟨rfl, rfl, astray⟩, reports⟩
        · rintro ⟨i, e', ⟨rfl, rfl, -⟩ | ⟨_, -, inside, -⟩, reports'⟩
          · exact congrArg Except.error (reports.unique reports')
          · exact absurd inside astray
      · rw [onward, ih]
        constructor
        · rintro ⟨i, e', first, reports⟩
          exact ⟨i + 1, e', .inr ⟨i, rfl, inside, first⟩, by rwa [Nat.add_assoc, Nat.add_comm 1] at reports⟩
        · rintro ⟨_, e', ⟨-, -, astray⟩ | ⟨i, rfl, -, first⟩, reports⟩
          · exact absurd inside astray
          · exact ⟨i, e', first, by rwa [Nat.add_assoc, Nat.add_comm 1]⟩

/-! ## Elements that aim alike -/

/-- The elements aim at the same number, or at nothing. -/
def AimAlike (e e' : Json) : Prop := ∀ q, e.Targets q ↔ e'.Targets q

theorem AimAlike.aimsInto_iff {e e' : Json} (h : AimAlike e e') : e.AimsInto n ↔ e'.AimsInto n :=
  exists_congr fun q => and_congr_left' (h q)

theorem AimAlike.reports_iff {e e' : Json} (h : AimAlike e e') {i : Nat} : Reports e i fault ↔ Reports e' i fault :=
  or_congr (and_congr_left' (not_congr (exists_congr h))) (exists_congr fun q => and_congr_left' (h q))

/-- Lists that aim alike as far as the first element astray have it at the same place. -/
theorem FirstRefused.congr {items' : List Json} {i : Nat} {e : Json} (h : FirstRefused n items i e)
    (alike : List.Forall₂ AimAlike (items.take (i + 1)) (items'.take (i + 1))) :
    ∃ e', FirstRefused n items' i e' ∧ AimAlike e e' := by
  induction items generalizing items' i with
  | nil => cases h.found
  | cons head rest ih =>
      cases items' with
      | nil => cases alike
      | cons head' rest' =>
          obtain ⟨same, behind⟩ := List.forall₂_cons.mp alike
          rcases firstRefused_cons.mp h with ⟨rfl, rfl, astray⟩ | ⟨k, rfl, inside, further⟩
          · have astray' : ¬ head'.AimsInto n := fun into => astray (same.aimsInto_iff.mpr into)
            exact ⟨head', firstRefused_cons.mpr (.inl ⟨rfl, rfl, astray'⟩), same⟩
          · obtain ⟨e', first, last⟩ := ih further behind
            exact ⟨e', firstRefused_cons.mpr (.inr ⟨k, rfl, same.aimsInto_iff.mp inside, first⟩), last⟩

/-! ## Values -/

/-- A list of gates is looked at over the register that its value declares. -/
theorem validateJson_of_gates {v : Json} (listed : v.HasField "gates" (.arr items)) (size : v.RegisterSize n) :
    validateJson v = validateJsonGates n 0 items := by
  rw [validateJson, Json.field?_eq_some_iff.mpr listed, Json.registerSize_iff.mp size]
  rfl

theorem validateJson_of_noGates {v : Json} (absent : ¬ ∃ items, v.HasField "gates" (.arr items)) :
    validateJson v = .error (.malformed .gatesNotArray) := by
  have unlisted : (v.field? "gates").bind Json.items? = none := by
    rw [Option.bind_eq_none_iff]
    intro w found
    rw [Option.eq_none_iff_forall_ne_some]
    intro items listed
    rw [Json.items?_eq_some_iff.mp listed] at found
    exact absent ⟨items, Json.field?_eq_some_iff.mp found⟩
  rw [validateJson, unlisted]

/-- What is reported of an element is no fault of the value as a whole. -/
theorem Reports.kind_ne {e : Json} {i : Nat} (h : Reports e i fault) : fault.kind ≠ .parse := by
  rcases h with ⟨-, rfl⟩ | ⟨_, -, rfl⟩ <;> exact nofun

/-- **What is refused, and in which words.**
* A value is malformed, in the words of `gatesNotArray`, if and only if it is no object with a list
  under `gates`.
* Any other value declares a register, of no qubits unless there is a whole number of 64 bits under `qubits`.
  It is valid if and only if each element of the list aims into that register. It is refused with a fault if and
  only if the fault is what is to be reported of the first element astray: that nothing in it can be aimed at, or
  what it aims at.
* Neither what stands behind that element matters nor any other field: a value that declares the same register
  and whose elements aim alike up to there is refused with the same fault. -/
theorem untrusted_validation :
    (∀ v, ((∃ fault, validateJson v = .error fault ∧ fault.kind = .parse) ↔
        ¬ ∃ items, v.HasField "gates" (.arr items)) ∧
      ((¬ ∃ items, v.HasField "gates" (.arr items)) → validateJson v = .error (.malformed .gatesNotArray))) ∧
    (∀ v items, v.HasField "gates" (.arr items) → ∃ n, v.RegisterSize n ∧
      (validateJson v = .ok () ↔ ∀ e ∈ items, e.AimsInto n) ∧
      ∀ fault, validateJson v = .error fault ↔ ∃ i e, FirstRefused n items i e ∧ Reports e i fault) ∧
    ∀ v v' items items' n i fault, v.HasField "gates" (.arr items) → v'.HasField "gates" (.arr items') →
      v.RegisterSize n → v'.RegisterSize n →
      List.Forall₂ AimAlike (items.take (i + 1)) (items'.take (i + 1)) →
      validateJson v = .error fault → fault.gate? = some i → validateJson v' = .error fault := by
  have decides : ∀ {v items n}, v.HasField "gates" (.arr items) → v.RegisterSize n → ∀ fault,
      (validateJson v = .error fault ↔ ∃ i e, FirstRefused n items i e ∧ Reports e i fault) := by
    intro v items n listed size fault
    rw [validateJson_of_gates listed size, validateJsonGates_eq_error_iff]
    simp only [Nat.zero_add]
  refine ⟨fun v => ⟨⟨?_, fun absent => ⟨_, validateJson_of_noGates absent, rfl⟩⟩, validateJson_of_noGates⟩, ?_, ?_⟩
  · rintro ⟨fault, refused, parse⟩ ⟨items, listed⟩
    obtain ⟨_, _, -, reports⟩ := (decides listed (Json.registerSize_iff.mpr rfl) fault).mp refused
    exact reports.kind_ne parse
  · intro v items listed
    have size := (Json.registerSize_iff (v := v)).mpr rfl
    refine ⟨_, size, ?_, decides listed size⟩
    rw [validateJson_of_gates listed size, validateJsonGates_eq_ok_iff]
  · intro v v' items items' n i fault listed listed' size size' alike refused located
    obtain ⟨j, e, first, reports⟩ := (decides listed size fault).mp refused
    have here : j = i := Option.some.inj (reports.gate.symm.trans located)
    rw [here] at first reports
    obtain ⟨e', first', same⟩ := first.congr alike
    exact (decides listed' size' fault).mpr ⟨i, e', first', same.reports_iff.mp reports⟩

/-- The gates of a list over two qubits: the first is in order, and the others are given. -/
def listing (others : List Json) : Json :=
  .obj [("gates", .arr ((Gate.hadamard 0 0).toJson :: others)), ("qubits", .int 2)]

/-- The second element of `fractional` aims at a double. The third one would aim outside. -/
def fractional : List Json :=
  [.obj [("type", .str "X"), ("position", .obj [("qubit", .real 1.0), ("step", .int 1)])],
    .obj [("position", .obj [("qubit", .int 7)])]]

/-- The second element of `positionless` is no object at all, and there is no other. -/
def positionless : List Json := [.arr [.int 1]]

/-- Both lists are refused for their second elements, which aim at nothing. -/
theorem untrusted_validation_aimless :
    (∃ n, (listing fractional).RegisterSize n ∧ ¬ validateJson (listing fractional) = .ok ()) ∧
    validateJson (listing fractional) = .error (.invalidGate 1) ∧
    validateJson (listing positionless) = .error (.invalidGate 1) := by
  have listed : ∀ others, (listing others).HasField "gates" (.arr ((Gate.hadamard 0 0).toJson :: others)) :=
    fun _ => ⟨_, rfl, rfl⟩
  have size : ∀ others, (listing others).RegisterSize 2 := fun _ => Json.registerSize_iff.mpr rfl
  have aimless : ∀ {e : Json}, targetOfJson? e = none → ∀ q, ¬ e.Targets q :=
    fun none_found q aims => targetOfJson?_eq_none_iff.mp none_found ⟨q, aims⟩
  have alike : List.Forall₂ AimAlike (((Gate.hadamard 0 0).toJson :: fractional).take 2)
      (((Gate.hadamard 0 0).toJson :: positionless).take 2) :=
    .cons (fun _ => Iff.rfl) (.cons (fun q => iff_of_false (aimless rfl q) (aimless rfl q)) .nil)
  have refused : validateJson (listing fractional) = .error (.invalidGate 1) := rfl
  obtain ⟨n, declared, valid, -⟩ := untrusted_validation.2.1 _ _ (listed fractional)
  refine ⟨⟨n, declared, fun accepted => ?_⟩, refused, ?_⟩
  · obtain ⟨q, aims, -⟩ := valid.mp accepted _ (.tail _ (.head _))
    exact aimless rfl q aims
  · exact untrusted_validation.2.2 _ _ _ _ 2 1 _ (listed fractional) (listed positionless) (size _) (size _)
      alike refused rfl

end Circuit

end QuantumWorkbench
