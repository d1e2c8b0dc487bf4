import QuantumWorkbench.Debugger.Interleaving
import QuantumWorkbench.Proofs.Circuit.Index

/-!
# What the sections do

One law for each section of the controller. Everything later about debug sessions goes through these
laws and opens no section again.

## Contents
- The fields of a controller after it has published, and `Controller.current?_eq_some_iff`: the
  session that a section may touch.
- `Controller.start_ok`, `Controller.toggleBreakpoint_ok`, `Controller.stop_running`,
  `Controller.acquire_ok`: the operations of one section, with what each of them refuses.
- `Controller.decide_evaluate` and its companions: each decision with the state it is made in.
- `Controller.settle_ok`, `Controller.settle_error` for the session that a section belongs to, and
  `Controller.settle_gone` for any other. `Controller.release_session?` is for all sessions.
- `Call.ended`, `Call.awaiting`, `Call.advanced`: the stages that the sections of a call lead to,
  with the laws of `Call.decide` and `Call.settle`.
-/

namespace QuantumWorkbench

namespace Controller

/-! ## Publishing -/

@[simp] theorem publish_session? (k : Controller) : k.publish.session? = k.session? := rfl

@[simp] theorem publish_generation (k : Controller) : k.publish.generation = k.generation := rfl

@[simp] theorem publish_idleStates (k : Controller) : k.publish.idleStates = k.idleStates := rfl

@[simp] theorem withSession_session? (k : Controller) (σ : Session) :
    (k.withSession σ).session? = some σ := rfl

@[simp] theorem withSession_generation (k : Controller) (σ : Session) :
    (k.withSession σ).generation = k.generation := rfl

@[simp] theorem withSession_idleStates (k : Controller) (σ : Session) :
    (k.withSession σ).idleStates = k.idleStates := rfl

/-! ## The session a section belongs to -/

variable {k : Controller} {σ : Session} {g : Nat}

theorem current?_eq_some_iff :
    k.current? g = some σ ↔ k.session? = some σ ∧ σ.generation = g := by
  simp [current?, Option.filter_eq_some_iff]

theorem current?_eq_none_iff :
    k.current? g = none ↔ ∀ σ, k.session? = some σ → σ.generation ≠ g := by
  simp [current?, Option.filter_eq_none_iff]

theorem current?_self (h : k.session? = some σ) : k.current? σ.generation = some σ :=
  current?_eq_some_iff.mpr ⟨h, rfl⟩

theorem current?_withSession (k : Controller) (own : σ.generation = g) :
    (k.withSession σ).current? g = some σ :=
  current?_eq_some_iff.mpr ⟨rfl, own⟩

/-- A controller that keeps something of its session had a session to keep it of. -/
theorem exists_session_of_map {α : Type} {keep : Session → α} {k' : Controller}
    (kept : k'.session?.map keep = k.session?.map keep) {σ' : Session}
    (running' : k'.session? = some σ') : ∃ σ, k.session? = some σ ∧ keep σ = keep σ' := by
  rw [running', Option.map_some] at kept
  exact Option.map_eq_some_iff.mp kept.symm

/-! ## Operations of one section -/

theorem start_ok {circuit : Circuit} (h : circuit.validate = .ok ()) :
    k.start circuit = .ok (k.generation + 1,
      { k with generation := k.generation + 1 }.withSession
        (.opening circuit (k.generation + 1))) := by
  unfold start
  rw [h]
  rfl

theorem start_error {circuit : Circuit} {fault : Fault} (h : circuit.validate = .error fault) :
    k.start circuit = .error (.invalid fault) := by
  unfold start
  rw [h]
  rfl

theorem toggleBreakpoint_ok (h : k.session? = some σ) (step : Index) :
    k.toggleBreakpoint step = .ok ((toggle step σ.breakpoints).contains step,
      k.withSession { σ with breakpoints := toggle step σ.breakpoints }) := by
  unfold toggleBreakpoint
  rw [h]

theorem toggleBreakpoint_error (h : k.session? = none) (step : Index) :
    k.toggleBreakpoint step = .error .notRunning := by
  unfold toggleBreakpoint
  rw [h]

/-- A toggle is refused for want of a session only. -/
theorem toggleBreakpoint_eq_error_iff {step : Index} {error : DebugError} :
    k.toggleBreakpoint step = .error error ↔ k.session? = none ∧ error = .notRunning := by
  constructor
  · intro refused
    cases running : k.session? with
    | none =>
        rw [toggleBreakpoint_error running] at refused
        cases refused
        exact ⟨rfl, rfl⟩
    | some σ =>
        rw [toggleBreakpoint_ok running] at refused
        cases refused
  · rintro ⟨idle, rfl⟩
    exact toggleBreakpoint_error idle step

theorem stop_running (h : k.session? = some σ) :
    k.stop = (true, { k with
      session? := none
      idleStates := QubitState.groundStates σ.circuit.qubitCount }.publish) := by
  unfold stop
  rw [h]

theorem stop_idle (h : k.session? = none) : k.stop = (false, k) := by
  unfold stop
  rw [h]

theorem acquire_ok (h : k.session? = some σ) (free : σ.inFlight = false) :
    k.acquire = .ok (σ.generation, k.withSession { σ with inFlight := true }) := by
  unfold acquire
  rw [h]
  simp [free]

theorem acquire_notRunning (h : k.session? = none) : k.acquire = .error .notRunning := by
  unfold acquire
  rw [h]

theorem acquire_inFlight (h : k.session? = some σ) (busy : σ.inFlight = true) :
    k.acquire = .error (.requestInFlight σ.generation) := by
  unfold acquire
  rw [h]
  simp [busy]

/-! ## Sections of an operation that evaluates -/

theorem decide_gone (h : k.current? g = none) (honour : Bool) :
    k.decide g honour = .discarded := by
  unfold decide
  rw [h]

theorem decide_atEnd (h : k.current? g = some σ) (atEnd : σ.circuit.stepCount ≤ σ.cursor)
    (honour : Bool) : k.decide g honour = .endOfCircuit := by
  unfold decide
  rw [h]
  simp [Session.atEnd, atEnd]

theorem decide_breakpoint (h : k.current? g = some σ) (within : σ.cursor < σ.circuit.stepCount)
    (stop : σ.cursor + 1 ∈ σ.breakpoints) : k.decide g true = .breakpoint (σ.cursor + 1) := by
  unfold decide
  rw [h]
  simp [Session.atEnd, UInt32.not_le.mpr within, stop]

theorem decide_evaluate (h : k.current? g = some σ) (within : σ.cursor < σ.circuit.stepCount)
    {honour : Bool} (go : honour = true → σ.cursor + 1 ∉ σ.breakpoints) :
    k.decide g honour = .evaluate σ.circuit σ.cursor := by
  unfold decide
  rw [h]
  cases honour with
  | false => simp [Session.atEnd, UInt32.not_le.mpr within]
  | true => simp [Session.atEnd, UInt32.not_le.mpr within, go rfl]

theorem settle_gone (h : k.current? g = none) (cursor : Index) (answer : Answer) :
    k.settle g cursor answer = (.discarded, k) := by
  unfold settle
  rw [h]

theorem settle_ok (h : k.current? g = some σ) (cursor : Index) (e : Evaluation) :
    k.settle g cursor (.ok e) =
      (.advanced (cursor + 1), k.withSession (σ.advance (cursor + 1) e)) := by
  unfold settle
  rw [h]

theorem settle_error (h : k.current? g = some σ) (cursor : Index) (error : EvaluatorError) :
    k.settle g cursor (.error error) =
      (.failed error.fault, k.withSession (σ.fail error.fault)) := by
  unfold settle
  rw [h]

theorem release_gone (h : k.current? g = none) : k.release g = k := by
  unfold release
  rw [h]

theorem release_current (h : k.current? g = some σ) :
    k.release g = k.withSession { σ with inFlight := false } := by
  unfold release
  rw [h]

theorem release_session?_of_current (h : k.current? g = some σ) :
    (k.release g).session? = some { σ with inFlight := false } := by
  rw [release_current h, withSession_session?]

@[simp] theorem release_generation (k : Controller) (g : Nat) :
    (k.release g).generation = k.generation := by
  unfold release
  split <;> rfl

@[simp] theorem release_idleStates (k : Controller) (g : Nat) :
    (k.release g).idleStates = k.idleStates := by
  unfold release
  split <;> rfl

/-- Giving a session back concerns no other session, and nothing but the flag. -/
theorem release_session? (k : Controller) (g : Nat) :
    (k.release g).session? = k.session?.map fun σ =>
      if σ.generation = g then { σ with inFlight := false } else σ := by
  cases h : k.current? g with
  | none =>
      rw [release_gone h]
      cases hs : k.session? with
      | none => rfl
      | some σ => simp [current?_eq_none_iff.mp h σ hs]
  | some σ =>
      obtain ⟨running, rfl⟩ := current?_eq_some_iff.mp h
      rw [release_current h, running]
      simp

end Controller

/-! ## Sections of a call -/

namespace Call

/-- A call that has its outcome. -/
def ended (c : Call) (outcome : Outcome) : Call := { c with stage := .finishing outcome }

/-- A call that asked about the circuit up to the step after `cursor`. -/
def awaiting (c : Call) (circuit : Circuit) (cursor : Index) : Call :=
  { c with stage := .awaiting circuit cursor }

/-- A call that committed the step to `cursor`. A single step is done with it. -/
def advanced (c : Call) (cursor : Index) : Call :=
  match c.kind with
  | .step => c.ended (.step (.advanced cursor))
  | .run => { c with taken := c.taken + 1, stage := .deciding }

variable {c : Call} {k : Controller} {σ : Session}

@[simp] theorem ended_generation (c : Call) (outcome : Outcome) :
    (c.ended outcome).generation = c.generation := rfl

@[simp] theorem awaiting_generation (c : Call) (circuit : Circuit) (cursor : Index) :
    (c.awaiting circuit cursor).generation = c.generation := rfl

@[simp] theorem advanced_generation (c : Call) (cursor : Index) :
    (c.advanced cursor).generation = c.generation := by
  unfold advanced
  split <;> rfl

@[simp] theorem advanced_kind (c : Call) (cursor : Index) : (c.advanced cursor).kind = c.kind := by
  unfold advanced
  split
  · rfl
  · rfl

theorem ended_stage_ne (c : Call) (outcome : Outcome) (circuit : Circuit) (cursor : Index) :
    (c.ended outcome).stage ≠ .awaiting circuit cursor := by
  simp [ended]

/-- Behind a committed step a call asks for nothing until it decides anew. -/
theorem advanced_stage_ne (c : Call) (cursor : Index) (circuit : Circuit) (asked : Index) :
    (c.advanced cursor).stage ≠ .awaiting circuit asked := by
  unfold advanced
  split <;> simp [ended]

theorem advanced_of_step (step : c.kind = .step) (cursor : Index) :
    c.advanced cursor = c.ended (.step (.advanced cursor)) := by
  unfold advanced
  rw [step]

theorem advanced_of_run (run : c.kind = .run) (cursor : Index) :
    c.advanced cursor = { c with taken := c.taken + 1, stage := .deciding } := by
  unfold advanced
  rw [run]

/-- What a committed step makes of a call does not depend on where the call stood. -/
theorem awaiting_advanced (c : Call) (circuit : Circuit) (cursor next : Index) :
    (c.awaiting circuit cursor).advanced next = c.advanced next := rfl

theorem stopped_of_run (run : c.kind = .run) (reason : StopReason) :
    c.stopped reason = .run c.taken reason := by
  unfold stopped
  rw [run]

theorem discarded_of_step (step : c.kind = .step) : c.stopped .discarded = .step .discarded := by
  unfold stopped
  rw [step]

theorem begin_ok (h : k.session? = some σ) (free : σ.inFlight = false) (kind : CallKind) :
    Call.begin kind k =
      .ok ({ kind, generation := σ.generation }, k.withSession { σ with inFlight := true }) := by
  unfold Call.begin
  rw [Controller.acquire_ok h free]
  rfl

theorem decide_gone (h : k.current? c.generation = none) :
    c.decide k = c.ended (c.stopped .discarded) := by
  unfold decide
  rw [Controller.decide_gone h]
  rfl

theorem decide_atEnd (h : k.current? c.generation = some σ)
    (atEnd : σ.circuit.stepCount ≤ σ.cursor) :
    c.decide k = c.ended (c.stopped .endOfCircuit) := by
  unfold decide
  rw [Controller.decide_atEnd h atEnd]
  rfl

theorem decide_breakpoint (h : k.current? c.generation = some σ) (run : c.kind = .run)
    (within : σ.cursor < σ.circuit.stepCount) (stop : σ.cursor + 1 ∈ σ.breakpoints) :
    c.decide k = c.ended (c.stopped (.breakpoint (σ.cursor + 1))) := by
  unfold decide
  rw [decide_eq_true run, Controller.decide_breakpoint h within stop]
  rfl

theorem decide_evaluate (h : k.current? c.generation = some σ)
    (within : σ.cursor < σ.circuit.stepCount)
    (go : c.kind = .run → σ.cursor + 1 ∉ σ.breakpoints) :
    c.decide k = c.awaiting σ.circuit σ.cursor := by
  unfold decide
  rw [Controller.decide_evaluate h within fun honour => go (of_decide_eq_true honour)]
  rfl

theorem settle_gone (h : k.current? c.generation = none) (cursor : Index) (answer : Answer) :
    c.settle cursor answer k = (c.ended (c.stopped .discarded), k) := by
  unfold settle
  rw [Controller.settle_gone h]
  rcases c with ⟨_ | _, _, _, _⟩ <;> rfl

theorem settle_ok (h : k.current? c.generation = some σ) (cursor : Index) (e : Evaluation) :
    c.settle cursor (.ok e) k =
      (c.advanced (cursor + 1), k.withSession (σ.advance (cursor + 1) e)) := by
  unfold settle advanced
  rw [Controller.settle_ok h]
  rcases c with ⟨_ | _, _, _, _⟩ <;> rfl

theorem settle_error (h : k.current? c.generation = some σ) (cursor : Index)
    (error : EvaluatorError) :
    c.settle cursor (.error error) k =
      (c.ended (c.stopped (.failed error.fault)), k.withSession (σ.fail error.fault)) := by
  unfold settle
  rw [Controller.settle_error h]
  rcases c with ⟨_ | _, _, _, _⟩ <;> rfl

end Call

end QuantumWorkbench
