import QuantumWorkbench.Proofs.Debugger.Sections

/-!
# Transitions of the debugger

`Debugger.step` read as a relation with one rule for each way in which an event can end. A rule says
what has to hold before, what is replied, what goes into the history, and what the state is after.
Invariants are proved by cases on the rules.

## Contents
- `Debugger.Entry`, `Debugger.history`: what happened to the sessions, told by the events alone.
- The table of calls: `Debugger.call?_withCall`, `Debugger.call?_without`, `Debugger.call?_joined`.
- `Debugger.Step` and `Debugger.step_spec`: every step follows a rule.
- `Debugger.run_induction`: what holds at the start and is kept by the rules holds after every run,
  of the state together with its history.
- `Debugger.halfway`: a short run with a call under way.
-/

namespace QuantumWorkbench

/-- The controller with a session just opened. -/
def Controller.opened (k : Controller) (circuit : Circuit) : Controller :=
  { k with generation := k.generation + 1 }.withSession (.opening circuit (k.generation + 1))

/-- The controller without the session that was running. -/
def Controller.closed (k : Controller) (σ : Session) : Controller :=
  { k with
    session? := none
    idleStates := QubitState.groundStates σ.circuit.qubitCount }.publish

@[simp] theorem Controller.opened_session? (k : Controller) (circuit : Circuit) :
    (k.opened circuit).session? = some (.opening circuit (k.generation + 1)) := rfl

@[simp] theorem Controller.opened_generation (k : Controller) (circuit : Circuit) :
    (k.opened circuit).generation = k.generation + 1 := rfl

@[simp] theorem Controller.closed_session? (k : Controller) (σ : Session) :
    (k.closed σ).session? = none := rfl

@[simp] theorem Controller.closed_generation (k : Controller) (σ : Session) :
    (k.closed σ).generation = k.generation := rfl

@[simp] theorem Controller.closed_idleStates (k : Controller) (σ : Session) :
    (k.closed σ).idleStates = QubitState.groundStates σ.circuit.qubitCount := rfl

namespace Debugger

/-! ## History -/

/-- Something that happened to a session. -/
inductive Entry where
  | opened (session : Nat) (circuit : Circuit)
  /-- The session was stopped. A session that is replaced is not. -/
  | stopped (session : Nat) (circuit : Circuit)
  /-- A call asked about the first `limit` steps of the circuit. -/
  | asked (call session : Nat) (circuit : Circuit) (limit : Index)
  /-- The answer to a call was committed to its session. -/
  | settled (call session : Nat) (limit : Index) (answer : Answer)
  /-- The answer to a call came when its session was gone. -/
  | lost (call session : Nat) (limit : Index) (answer : Answer)

/-- What an event adds to the history. -/
def entries (s : Debugger) : Event → List Entry
  | .start circuit =>
    match s.controller.start circuit with
    | .ok (generation, _) => [.opened generation circuit]
    | .error _ => []
  | .stop =>
    match s.controller.session? with
    | some σ => [.stopped σ.generation σ.circuit]
    | none => []
  | .decide n =>
    match s.call? n with
    | none => []
    | some c =>
      match c.stage, (c.decide s.controller).stage with
      | .deciding, .awaiting circuit cursor => [.asked n c.generation circuit (cursor + 1)]
      | _, _ => []
  | .answer n answer =>
    match s.call? n with
    | none => []
    | some c =>
      match c.stage, s.controller.current? c.generation with
      | .awaiting _ cursor, some _ => [.settled n c.generation (cursor + 1) answer]
      | .awaiting _ cursor, none => [.lost n c.generation (cursor + 1) answer]
      | _, _ => []
  | .toggleBreakpoint _ | .begin _ | .finish _ | .drop _ => []

/-- What happened during some events. -/
def history (s : Debugger) : List Event → List Entry
  | [] => []
  | event :: rest => s.entries event ++ (s.step event).2.history rest

theorem history_append (s : Debugger) (first second : List Event) :
    s.history (first ++ second) = s.history first ++ (s.run first).history second := by
  induction first generalizing s with
  | nil => rfl
  | cons event rest ih =>
      simp only [List.cons_append, history, ih, List.append_assoc]
      rfl

/-! ## The table of calls -/

/-- One more call is under way, and the controller knows. -/
def joined (s : Debugger) (k : Controller) (c : Call) : Debugger where
  controller := k
  calls := s.calls ++ [(s.nextCall, c)]
  nextCall := s.nextCall + 1

theorem lookup_cons_eq_ite (i m : Nat) (d : Call) (rest : List (Nat × Call)) :
    ((i, d) :: rest).lookup m = if m = i then some d else rest.lookup m := by
  by_cases h : m = i
  · simp [h]
  · have hb : (m == i) = false := beq_eq_false_iff_ne.mpr h
    simp [List.lookup_cons, hb, h]

theorem call?_withCall (s : Debugger) (n m : Nat) (c : Call) :
    (s.withCall n c).call? m = if m = n then (s.call? n).map (fun _ => c) else s.call? m := by
  unfold call? withCall
  induction s.calls with
  | nil => simp
  | cons entry rest ih =>
      obtain ⟨i, d⟩ := entry
      by_cases hi : i = n
      · subst hi
        simp only [List.map_cons, if_true, lookup_cons_eq_ite, Option.map_some]
        split
        · rfl
        · rwa [if_neg ‹_›] at ih
      · simp only [List.map_cons, if_neg hi, lookup_cons_eq_ite, if_neg (Ne.symm hi)]
        by_cases hm : m = i
        · simp [hm, hi]
        · rw [if_neg hm, if_neg hm]
          exact ih

theorem call?_without (s : Debugger) (n m : Nat) :
    (s.without n).call? m = if m = n then none else s.call? m := by
  unfold call? without
  induction s.calls with
  | nil => simp
  | cons entry rest ih =>
      obtain ⟨i, d⟩ := entry
      by_cases hi : i = n
      · subst hi
        rw [List.filter_cons_of_neg (by simp), ih, lookup_cons_eq_ite]
        split <;> rfl
      · rw [List.filter_cons_of_pos (by simpa using hi), lookup_cons_eq_ite, lookup_cons_eq_ite, ih]
        by_cases hm : m = i
        · simp [hm, hi]
        · simp [hm]

/-- A call that has just begun is found under its number, which no call had before. -/
theorem call?_joined {s : Debugger} (k : Controller) (c : Call)
    (fresh : s.call? s.nextCall = none) (m : Nat) :
    (s.joined k c).call? m = if m = s.nextCall then some c else s.call? m := by
  unfold call? joined at *
  rw [List.lookup_append, lookup_cons_eq_ite]
  by_cases hm : m = s.nextCall
  · rw [hm, fresh, if_pos rfl, if_pos rfl]
    rfl
  · rw [if_neg hm, if_neg hm]
    simp

@[simp] theorem call?_withCall_self {s : Debugger} {n : Nat} {c d : Call} (h : s.call? n = some c) :
    (s.withCall n d).call? n = some d := by
  rw [call?_withCall, if_pos rfl, h]
  rfl

/-- Whatever is found behind a replacement is the new call or was there before. -/
theorem call?_withCall_cases {s : Debugger} {n m : Nat} {c c' d : Call} (found : s.call? n = some c)
    (found' : (s.withCall n d).call? m = some c') :
    (m = n ∧ c' = d) ∨ (m ≠ n ∧ s.call? m = some c') := by
  rw [call?_withCall] at found'
  by_cases hm : m = n
  · rw [if_pos hm, found] at found'
    cases found'
    exact .inl ⟨hm, rfl⟩
  · rw [if_neg hm] at found'
    exact .inr ⟨hm, found'⟩

/-- Behind a call that was replaced stands one that agrees in all that the replacement keeps. -/
theorem exists_call?_of_withCall {α : Type} (keep : Call → α) {s : Debugger} {n m : Nat}
    {c c' d : Call} (found : s.call? n = some c) (same : m = n → keep c = keep d)
    (found' : (s.withCall n d).call? m = some c') :
    ∃ b, s.call? m = some b ∧ keep b = keep c' := by
  rcases call?_withCall_cases found found' with ⟨hm, rfl⟩ | ⟨-, old⟩
  · exact ⟨c, hm ▸ found, same hm⟩
  · exact ⟨c', old, rfl⟩

@[simp] theorem withCall_controller (s : Debugger) (n : Nat) (c : Call) :
    (s.withCall n c).controller = s.controller := rfl

@[simp] theorem withCall_nextCall (s : Debugger) (n : Nat) (c : Call) :
    (s.withCall n c).nextCall = s.nextCall := rfl

@[simp] theorem without_controller (s : Debugger) (n : Nat) :
    (s.without n).controller = s.controller := rfl

@[simp] theorem without_nextCall (s : Debugger) (n : Nat) :
    (s.without n).nextCall = s.nextCall := rfl

/-! ## The rules -/

/-- Why the controller refuses an event. -/
inductive Refuses (k : Controller) : Event → DebugError → Prop where
  | invalid {circuit : Circuit} {fault : Fault} (invalid : circuit.validate = .error fault) :
      Refuses k (.start circuit) (.invalid fault)
  | notToggled {step : Index} (idle : k.session? = none) :
      Refuses k (.toggleBreakpoint step) .notRunning
  | notBegun {kind : CallKind} (idle : k.session? = none) : Refuses k (.begin kind) .notRunning
  | busy {kind : CallKind} {σ : Session} (running : k.session? = some σ)
      (busy : σ.inFlight = true) : Refuses k (.begin kind) (.requestInFlight σ.generation)

/-- Nothing waits for the event: there is no such call, or it stands elsewhere. -/
def Ignores (s : Debugger) : Event → Prop
  | .decide n => ∀ c, s.call? n = some c → c.stage ≠ .deciding
  | .answer n _ => ∀ c, s.call? n = some c → ∀ circuit cursor, c.stage ≠ .awaiting circuit cursor
  | .finish n => ∀ c, s.call? n = some c → ∀ outcome, c.stage ≠ .finishing outcome
  | .drop n => s.call? n = none
  | .start _ | .toggleBreakpoint _ | .stop | .begin _ => False

/-- Why a call of the given kind stops by itself at a session. -/
inductive Halts (σ : Session) : CallKind → StopReason → Prop where
  | atEnd {kind : CallKind} (atEnd : σ.circuit.stepCount ≤ σ.cursor) : Halts σ kind .endOfCircuit
  | breakpoint (within : σ.cursor < σ.circuit.stepCount) (isSet : σ.cursor + 1 ∈ σ.breakpoints) :
      Halts σ .run (.breakpoint (σ.cursor + 1))

/-- A call takes leave: it gives its session back. -/
def released (s : Debugger) (n : Nat) (c : Call) : Debugger :=
  { s with controller := s.controller.release c.generation }.without n

theorem released_session? (s : Debugger) (n : Nat) (c : Call) :
    (s.released n c).controller.session? = s.controller.session?.map fun σ =>
      if σ.generation = c.generation then { σ with inFlight := false } else σ :=
  Controller.release_session? s.controller c.generation

/-- Nothing but a flag changes when a call takes leave. -/
theorem released_keeps {α : Type} {keep : Session → α} (s : Debugger) (n : Nat) (c : Call)
    (flagless : ∀ σ, keep { σ with inFlight := false } = keep σ) :
    (s.released n c).controller.session?.map keep = s.controller.session?.map keep := by
  rw [released_session?, Option.map_map]
  congr 1
  funext σ
  show keep (if _ then _ else _) = keep σ
  split
  · exact flagless σ
  · rfl

theorem call?_of_released {s : Debugger} {n m : Nat} {c c' : Call}
    (found' : (s.released n c).call? m = some c') : m ≠ n ∧ s.call? m = some c' := by
  rw [released, call?_without] at found'
  split at found'
  · cases found'
  · exact ⟨‹_›, found'⟩

/-- **The rules.** One event with its reply, what it adds to the history, and the state after it. -/
inductive Step (s : Debugger) : Event → Reply → List Entry → Debugger → Prop where
  | refused {event : Event} {error : DebugError} (refuses : Refuses s.controller event error) :
      Step s event (.refused error) [] s
  | ignored {event : Event} (ignores : s.Ignores event) : Step s event .ignored [] s
  | opened {circuit : Circuit} (valid : circuit.validate = .ok ()) :
      Step s (.start circuit) (.started (s.controller.generation + 1))
        [.opened (s.controller.generation + 1) circuit]
        { s with controller := s.controller.opened circuit }
  | toggled {step : Index} {σ : Session} (running : s.controller.session? = some σ) :
      Step s (.toggleBreakpoint step) (.toggled ((toggle step σ.breakpoints).contains step)) []
        { s with controller :=
            s.controller.withSession { σ with breakpoints := toggle step σ.breakpoints } }
  | stopped {σ : Session} (running : s.controller.session? = some σ) :
      Step s .stop (.stopped true) [.stopped σ.generation σ.circuit]
        { s with controller := s.controller.closed σ }
  | stoppedIdle (idle : s.controller.session? = none) : Step s .stop (.stopped false) [] s
  | begun {kind : CallKind} {σ : Session} (running : s.controller.session? = some σ)
      (free : σ.inFlight = false) :
      Step s (.begin kind) (.begun s.nextCall) []
        (s.joined (s.controller.withSession { σ with inFlight := true })
          { kind, generation := σ.generation })
  | asked {n : Nat} {c : Call} {σ : Session} (found : s.call? n = some c)
      (deciding : c.stage = .deciding) (current : s.controller.current? c.generation = some σ)
      (within : σ.cursor < σ.circuit.stepCount)
      (clear : c.kind = .run → σ.cursor + 1 ∉ σ.breakpoints) :
      Step s (.decide n) .went [.asked n c.generation σ.circuit (σ.cursor + 1)]
        (s.withCall n (c.awaiting σ.circuit σ.cursor))
  | halted {n : Nat} {c : Call} {σ : Session} {reason : StopReason} (found : s.call? n = some c)
      (deciding : c.stage = .deciding) (current : s.controller.current? c.generation = some σ)
      (halts : Halts σ c.kind reason) :
      Step s (.decide n) .went [] (s.withCall n (c.ended (c.stopped reason)))
  | abandoned {n : Nat} {c : Call} (found : s.call? n = some c) (deciding : c.stage = .deciding)
      (gone : s.controller.current? c.generation = none) :
      Step s (.decide n) .went [] (s.withCall n (c.ended (c.stopped .discarded)))
  | advanced {n : Nat} {c : Call} {circuit : Circuit} {cursor : Index} {σ : Session}
      {e : Evaluation} (found : s.call? n = some c) (waiting : c.stage = .awaiting circuit cursor)
      (current : s.controller.current? c.generation = some σ) :
      Step s (.answer n (.ok e)) .went [.settled n c.generation (cursor + 1) (.ok e)]
        ({ s with controller := s.controller.withSession (σ.advance (cursor + 1) e) }.withCall n
          (c.advanced (cursor + 1)))
  | failed {n : Nat} {c : Call} {circuit : Circuit} {cursor : Index} {σ : Session}
      {error : EvaluatorError} (found : s.call? n = some c)
      (waiting : c.stage = .awaiting circuit cursor)
      (current : s.controller.current? c.generation = some σ) :
      Step s (.answer n (.error error)) .went
        [.settled n c.generation (cursor + 1) (.error error)]
        ({ s with controller := s.controller.withSession (σ.fail error.fault) }.withCall n
          (c.ended (c.stopped (.failed error.fault))))
  | lost {n : Nat} {c : Call} {circuit : Circuit} {cursor : Index} {answer : Answer}
      (found : s.call? n = some c) (waiting : c.stage = .awaiting circuit cursor)
      (gone : s.controller.current? c.generation = none) :
      Step s (.answer n answer) .went [.lost n c.generation (cursor + 1) answer]
        (s.withCall n (c.ended (c.stopped .discarded)))
  | finished {n : Nat} {c : Call} {outcome : Outcome} (found : s.call? n = some c)
      (finishing : c.stage = .finishing outcome) :
      Step s (.finish n) (.finished outcome) [] (s.released n c)
  | dropped {n : Nat} {c : Call} (found : s.call? n = some c) :
      Step s (.drop n) .dropped [] (s.released n c)

/-! ## Every step follows a rule -/

variable {s : Debugger}

theorem start_spec (circuit : Circuit) :
    Step s (.start circuit) (s.step (.start circuit)).1 (s.entries (.start circuit))
      (s.step (.start circuit)).2 := by
  cases valid : circuit.validate with
  | error fault =>
      have h := Controller.start_error (k := s.controller) valid
      simp only [step, respond, entries, h]
      exact .refused (.invalid valid)
  | ok u =>
      have h := Controller.start_ok (k := s.controller) valid
      simp only [step, respond, entries, h]
      exact .opened valid

theorem toggle_spec (step : Index) :
    Step s (.toggleBreakpoint step) (s.step (.toggleBreakpoint step)).1
      (s.entries (.toggleBreakpoint step)) (s.step (.toggleBreakpoint step)).2 := by
  cases running : s.controller.session? with
  | none =>
      simp only [Debugger.step, respond, entries, Controller.toggleBreakpoint_error running]
      exact .refused (.notToggled running)
  | some σ =>
      simp only [Debugger.step, respond, entries, Controller.toggleBreakpoint_ok running]
      exact .toggled running

theorem stop_spec : Step s .stop (s.step .stop).1 (s.entries .stop) (s.step .stop).2 := by
  cases running : s.controller.session? with
  | none =>
      simp only [step, entries, Controller.stop_idle running, running]
      exact .stoppedIdle running
  | some σ =>
      simp only [step, entries, Controller.stop_running running, running]
      exact .stopped running

/-- A call that finds a free session begins. -/
theorem step_begin {σ : Session} (running : s.controller.session? = some σ)
    (free : σ.inFlight = false) (kind : CallKind) :
    s.step (.begin kind) = (.begun s.nextCall,
      s.joined (s.controller.withSession { σ with inFlight := true })
        { kind, generation := σ.generation }) := by
  simp only [step, beginCall, Call.begin_ok running free]
  rfl

theorem begin_spec (kind : CallKind) :
    Step s (.begin kind) (s.step (.begin kind)).1 (s.entries (.begin kind))
      (s.step (.begin kind)).2 := by
  cases running : s.controller.session? with
  | none =>
      simp only [step, beginCall, Call.begin, entries, Controller.acquire_notRunning running]
      exact .refused (.notBegun running)
  | some σ =>
      cases busy : σ.inFlight with
      | true =>
          simp only [step, beginCall, Call.begin, entries,
            Controller.acquire_inFlight running busy]
          exact .refused (.busy running busy)
      | false =>
          rw [step_begin running busy]
          exact .begun running busy

theorem decide_spec (n : Nat) :
    Step s (.decide n) (s.step (.decide n)).1 (s.entries (.decide n)) (s.step (.decide n)).2 := by
  cases found : s.call? n with
  | none =>
      simp only [step, decideCall, onCall, entries, found]
      exact .ignored fun c h => by simp [found] at h
  | some c =>
      cases stage : c.stage with
      | awaiting circuit cursor =>
          simp only [step, decideCall, onCall, entries, found, stage]
          exact .ignored fun d h => by simp_all
      | finishing outcome =>
          simp only [step, decideCall, onCall, entries, found, stage]
          exact .ignored fun d h => by simp_all
      | deciding =>
          simp only [step, decideCall, onCall, entries, found, stage]
          -- The order of the tests: is the session there, is it at its end, is there a breakpoint.
          cases current : s.controller.current? c.generation with
          | none =>
              rw [Call.decide_gone current]
              exact .abandoned found stage current
          | some σ =>
              by_cases within : σ.cursor < σ.circuit.stepCount
              · by_cases clear : c.kind = .run → σ.cursor + 1 ∉ σ.breakpoints
                · rw [Call.decide_evaluate current within clear]
                  exact .asked found stage current within clear
                · obtain ⟨run, isSet⟩ := Classical.not_imp.mp clear
                  have isSet := Classical.not_not.mp isSet
                  rw [Call.decide_breakpoint current run within isSet]
                  exact .halted found stage current (run ▸ .breakpoint within isSet)
              · have atEnd := UInt32.not_lt.mp within
                rw [Call.decide_atEnd current atEnd]
                exact .halted found stage current (.atEnd atEnd)

theorem answer_spec (n : Nat) (answer : Answer) :
    Step s (.answer n answer) (s.step (.answer n answer)).1 (s.entries (.answer n answer))
      (s.step (.answer n answer)).2 := by
  cases found : s.call? n with
  | none =>
      simp only [step, answerCall, onCall, entries, found]
      exact .ignored fun c h => by simp [found] at h
  | some c =>
      cases stage : c.stage with
      | deciding =>
          simp only [step, answerCall, onCall, entries, found, stage]
          exact .ignored fun d h => by simp_all
      | finishing outcome =>
          simp only [step, answerCall, onCall, entries, found, stage]
          exact .ignored fun d h => by simp_all
      | awaiting circuit cursor =>
          -- A session that is gone comes first: then the answer is not looked at.
          cases current : s.controller.current? c.generation with
          | none =>
              simp only [step, answerCall, onCall, entries, found, stage, current,
                Call.settle_gone current]
              exact .lost found stage current
          | some σ =>
              cases answer with
              | ok e =>
                  simp only [step, answerCall, onCall, entries, found, stage, current,
                    Call.settle_ok current]
                  exact .advanced found stage current
              | error error =>
                  simp only [step, answerCall, onCall, entries, found, stage, current,
                    Call.settle_error current]
                  exact .failed found stage current

theorem finish_spec (n : Nat) :
    Step s (.finish n) (s.step (.finish n)).1 (s.entries (.finish n)) (s.step (.finish n)).2 := by
  cases found : s.call? n with
  | none =>
      simp only [step, finishCall, onCall, entries, found]
      exact .ignored fun c h => by simp [found] at h
  | some c =>
      cases stage : c.stage with
      | finishing outcome =>
          simp only [step, finishCall, onCall, entries, found, stage]
          exact .finished found stage
      | deciding =>
          simp only [step, finishCall, onCall, entries, found, stage]
          exact .ignored fun d h => by simp_all
      | awaiting circuit cursor =>
          simp only [step, finishCall, onCall, entries, found, stage]
          exact .ignored fun d h => by simp_all

theorem drop_spec (n : Nat) :
    Step s (.drop n) (s.step (.drop n)).1 (s.entries (.drop n)) (s.step (.drop n)).2 := by
  cases found : s.call? n with
  | none =>
      simp only [step, dropCall, onCall, entries, found]
      exact .ignored found
  | some c =>
      simp only [step, dropCall, onCall, entries, found]
      exact .dropped found

/-- **Every step follows a rule.** -/
theorem step_spec (s : Debugger) (event : Event) :
    Step s event (s.step event).1 (s.entries event) (s.step event).2 := by
  cases event with
  | start circuit => exact start_spec circuit
  | toggleBreakpoint step => exact toggle_spec step
  | stop => exact stop_spec
  | begin kind => exact begin_spec kind
  | decide n => exact decide_spec n
  | answer n answer => exact answer_spec n answer
  | finish n => exact finish_spec n
  | drop n => exact drop_spec n

/-! ## Runs -/

/-- The state after some events, with what happened before and during them. -/
theorem run_induction_from {P : Debugger → List Entry → Prop}
    (step : ∀ {s h event reply more s'}, P s h → Step s event reply more s' → P s' (h ++ more)) :
    ∀ (events : List Event) (s : Debugger) (h : List Entry), P s h →
      P (s.run events) (h ++ s.history events) := by
  intro events
  induction events with
  | nil =>
      intro s h hP
      rw [history, List.append_nil]
      exact hP
  | cons event rest ih =>
      intro s h hP
      rw [history, ← List.append_assoc]
      exact ih _ _ (step hP (step_spec s event))

/-- **Invariants.** What holds of the fresh debugger with an empty history, and is kept by every rule,
holds after every run. -/
theorem run_induction {P : Debugger → List Entry → Prop} (init : P {} [])
    (step : ∀ {s h event reply more s'}, P s h → Step s event reply more s' → P s' (h ++ more))
    (events : List Event) : P (run {} events) (history {} events) :=
  run_induction_from step events {} [] init

/-! ## A run to look at -/

/-- A circuit of two steps. -/
def twoSteps : Circuit where
  gates := [.hadamard 0 0, .pauliX 0 1]
  qubitCount := 1
  stepCount := 2
  name := "two"

/-- A run of steps that committed the first of them and waits for the answer to the second. -/
def halfway : List Event :=
  [.start twoSteps, .begin .run, .decide 0, .answer 0 (.ok (.initial 1)), .decide 0]

end Debugger

end QuantumWorkbench
