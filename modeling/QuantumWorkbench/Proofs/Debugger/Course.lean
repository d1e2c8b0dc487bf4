import QuantumWorkbench.Proofs.Debugger.Transition

/-!
# Undisturbed calls

What a call does while nothing else happens, against an evaluator with a state of its own: its answers
may depend on everything that it was asked before. A run of steps is told as a derivation, with one
rule for each way in which it goes on or ends, and is then compared with single steps.

## Contents
- `Session.destination`: where a run of steps is going to end if no evaluation fails, and why.
- `Debugger.Course`: the course of a run of steps, and `Debugger.Course.exists_course`: there is one from
  every session.
- `Debugger.Course.asked`, `Debugger.Course.arrival`: which questions it takes, and where it ends.
- `Debugger.Course.drive`: a run of steps takes its course.
- `Debugger.stepOften`, `Debugger.Course.stepOften`: so do single steps.
- `Debugger.perform_idle`, `Debugger.perform_free`: either call is refused without a session, and otherwise has an
  outcome of its own and leaves its session as free as it was.
-/

namespace QuantumWorkbench

namespace Session

/-- The first breakpoint that is ahead of the cursor and within the circuit. -/
def nextBreakpoint (σ : Session) : Option Index :=
  (σ.breakpoints.filter fun b => σ.cursor < b ∧ b ≤ σ.circuit.stepCount).min?

/-- Where a run of steps ends if no evaluation fails, and why: before the next breakpoint, or at the
end of the circuit. -/
def destination (σ : Session) : Index × StopReason :=
  match σ.nextBreakpoint with
  | some b => (b - 1, .breakpoint b)
  | none => (σ.circuit.stepCount, .endOfCircuit)

variable {σ : Session}

theorem nextBreakpoint_eq_some_iff {b : Index} :
    σ.nextBreakpoint = some b ↔
      (b ∈ σ.breakpoints ∧ σ.cursor < b ∧ b ≤ σ.circuit.stepCount) ∧
      ∀ b' ∈ σ.breakpoints, σ.cursor < b' → b' ≤ σ.circuit.stepCount → b ≤ b' := by
  simp [nextBreakpoint, List.min?_eq_some_iff]

theorem nextBreakpoint_eq_none_iff :
    σ.nextBreakpoint = none ↔
      ∀ b ∈ σ.breakpoints, σ.cursor < b → σ.circuit.stepCount < b := by
  simp [nextBreakpoint]

/-- A step that is no breakpoint leaves the next one where it is. -/
theorem nextBreakpoint_advance (within : σ.cursor < σ.circuit.stepCount)
    (clear : σ.cursor + 1 ∉ σ.breakpoints) (a : Evaluation) :
    (σ.advance (σ.cursor + 1) a).nextBreakpoint = σ.nextBreakpoint := by
  unfold nextBreakpoint
  congr 1
  apply List.filter_congr
  intro b isSet
  have moved := Index.toNat_succ within
  have other : b.toNat ≠ σ.cursor.toNat + 1 := by
    intro same
    rw [← moved] at same
    exact clear (UInt32.toNat_inj.mp same ▸ isSet)
  have same : σ.cursor + 1 < b ↔ σ.cursor < b := by
    rw [UInt32.lt_iff_toNat_lt, UInt32.lt_iff_toNat_lt, moved]
    omega
  simp [advance, same]

theorem destination_advance (within : σ.cursor < σ.circuit.stepCount)
    (clear : σ.cursor + 1 ∉ σ.breakpoints) (a : Evaluation) :
    (σ.advance (σ.cursor + 1) a).destination = σ.destination := by
  unfold destination
  rw [nextBreakpoint_advance within clear]
  rfl

/-- As long as a run of steps goes on, its destination is ahead. -/
theorem lt_destination (within : σ.cursor < σ.circuit.stepCount)
    (clear : σ.cursor + 1 ∉ σ.breakpoints) : σ.cursor < σ.destination.1 := by
  unfold destination
  cases next : σ.nextBreakpoint with
  | none => exact within
  | some b =>
      obtain ⟨⟨isSet, ahead, -⟩, -⟩ := nextBreakpoint_eq_some_iff.mp next
      have moved := Index.toNat_succ within
      have other : b.toNat ≠ σ.cursor.toNat + 1 := by
        intro same
        rw [← moved] at same
        exact clear (UInt32.toNat_inj.mp same ▸ isSet)
      have low := UInt32.lt_iff_toNat_lt.mp ahead
      show σ.cursor < b - 1
      rw [UInt32.lt_iff_toNat_lt, UInt32.toNat_sub_of_le b 1 (UInt32.le_iff_toNat_le.mpr (by
        rw [UInt32.toNat_one]
        omega)), UInt32.toNat_one]
      omega

theorem destination_atEnd (atEnd : σ.circuit.stepCount ≤ σ.cursor) :
    σ.destination = (σ.circuit.stepCount, .endOfCircuit) := by
  have none_ahead : σ.nextBreakpoint = none := by
    rw [nextBreakpoint_eq_none_iff]
    intro b _ ahead
    exact UInt32.lt_of_le_of_lt atEnd ahead
  rw [destination, none_ahead]

theorem destination_breakpoint (within : σ.cursor < σ.circuit.stepCount)
    (isSet : σ.cursor + 1 ∈ σ.breakpoints) :
    σ.destination = (σ.cursor, .breakpoint (σ.cursor + 1)) := by
  have moved := Index.toNat_succ within
  have next : σ.nextBreakpoint = some (σ.cursor + 1) := by
    rw [nextBreakpoint_eq_some_iff]
    refine ⟨⟨isSet, ?_, Index.succ_le within⟩, ?_⟩
    · rw [UInt32.lt_iff_toNat_lt, moved]
      exact Nat.lt_succ_self _
    · intro b _ ahead _
      rw [UInt32.le_iff_toNat_le, moved]
      exact UInt32.lt_iff_toNat_lt.mp ahead
  rw [destination, next]
  exact congrArg (·, StopReason.breakpoint (σ.cursor + 1)) (UInt32.add_sub_cancel _ _)

end Session

/-- The session was gone before the call had its outcome. -/
def Outcome.isDiscarded : Outcome → Bool
  | .step outcome => outcome = .discarded
  | .run _ reason => reason = .discarded

namespace Debugger

variable {W : Type}

/-- **The course of a run of steps**, from a session and a state of the evaluator: the answers in
order, why it ends, and the session and the evaluator at its end. -/
inductive Course (e : Evaluator (StateM W)) :
    Session → W → List Answer → StopReason → Session → W → Prop where
  | halted {σ : Session} {w : W} {reason : StopReason} (halts : Halts σ .run reason) :
      Course e σ w [] reason σ w
  | failed {σ : Session} {w w' : W} {error : EvaluatorError}
      (within : σ.cursor < σ.circuit.stepCount) (clear : σ.cursor + 1 ∉ σ.breakpoints)
      (answered : e.evaluateUpTo σ.circuit (σ.cursor + 1) w = (.error error, w')) :
      Course e σ w [.error error] (.failed error.fault) (σ.fail error.fault) w'
  | advanced {σ σ' : Session} {w w' w'' : W} {a : Evaluation} {answers : List Answer}
      {reason : StopReason} (within : σ.cursor < σ.circuit.stepCount)
      (clear : σ.cursor + 1 ∉ σ.breakpoints)
      (answered : e.evaluateUpTo σ.circuit (σ.cursor + 1) w = (.ok a, w'))
      (rest : Course e (σ.advance (σ.cursor + 1) a) w' answers reason σ' w'') :
      Course e σ w (.ok a :: answers) reason σ' w''

/-- The numbers of the next `count` steps behind a cursor. -/
def limitsBehind (cursor : Index) (count : Nat) : List Index :=
  (List.range' (cursor.toNat + 1) count).map UInt32.ofNat

theorem limitsBehind_succ {cursor stepCount : Index} (within : cursor < stepCount) (count : Nat) :
    limitsBehind cursor (count + 1) = (cursor + 1) :: limitsBehind (cursor + 1) count := by
  have moved := Index.toNat_succ within
  rw [limitsBehind, List.range'_succ, List.map_cons, ← moved, UInt32.ofNat_toNat]
  rfl

/-- Asking about one more is asking about the first and then about the rest. -/
theorem mapM_cons_of {f : Index → StateM W Answer} {limit : Index} {limits : List Index}
    {w w' w'' : W} {answer : Answer} {answers : List Answer} (first : f limit w = (answer, w'))
    (rest : limits.mapM f w' = (answers, w'')) :
    (limit :: limits).mapM f w = (answer :: answers, w'') := by
  rw [List.mapM_cons]
  simp only [bind, StateT.bind, first, rest]
  rfl

namespace Course

variable {e : Evaluator (StateM W)} {σ σ' : Session} {w w' : W} {answers : List Answer}
  {reason : StopReason}

/-- Every run of steps ends: with each step less is left of the circuit. -/
theorem exists_course (e : Evaluator (StateM W)) (σ : Session) (w : W) :
    ∃ answers reason σ' w', Course e σ w answers reason σ' w' := by
  induction left : σ.circuit.stepCount.toNat - σ.cursor.toNat generalizing σ w with
  | zero =>
      have atEnd : σ.circuit.stepCount ≤ σ.cursor := by
        rw [UInt32.le_iff_toNat_le]
        omega
      exact ⟨_, _, _, _, .halted (.atEnd atEnd)⟩
  | succ left' ih =>
      have within : σ.cursor < σ.circuit.stepCount := by
        rw [UInt32.lt_iff_toNat_lt]
        omega
      by_cases isSet : σ.cursor + 1 ∈ σ.breakpoints
      · exact ⟨_, _, _, _, .halted (.breakpoint within isSet)⟩
      · cases answered : e.evaluateUpTo σ.circuit (σ.cursor + 1) w with
        | mk answer w' =>
            cases answer with
            | error error => exact ⟨_, _, _, _, .failed within isSet answered⟩
            | ok a =>
                have shorter : σ.circuit.stepCount.toNat - (σ.cursor + 1).toNat = left' := by
                  rw [Index.toNat_succ within]
                  omega
                obtain ⟨_, _, _, _, rest⟩ := ih (σ.advance (σ.cursor + 1) a) w' shorter
                exact ⟨_, _, _, _, .advanced within isSet answered rest⟩

/-- A course changes nothing of a session but the cursor and what is shown with it. -/
theorem same (course : Course e σ w answers reason σ' w') :
    (σ'.circuit, σ'.generation, σ'.breakpoints, σ'.inFlight) =
      (σ.circuit, σ.generation, σ.breakpoints, σ.inFlight) := by
  induction course with
  | halted => rfl
  | failed => rfl
  | advanced within clear answered rest ih => exact ih

/-- Nothing takes the session away from a course. -/
theorem reason_ne_discarded (course : Course e σ w answers reason σ' w') : reason ≠ .discarded := by
  induction course with
  | halted halts => cases halts <;> nofun
  | failed => nofun
  | advanced within clear answered rest ih => exact ih

/-- What a course needs from its end: the session halts there, or the last answer was a failure. -/
theorem ending (course : Course e σ w answers reason σ' w') :
    (Halts σ' .run reason ∧ ∀ answer ∈ answers, answer.isOk = true) ∨
    ∃ front error, answers = front ++ [.error error] ∧ (∀ answer ∈ front, answer.isOk = true) ∧
      reason = .failed error.fault ∧ σ'.cursor < σ'.circuit.stepCount ∧
      σ'.cursor + 1 ∉ σ'.breakpoints := by
  induction course with
  | halted halts => exact .inl ⟨halts, List.forall_mem_nil _⟩
  | failed within clear answered =>
      exact .inr ⟨[], _, rfl, List.forall_mem_nil _, rfl, within, clear⟩
  | @advanced _ _ _ _ _ a _ _ _ _ _ _ ih =>
      rcases ih with ⟨halts, good⟩ | ⟨front, error, rfl, good, rest⟩
      · exact .inl ⟨halts, List.forall_mem_cons.mpr ⟨rfl, good⟩⟩
      · exact .inr ⟨.ok a :: front, error, rfl, List.forall_mem_cons.mpr ⟨rfl, good⟩, rest⟩

/-- Each success moves the cursor by one step, and nothing else does. -/
theorem cursor (course : Course e σ w answers reason σ' w') :
    σ'.cursor.toNat = σ.cursor.toNat + answers.countP (·.isOk) := by
  induction course with
  | halted => rfl
  | failed => rfl
  | @advanced σ _ _ _ _ a _ _ within clear answered rest ih =>
      have moved : (σ.advance (σ.cursor + 1) a).cursor.toNat = σ.cursor.toNat + 1 :=
        Index.toNat_succ within
      rw [ih, moved, List.countP_cons_of_pos rfl]
      omega

/-- The successes stand in front: a course ends with its first failure. -/
theorem isOk_iff_lt (course : Course e σ w answers reason σ' w') {i : Nat} {answer : Answer}
    (place : answers[i]? = some answer) : answer.isOk = true ↔ i < answers.countP (·.isOk) := by
  induction course generalizing i with
  | halted => cases place
  | failed =>
      cases i with
      | zero =>
          cases place
          exact iff_of_false nofun (Nat.lt_irrefl 0)
      | succ => cases place
  | advanced within clear answered rest ih =>
      rw [List.countP_cons_of_pos rfl]
      cases i with
      | zero =>
          cases place
          exact iff_of_true rfl (Nat.succ_pos _)
      | succ => exact (ih place).trans Nat.succ_lt_succ_iff.symm

theorem within (course : Course e σ w answers reason σ' w')
    (bound : σ.cursor ≤ σ.circuit.stepCount) : σ'.cursor ≤ σ'.circuit.stepCount := by
  induction course with
  | halted => exact bound
  | failed => exact bound
  | advanced within clear answered rest ih => exact ih (Index.succ_le within)

theorem destination (course : Course e σ w answers reason σ' w') :
    σ'.destination = σ.destination := by
  induction course with
  | halted => rfl
  | failed => rfl
  | advanced within clear answered rest ih =>
      rw [ih]
      exact Session.destination_advance within clear _

/-- **Where a course ends.** At its destination if every answer was a success, and otherwise before it,
with the first failure. -/
theorem arrival (course : Course e σ w answers reason σ' w')
    (bound : σ.cursor ≤ σ.circuit.stepCount) :
    ((∀ answer ∈ answers, answer.isOk = true) ∧ (σ'.cursor, reason) = σ.destination) ∨
    ∃ front error, answers = front ++ [.error error] ∧ (∀ answer ∈ front, answer.isOk = true) ∧
      σ'.cursor < σ.destination.1 ∧ reason = .failed error.fault := by
  rw [← course.destination]
  rcases course.ending with ⟨halts, good⟩ | ⟨front, error, split, good, failed, within, clear⟩
  · refine .inl ⟨good, ?_⟩
    cases halts with
    | atEnd atEnd =>
        rw [Session.destination_atEnd atEnd, UInt32.le_antisymm (course.within bound) atEnd]
    | breakpoint within isSet => rw [Session.destination_breakpoint within isSet]
  · exact .inr ⟨front, error, split, good, Session.lt_destination within clear, failed⟩

/-- A course asks about one step more each time. -/
theorem asked (course : Course e σ w answers reason σ' w') :
    (limitsBehind σ.cursor answers.length).mapM (e.evaluateUpTo σ.circuit) w = (answers, w') := by
  induction course with
  | halted => rfl
  | failed within clear answered =>
      rw [List.length_singleton, limitsBehind_succ within]
      exact mapM_cons_of answered rfl
  | @advanced σ _ _ _ _ a _ _ within clear answered rest ih =>
      rw [List.length_cons, limitsBehind_succ within]
      exact mapM_cons_of answered ih

end Course

/-! ## Runs of steps -/

/-- Makes steps one after the other. -/
def stepOften {m : Type → Type} [Monad m] (e : Evaluator m) : Nat → Controller → m Controller
  | 0, k => pure k
  | count + 1, k => do
    match ← k.step e with
    | .ok (_, k) => stepOften e count k
    | .error _ => stepOften e count k

section Drive

variable {e : Evaluator (StateM W)} {k : Controller} {c : Call} {σ : Session} {w w' : W} {fuel : Nat}

/-- A call that has its outcome gives its session back. -/
theorem drive_ended (c : Call) (outcome : Outcome) :
    (c.ended outcome).drive e fuel k w = ((outcome, k.release c.generation), w) := by
  cases fuel with
  | zero => rfl
  | succ fuel => rfl

theorem drive_deciding (deciding : c.stage = .deciding) :
    c.drive e (fuel + 1) k = (c.decide k).drive e fuel k := by
  obtain ⟨kind, generation, taken, stage⟩ := c
  cases deciding
  rfl

theorem drive_awaiting {circuit : Circuit} {cursor : Index} {answer : Answer}
    (answered : e.evaluateUpTo circuit (cursor + 1) w = (answer, w')) :
    (c.awaiting circuit cursor).drive e (fuel + 1) k w =
      ((c.awaiting circuit cursor).settle cursor answer k).1.drive e fuel
        ((c.awaiting circuit cursor).settle cursor answer k).2 w' := by
  simp only [Call.drive, Call.awaiting, bind, StateT.bind, answered]

/-- A question that fails ends a call. -/
theorem drive_failed {error : EvaluatorError} (deciding : c.stage = .deciding)
    (current : k.current? c.generation = some σ) (within : σ.cursor < σ.circuit.stepCount)
    (clear : c.kind = .run → σ.cursor + 1 ∉ σ.breakpoints)
    (answered : e.evaluateUpTo σ.circuit (σ.cursor + 1) w = (.error error, w')) :
    c.drive e (fuel + 2) k w =
      ((c.stopped (.failed error.fault), (k.withSession (σ.fail error.fault)).release c.generation),
        w') := by
  have own : (c.awaiting σ.circuit σ.cursor).generation = c.generation := rfl
  rw [drive_deciding deciding, Call.decide_evaluate current within clear,
    drive_awaiting answered, Call.settle_error (own ▸ current), drive_ended]
  rfl

/-- A question that succeeds takes a call to its next section. -/
theorem drive_advanced {a : Evaluation} (deciding : c.stage = .deciding)
    (current : k.current? c.generation = some σ) (within : σ.cursor < σ.circuit.stepCount)
    (clear : c.kind = .run → σ.cursor + 1 ∉ σ.breakpoints)
    (answered : e.evaluateUpTo σ.circuit (σ.cursor + 1) w = (.ok a, w')) :
    c.drive e (fuel + 2) k w =
      (c.advanced (σ.cursor + 1)).drive e fuel (k.withSession (σ.advance (σ.cursor + 1) a)) w' := by
  have own : (c.awaiting σ.circuit σ.cursor).generation = c.generation := rfl
  rw [drive_deciding deciding, Call.decide_evaluate current within clear,
    drive_awaiting answered, Call.settle_ok (own ▸ current), Call.awaiting_advanced]

/-- A run of steps halts where its session says so. -/
theorem decide_of_halts {reason : StopReason} (run : c.kind = .run)
    (current : k.current? c.generation = some σ) (halts : Halts σ .run reason) :
    c.decide k = c.ended (c.stopped reason) := by
  cases halts with
  | atEnd atEnd => exact Call.decide_atEnd current atEnd
  | breakpoint within isSet => exact Call.decide_breakpoint current run within isSet

/-- **A run of steps takes its course**, and has the fuel for it: two sections for each step that is
left, and one to halt. -/
theorem Course.drive {σ' : Session} {answers : List Answer} {reason : StopReason}
    (course : Course e σ w answers reason σ' w') (running : k.session? = some σ)
    (own : σ.generation = c.generation) (run : c.kind = .run) (deciding : c.stage = .deciding)
    (low : c.taken ≤ σ.cursor)
    (enough : 2 * (σ.circuit.stepCount.toNat - σ.cursor.toNat) < fuel) :
    ∃ taken k', c.drive e fuel k w = ((.run taken reason, k'), w') ∧
      taken.toNat = c.taken.toNat + answers.countP (·.isOk) ∧
      k'.session? = some { σ' with inFlight := false } := by
  induction course generalizing c k fuel with
  | @halted σ w reason halts =>
      have current : k.current? c.generation = some σ := own ▸ Controller.current?_self running
      obtain ⟨fuel, rfl⟩ : ∃ f, fuel = f + 1 := ⟨fuel - 1, by omega⟩
      refine ⟨c.taken, k.release c.generation, ?_, rfl, ?_⟩
      · rw [drive_deciding deciding, decide_of_halts run current halts, drive_ended,
          Call.stopped_of_run run]
      · exact Controller.release_session?_of_current current
  | @failed σ w w' error within clear answered =>
      have current : k.current? c.generation = some σ := own ▸ Controller.current?_self running
      have room := UInt32.lt_iff_toNat_lt.mp within
      obtain ⟨fuel, rfl⟩ : ∃ f, fuel = f + 2 := ⟨fuel - 2, by omega⟩
      refine ⟨c.taken, (k.withSession (σ.fail error.fault)).release c.generation, ?_, rfl, ?_⟩
      · rw [drive_failed deciding current within (fun _ => clear) answered,
          Call.stopped_of_run run]
      · exact Controller.release_session?_of_current (k.current?_withSession own)
  | @advanced σ σ' w w' w'' a answers reason within clear answered rest ih =>
      have current : k.current? c.generation = some σ := own ▸ Controller.current?_self running
      have room := UInt32.lt_iff_toNat_lt.mp within
      have moved := Index.toNat_succ within
      -- The count is at most the cursor, so that it has room for one more step too.
      have counted := Index.toNat_succ (UInt32.lt_of_le_of_lt low within)
      have low' := UInt32.le_iff_toNat_le.mp low
      obtain ⟨fuel, rfl⟩ : ∃ f, fuel = f + 2 := ⟨fuel - 2, by omega⟩
      have next : c.taken + 1 ≤ σ.cursor + 1 := by
        rw [UInt32.le_iff_toNat_le, counted, moved]
        exact Nat.succ_le_succ low'
      have left : 2 * (σ.circuit.stepCount.toNat - (σ.cursor + 1).toNat) < fuel := by
        rw [moved]
        omega
      obtain ⟨taken, k', driven, told, shown⟩ :=
        ih (c := { c with taken := c.taken + 1, stage := .deciding })
          (k := k.withSession (σ.advance (σ.cursor + 1) a)) rfl own run rfl next left
      refine ⟨taken, k', ?_, ?_, shown⟩
      · rw [drive_advanced deciding current within (fun _ => clear) answered,
          Call.advanced_of_run run]
        exact driven
      · rw [told, counted, List.countP_cons_of_pos rfl]
        omega

/-- A call that takes its session goes the way of its sections. -/
theorem perform_of_drive {kind : CallKind} {outcome : Outcome} {k' : Controller}
    (running : k.session? = some σ) (free : σ.inFlight = false)
    (driven : ({ kind, generation := σ.generation } : Call).drive e
        (2 * (σ.circuit.stepCount.toNat - σ.cursor.toNat) + 2)
        (k.withSession { σ with inFlight := true }) w = ((outcome, k'), w')) :
    k.perform e kind w = (.ok (outcome, k'), w') := by
  unfold Controller.perform
  rw [Call.begin_ok running free]
  simp only [Functor.map, StateT.map, Controller.callFuel, Controller.withSession_session?, driven]
  rfl

theorem Course.continueToBreakpoint {σ' : Session} {answers : List Answer} {reason : StopReason}
    (course : Course e { σ with inFlight := true } w answers reason σ' w')
    (running : k.session? = some σ) (free : σ.inFlight = false) :
    ∃ taken k', k.continueToBreakpoint e w = (.ok (.run taken reason, k'), w') ∧
      taken.toNat = answers.countP (·.isOk) ∧
      k'.session? = some { σ' with inFlight := false } := by
  obtain ⟨taken, k', driven, counted, shown⟩ :=
    course.drive (k := k.withSession { σ with inFlight := true })
      (c := { kind := .run, generation := σ.generation }) rfl rfl rfl rfl UInt32.zero_le
      (Nat.lt_add_of_pos_right (Nat.zero_lt_two))
  refine ⟨taken, k', perform_of_drive running free driven, ?_, shown⟩
  rw [counted]
  exact Nat.zero_add _

/-! ## Single steps -/

/-- A single step is done with its first success. -/
theorem drive_single {a : Evaluation} (step : c.kind = .step) (deciding : c.stage = .deciding)
    (current : k.current? c.generation = some σ) (within : σ.cursor < σ.circuit.stepCount)
    (answered : e.evaluateUpTo σ.circuit (σ.cursor + 1) w = (.ok a, w')) :
    c.drive e (fuel + 2) k w =
      ((.step (.advanced (σ.cursor + 1)),
        (k.withSession (σ.advance (σ.cursor + 1) a)).release c.generation), w') := by
  have heedless : c.kind = .run → σ.cursor + 1 ∉ σ.breakpoints := by
    rw [step]
    nofun
  rw [drive_advanced deciding current within heedless answered, Call.advanced_of_step step,
    drive_ended]

theorem step_failed {error : EvaluatorError} (running : k.session? = some σ)
    (free : σ.inFlight = false) (within : σ.cursor < σ.circuit.stepCount)
    (answered : e.evaluateUpTo σ.circuit (σ.cursor + 1) w = (.error error, w')) :
    ∃ k', k.step e w = (.ok (.step (.failed error.fault), k'), w') ∧
      k'.session? = some { σ.fail error.fault with inFlight := false } := by
  have current : (k.withSession { σ with inFlight := true }).current? σ.generation =
      some { σ with inFlight := true } := k.current?_withSession rfl
  refine ⟨_, perform_of_drive running free (drive_failed rfl current within nofun answered), ?_⟩
  exact Controller.release_session?_of_current (σ := { σ with inFlight := true }.fail error.fault)
    (Controller.current?_withSession _ rfl)

theorem step_advanced {a : Evaluation} (running : k.session? = some σ)
    (free : σ.inFlight = false) (within : σ.cursor < σ.circuit.stepCount)
    (answered : e.evaluateUpTo σ.circuit (σ.cursor + 1) w = (.ok a, w')) :
    ∃ k', k.step e w = (.ok (.step (.advanced (σ.cursor + 1)), k'), w') ∧
      k'.session? = some { σ.advance (σ.cursor + 1) a with inFlight := false } := by
  have current : (k.withSession { σ with inFlight := true }).current? σ.generation =
      some { σ with inFlight := true } := k.current?_withSession rfl
  refine ⟨_, perform_of_drive running free
    (drive_single (σ := { σ with inFlight := true }) rfl rfl current within answered), ?_⟩
  exact Controller.release_session?_of_current
    (σ := { σ with inFlight := true }.advance (σ.cursor + 1) a)
    (Controller.current?_withSession _ rfl)

/-- At the end of the circuit a single step has nothing to ask. -/
theorem step_atEnd (running : k.session? = some σ) (free : σ.inFlight = false)
    (atEnd : σ.circuit.stepCount ≤ σ.cursor) :
    ∃ k', k.step e w = (.ok (.step .endOfCircuit, k'), w) ∧
      k'.session? = some { σ with inFlight := false } := by
  have current : (k.withSession { σ with inFlight := true }).current? σ.generation =
      some { σ with inFlight := true } := k.current?_withSession rfl
  refine ⟨_, perform_of_drive running free ?_,
    Controller.release_session?_of_current (σ := { σ with inFlight := true }) current⟩
  rw [drive_deciding rfl, Call.decide_atEnd (σ := { σ with inFlight := true }) current atEnd, drive_ended]
  rfl

theorem stepOften_succ {outcome : Outcome} {k₁ k' : Controller} {w₁ : W} {count : Nat}
    (stepped : k.step e w = (.ok (outcome, k₁), w₁))
    (more : stepOften e count k₁ w₁ = (k', w')) : stepOften e (count + 1) k w = (k', w') := by
  simp only [stepOften, bind, StateT.bind, stepped, more]

/-- A controller with a free session makes the steps of a course one at a time. -/
theorem Course.stepOften {σ' : Session} {answers : List Answer} {reason : StopReason}
    (course : Course e σ w answers reason σ' w')
    (running : k.session? = some { σ with inFlight := false }) :
    ∃ k', stepOften e answers.length k w = (k', w') ∧
      k'.session? = some { σ' with inFlight := false } := by
  induction course generalizing k with
  | halted halts => exact ⟨k, rfl, running⟩
  | failed within clear answered =>
      obtain ⟨k', stepped, shown⟩ := step_failed running rfl within answered
      exact ⟨k', stepOften_succ stepped rfl, shown⟩
  | advanced within clear answered rest ih =>
      obtain ⟨k₁, stepped, shown⟩ := step_advanced running rfl within answered
      obtain ⟨k', more, shown⟩ := ih shown
      exact ⟨k', stepOften_succ stepped more, shown⟩

/-! ## Either call -/

/-- Without a session a call is refused, and the evaluator is not asked. -/
theorem perform_idle (e : Evaluator (StateM W)) (kind : CallKind) (w : W) (idle : k.session? = none) :
    k.perform e kind w = (.error .notRunning, w) := by
  unfold Controller.perform Call.begin
  rw [Controller.acquire_notRunning idle]
  rfl

/-- **A call that takes a free session has an outcome of that session**, and leaves it free again. Nothing of the
session changes but the cursor and what is shown with it. -/
theorem perform_free (e : Evaluator (StateM W)) (kind : CallKind) (w : W) (running : k.session? = some σ)
    (free : σ.inFlight = false) :
    ∃ outcome k' σ' w', k.perform e kind w = (.ok (outcome, k'), w') ∧ outcome.isDiscarded = false ∧
      k'.session? = some σ' ∧
      (σ'.circuit, σ'.generation, σ'.breakpoints, σ'.inFlight) =
        (σ.circuit, σ.generation, σ.breakpoints, false) := by
  cases kind with
  | step =>
      by_cases within : σ.cursor < σ.circuit.stepCount
      · cases answered : e.evaluateUpTo σ.circuit (σ.cursor + 1) w with
        | mk answer w' =>
            cases answer with
            | error error =>
                obtain ⟨k', stepped, shown⟩ := step_failed running free within answered
                exact ⟨_, k', _, w', stepped, rfl, shown, rfl⟩
            | ok a =>
                obtain ⟨k', stepped, shown⟩ := step_advanced running free within answered
                exact ⟨_, k', _, w', stepped, rfl, shown, rfl⟩
      · obtain ⟨k', stepped, shown⟩ := step_atEnd (e := e) (w := w) running free (UInt32.not_lt.mp within)
        exact ⟨_, k', _, w, stepped, rfl, shown, rfl⟩
  | run =>
      obtain ⟨answers, reason, σ', w', course⟩ := Course.exists_course e { σ with inFlight := true } w
      obtain ⟨taken, k', continued, -, shown⟩ := course.continueToBreakpoint running free
      have kept := course.same
      simp only [Prod.mk.injEq] at kept
      obtain ⟨sameCircuit, sameGeneration, sameBreakpoints, -⟩ := kept
      refine ⟨_, k', _, w', continued, ?_, shown, ?_⟩
      · exact decide_eq_false course.reason_ne_discarded
      · rw [← sameCircuit, ← sameGeneration, ← sameBreakpoints]

end Drive

end Debugger

end QuantumWorkbench
