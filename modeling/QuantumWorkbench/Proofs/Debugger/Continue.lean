import QuantumWorkbench.Proofs.Debugger.Course
import QuantumWorkbench.Proofs.Debugger.Custody

/-!
# Runs of steps

A run of steps is nothing but single steps, one after the other, and stops where it should: before a
breakpoint, at the end of the circuit, or at the first failure. Disturbed by other operations it still
never asks about a breakpoint, and never asks more often than there are steps.

## Contents
- `Debugger.questions`: how many questions a call asked.
- `Debugger.Pace`: the invariant of a run of steps, by which its questions never get ahead of its
  session.
- `Debugger.pace_run`: it holds through every run of the debugger.
- `Debugger.continue_is_iterated_step`: undisturbed and disturbed runs of steps.
-/

namespace QuantumWorkbench

namespace Debugger

/-! ## Questions -/

/-- The call asked a question. -/
def Entry.questions (n : Nat) : Entry → Bool
  | .asked call .. => call == n
  | .opened .. | .stopped .. | .settled .. | .lost .. => false

/-- The number of questions that a call asked. -/
def questions (n : Nat) (h : List Entry) : Nat := h.countP (Entry.questions n)

variable {s s' : Debugger} {h h' more : List Entry} {n : Nat} {origin : Session}

theorem questions_append (n : Nat) (h more : List Entry) :
    questions n (h ++ more) = questions n h + questions n more := List.countP_append

theorem questions_asked (n m g : Nat) (circuit : Circuit) (limit : Index) :
    questions n [.asked m g circuit limit] = if m = n then 1 else 0 := by
  by_cases same : m = n <;> simp [questions, Entry.questions, same]

/-- A call asks about the step behind the cursor of its session, and a run of steps only if that step
is no breakpoint. -/
theorem asked_spec {g : Nat} {circuit : Circuit} {limit : Index} {event : Event}
    (asked : .asked n g circuit limit ∈ s.entries event) :
    ∃ c σ, s.call? n = some c ∧ c.generation = g ∧ s.controller.session? = some σ ∧
      σ.generation = g ∧ circuit = σ.circuit ∧ limit = σ.cursor + 1 ∧
      (c.kind = .run → limit ∉ σ.breakpoints) := by
  have hs := step_spec s event
  generalize (s.step event).1 = reply, s.entries event = more, (s.step event).2 = s' at hs asked
  cases hs with
  | asked found deciding current within clear =>
      obtain ⟨running, own⟩ := Controller.current?_eq_some_iff.mp current
      cases List.mem_singleton.mp asked
      exact ⟨_, _, found, rfl, running, own, rfl, rfl, clear⟩
  | opened | stopped | advanced | failed | lost => cases List.mem_singleton.mp asked
  | _ => cases asked

/-! ## The pace of a run of steps -/

/-- **Questions keep pace with the session.** A run of steps that began in the session `origin` has
moved it by one step for each question, but for the one that may be open. -/
structure Pace (origin : Session) (n : Nat) (s : Debugger) (h : List Entry) : Prop where
  opened : origin.generation ≤ s.controller.generation
  begun : n < s.nextCall
  circuit : ∀ {σ}, s.controller.session? = some σ → σ.generation = origin.generation →
    σ.circuit = origin.circuit
  call : ∀ {c}, s.call? n = some c → c.kind = .run ∧ c.generation = origin.generation
  bounded : questions n h ≤ origin.circuit.stepCount.toNat - origin.cursor.toNat
  deciding : ∀ {c σ}, s.call? n = some c → s.controller.session? = some σ →
    σ.generation = origin.generation → c.stage = .deciding →
    origin.cursor.toNat + questions n h ≤ σ.cursor.toNat
  waiting : ∀ {c σ}, s.call? n = some c → s.controller.session? = some σ →
    σ.generation = origin.generation → origin.cursor.toNat + questions n h ≤ σ.cursor.toNat + 1

namespace Pace

/-- A run of steps at its beginning. -/
theorem begin (hc : Custody s h) (running : s.controller.session? = some origin) :
    Pace origin s.nextCall (s.joined (s.controller.withSession { origin with inFlight := true })
      { kind := .run, generation := origin.generation }) [] where
  opened := Nat.le_of_eq (hc.latest running)
  begun := Nat.lt_succ_self _
  circuit := by
    rintro _ ⟨⟩ -
    rfl
  call := fun found => by
    rw [call?_joined _ _ hc.fresh, if_pos rfl] at found
    cases found
    exact ⟨rfl, rfl⟩
  bounded := Nat.zero_le _
  deciding := by
    rintro c _ - ⟨⟩ - -
    exact Nat.le_refl _
  waiting := by
    rintro c _ - ⟨⟩ -
    exact Nat.le_succ _

/-- What asks no question of the call, and neither moves its session nor wakes the call. -/
theorem of_quiet (hp : Pace origin n s h)
    (generation : s'.controller.generation = s.controller.generation)
    (session : s'.controller.session?.map (fun σ => (σ.generation, σ.circuit, σ.cursor)) =
      s.controller.session?.map (fun σ => (σ.generation, σ.circuit, σ.cursor)))
    (nextCall : s.nextCall ≤ s'.nextCall)
    (calls : ∀ {c'}, s'.call? n = some c' → ∃ c, s.call? n = some c ∧
      (c.kind, c.generation) = (c'.kind, c'.generation) ∧
      (c'.stage = .deciding → c.stage = .deciding))
    (quiet : questions n more = 0) : Pace origin n s' (h ++ more) := by
  have count : questions n (h ++ more) = questions n h := by
    rw [questions_append, quiet, Nat.add_zero]
  have before : ∀ {σ'}, s'.controller.session? = some σ' → ∃ σ, s.controller.session? = some σ ∧
      σ.generation = σ'.generation ∧ σ.circuit = σ'.circuit ∧ σ.cursor = σ'.cursor := by
    intro σ' running'
    obtain ⟨σ, running, same⟩ := Controller.exists_session_of_map session running'
    injection same with sameGeneration same
    injection same with sameCircuit sameCursor
    exact ⟨σ, running, sameGeneration, sameCircuit, sameCursor⟩
  refine ⟨?_, ?_, ?_, ?_, ?_, ?_, ?_⟩
  · rw [generation]
    exact hp.opened
  · exact Nat.lt_of_lt_of_le hp.begun nextCall
  · intro σ' running' own
    obtain ⟨σ, running, sameGeneration, sameCircuit, -⟩ := before running'
    rw [← sameCircuit]
    exact hp.circuit running (sameGeneration.trans own)
  · intro c' found'
    obtain ⟨c, found, same, -⟩ := calls found'
    injection same with sameKind sameGeneration
    rw [← sameKind, ← sameGeneration]
    exact hp.call found
  · rw [count]
    exact hp.bounded
  · intro c' σ' found' running' own stage
    obtain ⟨c, found, -, still⟩ := calls found'
    obtain ⟨σ, running, sameGeneration, -, sameCursor⟩ := before running'
    rw [count, ← sameCursor]
    exact hp.deciding found running (sameGeneration.trans own) (still stage)
  · intro c' σ' found' running' own
    obtain ⟨c, found, -, -⟩ := calls found'
    obtain ⟨σ, running, sameGeneration, -, sameCursor⟩ := before running'
    rw [count, ← sameCursor]
    exact hp.waiting found running (sameGeneration.trans own)

/-- A replacement that decides nothing: its kind and session are kept. -/
theorem calls_withCall {m : Nat} {c c' d : Call} (found : s.call? m = some c)
    (same : (c.kind, c.generation) = (d.kind, d.generation))
    (still : m = n → d.stage ≠ .deciding) (found' : (s.withCall m d).call? n = some c') :
    ∃ b, s.call? n = some b ∧ (b.kind, b.generation) = (c'.kind, c'.generation) ∧
      (c'.stage = .deciding → b.stage = .deciding) := by
  rcases call?_withCall_cases found found' with ⟨own, rfl⟩ | ⟨-, old⟩
  · exact ⟨c, own ▸ found, same, fun stage => absurd stage (still own.symm)⟩
  · exact ⟨c', old, rfl, id⟩

/-- **A question is asked while the session is ahead of all that were asked before.** -/
theorem ask (hp : Pace origin n s h) {c : Call} {σ : Session} (found : s.call? n = some c)
    (deciding : c.stage = .deciding) (current : s.controller.current? c.generation = some σ)
    (within : σ.cursor < σ.circuit.stepCount) :
    Pace origin n (s.withCall n (c.awaiting σ.circuit σ.cursor))
      (h ++ [.asked n c.generation σ.circuit (σ.cursor + 1)]) := by
  obtain ⟨running, own⟩ := Controller.current?_eq_some_iff.mp current
  obtain ⟨run, same⟩ := hp.call found
  have count : questions n (h ++ [.asked n c.generation σ.circuit (σ.cursor + 1)]) =
      questions n h + 1 := by
    rw [questions_append, questions_asked, if_pos rfl]
  -- All questions so far are behind the cursor, and the cursor is short of the end.
  have ahead := hp.deciding found running (own.trans same) deciding
  have room := UInt32.lt_iff_toNat_lt.mp within
  rw [hp.circuit running (own.trans same)] at room
  refine ⟨hp.opened, hp.begun, hp.circuit, ?_, ?_, ?_, ?_⟩
  · intro c' found'
    rw [call?_withCall_self found] at found'
    cases found'
    exact ⟨run, same⟩
  · rw [count]
    omega
  · intro c' σ' found' _ _ stage
    rw [call?_withCall_self found] at found'
    cases found'
    cases stage
  · intro c' σ' _ running' _
    cases running.symm.trans running'
    rw [count]
    omega

/-- **A success moves the session on**, whichever call it was for. -/
theorem advance (hi : InStep s) (hp : Pace origin n s h) {m : Nat} {c : Call} {circuit : Circuit}
    {cursor : Index} {σ : Session} {e : Evaluation} (found : s.call? m = some c)
    (waiting : c.stage = .awaiting circuit cursor)
    (current : s.controller.current? c.generation = some σ) :
    Pace origin n
      ({ s with controller := s.controller.withSession (σ.advance (cursor + 1) e) }.withCall m
        (c.advanced (cursor + 1)))
      (h ++ [.settled m c.generation (cursor + 1) (.ok e)]) := by
  obtain ⟨running, own⟩ := Controller.current?_eq_some_iff.mp current
  obtain ⟨-, rfl, within⟩ := hi.waiting running ⟨c, found, own.symm, waiting⟩
  have moved := Index.toNat_succ within
  have count : questions n (h ++ [.settled m c.generation (σ.cursor + 1) (.ok e)]) =
      questions n h := questions_append ..
  have calls : ∀ {c'}, (s.withCall m (c.advanced (σ.cursor + 1))).call? n = some c' →
      ∃ b, s.call? n = some b ∧ (b.kind, b.generation) = (c'.kind, c'.generation) :=
    exists_call?_of_withCall (fun c => (c.kind, c.generation)) found fun _ => by
      rw [Call.advanced_kind, Call.advanced_generation]
  have follows : ∀ {c'}, (s.withCall m (c.advanced (σ.cursor + 1))).call? n = some c' →
      σ.generation = origin.generation →
      origin.cursor.toNat + questions n h ≤ (σ.cursor + 1).toNat := by
    intro c' found' own'
    obtain ⟨b, found, -⟩ := calls found'
    rw [moved]
    exact hp.waiting found running own'
  refine ⟨hp.opened, hp.begun, ?_, ?_, ?_, ?_, ?_⟩
  · rintro _ ⟨⟩ own'
    have same : σ.circuit = origin.circuit := hp.circuit running own'
    exact same
  · intro c' found'
    obtain ⟨b, found, same⟩ := calls found'
    injection same with sameKind sameGeneration
    rw [← sameKind, ← sameGeneration]
    exact hp.call found
  · rw [count]
    exact hp.bounded
  · rintro c' _ found' ⟨⟩ own' -
    rw [count]
    exact follows found' own'
  · rintro c' _ found' ⟨⟩ own'
    rw [count]
    exact Nat.le_succ_of_le (follows found' own')

/-- **Every rule keeps the pace.** -/
theorem step {event : Event} {reply : Reply} (hc : Custody s h') (hi : InStep s)
    (hp : Pace origin n s h) (hs : Step s event reply more s') : Pace origin n s' (h ++ more) := by
  cases hs with
  | refused | ignored | stoppedIdle => rwa [List.append_nil]
  | opened =>
      -- The new session is not the one that the call began in.
      have other : s.controller.generation + 1 ≠ origin.generation :=
        Nat.ne_of_gt (Nat.lt_succ_of_le hp.opened)
      refine ⟨Nat.le_succ_of_le hp.opened, hp.begun, ?_, hp.call, ?_, ?_, ?_⟩
      · rintro _ ⟨⟩ own
        exact absurd own other
      · rw [questions_append]
        exact hp.bounded
      · rintro c _ - ⟨⟩ own -
        exact absurd own other
      · rintro c _ - ⟨⟩ own
        exact absurd own other
  | toggled running =>
      refine hp.of_quiet rfl ?_ (Nat.le_refl _) (fun found => ⟨_, found, rfl, id⟩) rfl
      rw [running]
      rfl
  | stopped =>
      refine ⟨hp.opened, hp.begun, nofun, hp.call, ?_, nofun, nofun⟩
      rw [questions_append]
      exact hp.bounded
  | begun running free =>
      refine hp.of_quiet rfl ?_ (Nat.le_succ _) (fun found => ⟨_, ?_, rfl, id⟩) rfl
      · rw [running]
        rfl
      · rwa [call?_joined _ _ hc.fresh, if_neg (Nat.ne_of_lt hp.begun)] at found
  | @asked m c σ found deciding current within clear =>
      by_cases hm : m = n
      · subst hm
        exact hp.ask found deciding current within
      · refine hp.of_quiet rfl rfl (Nat.le_refl _)
          (calls_withCall found rfl fun own => absurd own hm) ?_
        rw [questions_asked, if_neg hm]
  | halted found | abandoned found | lost found =>
      exact hp.of_quiet rfl rfl (Nat.le_refl _) (calls_withCall found rfl fun _ => nofun) rfl
  | advanced found waiting current => exact advance hi hp found waiting current
  | failed found waiting current =>
      obtain ⟨running, -⟩ := Controller.current?_eq_some_iff.mp current
      refine hp.of_quiet rfl ?_ (Nat.le_refl _) (calls_withCall found rfl fun _ => nofun) rfl
      rw [running]
      rfl
  | finished | dropped =>
      exact hp.of_quiet (Controller.release_generation _ _) (released_keeps _ _ _ fun _ => rfl)
        (Nat.le_refl _) (fun found' => ⟨_, (call?_of_released found').2, rfl, id⟩) rfl

end Pace

theorem pace_run (hc : Custody s h') (hi : InStep s) (hp : Pace origin n s h)
    (events : List Event) : Pace origin n (s.run events) (h ++ s.history events) :=
  (run_induction_from (P := fun s h => (∃ h', Custody s h') ∧ InStep s ∧ Pace origin n s h)
    (fun ⟨⟨_, hc⟩, hi, hp⟩ hs => ⟨⟨_, hc.step hs⟩, InStep.step hc hi hs, Pace.step hc hi hp hs⟩)
    events s h ⟨⟨_, hc⟩, hi, hp⟩).2.2

/-! ## Runs of steps, undisturbed and disturbed -/

/-- **A run of steps is iterated single steps.** Let a session be running and free.
* Undisturbed, against any evaluator with a state of its own, a run of steps asks about the next steps
  in order and is back when it has its answers. It ends at its destination, before the next breakpoint
  or at the end of the circuit, if all of them succeed; otherwise it ends before its destination, with
  the first failure. It counts the steps that it committed, and as many single steps as there were
  questions lead to the same session and the same evaluator. An evaluator may keep a list of what it is
  asked, as `listener` does: so the questions are the same, one by one.
* Disturbed by any events, it only asks about the step behind the cursor of its session while that
  step is no breakpoint, and never asks more often than there were steps left. -/
theorem continue_is_iterated_step (before : List Event) {σ : Session}
    (running : (run {} before).controller.session? = some σ) (free : σ.inFlight = false) :
    let s := run {} before
    (∀ (W : Type) (e : Evaluator (StateM W)) (w : W), ∃ answers w' taken reason k' k'' σ',
      s.controller.continueToBreakpoint e w = (.ok (.run taken reason, k'), w') ∧
      k'.session? = some σ' ∧
      (limitsBehind σ.cursor answers.length).mapM (e.evaluateUpTo σ.circuit) w = (answers, w') ∧
      stepOften e answers.length s.controller w = (k'', w') ∧ k''.session? = some σ' ∧
      σ'.cursor.toNat = σ.cursor.toNat + taken.toNat ∧
      ((∀ answer ∈ answers, answer.isOk = true) ∧ answers.length = taken.toNat ∧
          (σ'.cursor, reason) = σ.destination ∨
        ∃ front error, answers = front ++ [.error error] ∧
          (∀ answer ∈ front, answer.isOk = true) ∧ front.length = taken.toNat ∧
          σ'.cursor < σ.destination.1 ∧ reason = .failed error.fault)) ∧
    ∀ after,
      let n := s.nextCall
      let t := (s.step (.begin .run)).2
      (s.step (.begin .run)).1 = .begun n ∧
      (∀ event g circuit limit, .asked n g circuit limit ∈ (t.run after).entries event →
        circuit = σ.circuit ∧ ∃ σ', (t.run after).controller.session? = some σ' ∧
          σ'.generation = σ.generation ∧ limit = σ'.cursor + 1 ∧ limit ∉ σ'.breakpoints) ∧
      questions n (t.history after) ≤ σ.circuit.stepCount.toNat - σ.cursor.toNat := by
  intro s
  have hc : Custody s (history {} before) := custody_run before
  have hi : InStep s := inStep_run before
  constructor
  · intro W e w
    obtain ⟨answers, reason, σ', w', course⟩ :=
      Course.exists_course e { σ with inFlight := true } w
    obtain ⟨taken, k', continued, counted, shown⟩ := course.continueToBreakpoint running free
    have unflagged : s.controller.session? =
        some { { σ with inFlight := true } with inFlight := false } := by
      rw [running, ← free]
    obtain ⟨k'', stepped, shown'⟩ := course.stepOften unflagged
    refine ⟨answers, w', taken, reason, k', k'', _, continued, shown, course.asked, stepped,
      shown', ?_, ?_⟩
    · rw [counted]
      exact course.cursor
    · have bound : σ.cursor ≤ σ.circuit.stepCount := hi.within running
      rcases course.arrival bound with ⟨good, arrived⟩ | ⟨front, error, rfl, good, rest⟩
      · refine .inl ⟨good, ?_, arrived⟩
        rw [counted, List.countP_eq_length.mpr good]
      · refine .inr ⟨front, error, rfl, good, ?_, rest⟩
        rw [counted, List.countP_append, List.countP_eq_length.mpr good]
        rfl
  · intro after n t
    have hs := step_spec s (.begin .run)
    have hp₀ : Pace σ n t [] := by
      show Pace σ s.nextCall (s.step (.begin .run)).2 []
      rw [step_begin running free]
      exact Pace.begin hc running
    have hp : Pace σ n (t.run after) ([] ++ t.history after) :=
      pace_run (hc.step hs) (InStep.step hc hi hs) hp₀ after
    refine ⟨congrArg Prod.fst (step_begin running free .run), ?_, hp.bounded⟩
    intro event g circuit limit asked
    obtain ⟨c, σ', found, same, running', own, sameCircuit, next, clear⟩ := asked_spec asked
    obtain ⟨run, began⟩ := hp.call found
    have own' : σ'.generation = σ.generation := by rw [own, ← same, began]
    exact ⟨sameCircuit.trans (hp.circuit running' own'), σ', running', own', next, clear run⟩

/-- An evaluator that keeps a list of what it is asked. -/
def listener : Evaluator (StateM (List Index)) where
  name := "listener"
  evaluate := fun _ => pure (.ok (.initial 1))
  evaluateUpTo := fun _ limit asked => (.ok (.initial 1), asked ++ [limit])

/-- With a breakpoint at the second of two steps, a run of steps asks about the first, and so does one
single step. -/
theorem continue_is_iterated_step_twoSteps :
    let s := run {} [.start twoSteps, .toggleBreakpoint 2]
    (∃ σ, s.controller.session? = some σ ∧ σ.inFlight = false ∧ σ.destination = (1, .breakpoint 2)) ∧
    (∃ k' k'',
      s.controller.continueToBreakpoint listener [] = (.ok (.run 1 (.breakpoint 2), k'), [1]) ∧
      stepOften listener 1 s.controller [] = (k'', [1]) ∧ k''.session? = k'.session?) ∧
    questions 0 ((s.step (.begin .run)).2.history [.decide 0]) ≤ 2 := by
  intro s
  obtain ⟨undisturbed, disturbed⟩ :=
    continue_is_iterated_step [.start twoSteps, .toggleBreakpoint 2] rfl rfl
  refine ⟨⟨_, rfl, rfl, by decide⟩, ?_, (disturbed [.decide 0]).2.2⟩
  obtain ⟨answers, w', taken, reason, k', k'', σ', continued, shown, -, stepped, shown', -, ending⟩ :=
    undisturbed _ listener []
  have told : Outcome.run taken reason = .run 1 (.breakpoint 2) ∧ w' = [1] := by
    cases continued
    exact ⟨rfl, rfl⟩
  obtain ⟨same, rfl⟩ := told
  cases same
  rcases ending with ⟨-, count, -⟩ | ⟨_, _, -, -, -, -, failed⟩
  · rw [count] at stepped
    exact ⟨k', k'', continued, stepped, shown'.trans shown.symm⟩
  · cases failed

end Debugger

end QuantumWorkbench
