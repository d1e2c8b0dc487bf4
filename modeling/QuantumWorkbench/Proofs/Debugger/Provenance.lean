import QuantumWorkbench.Proofs.Debugger.Custody

/-!
# Where the shown results come from

A session shows states, counts and an error. This module ties each of them to the history: what is
shown behind a step is the answer to the question about exactly that many steps, asked in the same
session, and the error is that of the answer that was committed last.

## Contents
- `Debugger.latestAnswer`, `Debugger.latestStopped`: the history as far as it is shown.
- `Debugger.Provenance`: what a session shows is what its history says.
- `Debugger.Account`: the invariant, with the questions that are still open.
- `Debugger.session_provenance`: after every run, with a session running and without.
-/

namespace QuantumWorkbench

namespace Debugger

/-! ## The latest events -/

/-- The answer that was committed to a session. -/
def Entry.committed? (g : Nat) : Entry → Option Answer
  | .settled _ session _ answer => if session = g then some answer else none
  | .opened .. | .stopped .. | .asked .. | .lost .. => none

/-- The answer that was committed last to a session. -/
def latestAnswer (g : Nat) (h : List Entry) : Option Answer :=
  (h.filterMap (Entry.committed? g)).getLast?

/-- The circuit of a session that was stopped. -/
def Entry.stopped? : Entry → Option Circuit
  | .stopped _ circuit => some circuit
  | .opened .. | .asked .. | .settled .. | .lost .. => none

/-- The circuit of the session that was stopped last. -/
def latestStopped (h : List Entry) : Option Circuit := (h.filterMap Entry.stopped?).getLast?

/-- The fault that an answer leaves behind. -/
def faultOf : Option Answer → Option Fault
  | some (.error error) => some error.fault
  | some (.ok _) | none => none

/-- The states that are shown when there is no session. -/
def groundAfter : Option Circuit → List QubitState
  | some circuit => QubitState.groundStates circuit.qubitCount
  | none => []

variable {s s' : Debugger} {h more : List Entry}

/-- Entries that commit nothing to a session leave its latest answer. -/
theorem latestAnswer_append_of_quiet {g : Nat}
    (quiet : ∀ entry ∈ more, Entry.committed? g entry = none) :
    latestAnswer g (h ++ more) = latestAnswer g h := by
  unfold latestAnswer
  rw [List.filterMap_append, List.filterMap_eq_nil_iff.mpr quiet, List.append_nil]

theorem latestAnswer_settled (n g : Nat) (limit : Index) (answer : Answer) :
    latestAnswer g (h ++ [.settled n g limit answer]) = some answer := by
  unfold latestAnswer
  rw [List.filterMap_append]
  simp [Entry.committed?]

theorem latestAnswer_eq_none {g : Nat} (none_of : ∀ n limit answer, .settled n g limit answer ∉ h) :
    latestAnswer g h = none := by
  unfold latestAnswer
  rw [List.getLast?_eq_none_iff, List.filterMap_eq_nil_iff]
  intro entry member
  cases entry with
  | settled n session limit answer =>
      by_cases same : session = g
      · exact absurd (same ▸ member) (none_of n limit answer)
      · exact if_neg same
  | _ => rfl

theorem latestStopped_append_of_quiet (quiet : ∀ entry ∈ more, Entry.stopped? entry = none) :
    latestStopped (h ++ more) = latestStopped h := by
  unfold latestStopped
  rw [List.filterMap_append, List.filterMap_eq_nil_iff.mpr quiet, List.append_nil]

theorem latestStopped_stopped (g : Nat) (circuit : Circuit) :
    latestStopped (h ++ [.stopped g circuit]) = some circuit := by
  unfold latestStopped
  rw [List.filterMap_append]
  simp [Entry.stopped?]

/-! ## One session -/

/-- **What a session shows is what its history says.** -/
structure Provenance (σ : Session) (h : List Entry) : Prop where
  opened : .opened σ.generation σ.circuit ∈ h
  ground : σ.cursor = 0 →
    σ.states = QubitState.groundStates σ.circuit.qubitCount ∧ σ.measurements = .empty
  /-- The question comes before its answer, and both are about the steps executed so far. -/
  answered : σ.cursor ≠ 0 → ∃ n e,
    List.Sublist [.asked n σ.generation σ.circuit σ.cursor,
      .settled n σ.generation σ.cursor (.ok e)] h ∧
      σ.states = e.states ∧ σ.measurements = e.measurements
  error : σ.lastError = faultOf (latestAnswer σ.generation h)

namespace Provenance

variable {σ : Session}

/-- What other sessions do, and what is only asked, changes nothing. -/
theorem append (hp : Provenance σ h)
    (quiet : ∀ entry ∈ more, Entry.committed? σ.generation entry = none) :
    Provenance σ (h ++ more) where
  opened := List.mem_append_left more hp.opened
  ground := hp.ground
  answered := fun moved => by
    obtain ⟨n, e, told, shown⟩ := hp.answered moved
    exact ⟨n, e, told.trans (List.sublist_append_left h more), shown⟩
  error := by
    rw [latestAnswer_append_of_quiet quiet]
    exact hp.error

/-- Breakpoints and the flag are not part of what a session shows. -/
theorem of_same (hp : Provenance σ h) (breakpoints : List Index) (inFlight : Bool) :
    Provenance { σ with breakpoints, inFlight } h :=
  ⟨hp.opened, hp.ground, hp.answered, hp.error⟩

/-- A session that was just opened. Nothing was committed to it so far. -/
theorem opening (circuit : Circuit) {g : Nat}
    (unheard : ∀ n limit answer, .settled n g limit answer ∉ h) :
    Provenance (.opening circuit g) (h ++ [.opened g circuit]) where
  opened := List.mem_append_right h (List.mem_singleton.mpr rfl)
  ground := fun _ => ⟨rfl, rfl⟩
  answered := fun moved => absurd rfl moved
  error := by
    rw [latestAnswer_append_of_quiet (by simp [Entry.committed?])]
    show none = faultOf (latestAnswer g h)
    rw [latestAnswer_eq_none unheard]
    rfl

/-- A committed success is what the session shows from now on. -/
theorem advance (hp : Provenance σ h) {n : Nat} (e : Evaluation)
    (within : σ.cursor < σ.circuit.stepCount)
    (asked : .asked n σ.generation σ.circuit (σ.cursor + 1) ∈ h) :
    Provenance (σ.advance (σ.cursor + 1) e)
      (h ++ [.settled n σ.generation (σ.cursor + 1) (.ok e)]) where
  opened := List.mem_append_left _ hp.opened
  ground := fun atStart => by
    have moved := Index.toNat_succ within
    rw [show σ.cursor + 1 = 0 from atStart] at moved
    cases moved
  answered := fun _ =>
    ⟨n, e, (List.singleton_sublist.mpr asked).append (List.Sublist.refl _), rfl, rfl⟩
  error := by
    show none = faultOf (latestAnswer σ.generation _)
    rw [latestAnswer_settled]
    rfl

/-- A committed failure leaves its fault and nothing else. -/
theorem fail (hp : Provenance σ h) (n : Nat) (limit : Index) (error : EvaluatorError) :
    Provenance (σ.fail error.fault)
      (h ++ [.settled n σ.generation limit (.error error)]) where
  opened := List.mem_append_left _ hp.opened
  ground := hp.ground
  answered := fun moved => by
    obtain ⟨m, e, told, shown⟩ := hp.answered moved
    exact ⟨m, e, told.trans (List.sublist_append_left h _), shown⟩
  error := by
    show some error.fault = faultOf (latestAnswer σ.generation _)
    rw [latestAnswer_settled]
    rfl

end Provenance

/-! ## The whole debugger -/

/-- **The history accounts for the state**: for the session that runs, for the states that are shown
without one, and for the questions that are still open. -/
structure Account (s : Debugger) (h : List Entry) : Prop where
  session : ∀ {σ}, s.controller.session? = some σ → Provenance σ h
  idle : s.controller.session? = none → s.controller.idleStates = groundAfter (latestStopped h)
  asked : ∀ {n g circuit cursor}, s.Waits n g circuit cursor → .asked n g circuit (cursor + 1) ∈ h
  /-- Nothing was committed to a session that is yet to be opened. -/
  early : ∀ {n g limit answer}, .settled n g limit answer ∈ h → g ≤ s.controller.generation

namespace Account

theorem init : Account {} [] where
  session := nofun
  idle := fun _ => rfl
  asked := fun ⟨_, found, _⟩ => by cases found
  early := fun member => absurd member List.not_mem_nil

/-- Entries that commit nothing leave the account of a session that keeps what it shows. -/
theorem of_quiet (ha : Account s h)
    (session : ∀ {σ'}, s'.controller.session? = some σ' → ∃ σ breakpoints inFlight,
      s.controller.session? = some σ ∧ σ' = { σ with breakpoints, inFlight })
    (idle : s'.controller.session? = none → s.controller.session? = none ∧
      s'.controller.idleStates = s.controller.idleStates)
    (waits : ∀ {n g circuit cursor}, s'.Waits n g circuit cursor →
      .asked n g circuit (cursor + 1) ∈ more ∨ s.Waits n g circuit cursor)
    (generation : s'.controller.generation = s.controller.generation)
    (quiet : ∀ entry ∈ more, (∀ g, Entry.committed? g entry = none) ∧
      Entry.stopped? entry = none) : Account s' (h ++ more) where
  session := fun {σ'} hσ' => by
    obtain ⟨σ, breakpoints, inFlight, running, rfl⟩ := session hσ'
    refine ((ha.session running).append ?_).of_same breakpoints inFlight
    exact fun entry member => (quiet entry member).1 _
  idle := fun none' => by
    obtain ⟨before, same⟩ := idle none'
    rw [same, latestStopped_append_of_quiet fun entry member => (quiet entry member).2]
    exact ha.idle before
  asked := fun hw => by
    rcases waits hw with new | old
    · exact List.mem_append_right h new
    · exact List.mem_append_left more (ha.asked old)
  early := fun member => by
    rw [generation]
    rcases List.mem_append.mp member with old | new
    · exact ha.early old
    · have silent := (quiet _ new).1
      simp [Entry.committed?] at silent

/-- **Every rule keeps the account.** -/
theorem step {event : Event} {reply : Reply} (hc : Custody s h) (hi : InStep s)
    (ha : Account s h) (hs : Step s event reply more s') : Account s' (h ++ more) := by
  cases hs with
  | refused | ignored | stoppedIdle => rwa [List.append_nil]
  | @opened circuit valid =>
      -- The generation is new: nothing in the history is about it.
      have unheard : ∀ n limit answer, .settled n (s.controller.generation + 1) limit answer ∉ h :=
        fun n limit answer member => absurd (ha.early member) (Nat.not_succ_le_self _)
      refine ⟨?_, nofun, ?_, ?_⟩
      · rintro _ ⟨⟩
        exact Provenance.opening circuit unheard
      · exact fun hw => List.mem_append_left _ (ha.asked hw)
      · intro n g limit answer member
        rw [List.mem_append, List.mem_singleton] at member
        rcases member with old | new
        · exact Nat.le_succ_of_le (ha.early old)
        · cases new
  | toggled running =>
      refine ha.of_quiet ?_ nofun .inr rfl (List.forall_mem_nil _)
      rintro _ ⟨⟩
      exact ⟨_, _, _, running, rfl⟩
  | stopped running =>
      refine ⟨nofun, fun _ => ?_, ?_, ?_⟩
      · rw [latestStopped_stopped]
        rfl
      · exact fun hw => List.mem_append_left _ (ha.asked hw)
      · intro n g limit answer member
        rw [List.mem_append, List.mem_singleton] at member
        rcases member with old | new
        · exact ha.early old
        · cases new
  | begun running free =>
      refine ha.of_quiet ?_ nofun (fun hw => .inr (waits_of_joined hc.fresh rfl hw)) rfl
        (List.forall_mem_nil _)
      rintro _ ⟨⟩
      exact ⟨_, _, _, running, rfl⟩
  | asked found deciding current within clear =>
      obtain ⟨running, own⟩ := Controller.current?_eq_some_iff.mp current
      refine ha.of_quiet (fun hσ => ⟨_, _, _, hσ, rfl⟩) (fun hn => ⟨hn, rfl⟩) ?_ rfl ?_
      · intro m g circuit cursor hw
        rcases waits_withCall found hw with ⟨rfl, rfl, stage⟩ | ⟨-, hw⟩
        · cases stage
          exact .inl (List.mem_singleton.mpr rfl)
        · exact .inr hw
      · simp [Entry.committed?, Entry.stopped?]
  | halted found | abandoned found =>
      exact ha.of_quiet (fun hσ => ⟨_, _, _, hσ, rfl⟩) (fun hn => ⟨hn, rfl⟩)
        (fun hw => .inr (waits_of_withCall found (Call.ended_stage_ne _ _) hw).2) rfl
        (List.forall_mem_nil _)
  | lost found waiting gone =>
      refine ha.of_quiet (fun hσ => ⟨_, _, _, hσ, rfl⟩) (fun hn => ⟨hn, rfl⟩)
        (fun hw => .inr (waits_of_withCall found (Call.ended_stage_ne _ _) hw).2) rfl ?_
      simp [Entry.committed?, Entry.stopped?]
  | @advanced n c circuit cursor σ e found waiting current =>
      obtain ⟨running, own⟩ := Controller.current?_eq_some_iff.mp current
      have waits : s.Waits n σ.generation circuit cursor := ⟨c, found, own.symm, waiting⟩
      obtain ⟨rfl, rfl, within⟩ := hi.waiting running waits
      rw [← own]
      refine ⟨?_, nofun, ?_, ?_⟩
      · rintro _ ⟨⟩
        exact (ha.session running).advance e within (ha.asked waits)
      · intro m g circuit cursor hw
        exact List.mem_append_left _
          (ha.asked (waits_of_withCall found (Call.advanced_stage_ne _ _) hw).2)
      · intro m g limit answer member
        rw [List.mem_append, List.mem_singleton] at member
        rcases member with old | new
        · exact ha.early old
        · cases new
          exact Nat.le_of_eq (hc.latest running)
  | @failed n c circuit cursor σ error found waiting current =>
      obtain ⟨running, own⟩ := Controller.current?_eq_some_iff.mp current
      rw [← own]
      refine ⟨?_, nofun, ?_, ?_⟩
      · rintro _ ⟨⟩
        exact (ha.session running).fail n (cursor + 1) error
      · intro m g circuit cursor hw
        exact List.mem_append_left _
          (ha.asked (waits_of_withCall found (Call.ended_stage_ne _ _) hw).2)
      · intro m g limit answer member
        rw [List.mem_append, List.mem_singleton] at member
        rcases member with old | new
        · exact ha.early old
        · cases new
          exact Nat.le_of_eq (hc.latest running)
  | @finished n c | @dropped n c =>
      refine ha.of_quiet ?_ ?_ (fun hw => .inr (waits_of_released hw))
        (Controller.release_generation _ _) (List.forall_mem_nil _)
      · intro σ' hσ'
        rw [released_session?] at hσ'
        obtain ⟨σ, running, rfl⟩ := Option.map_eq_some_iff.mp hσ'
        split
        · exact ⟨σ, _, _, running, rfl⟩
        · exact ⟨σ, _, _, running, rfl⟩
      · intro hn
        rw [released_session?, Option.map_eq_none_iff] at hn
        exact ⟨hn, Controller.release_idleStates _ _⟩

end Account

theorem account_run (events : List Event) : Account (run {} events) (history {} events) :=
  (run_induction (P := fun s h => Custody s h ∧ InStep s ∧ Account s h)
    ⟨Custody.init, InStep.init, Account.init⟩
    (fun ⟨hc, hi, ha⟩ hs => ⟨hc.step hs, InStep.step hc hi hs, Account.step hc hi ha hs⟩)
    events).2.2

/-! ## What is shown -/

/-- **Provenance.** After any events:
* the cursor of the running session lies within its circuit. At the start the session shows the ground
  and no counts; behind `k` steps it shows the answer to a question of this session about the first
  `k` steps of its circuit. Its error is that of the answer that was committed last, and there is none
  behind a success or before the first answer;
* without a session nothing is shown but states: the ground for the circuit that was stopped last, and
  none before the first stop. -/
theorem session_provenance (events : List Event) :
    let s := run {} events
    let h := history {} events
    (∀ σ, s.controller.session? = some σ →
      .opened σ.generation σ.circuit ∈ h ∧
      σ.cursor ≤ σ.circuit.stepCount ∧
      (σ.cursor = 0 → σ.states = QubitState.groundStates σ.circuit.qubitCount ∧
        σ.measurements = .empty) ∧
      (σ.cursor ≠ 0 → ∃ n e,
        List.Sublist [.asked n σ.generation σ.circuit σ.cursor,
          .settled n σ.generation σ.cursor (.ok e)] h ∧
        σ.states = e.states ∧ σ.measurements = e.measurements) ∧
      σ.lastError = faultOf (latestAnswer σ.generation h)) ∧
    (s.controller.session? = none →
      s.controller.snapshot = .idle (groundAfter (latestStopped h))) := by
  intro s h
  have hi : InStep s := inStep_run events
  have ha : Account s h := account_run events
  constructor
  · intro σ running
    have hp := ha.session running
    exact ⟨hp.opened, hi.within running, hp.ground, hp.answered, hp.error⟩
  · intro idle
    rw [Controller.snapshot, idle, ← ha.idle idle]

/-- Halfway through a run of steps the answer to the first step is shown, and behind a stop the ground
of the circuit. -/
theorem session_provenance_halfway :
    (∃ σ, (run {} halfway).controller.session? = some σ ∧ σ.cursor ≠ 0 ∧ ∃ n e,
      List.Sublist [.asked n 1 twoSteps 1, .settled n 1 1 (.ok e)] (history {} halfway) ∧
      σ.states = e.states ∧ σ.measurements = e.measurements) ∧
    (run {} (halfway ++ [.stop])).controller.session? = none ∧
    (run {} (halfway ++ [.stop])).controller.snapshot = .idle (QubitState.groundStates 1) := by
  refine ⟨⟨_, rfl, by decide, ?_⟩, rfl, ?_⟩
  · obtain ⟨-, -, -, answered, -⟩ := (session_provenance halfway).1 _ rfl
    exact answered (by decide)
  · exact (session_provenance (halfway ++ [.stop])).2 rfl

end Debugger

end QuantumWorkbench
