import QuantumWorkbench.Proofs.Circuit.FirstSteps
import QuantumWorkbench.Proofs.Debugger.Course
import QuantumWorkbench.Proofs.Debugger.Provenance

/-!
# Sessions that reach the end

An evaluator that is asked step by step and one that is asked once take different ways. They meet at the
end of the circuit: the last question is about all of its steps, and a circuit as of all its steps is the
circuit.

## Contents
- `Debugger.Upholds`: the answers of a run keep to a rule, and `Debugger.Faithful`, what follows for the
  history.
- `Simulator.evaluate_upTo`: the simulator answers every question about a sound circuit.
- `Debugger.end_is_simulation`: what a session shows at the end, and that the simulator gets there.
-/

namespace QuantumWorkbench

/-! ## Answers that keep to a rule -/

/-- Says which answers may be given to a question about the first `limit` steps of a circuit. -/
abbrev AnswerRule := Circuit → (limit : Index) → Answer → Prop

/-- Successes are those of the evaluator. Failures of any kind may come in between. -/
def Evaluator.Backs (e : Evaluator Id) : AnswerRule := fun c limit answer =>
  ∀ a, answer = .ok a → e.evaluateUpTo c limit = .ok a

/-- All answers are those of the simulator, which may draw other numbers each time. -/
def Simulator.Gives (s : Simulator) : AnswerRule := fun c limit answer =>
  ∃ draws, answer = ({ s with draws } : Simulator).evaluate (c.upTo limit)

/-- The fault that an outcome reports. -/
def Outcome.failure? : Outcome → Option Fault
  | .step (.failed fault) | .run _ (.failed fault) => some fault
  | .step (.advanced _) | .step .endOfCircuit | .step .discarded => none
  | .run _ (.breakpoint _) | .run _ .endOfCircuit | .run _ .discarded => none

theorem Call.failure?_stopped (c : Call) (reason : StopReason) :
    (c.stopped reason).failure? = match reason with
      | .failed fault => some fault
      | .breakpoint _ | .endOfCircuit | .discarded => none := by
  obtain ⟨kind, _, _, _⟩ := c
  cases kind with
  | step => cases reason <;> rfl
  | run => cases reason <;> rfl

namespace Debugger

/-- An answer that reaches a waiting call keeps to the rule. -/
def Keeps (rule : AnswerRule) (s : Debugger) (event : Event) : Prop :=
  ∀ n answer, event = .answer n answer → ∀ g circuit cursor, s.Waits n g circuit cursor →
    rule circuit (cursor + 1) answer

/-- All answers of a run keep to the rule. -/
def Upholds (rule : AnswerRule) (s : Debugger) : List Event → Prop
  | [] => True
  | event :: rest => s.Keeps rule event ∧ Upholds rule (s.step event).2 rest

variable {s s' : Debugger} {h more : List Entry} {rule : AnswerRule}

theorem keeps_answer {n : Nat} {c : Call} {circuit : Circuit} {cursor : Index} {answer : Answer}
    (found : s.call? n = some c) (waiting : c.stage = .awaiting circuit cursor)
    (kept : rule circuit (cursor + 1) answer) : s.Keeps rule (.answer n answer) := by
  rintro _ _ ⟨⟩ g circuit' cursor' ⟨c', found', -, waiting'⟩
  cases found.symm.trans found'
  cases waiting.symm.trans waiting'
  exact kept

/-- **What was committed to a session keeps to the rule for its circuit**, and the circuit was valid. -/
structure Faithful (rule : AnswerRule) (h : List Entry) : Prop where
  valid : ∀ {g circuit}, .opened g circuit ∈ h → circuit.validate = .ok ()
  settled : ∀ {n g limit answer}, .settled n g limit answer ∈ h →
    ∃ circuit, .opened g circuit ∈ h ∧ rule circuit limit answer

namespace Faithful

theorem init : Faithful rule [] where
  valid := nofun
  settled := nofun

/-- Only new entries that open a session or commit to one need a look. -/
theorem append (hf : Faithful rule h)
    (opens : ∀ {g circuit}, .opened g circuit ∈ more → circuit.validate = .ok ())
    (commits : ∀ {n g limit answer}, .settled n g limit answer ∈ more →
      ∃ circuit, .opened g circuit ∈ h ∧ rule circuit limit answer) : Faithful rule (h ++ more) where
  valid := fun member => by
    rcases List.mem_append.mp member with old | new
    · exact hf.valid old
    · exact opens new
  settled := fun {n g limit answer} member => by
    have told : ∃ circuit, .opened g circuit ∈ h ∧ rule circuit limit answer := by
      rcases List.mem_append.mp member with old | new
      · exact hf.settled old
      · exact commits new
    obtain ⟨circuit, opened, kept⟩ := told
    exact ⟨circuit, List.mem_append_left more opened, kept⟩

/-- Entries that neither open a session nor commit to one. -/
theorem of_quiet (hf : Faithful rule h) (opens : ∀ g circuit, .opened g circuit ∉ more)
    (commits : ∀ n g limit answer, .settled n g limit answer ∉ more) : Faithful rule (h ++ more) :=
  hf.append (fun new => absurd new (opens _ _)) fun new => absurd new (commits _ _ _ _)

theorem opening (hf : Faithful rule h) {circuit : Circuit} (valid : circuit.validate = .ok ()) (g : Nat) :
    Faithful rule (h ++ [.opened g circuit]) := by
  refine hf.append ?_ ?_
  · intro _ _ new
    cases List.mem_singleton.mp new
    exact valid
  · intro _ _ _ _ new
    cases List.mem_singleton.mp new

theorem settle (hf : Faithful rule h) {n g : Nat} {circuit : Circuit} {limit : Index} {answer : Answer}
    (opened : .opened g circuit ∈ h) (kept : rule circuit limit answer) :
    Faithful rule (h ++ [.settled n g limit answer]) := by
  refine hf.append ?_ ?_
  · intro _ _ new
    cases List.mem_singleton.mp new
  · intro _ _ _ _ new
    cases List.mem_singleton.mp new
    exact ⟨circuit, opened, kept⟩

/-- **Every rule of the debugger keeps the history faithful.** -/
theorem step {event : Event} {reply : Reply} (hi : InStep s) (ha : Account s h)
    (hf : Faithful rule h) (keeps : s.Keeps rule event) (hs : Step s event reply more s') :
    Faithful rule (h ++ more) := by
  cases hs with
  | opened valid => exact hf.opening valid _
  -- Only a waiting call of the session at hand commits an answer.
  | @advanced n c circuit cursor σ e found waiting current
  | @failed n c circuit cursor σ e found waiting current =>
      obtain ⟨running, own⟩ := Controller.current?_eq_some_iff.mp current
      have waits : s.Waits n σ.generation circuit cursor := ⟨c, found, own.symm, waiting⟩
      have kept := keeps n _ rfl _ _ _ waits
      obtain ⟨rfl, -, -⟩ := hi.waiting running waits
      exact hf.settle (own ▸ (ha.session running).opened) kept
  | _ => exact hf.of_quiet (by simp) (by simp)

end Faithful

theorem faithful_run {events : List Event} (upholds : Upholds rule {} events) :
    Faithful rule (history {} events) := by
  suffices ∀ (s : Debugger) (h : List Entry), Custody s h → InStep s → Account s h →
      Faithful rule h → Upholds rule s events → Faithful rule (h ++ s.history events) from
    this {} [] Custody.init InStep.init Account.init Faithful.init upholds
  clear upholds
  induction events with
  | nil =>
      intro s h _ _ _ hf _
      rwa [history, List.append_nil]
  | cons event rest ih =>
      intro s h hc hi ha hf upholds
      have hs := step_spec s event
      rw [history, ← List.append_assoc]
      exact ih _ _ (hc.step hs) (InStep.step hc hi hs) (Account.step hc hi ha hs)
        (Faithful.step hi ha hf upholds.1 hs) upholds.2

/-- A session is opened once. -/
theorem circuit_unique (hc : Custody s h) {g : Nat} {c d : Circuit} (hopen : .opened g c ∈ h)
    (hopen' : .opened g d ∈ h) : c = d := by
  -- The numbers of sessions grow, so that of two entries with one number neither comes first.
  have ascending := hc.ascending
  rw [openedSessions, List.pairwise_filterMap, List.pairwise_iff_getElem] at ascending
  obtain ⟨i, hi, first⟩ := List.getElem_of_mem hopen
  obtain ⟨j, hj, second⟩ := List.getElem_of_mem hopen'
  rcases Nat.lt_trichotomy i j with lt | rfl | gt
  · have later := ascending i j hi hj lt g (by rw [first]; rfl) g (by rw [second]; rfl)
    exact absurd later (Nat.lt_irrefl g)
  · cases first.symm.trans second
    rfl
  · have later := ascending j i hj hi gt g (by rw [second]; rfl) g (by rw [first]; rfl)
    exact absurd later (Nat.lt_irrefl g)

/-- What was committed to a session keeps to the rule for the circuit that it was opened on. -/
theorem rule_of_settled {events : List Event} (upholds : Upholds rule {} events) {n g : Nat}
    {circuit : Circuit} {limit : Index} {answer : Answer} (opened : .opened g circuit ∈ history {} events)
    (settled : .settled n g limit answer ∈ history {} events) : rule circuit limit answer := by
  obtain ⟨circuit', opened', kept⟩ := (faithful_run upholds).settled settled
  rwa [circuit_unique (custody_run events) opened opened']

theorem exists_settled_of_latestAnswer {g : Nat} {answer : Answer} (latest : latestAnswer g h = some answer) :
    ∃ n limit, .settled n g limit answer ∈ h := by
  obtain ⟨entry, member, committed⟩ := List.mem_filterMap.mp (List.mem_of_getLast? latest)
  cases entry with
  | settled n session limit answer' =>
      by_cases same : session = g
      · rw [same] at member
        rw [Entry.committed?, if_pos same] at committed
        cases committed
        exact ⟨n, limit, member⟩
      · rw [Entry.committed?, if_neg same] at committed
        cases committed
  | _ => cases committed

/-! ## Reported faults -/

/-- **A call that reports a fault has got it as an answer**, and the answer was committed. -/
def Truthful (s : Debugger) (h : List Entry) : Prop :=
  ∀ {n c outcome fault}, s.call? n = some c → c.stage = .finishing outcome →
    outcome.failure? = some fault →
    ∃ m limit error, error.fault = fault ∧ .settled m c.generation limit (.error error) ∈ h

namespace Truthful

/-- Only a call that has just got its outcome needs a look. -/
theorem of_calls (ht : Truthful s h) (calls : ∀ {n c' outcome fault}, s'.call? n = some c' →
      c'.stage = .finishing outcome → outcome.failure? = some fault →
      s.call? n = some c' ∨ ∃ m limit error, error.fault = fault ∧
        .settled m c'.generation limit (.error error) ∈ more) :
    Truthful s' (h ++ more) := by
  intro n c' outcome fault found' finishing reports
  rcases calls found' finishing reports with old | ⟨m, limit, error, same, new⟩
  · obtain ⟨m, limit, error, same, told⟩ := ht old finishing reports
    exact ⟨m, limit, error, same, List.mem_append_left more told⟩
  · exact ⟨m, limit, error, same, List.mem_append_right h new⟩

/-- A call that is replaced by one without a fault. -/
theorem of_withCall (ht : Truthful s h) {n : Nat} {c d : Call} (found : s.call? n = some c)
    (clean : ∀ outcome, d.stage = .finishing outcome → outcome.failure? = none) {k : Controller} :
    Truthful ({ s with controller := k }.withCall n d) (h ++ more) :=
  ht.of_calls fun found' finishing reports => by
    have found₀ : ({ s with controller := k } : Debugger).call? n = some c := found
    rcases call?_withCall_cases found₀ found' with ⟨-, rfl⟩ | ⟨-, old⟩
    · rw [clean _ finishing] at reports
      cases reports
    · exact .inl old

theorem step {event : Event} {reply : Reply} (hc : Custody s h) (ht : Truthful s h)
    (hs : Step s event reply more s') : Truthful s' (h ++ more) := by
  cases hs with
  | refused | ignored | stoppedIdle | opened | toggled | stopped =>
      exact ht.of_calls fun found' _ _ => .inl found'
  | @begun kind σ running free =>
      refine ht.of_calls fun found' finishing _ => ?_
      rw [call?_joined _ _ hc.fresh] at found'
      split at found'
      · cases found'
        cases finishing
      · exact .inl found'
  | asked found => exact ht.of_withCall found fun _ finishing => by cases finishing
  | @halted n c σ reason found deciding current halts =>
      refine ht.of_withCall found ?_
      rintro _ ⟨⟩
      rw [Call.failure?_stopped]
      generalize c.kind = kind at halts
      cases halts with
      | atEnd => rfl
      | breakpoint => rfl
  | abandoned found | lost found =>
      refine ht.of_withCall found ?_
      rintro _ ⟨⟩
      rw [Call.failure?_stopped]
  | @advanced n c circuit cursor σ e found =>
      refine ht.of_withCall found ?_
      obtain ⟨kind, _, _, _⟩ := c
      cases kind with
      | step =>
          rintro _ ⟨⟩
          rfl
      -- A run of steps decides again and reports nothing yet.
      | run => exact nofun
  | @failed n c circuit cursor σ error found =>
      refine ht.of_calls fun found' finishing reports => ?_
      rcases call?_withCall_cases found found' with ⟨-, rfl⟩ | ⟨-, old⟩
      · cases finishing
        rw [Call.failure?_stopped] at reports
        exact .inr ⟨n, cursor + 1, error, Option.some.inj reports, List.mem_singleton.mpr rfl⟩
      · exact .inl old
  | finished | dropped => exact ht.of_calls fun found' _ _ => .inl (call?_of_released found').2

end Truthful

theorem reported_run (events : List Event) : Truthful (run {} events) (history {} events) :=
  (run_induction (P := fun s h => Custody s h ∧ Truthful s h) ⟨Custody.init, nofun⟩
    (fun ⟨hc, ht⟩ hs => ⟨hc.step hs, ht.step hc hs⟩) events).2

/-- Where a fault is reported, a failure was committed. -/
theorem truthful_run (events : List Event) {n : Nat} {c : Call} {outcome : Outcome} {fault : Fault}
    (found : (run {} events).call? n = some c) (finishing : c.stage = .finishing outcome)
    (reports : outcome.failure? = some fault) :
    ∃ m limit error, .settled m c.generation limit (.error error) ∈ history {} events := by
  obtain ⟨m, limit, error, -, told⟩ := reported_run events found finishing reports
  exact ⟨m, limit, error, told⟩

end Debugger

/-! ## The simulator -/

/-- **The simulator answers every question about a sound circuit** within its limit. -/
theorem Simulator.evaluate_upTo {s : Simulator} {c : Circuit} (sound : c.check = .ok ())
    (small : c.qubitCount ≤ s.maxQubits) (limit : Index) :
    s.evaluate (c.upTo limit) = .ok (s.run (c.upTo limit)) :=
  evaluate_of_check
    (check_eq_ok_iff.mpr ⟨small, Circuit.inside_upTo (Circuit.check_eq_ok sound).2.1 limit⟩)

theorem Simulator.ok_of_gives {s : Simulator} {c : Circuit} {limit : Index} {answer : Answer}
    (given : s.Gives c limit answer) (sound : c.check = .ok ()) (small : c.qubitCount ≤ s.maxQubits) :
    ∃ a, answer = .ok a := by
  obtain ⟨draws, said⟩ := given
  exact ⟨_, said.trans (evaluate_upTo (s := { s with draws }) sound small limit)⟩

namespace Debugger

section Sound

variable {W : Type} {simulator : Simulator} {e : Evaluator (StateM W)} {σ σ' : Session} {w w' : W}
  {k : Controller}

/-- With a sound circuit every answer of a run of steps is a success. -/
theorem Course.isOk_of_sound (gives : ∀ c limit w, simulator.Gives c limit (e.evaluateUpTo c limit w).1)
    {answers : List Answer} {reason : StopReason} (course : Course e σ w answers reason σ' w')
    (sound : σ.circuit.check = .ok ()) (small : σ.circuit.qubitCount ≤ simulator.maxQubits) :
    ∀ answer ∈ answers, answer.isOk = true := by
  induction course with
  | halted => exact List.forall_mem_nil _
  | @failed σ w _ _ within clear answered =>
      have given := gives σ.circuit (σ.cursor + 1) w
      rw [answered] at given
      obtain ⟨a, said⟩ := Simulator.ok_of_gives given sound small
      cases said
  | advanced within clear answered rest ih =>
      exact List.forall_mem_cons.mpr ⟨rfl, ih sound small⟩

/-- A step of a sound circuit does not fail. -/
theorem step_of_sound (gives : ∀ c limit w, simulator.Gives c limit (e.evaluateUpTo c limit w).1)
    (running : k.session? = some σ) (free : σ.inFlight = false)
    (sound : σ.circuit.check = .ok ()) (small : σ.circuit.qubitCount ≤ simulator.maxQubits)
    (within : σ.cursor < σ.circuit.stepCount) (w : W) :
    ∃ k' w', k.step e w = (.ok (.step (.advanced (σ.cursor + 1)), k'), w') := by
  have given := gives σ.circuit (σ.cursor + 1) w
  cases answered : e.evaluateUpTo σ.circuit (σ.cursor + 1) w with
  | mk answer w' =>
      rw [answered] at given
      obtain ⟨a, rfl⟩ := Simulator.ok_of_gives given sound small
      obtain ⟨k', stepped, -⟩ := step_advanced running free within answered
      exact ⟨k', w', stepped⟩

/-- **Without breakpoints a run of steps takes a sound circuit to its end.** -/
theorem run_of_sound (gives : ∀ c limit w, simulator.Gives c limit (e.evaluateUpTo c limit w).1)
    (running : k.session? = some σ) (free : σ.inFlight = false)
    (sound : σ.circuit.check = .ok ()) (small : σ.circuit.qubitCount ≤ simulator.maxQubits)
    (bound : σ.cursor ≤ σ.circuit.stepCount) (clear : σ.breakpoints = []) (w : W) :
    ∃ taken k' w', k.continueToBreakpoint e w = (.ok (.run taken .endOfCircuit, k'), w') ∧
      σ.cursor.toNat + taken.toNat = σ.circuit.stepCount.toNat := by
  obtain ⟨answers, reason, σ', w', course⟩ := Course.exists_course e { σ with inFlight := true } w
  have good := course.isOk_of_sound gives sound small
  have unset : ({ σ with inFlight := true } : Session).nextBreakpoint = none := by
    rw [Session.nextBreakpoint_eq_none_iff]
    intro b isSet
    rw [clear] at isSet
    cases isSet
  have arrived : (σ'.cursor, reason) = (σ.circuit.stepCount, .endOfCircuit) := by
    rcases course.arrival bound with ⟨-, arrived⟩ | ⟨front, error, rfl, -⟩
    · rwa [Session.destination, unset] at arrived
    · have failed := good (.error error) (List.mem_append_right front (List.mem_singleton.mpr rfl))
      cases failed
  obtain ⟨atEnd, rfl⟩ := Prod.mk.inj arrived
  obtain ⟨taken, k', driven, counted, -⟩ := course.continueToBreakpoint running free
  have moved := course.cursor
  rw [atEnd, ← counted] at moved
  exact ⟨taken, k', w', driven, moved.symm⟩

end Sound

/-- **The end of a session is the whole circuit, evaluated once.**
* Let all successes in a run be those of one evaluator, which answers a question about the first steps
  by the circuit as of these steps; failures may come at any time and for any reason. Whenever the
  session stands at the end of a circuit with steps, it shows what the evaluator says of the circuit.
  Circuits are valid by the time they have a session.
* Let all answers in a run be those of the simulator. In a session on a sound circuit within its limit
  only successes are committed, no call reports a fault and none is shown. The next step does not fail,
  and without breakpoints a run of steps makes all the steps that are left. -/
theorem end_is_simulation :
    (∀ e : Evaluator Id, (∀ c limit, e.evaluateUpTo c limit = e.evaluate (c.upTo limit)) →
      ∀ events, Upholds e.Backs {} events →
      ∀ σ, (run {} events).controller.session? = some σ →
        σ.circuit.Made → σ.circuit.stepCount ≠ 0 → σ.cursor = σ.circuit.stepCount →
        ∃ a, e.simulate σ.circuit = .ok a ∧ σ.states = a.states ∧ σ.measurements = a.measurements) ∧
    (∀ simulator : Simulator, ∀ events, Upholds simulator.Gives {} events →
      ∀ g c, .opened g c ∈ history {} events → c.check = .ok () → c.qubitCount ≤ simulator.maxQubits →
        (∀ n limit answer, .settled n g limit answer ∈ history {} events → answer.isOk = true) ∧
        (∀ n call outcome, (run {} events).call? n = some call → call.generation = g →
          call.stage = .finishing outcome → outcome.failure? = none) ∧
        ∀ σ, (run {} events).controller.session? = some σ → σ.generation = g →
          σ.lastError = none ∧
          (σ.inFlight = false → ∀ (W : Type) (e : Evaluator (StateM W)),
            (∀ c limit w, simulator.Gives c limit (e.evaluateUpTo c limit w).1) → ∀ w,
            (σ.cursor < c.stepCount → ∃ k' w', (run {} events).controller.step e w =
              (.ok (.step (.advanced (σ.cursor + 1)), k'), w')) ∧
            (σ.breakpoints = [] → ∃ taken k' w',
              (run {} events).controller.continueToBreakpoint e w =
                (.ok (.run taken .endOfCircuit, k'), w') ∧
              σ.cursor.toNat + taken.toNat = c.stepCount.toNat))) := by
  constructor
  · intro e provided events upholds σ running made steps atEnd
    have hp : Provenance σ (history {} events) := (account_run events).session running
    obtain ⟨n, a, told, states, measurements⟩ := hp.answered (atEnd ▸ steps)
    have settled := told.subset (List.mem_cons_of_mem _ (List.mem_singleton.mpr rfl))
    -- What is on show was the answer to the question about all the steps.
    have said := rule_of_settled upholds hp.opened settled a rfl
    have whole : e.evaluate σ.circuit = .ok a := by
      rwa [provided, atEnd, Circuit.upTo_stepCount (Circuit.spanned_of_made made)] at said
    refine ⟨a, ?_, states, measurements⟩
    rw [Evaluator.simulate, (faithful_run upholds).valid hp.opened, whole]
    rfl
  · intro simulator events upholds g c opened sound small
    have good : ∀ n limit answer, .settled n g limit answer ∈ history {} events → answer.isOk = true := by
      intro n limit answer settled
      obtain ⟨a, rfl⟩ := Simulator.ok_of_gives (rule_of_settled upholds opened settled) sound small
      rfl
    refine ⟨good, ?_, ?_⟩
    · rintro n call outcome found rfl finishing
      cases reports : outcome.failure? with
      | none => rfl
      | some fault =>
          obtain ⟨m, limit, error, settled⟩ := truthful_run events found finishing reports
          cases good m limit _ settled
    · rintro σ running rfl
      have hp : Provenance σ (history {} events) := (account_run events).session running
      cases circuit_unique (custody_run events) opened hp.opened
      refine ⟨?_, fun free W e gives w => ⟨fun within => ?_, fun clear => ?_⟩⟩
      · rw [hp.error]
        cases latest : latestAnswer σ.generation (history {} events) with
        | none => rfl
        | some answer =>
            obtain ⟨n, limit, settled⟩ := exists_settled_of_latestAnswer latest
            cases answer with
            | ok a => rfl
            | error error => cases good n limit _ settled
      · exact step_of_sound gives running free sound small within w
      · exact run_of_sound gives running free sound small ((inStep_run events).within running) clear w

/-- A run of steps that fails and is tried again. It stops at a breakpoint, and a single step goes on. -/
def retried : List Event :=
  [.start twoSteps, .toggleBreakpoint 2,
    .begin .run, .decide 0, .answer 0 (.error (.unavailable "busy")), .finish 0,
    .begin .run, .decide 1, .answer 1 (.ok (Simulator.seeded.run (twoSteps.upTo 1))), .decide 1, .finish 1,
    .begin .step, .decide 2, .answer 2 (.ok (Simulator.seeded.run (twoSteps.upTo 2))), .finish 2]

/-- A single step. -/
def stepped : List Event :=
  [.start twoSteps, .begin .step, .decide 0, .answer 0 (.ok (Simulator.seeded.run (twoSteps.upTo 1))),
    .finish 0]

/-- The detour of `retried` ends at what the simulator says of the circuit, and behind `stepped` one
step is left for a run of steps. -/
theorem end_is_simulation_twoSteps :
    (∃ σ a, (run {} retried).controller.session? = some σ ∧ σ.cursor = 2 ∧
      Evaluator.simulate (m := Id) Simulator.seeded.evaluator twoSteps = .ok a ∧
      σ.states = a.states ∧ σ.measurements = a.measurements) ∧
    ∃ σ taken k' w', (run {} stepped).controller.session? = some σ ∧ σ.lastError = none ∧
      (run {} stepped).controller.continueToBreakpoint (m := StateM Unit) Simulator.seeded.evaluator () =
        (.ok (.run taken .endOfCircuit, k'), w') ∧
      1 + taken.toNat = 2 := by
  have sound : twoSteps.check = .ok () := rfl
  have small : twoSteps.qubitCount ≤ Simulator.seeded.maxQubits := by decide
  have said : ∀ limit, Simulator.seeded.evaluate (twoSteps.upTo limit) =
      .ok (Simulator.seeded.run (twoSteps.upTo limit)) := Simulator.evaluate_upTo sound small
  constructor
  · have upholds : Upholds (Evaluator.Backs Simulator.seeded.evaluator) {} retried :=
      ⟨nofun, nofun, nofun, nofun, keeps_answer rfl rfl nofun, nofun, nofun, nofun,
        keeps_answer rfl rfl fun _ same => (said 1).trans same, nofun, nofun, nofun, nofun,
        keeps_answer rfl rfl fun _ same => (said 2).trans same, nofun, trivial⟩
    have made : twoSteps.Made := .built (show Circuit.ofGates "two" 1 twoSteps.gates = .ok twoSteps from rfl)
    obtain ⟨a, whole, states, measurements⟩ :=
      end_is_simulation.1 Simulator.seeded.evaluator (fun _ _ => rfl) retried upholds _ rfl made
        (by decide) rfl
    exact ⟨_, a, rfl, rfl, whole, states, measurements⟩
  · have upholds : Upholds Simulator.seeded.Gives {} stepped :=
      ⟨nofun, nofun, nofun, keeps_answer rfl rfl ⟨Simulator.seeded.draws, (said 1).symm⟩, nofun, trivial⟩
    obtain ⟨-, -, shown⟩ :=
      end_is_simulation.2 Simulator.seeded stepped upholds 1 twoSteps (.head _) sound small
    obtain ⟨clean, goesOn⟩ := shown _ rfl rfl
    obtain ⟨taken, k', w', driven, counted⟩ :=
      (goesOn rfl Unit Simulator.seeded.evaluator (fun _ _ _ => ⟨Simulator.seeded.draws, rfl⟩) ()).2 rfl
    exact ⟨_, taken, k', w', rfl, clean, driven, counted⟩

end Debugger

end QuantumWorkbench
