import QuantumWorkbench.Console.Prompt
import QuantumWorkbench.Proofs.Debugger.Breakpoints
import QuantumWorkbench.Proofs.Debugger.Continue

/-!
# Breakpoints at the prompt

The prompt keeps a set of breakpoints of its own, for the sessions to come, beside the one of the running session.
Toggles, stops and restarts change them in different ways. This module shows that they never part, and that what the
prompt keeps can be told from the lines alone: it is what the toggles come to that were made while a session was
running.

## Contents
- `PromptCommand.inLines`, `PromptCommand.runningBehind`, `PromptCommand.accepted`: what some lines ask for, whether
  a session is running behind them, and the steps that a running session toggles at them.
- `Prompt.after`: the prompt behind some lines, and `Prompt.session_after`: a session at the prompt comes through it.
- `Prompt.InOrder`: both sets of breakpoints are what the toggles come to, and the session is free.
- `Prompt.opening_inOrder`, `Prompt.InOrder.enter`, `Prompt.InOrder.after`: so it is at first, behind each line, and so
  at every prompt. `Prompt.InOrder.restart`: the session that a restart opens.
- `Prompt.breakpoints_kept`: what this means for breakpoints and for what is reported.
-/

namespace QuantumWorkbench

/-! ## What lines ask for -/

namespace PromptCommand

/-- The commands in some lines. Blank lines and mistakes hold none. -/
def inLines (lines : List String) : List PromptCommand :=
  lines.filterMap fun line => (ofLine line).toOption.join

/-- Whether a session is running behind a command. -/
def runningAfter (running : Bool) : PromptCommand → Bool
  | .stop => false
  | .restart => true
  | .step | .run | .toggle _ | .state | .help | .quit => running

/-- Whether a session is running behind some commands. -/
def runningBehind (running : Bool) (commands : List PromptCommand) : Bool :=
  commands.foldl runningAfter running

/-- The step that a running session toggles at a command. -/
def toggles (running : Bool) : PromptCommand → List Index
  | .toggle n => if running then [n] else []
  | .step | .run | .state | .stop | .restart | .help | .quit => []

/-- The steps that are toggled at some commands. While no session is running a toggle is refused. -/
def accepted : Bool → List PromptCommand → List Index
  | _, [] => []
  | running, c :: rest => c.toggles running ++ accepted (c.runningAfter running) rest

theorem accepted_append (running : Bool) (commands more : List PromptCommand) :
    accepted running (commands ++ more) =
      accepted running commands ++ accepted (runningBehind running commands) more := by
  induction commands generalizing running with
  | nil => rfl
  | cons c rest ih =>
      rw [List.cons_append, accepted, accepted, ih, List.append_assoc]
      rfl

theorem runningBehind_append (running : Bool) (commands more : List PromptCommand) :
    runningBehind running (commands ++ more) = runningBehind (runningBehind running commands) more :=
  List.foldl_append

theorem inLines_cons (line : String) (rest : List String) :
    inLines (line :: rest) = inLines [line] ++ inLines rest :=
  List.filterMap_append (l := [line])

variable {line : String}

theorem inLines_command {c : PromptCommand} (read : ofLine line = .ok (some c)) : inLines [line] = [c] := by
  simp [inLines, read, Except.toOption]

theorem inLines_blank (read : ofLine line = .ok none) : inLines [line] = [] := by
  simp [inLines, read, Except.toOption]

theorem inLines_mistake {error : PromptError} (read : ofLine line = .error error) : inLines [line] = [] := by
  simp [inLines, read, Except.toOption]

end PromptCommand

open PromptCommand (inLines accepted runningBehind)

/-- A set that follows the news of a toggle is toggled itself. -/
theorem keepStep_toggle (n : Index) (marked : List Index) :
    keepStep marked n ((toggle n marked).contains n) = toggle n marked := by
  refine if_neg fun same => ?_
  rw [Bool.eq_iff_iff, List.contains_iff_mem, List.contains_iff_mem, mem_toggle_self] at same
  exact not_iff_self same

/-- A reaction that is no failure and leads to prompts of some kind only. -/
def Reaction.Leads (kind : Prompt → Prop) : Reaction → Prop
  | .shown _ p => kind p
  | .left => True
  | .failed _ => False

namespace Prompt

variable {W : Type} {e : Evaluator (StateM W)} {p p' : Prompt} {w w' : W} {line : String}

/-! ## Prompts behind lines -/

/-- The prompt behind some lines, and the evaluator there. There is none if one of them leaves. -/
def after (e : Evaluator (StateM W)) (p : Prompt) (w : W) : List String → Option (Prompt × W)
  | [] => some (p, w)
  | line :: rest =>
    match p.enter e line w with
    | (.shown _ p, w) => after e p w rest
    | (.left, _) | (.failed _, _) => none

theorem session_shown {shown : List String} (entered : p.enter e line w = (.shown shown p', w')) (text : String)
    (rest : List String) :
    p.session e text (line :: rest) w = p'.session e (text ++ promptText ++ joinLines shown) rest w' := by
  simp only [session, bind, StateT.bind, entered]

theorem session_left (entered : p.enter e line w = (.left, w')) (text : String) (rest : List String) :
    p.session e text (line :: rest) w = ((text ++ promptText, .ok ()), w') := by
  simp only [session, bind, StateT.bind, entered]
  rfl

/-- **A session at the prompt comes through the prompts behind its first lines.** -/
theorem session_after {lines : List String} (reached : p.after e w lines = some (p', w')) (text : String)
    (rest : List String) :
    ∃ text', p.session e text (lines ++ rest) w = p'.session e text' rest w' := by
  induction lines generalizing p w text with
  | nil =>
      cases reached
      exact ⟨text, rfl⟩
  | cons line lines ih =>
      rw [after] at reached
      split at reached
      · rename_i shown q v entered
        rw [List.cons_append, session_shown entered]
        exact ih reached _
      · cases reached
      · cases reached

/-! ## The invariant -/

/-- **Both sets of breakpoints are what the toggles come to**, and the session is free. -/
structure InOrder (circuit : Circuit) (toggles : List Index) (running : Bool) (p : Prompt) : Prop where
  circuit : p.circuit = circuit
  kept : p.kept = toggleEach [] toggles
  running : p.controller.isRunning = running
  breakpoints : ∀ {σ}, p.controller.session? = some σ → σ.breakpoints = p.kept
  free : ∀ {σ}, p.controller.session? = some σ → σ.inFlight = false

section Invariant

variable {circuit : Circuit} {toggles : List Index} {running : Bool} {σ : Session} {k : Controller}

namespace InOrder

/-- A free session with the breakpoints that are kept leaves all in order. -/
theorem of_running (h : InOrder circuit toggles running p) (shown : k.session? = some σ)
    (same : σ.breakpoints = p.kept) (free : σ.inFlight = false) :
    InOrder circuit toggles true { p with controller := k } := by
  refine ⟨h.circuit, h.kept, ?_, ?_, ?_⟩
  · rw [Controller.isRunning, shown]
    rfl
  · intro σ' running'
    cases shown.symm.trans running'
    exact same
  · intro σ' running'
    cases shown.symm.trans running'
    exact free

/-- So does the lack of a session. -/
theorem of_idle (h : InOrder circuit toggles running p) (gone : k.session? = none) :
    InOrder circuit toggles false { p with controller := k } := by
  refine ⟨h.circuit, h.kept, ?_, ?_, ?_⟩
  · rw [Controller.isRunning, gone]
    rfl
  · intro σ' running'
    cases gone.symm.trans running'
  · intro σ' running'
    cases gone.symm.trans running'

theorem exists_session (h : InOrder circuit toggles true p) :
    ∃ σ, p.controller.session? = some σ ∧ σ.breakpoints = p.kept ∧ σ.inFlight = false := by
  obtain ⟨σ, running⟩ := Option.isSome_iff_exists.mp h.running
  exact ⟨σ, running, h.breakpoints running, h.free running⟩

theorem idle (h : InOrder circuit toggles false p) : p.controller.session? = none :=
  Option.isNone_iff_eq_none.mp (Option.isSome_eq_false_iff.mp h.running)

/-- A toggle that a session takes changes both sets. -/
theorem toggle (h : InOrder circuit toggles true p) (n : Index) :
    ∃ isSet k, p.controller.toggleBreakpoint n = .ok (isSet, k) ∧
      InOrder circuit (toggles ++ [n]) true { p with controller := k, kept := keepStep p.kept n isSet } := by
  obtain ⟨σ, running, same, free⟩ := h.exists_session
  refine ⟨_, _, Controller.toggleBreakpoint_ok running n, h.circuit, ?_, rfl, ?_, ?_⟩
  · rw [same, keepStep_toggle, h.kept, toggleEach_append]
    rfl
  · rintro _ ⟨⟩
    rw [same, keepStep_toggle]
  · rintro _ ⟨⟩
    exact free

theorem toggleAll (h : InOrder circuit toggles true p) (steps : List Index) :
    ∃ p', p.toggleAll steps = .ok p' ∧ InOrder circuit (toggles ++ steps) true p' := by
  induction steps generalizing p toggles with
  | nil =>
      rw [List.append_nil]
      exact ⟨p, rfl, h⟩
  | cons n steps ih =>
      obtain ⟨isSet, k, toggled, h'⟩ := h.toggle n
      obtain ⟨p', all, h''⟩ := ih h'
      rw [List.append_assoc] at h''
      refine ⟨p', ?_, h''⟩
      rw [Prompt.toggleAll, toggled]
      exact all

end InOrder

/-- A valid circuit opens a prompt where all is in order. -/
theorem opening_inOrder (valid : circuit.validate = .ok ()) (given : List Index) :
    ∃ p, Prompt.opening circuit given = .ok p ∧ InOrder circuit given true p := by
  have idle : InOrder circuit [] false { circuit, controller := {} } := ⟨rfl, rfl, rfl, nofun, nofun⟩
  have fresh : InOrder circuit [] true
      { circuit, controller := { generation := 1 : Controller }.withSession (.opening circuit 1) } :=
    idle.of_running (Controller.withSession_session? _ _) rfl rfl
  obtain ⟨p, all, h⟩ := fresh.toggleAll given
  refine ⟨p, ?_, h⟩
  rw [opening, Controller.start_ok valid]
  exact all

/-- A prompt is opened on a valid circuit only. -/
theorem validate_of_opening {given : List Index} (opened : Prompt.opening circuit given = .ok p) :
    circuit.validate = .ok () := by
  cases checked : circuit.validate with
  | ok => rfl
  | error fault =>
      rw [opening, Controller.start_error checked] at opened
      cases opened

/-! ## Starting over -/

theorem setBreakpoints_running (running : k.session? = some σ) (steps : List Index) :
    ∃ k', setBreakpoints k steps = .ok k' ∧
      k'.session? = some { σ with breakpoints := toggleEach σ.breakpoints steps } := by
  induction steps generalizing k σ with
  | nil => exact ⟨k, rfl, running⟩
  | cons n steps ih =>
      obtain ⟨k', all, running'⟩ := ih (k.withSession_session? { σ with breakpoints := toggle n σ.breakpoints })
      refine ⟨k', ?_, running'⟩
      rw [setBreakpoints, Controller.toggleBreakpoint_ok running]
      exact all

/-- **Starting over.** The session is a new one but for its breakpoints, which are those that were kept. -/
theorem InOrder.restart (h : InOrder circuit toggles running p) (valid : circuit.validate = .ok ()) :
    ∃ p' generation, p.restart = .ok p' ∧ p'.kept = p.kept ∧
      p'.controller.session? = some { Session.opening circuit generation with breakpoints := p.kept } ∧
      InOrder circuit toggles true p' := by
  obtain ⟨k', all, running'⟩ := setBreakpoints_running
    (({ p.controller with generation := p.controller.generation + 1 }).withSession_session?
      (.opening circuit (p.controller.generation + 1))) p.kept
  have ascending : Ascending p.kept := by
    rw [h.kept]
    exact ascending_toggleEach_nil toggles
  have back : toggleEach (Session.opening circuit (p.controller.generation + 1)).breakpoints p.kept = p.kept :=
    toggleEach_nil_of_ascending ascending
  rw [back] at running'
  refine ⟨{ p with controller := k' }, _, ?_, rfl, running', h.of_running running' rfl rfl⟩
  rw [Prompt.restart, h.circuit, Controller.start_ok valid]
  simp only [bind, Except.bind, all]
  rfl

/-! ## Lines -/

/-- A call leaves all in order, whatever its outcome. -/
theorem InOrder.perform (h : InOrder circuit toggles running p) (e : Evaluator (StateM W)) (kind : CallKind)
    (w : W) : (p.perform e kind w).1.Leads (InOrder circuit toggles running) := by
  cases running with
  | false =>
      have refused := Debugger.perform_idle e kind w h.idle
      simp only [Prompt.perform, bind, StateT.bind, refused]
      exact h
  | true =>
      obtain ⟨σ, running, same, free⟩ := h.exists_session
      obtain ⟨outcome, k', σ', w', performed, -, running', kept⟩ :=
        Debugger.perform_free e kind w running free
      simp only [Prod.mk.injEq] at kept
      obtain ⟨-, -, sameBreakpoints, sameFlag⟩ := kept
      simp only [Prompt.perform, bind, StateT.bind, performed]
      exact h.of_running running' (sameBreakpoints.trans same) sameFlag

/-- A call is refused for want of a session only, and otherwise it has an outcome of its own. -/
theorem InOrder.reply (h : InOrder circuit toggles running p) (e : Evaluator (StateM W)) (kind : CallKind) (w : W) :
    match (p.controller.perform e kind w).1 with
    | .ok (outcome, _) => outcome.isDiscarded = false
    | .error error => error = .notRunning ∧ p.controller.isRunning = false := by
  cases running' : p.controller.session? with
  | none =>
      rw [Debugger.perform_idle e kind w running']
      refine ⟨rfl, ?_⟩
      rw [Controller.isRunning, running']
      rfl
  | some σ =>
      obtain ⟨outcome, k', σ', w', performed, own, -⟩ :=
        Debugger.perform_free e kind w running' (h.free running')
      rw [performed]
      exact own

/-- A command that needs no evaluator toggles what it says, if a session is running. -/
theorem InOrder.obey (h : InOrder circuit toggles running p) (valid : circuit.validate = .ok ())
    (c : PromptCommand) :
    (p.obey c).Leads (InOrder circuit (toggles ++ c.toggles running) (c.runningAfter running)) := by
  have untouched : InOrder circuit (toggles ++ []) running p := by
    rwa [List.append_nil]
  cases c with
  | quit => exact trivial
  | step | run | state | help => exact untouched
  | toggle n =>
      cases running with
      | false =>
          rw [Prompt.obey, Controller.toggleBreakpoint_error h.idle]
          exact untouched
      | true =>
          obtain ⟨isSet, k, toggled, h'⟩ := h.toggle n
          rw [Prompt.obey, toggled]
          exact h'
  | stop =>
      cases running with
      | false =>
          rw [Prompt.obey, Controller.stop_idle h.idle]
          exact untouched
      | true =>
          obtain ⟨σ, running, -, -⟩ := h.exists_session
          rw [Prompt.obey, Controller.stop_running running]
          exact untouched.of_idle rfl
  | restart =>
      obtain ⟨p', -, restarted, -, -, h'⟩ := h.restart valid
      rw [Prompt.obey, restarted]
      show InOrder circuit (toggles ++ []) true p'
      rwa [List.append_nil]

/-- **A line leaves all in order**, and none makes the prompt fail. -/
theorem InOrder.enter (h : InOrder circuit toggles running p) (valid : circuit.validate = .ok ())
    (e : Evaluator (StateM W)) (line : String) (w : W) :
    (p.enter e line w).1.Leads (InOrder circuit (toggles ++ accepted running (inLines [line]))
      (runningBehind running (inLines [line]))) := by
  have untouched : InOrder circuit (toggles ++ []) running p := by
    rwa [List.append_nil]
  rw [Prompt.enter.eq_def]
  cases read : PromptCommand.ofLine line with
  | error error =>
      rw [PromptCommand.inLines_mistake read]
      exact untouched
  | ok command? =>
      cases command? with
      | none =>
          rw [PromptCommand.inLines_blank read]
          exact untouched
      | some c =>
          rw [PromptCommand.inLines_command read]
          have obeyed := h.obey valid c
          rw [← List.append_nil (c.toggles running)] at obeyed
          cases c with
          | step => exact untouched.perform e .step w
          | run => exact untouched.perform e .run w
          | _ => exact obeyed

/-- **All is in order at every prompt.** -/
theorem InOrder.after {lines : List String} (h : InOrder circuit toggles running p)
    (valid : circuit.validate = .ok ()) (reached : p.after e w lines = some (p', w')) :
    InOrder circuit (toggles ++ accepted running (inLines lines)) (runningBehind running (inLines lines)) p' := by
  induction lines generalizing p w toggles running with
  | nil =>
      cases reached
      show InOrder circuit (toggles ++ []) running p'
      rwa [List.append_nil]
  | cons line lines ih =>
      have entered := h.enter valid e line w
      rw [Prompt.after] at reached
      split at reached
      · rename_i led
        rw [led] at entered
        rw [PromptCommand.inLines_cons, PromptCommand.accepted_append, PromptCommand.runningBehind_append,
          ← List.append_assoc]
        exact ih entered reached
      · cases reached
      · cases reached

/-- A session at the prompt never ends in an error. -/
theorem InOrder.session (h : InOrder circuit toggles running p) (valid : circuit.validate = .ok ())
    (e : Evaluator (StateM W)) (text : String) (lines : List String) (w : W) :
    (p.session e text lines w).1.2 = .ok () := by
  induction lines generalizing p w text toggles running with
  | nil => rfl
  | cons line lines ih =>
      have led := h.enter valid e line w
      cases entered : p.enter e line w with
      | mk reaction w' =>
          rw [entered] at led
          cases reaction with
          | shown shown p' =>
              rw [session_shown entered]
              exact ih led _ w'
          | left => rw [session_left entered]
          | failed => cases led

end Invariant

/-! ## Every prompt -/

theorem enter_restart (read : PromptCommand.ofLine line = .ok (some .restart)) (restarted : p.restart = .ok p')
    (w : W) :
    p.enter e line w = (.shown (["  Restarted"] ++ p'.controller.snapshot.positionLines p'.circuit) p', w) := by
  rw [enter.eq_def, read]
  show (p.obey .restart, w) = _
  rw [obey, restarted]

theorem enter_toggle_idle {n : Index} (read : PromptCommand.ofLine line = .ok (some (.toggle n)))
    (idle : p.controller.session? = none) (w : W) :
    p.enter e line w = (.shown [failureLine DebugError.notRunning.message] p, w) := by
  rw [enter.eq_def, read]
  show (p.obey (.toggle n), w) = _
  rw [obey, Controller.toggleBreakpoint_error idle]

/-- **The prompt neither loses nor invents a breakpoint.** Take the prompt behind any lines of a session, whatever
the evaluator answered. `toggles` are the breakpoints that were given at first and then the steps of those toggles
that came while a session was running.
* It keeps the steps that were toggled an odd number of times. If a session is running its breakpoints are the same,
  in ascending order; and whether one is running can be told from the lines.
* A restart opens a session that is new but for its breakpoints, which are those that were kept.
* A toggle changes nothing while no session is running.
* Calls and toggles are refused for want of a session only, the outcome of a call is never that its session was gone,
  and no line makes the prompt fail.
* The session goes on from this prompt, and does not end in an error. -/
theorem breakpoints_kept {circuit : Circuit} {given : List Index} {p₀ p : Prompt} {lines : List String}
    (opened : opening circuit given = .ok p₀) (reached : p₀.after e w lines = some (p, w')) :
    let toggles := given ++ accepted true (inLines lines)
    (∀ n, n ∈ p.kept ↔ Odd (toggles.count n)) ∧ Ascending p.kept ∧
    (∀ σ, p.controller.session? = some σ → σ.breakpoints = p.kept) ∧
    p.controller.isRunning = runningBehind true (inLines lines) ∧
    (∀ line, PromptCommand.ofLine line = .ok (some .restart) →
      ∃ shown p' σ, p.enter e line w' = (.shown shown p', w') ∧ p'.kept = p.kept ∧
        p'.controller.session? = some σ ∧ σ.circuit = circuit ∧ σ.cursor = 0 ∧
        σ.states = QubitState.groundStates circuit.qubitCount ∧ σ.lastError = none ∧
        σ.breakpoints = p.kept) ∧
    (∀ line n, PromptCommand.ofLine line = .ok (some (.toggle n)) → p.controller.isRunning = false →
      ∃ shown, p.enter e line w' = (.shown shown p, w')) ∧
    (∀ kind, match (p.controller.perform e kind w').1 with
      | .ok (outcome, _) => outcome.isDiscarded = false
      | .error error => error = .notRunning ∧ p.controller.isRunning = false) ∧
    (∀ n error, p.controller.toggleBreakpoint n = .error error → error = .notRunning) ∧
    (∀ line error, (p.enter e line w').1 ≠ .failed error) ∧
    ∀ text rest, ∃ text', p₀.session e text (lines ++ rest) w = p.session e text' rest w' ∧
      (p.session e text' rest w').1.2 = .ok () := by
  have valid := validate_of_opening opened
  obtain ⟨_, opened', h₀⟩ := opening_inOrder valid given
  cases opened.symm.trans opened'
  intro toggles
  have h : InOrder circuit toggles (runningBehind true (inLines lines)) p := h₀.after valid reached
  refine ⟨?_, ?_, fun σ => h.breakpoints, h.running, ?_, ?_, ?_, ?_, ?_, ?_⟩
  · intro n
    rw [h.kept]
    exact mem_toggleEach_nil
  · rw [h.kept]
    exact ascending_toggleEach_nil toggles
  · intro line read
    obtain ⟨p', generation, restarted, same, running, -⟩ := h.restart valid
    exact ⟨_, p', _, enter_restart read restarted w', same, running, rfl, rfl, rfl, rfl, rfl⟩
  · intro line n read idle
    rw [h.running] at idle
    exact ⟨_, enter_toggle_idle read (idle ▸ h).idle w'⟩
  · intro kind
    exact h.reply e kind w'
  · intro n error refused
    exact (Controller.toggleBreakpoint_eq_error_iff.mp refused).2
  · intro line error failed
    have led := h.enter valid e line w'
    rw [failed] at led
    exact led
  · intro text rest
    obtain ⟨text', goesOn⟩ := session_after reached text rest
    exact ⟨text', goesOn, h.session valid e text' rest w'⟩

/-- Two steps with breakpoints at both, one of which was given twice and then set again. While the session is
stopped a toggle is refused, and the next session has both breakpoints. -/
theorem breakpoints_kept_stopped :
    ∃ p₀ p asked, opening Debugger.twoSteps [2, 1, 2] = .ok p₀ ∧
      p₀.after Debugger.listener [] ["step", "break 2", "b two", "stop", "b 1", ""] = some (p, asked) ∧
      p.controller.isRunning = false ∧ (∀ n, n ∈ p.kept ↔ Odd ([2, 1, 2, 2].count n)) ∧ p.kept = [1, 2] ∧
      ∃ shown p' σ, p.enter Debugger.listener "restart" asked = (.shown shown p', asked) ∧
        p'.controller.session? = some σ ∧ σ.cursor = 0 ∧ σ.breakpoints = [1, 2] := by
  obtain ⟨p₀, opened⟩ : ∃ p₀, opening Debugger.twoSteps [2, 1, 2] = .ok p₀ := ⟨_, rfl⟩
  obtain ⟨p, asked, reached, stopped, kept⟩ : ∃ p asked,
      p₀.after Debugger.listener [] ["step", "break 2", "b two", "stop", "b 1", ""] = some (p, asked) ∧
      p.controller.isRunning = false ∧ p.kept = [1, 2] := by
    cases opened
    exact ⟨_, _, rfl, rfl, rfl⟩
  obtain ⟨parity, -, -, -, restart, -⟩ := breakpoints_kept opened reached
  obtain ⟨shown, p', σ, entered, -, running, -, atFirst, -, -, breakpoints⟩ := restart "restart" rfl
  rw [kept] at breakpoints
  exact ⟨p₀, p, asked, opened, reached, stopped, parity, kept, shown, p', σ, entered, running, atFirst,
    breakpoints⟩

end Prompt

end QuantumWorkbench
