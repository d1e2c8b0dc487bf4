import QuantumWorkbench.Proofs.Debugger.Transition

/-!
# Publication

Whoever watches the controller gets to see its snapshots, and has to be told of every change. The controller is
told here as programs that write to its state one write at a time. What such a program has written stays written
when it ends in an error, so that an operation that is refused must not have written anything.

## Contents
- `Section`: a program under the lock, and `Section.start` and its companions, the programs of the operations.
- `Debugger.writes`: the program of an event, and `Debugger.Step.writes`: it ends as the event does.
- `Controller.UpToDate`: the latest snapshot that was published is the present view, and
  `Debugger.upToDate_run`.
- `Debugger.step_eq_refused_iff`: when an event is refused.
- `Debugger.publication`: nobody sees a stale view, and what is refused changes nothing.
-/

namespace QuantumWorkbench

/-! ## Sections as programs -/

/-- A program that runs under the lock. An error does not take back what was written before it. -/
abbrev Section (α : Type) := EStateM DebugError Controller α

namespace Section

/-- The running session. -/
def session : Section Session := do
  match (← get).session? with
  | some σ => return σ
  | none => throw .notRunning

def putSession (σ : Session) : Section Unit := modify fun k => { k with session? := some σ }

def publish : Section Unit := modify Controller.publish

def start (circuit : Circuit) : Section Nat := do
  match circuit.validate with
  | .error fault => throw (.invalid fault)
  | .ok () =>
    modify fun k => { k with generation := k.generation + 1 }
    let generation := (← get).generation
    putSession (.opening circuit generation)
    publish
    return generation

def toggleBreakpoint (step : Index) : Section Bool := do
  let σ ← session
  let breakpoints := toggle step σ.breakpoints
  putSession { σ with breakpoints }
  publish
  return breakpoints.contains step

/-- The session is taken out first. Its circuit says what is shown from now on. -/
def stop : Section Bool := do
  match (← get).session? with
  | none => return false
  | some σ =>
    modify fun k => { k with session? := none }
    modify fun k => { k with idleStates := QubitState.groundStates σ.circuit.qubitCount }
    publish
    return true

def acquire : Section Nat := do
  let σ ← session
  if σ.inFlight then throw (.requestInFlight σ.generation)
  putSession { σ with inFlight := true }
  publish
  return σ.generation

/-- A session that is gone is not written to, and nothing is published for it. -/
def settle (generation : Nat) (cursor : Index) (answer : Answer) : Section Unit := do
  match (← get).current? generation with
  | none => return
  | some σ =>
    match answer with
    | .ok e => putSession (σ.advance (cursor + 1) e)
    | .error e => putSession (σ.fail e.fault)
    publish

def release (generation : Nat) : Section Unit := do
  match (← get).current? generation with
  | none => return
  | some σ =>
    putSession { σ with inFlight := false }
    publish

variable {k : Controller} {σ : Session} {g : Nat}

/-- A program reads the state that it is run in. -/
theorem get_bind_run {α : Type} (next : Controller → Section α) (k : Controller) :
    (get >>= next : Section α).run k = (next k).run k := rfl

theorem session_bind_run {α : Type} (h : k.session? = some σ) (next : Session → Section α) :
    (session >>= next : Section α).run k = (next σ).run k := by
  have found : session.run k = .ok σ k := by
    unfold session
    rw [get_bind_run, h]
    rfl
  rw [EStateM.run_bind, found]

theorem session_bind_run_idle {α : Type} (h : k.session? = none) (next : Session → Section α) :
    (session >>= next : Section α).run k = .error .notRunning k := by
  have missing : session.run k = .error .notRunning k := by
    unfold session
    rw [get_bind_run, h]
    rfl
  rw [EStateM.run_bind, missing]

theorem start_run_ok {circuit : Circuit} (h : circuit.validate = .ok ()) :
    (start circuit).run k = .ok (k.generation + 1) (k.opened circuit) := by
  unfold start
  rw [h]
  rfl

theorem start_run_error {circuit : Circuit} {fault : Fault} (h : circuit.validate = .error fault) :
    (start circuit).run k = .error (.invalid fault) k := by
  unfold start
  rw [h]
  rfl

theorem toggleBreakpoint_run (h : k.session? = some σ) (step : Index) :
    (toggleBreakpoint step).run k = .ok ((toggle step σ.breakpoints).contains step)
      (k.withSession { σ with breakpoints := toggle step σ.breakpoints }) := by
  unfold toggleBreakpoint
  rw [session_bind_run h]
  rfl

theorem toggleBreakpoint_run_idle (h : k.session? = none) (step : Index) :
    (toggleBreakpoint step).run k = .error .notRunning k := by
  unfold toggleBreakpoint
  rw [session_bind_run_idle h]

theorem stop_run (h : k.session? = some σ) : stop.run k = .ok true (k.closed σ) := by
  unfold stop
  rw [get_bind_run, h]
  rfl

theorem stop_run_idle (h : k.session? = none) : stop.run k = .ok false k := by
  unfold stop
  rw [get_bind_run, h]
  rfl

theorem acquire_run (h : k.session? = some σ) (free : σ.inFlight = false) :
    acquire.run k = .ok σ.generation (k.withSession { σ with inFlight := true }) := by
  unfold acquire
  rw [session_bind_run h, free]
  rfl

theorem acquire_run_idle (h : k.session? = none) : acquire.run k = .error .notRunning k := by
  unfold acquire
  rw [session_bind_run_idle h]

theorem acquire_run_busy (h : k.session? = some σ) (busy : σ.inFlight = true) :
    acquire.run k = .error (.requestInFlight σ.generation) k := by
  unfold acquire
  rw [session_bind_run h, busy]
  rfl

theorem settle_run (k : Controller) (g : Nat) (cursor : Index) (answer : Answer) :
    (settle g cursor answer).run k = .ok () (k.settle g cursor answer).2 := by
  unfold settle
  rw [get_bind_run]
  cases h : k.current? g with
  | none =>
      rw [Controller.settle_gone h]
      rfl
  | some σ =>
      cases answer with
      | ok e =>
          rw [Controller.settle_ok h]
          rfl
      | error e =>
          rw [Controller.settle_error h]
          rfl

theorem release_run (k : Controller) (g : Nat) : (release g).run k = .ok () (k.release g) := by
  unfold release
  rw [get_bind_run]
  cases h : k.current? g with
  | none =>
      rw [Controller.release_gone h]
      rfl
  | some σ =>
      rw [Controller.release_current h]
      rfl

end Section

namespace Debugger

variable {s s' : Debugger} {event : Event} {reply : Reply} {more : List Entry}

/-! ## Events as programs -/

/-- What an event does to the controller, write by write. -/
def writes (s : Debugger) : Event → Section Unit
  | .start circuit => do let _ ← Section.start circuit
  | .toggleBreakpoint step => do let _ ← Section.toggleBreakpoint step
  | .stop => do let _ ← Section.stop
  | .begin _ => do let _ ← Section.acquire
  | .decide _ => return
  | .answer n answer =>
    match s.call? n with
    | none => return
    | some c =>
      match c.stage with
      | .awaiting _ cursor => Section.settle c.generation cursor answer
      | .deciding | .finishing _ => return
  | .finish n =>
    match s.call? n with
    | none => return
    | some c =>
      match c.stage with
      | .finishing _ => Section.release c.generation
      | .deciding | .awaiting _ _ => return
  | .drop n =>
    match s.call? n with
    | none => return
    | some c => Section.release c.generation

/-- How a program ends whose event is replied to like this. -/
def Reply.ending (k : Controller) : Reply → EStateM.Result DebugError Controller Unit
  | .refused error => .error error k
  | .started _ | .toggled _ | .stopped _ | .begun _ | .went | .finished _ | .dropped | .ignored => .ok () k

/-- A call that waits for something else writes nothing. -/
theorem writes_of_ignores (ignores : s.Ignores event) : s.writes event = (return) := by
  cases event with
  | start | toggleBreakpoint | stop | begin => exact ignores.elim
  | decide n => rfl
  | drop n =>
      have missing : s.call? n = none := ignores
      simp only [writes, missing]
  | answer n answer =>
      cases found : s.call? n with
      | none => simp only [writes, found]
      | some c =>
          cases stage : c.stage with
          | awaiting circuit cursor => exact absurd stage (ignores c found circuit cursor)
          | deciding | finishing => simp only [writes, found, stage]
  | finish n =>
      cases found : s.call? n with
      | none => simp only [writes, found]
      | some c =>
          cases stage : c.stage with
          | finishing outcome => exact absurd stage (ignores c found outcome)
          | deciding | awaiting => simp only [writes, found, stage]

theorem writes_answer {n : Nat} {c : Call} {circuit : Circuit} {cursor : Index} (found : s.call? n = some c)
    (waiting : c.stage = .awaiting circuit cursor) (answer : Answer) :
    (s.writes (.answer n answer)).run s.controller =
      .ok () (s.controller.settle c.generation cursor answer).2 := by
  simp only [writes, found, waiting]
  exact Section.settle_run s.controller c.generation cursor answer

/-- **An event leaves the controller as its program does**, also where the program ends in an error. -/
theorem Step.writes (hs : Step s event reply more s') :
    (s.writes event).run s.controller = reply.ending s'.controller := by
  cases hs with
  | refused refuses =>
      cases refuses with
      | invalid invalid =>
          rw [Debugger.writes, EStateM.run_bind, Section.start_run_error invalid]
          rfl
      | notToggled idle =>
          rw [Debugger.writes, EStateM.run_bind, Section.toggleBreakpoint_run_idle idle]
          rfl
      | notBegun idle =>
          rw [Debugger.writes, EStateM.run_bind, Section.acquire_run_idle idle]
          rfl
      | busy running busy =>
          rw [Debugger.writes, EStateM.run_bind, Section.acquire_run_busy running busy]
          rfl
  | ignored ignores =>
      rw [writes_of_ignores ignores]
      rfl
  | opened valid =>
      rw [Debugger.writes, EStateM.run_bind, Section.start_run_ok valid]
      rfl
  | toggled running =>
      rw [Debugger.writes, EStateM.run_bind, Section.toggleBreakpoint_run running]
      rfl
  | stopped running =>
      rw [Debugger.writes, EStateM.run_bind, Section.stop_run running]
      rfl
  | stoppedIdle idle =>
      rw [Debugger.writes, EStateM.run_bind, Section.stop_run_idle idle]
      rfl
  | begun running free =>
      rw [Debugger.writes, EStateM.run_bind, Section.acquire_run running free]
      rfl
  | asked | halted | abandoned => rfl
  | advanced found waiting current =>
      rw [writes_answer found waiting, Controller.settle_ok current]
      rfl
  | failed found waiting current =>
      rw [writes_answer found waiting, Controller.settle_error current]
      rfl
  | lost found waiting gone =>
      rw [writes_answer found waiting, Controller.settle_gone gone]
      rfl
  | finished found finishing =>
      simp only [Debugger.writes, found, finishing]
      exact Section.release_run _ _
  | dropped found =>
      simp only [Debugger.writes, found]
      exact Section.release_run _ _

end Debugger

/-! ## What is published -/

namespace Controller

/-- The latest snapshot that was published is the present view. -/
def UpToDate (k : Controller) : Prop := k.published = k.snapshot

theorem upToDate_publish (k : Controller) : k.publish.UpToDate := rfl

theorem upToDate_withSession (k : Controller) (σ : Session) : (k.withSession σ).UpToDate :=
  upToDate_publish _

theorem UpToDate.release {k : Controller} (h : k.UpToDate) (g : Nat) : (k.release g).UpToDate := by
  cases current : k.current? g with
  | none => rwa [release_gone current]
  | some σ =>
      rw [release_current current]
      exact upToDate_withSession _ _

end Controller

namespace Debugger

variable {s s' : Debugger} {event : Event} {reply : Reply} {more : List Entry}

/-- **Every rule publishes what it changes.** -/
theorem Step.upToDate (h : s.controller.UpToDate) (hs : Step s event reply more s') :
    s'.controller.UpToDate := by
  cases hs with
  | refused | ignored | stoppedIdle | asked | halted | abandoned | lost => exact h
  | opened | toggled | begun | advanced | failed => exact Controller.upToDate_withSession _ _
  | stopped => exact Controller.upToDate_publish _
  | finished | dropped => exact h.release _

theorem upToDate_run (events : List Event) : (run {} events).controller.UpToDate :=
  run_induction (P := fun s _ => s.controller.UpToDate) rfl (fun h hs => hs.upToDate h) events

/-! ## What is refused -/

/-- A refusal is all that comes of an event that is refused. -/
theorem Refuses.step {error : DebugError} (refuses : Refuses s.controller event error) :
    s.step event = (.refused error, s) := by
  cases refuses with
  | invalid invalid => simp only [Debugger.step, respond, Controller.start_error invalid]
  | notToggled idle => simp only [Debugger.step, respond, Controller.toggleBreakpoint_error idle]
  | notBegun idle =>
      simp only [Debugger.step, beginCall, Call.begin, Controller.acquire_notRunning idle]
      rfl
  | busy running busy =>
      simp only [Debugger.step, beginCall, Call.begin, Controller.acquire_inFlight running busy]
      rfl

theorem step_eq_refused_iff {error : DebugError} :
    (s.step event).1 = .refused error ↔ Refuses s.controller event error := by
  constructor
  · intro refused
    have hs := step_spec s event
    generalize s.entries event = more, (s.step event).2 = s' at hs
    rw [refused] at hs
    cases hs with
    | refused refuses => exact refuses
  · intro refuses
    rw [refuses.step]

/-- **Nobody sees a stale view, and what is refused changes nothing.** After any events:
* the latest snapshot that was published is the present view;
* an event is refused exactly if it starts a circuit that does not pass validation, whatever is running, sets or
  clears a breakpoint while nothing is running, or begins a call while nothing is running or while another call
  holds the session;
* what is refused leaves everything as it was: the controller with all that was published, and the calls under
  way with the sessions that they hold;
* that is so write by write: the program of an event ends as the event does, and the programs that end in an
  error are those of the events that are refused, and have not written anything. -/
theorem publication (events : List Event) :
    let s := run {} events
    s.controller.published = s.controller.snapshot ∧
    ∀ event,
      (∀ error, (s.step event).1 = .refused error ↔ Refuses s.controller event error) ∧
      (∀ error, (s.step event).1 = .refused error → (s.step event).2 = s) ∧
      (s.writes event).run s.controller = (s.step event).1.ending (s.step event).2.controller ∧
      ∀ error k, (s.writes event).run s.controller = .error error k ↔
        Refuses s.controller event error ∧ k = s.controller := by
  intro s
  refine ⟨upToDate_run events, fun event => ?_⟩
  have ends := (step_spec s event).writes
  refine ⟨fun _ => step_eq_refused_iff, ?_, ends, ?_⟩
  · intro error refused
    rw [(step_eq_refused_iff.mp refused).step]
  · intro error k
    rw [ends]
    constructor
    · intro failed
      cases reply : (s.step event).1 with
      | refused error' =>
          have refuses := step_eq_refused_iff.mp reply
          rw [refuses.step] at failed
          cases failed
          exact ⟨refuses, rfl⟩
      | started | toggled | stopped | begun | went | finished | dropped | ignored =>
          rw [reply] at failed
          cases failed
    · rintro ⟨refuses, rfl⟩
      rw [refuses.step]
      rfl

/-- Halfway through a run of steps the view is up to date. A circuit with a gate outside its register is refused
over the busy session, and so is a second call. Neither writes anything. -/
theorem publication_halfway :
    let s := run {} halfway
    s.controller.published = s.controller.snapshot ∧ s.controller.snapshot.inFlight = true ∧
    (s.step (.begin .step)).1 = .refused (.requestInFlight 1) ∧ (s.step (.begin .step)).2 = s ∧
    (s.step (.start { twoSteps with gates := [.hadamard 5 0] })).1 = .refused (.invalid (.invalidQubit 5 0)) ∧
    (s.step (.start { twoSteps with gates := [.hadamard 5 0] })).2 = s := by
  intro s
  obtain ⟨published, refusal⟩ := publication halfway
  have busy : (s.step (.begin .step)).1 = .refused (.requestInFlight 1) := rfl
  have invalid : (s.step (.start { twoSteps with gates := [.hadamard 5 0] })).1 =
      .refused (.invalid (.invalidQubit 5 0)) := rfl
  exact ⟨published, rfl, busy, (refusal _).2.1 _ busy, invalid, (refusal _).2.1 _ invalid⟩

end Debugger

end QuantumWorkbench
