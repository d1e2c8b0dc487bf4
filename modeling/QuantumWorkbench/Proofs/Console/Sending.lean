import QuantumWorkbench.Console.Command

/-!
# What commands send

All requests of a command come from its evaluator. So what holds of the requests that an evaluator sends holds of
those that the command sends, however long its user goes on typing.

## Contents
- `Keeps`: computations that keep what holds of their state, and `Evaluator.Keeps`, evaluators whose answers do.
- `Prompt.keeps_session`: a session keeps what its evaluator keeps.
- `CommandM.Keeps`: commands that keep what holds of the requests that were sent.
- `Command.keeps_run`: a command that makes no circuits keeps what its evaluators keep.
-/

namespace QuantumWorkbench

/-! ## Computations -/

/-- The computation keeps what holds of its state. -/
def Keeps {W α : Type} (P : W → Prop) (x : StateM W α) : Prop := ∀ w, P w → P (x w).2

section

variable {W α β : Type} {P : W → Prop} {x : StateM W α}

theorem Keeps.pure (a : α) : Keeps P (Pure.pure a : StateM W α) := fun _ held => held

theorem Keeps.bind {f : α → StateM W β} (first : Keeps P x) (second : ∀ a, Keeps P (f a)) : Keeps P (x >>= f) :=
  fun w held => second (x w).1 (x w).2 (first w held)

theorem Keeps.map (f : α → β) (keeps : Keeps P x) : Keeps P (f <$> x) := fun w held => keeps w held

end

/-- All answers of the evaluator keep what holds of its state. -/
structure Evaluator.Keeps {W : Type} (P : W → Prop) (e : Evaluator (StateM W)) : Prop where
  evaluate : ∀ c, QuantumWorkbench.Keeps P (e.evaluate c)
  evaluateUpTo : ∀ c limit, QuantumWorkbench.Keeps P (e.evaluateUpTo c limit)

section Sessions

variable {W : Type} {P : W → Prop} {e : Evaluator (StateM W)}

theorem Evaluator.Keeps.simulate (keeps : e.Keeps P) (c : Circuit) : QuantumWorkbench.Keeps P (e.simulate c) := by
  unfold Evaluator.simulate
  split
  · exact .pure _
  · exact (keeps.evaluate c).map _

/-- A call asks nothing but its evaluator. -/
theorem Call.keeps_drive (keeps : e.Keeps P) (fuel : Nat) (c : Call) (k : Controller) : Keeps P (c.drive e fuel k) := by
  induction fuel generalizing c k with
  | zero =>
      obtain ⟨kind, generation, taken, stage⟩ := c
      cases stage <;> exact .pure _
  | succ fuel ih =>
      obtain ⟨kind, generation, taken, stage⟩ := c
      cases stage with
      | deciding => exact ih _ _
      | awaiting circuit cursor => exact (keeps.evaluateUpTo _ _).bind fun answer => ih _ _
      | finishing outcome => exact .pure _

theorem Controller.keeps_perform (keeps : e.Keeps P) (kind : CallKind) (k : Controller) :
    Keeps P (k.perform e kind) := by
  unfold perform
  split
  · exact .pure _
  · exact (Call.keeps_drive keeps _ _ _).map _

namespace Prompt

theorem keeps_perform (keeps : e.Keeps P) (p : Prompt) (kind : CallKind) : Keeps P (p.perform e kind) := by
  refine (Controller.keeps_perform keeps kind p.controller).bind fun made => ?_
  cases made with
  | error => exact .pure _
  | ok => exact .pure _

theorem keeps_enter (keeps : e.Keeps P) (p : Prompt) (line : String) : Keeps P (p.enter e line) := by
  unfold enter
  split
  · exact .pure _
  · exact .pure _
  · exact keeps_perform keeps p .step
  · exact keeps_perform keeps p .run
  · exact .pure _

/-- **A session keeps what its evaluator keeps**, whatever lines are typed. -/
theorem keeps_session (keeps : e.Keeps P) (p : Prompt) (text : String) (lines : List String) :
    Keeps P (p.session e text lines) := by
  induction lines generalizing p text with
  | nil => exact .pure _
  | cons line rest ih =>
      refine (keeps_enter keeps p line).bind fun reaction => ?_
      cases reaction with
      | left => exact .pure _
      | failed => exact .pure _
      | shown => exact ih _ _

end Prompt

end Sessions

/-! ## Commands -/

namespace CommandM

variable {α β : Type} {P : List Request → Prop} {x : CommandM α}

theorem lift_ok_bind (a : α) (f : α → CommandM β) :
    (liftM (Except.ok a : Except CommandError α) >>= f : CommandM β) = f a := rfl

theorem lift_error_bind (error : CommandError) (f : α → CommandM β) :
    (liftM (Except.error error : Except CommandError α) >>= f : CommandM β) = throw error := rfl

/-- The command keeps what holds of the requests that were sent. -/
def Keeps (P : List Request → Prop) (x : CommandM α) : Prop := ∀ c : Console, P c.sent → P (x.run.run c).2.sent

namespace Keeps

theorem pure (a : α) : Keeps P (Pure.pure a : CommandM α) := fun _ held => held

theorem throw (error : CommandError) : Keeps P (MonadExcept.throw error : CommandM α) := fun _ held => held

theorem bind {f : α → CommandM β} (first : Keeps P x) (second : ∀ a, Keeps P (f a)) : Keeps P (x >>= f) := by
  intro c held
  show P ((x.run >>= ExceptT.bindCont f) c).2.sent
  have behind := first c held
  show P (ExceptT.bindCont f (x.run.run c).1 (x.run.run c).2).2.sent
  cases (x.run.run c).1 with
  | error => exact behind
  | ok a => exact second a _ behind

/-- A check sends nothing. -/
theorem lift (x : Except CommandError α) : Keeps P (liftM x : CommandM α) := by
  cases x with
  | error => exact throw _
  | ok => exact pure _

theorem ofExcept (x : Except CommandError α) : Keeps P (MonadExcept.ofExcept x : CommandM α) := by
  cases x with
  | error => exact throw _
  | ok => exact pure _

theorem print (text : String) : Keeps P (CommandM.print text) := fun _ held => held

theorem printLines (lines : List String) : Keeps P (CommandM.printLines lines) := print _

theorem note (line : String) : Keeps P (CommandM.note line) := fun _ held => held

theorem write (files : FileView) (path text : String) : Keeps P (CommandM.write files path text) := by
  unfold CommandM.write
  split
  · exact throw _
  · exact fun _ held => held

theorem exchange {x : Exchange α} (keeps : QuantumWorkbench.Keeps P x) : Keeps P (CommandM.exchange x) :=
  fun c held => keeps c.sent held

end Keeps

end CommandM

namespace Command

variable {P : List Request → Prop} {s : Surroundings}

theorem keeps_runParse (input format : String) : (runParse s input format).Keeps P := by
  unfold runParse
  by_cases data : isJsonPath input = true
  · rw [if_pos data]
    exact .throw _
  · rw [if_neg data]
    refine .bind (.lift _) fun text => ?_
    split
    · exact .printLines _
    · exact .printLines _
    · exact .throw _

theorem keeps_runRender (input : String) (dialect : Dialect) (output : Option String) :
    (runRender s input dialect output).Keeps P := by
  refine .bind (.lift _) fun c => ?_
  cases output with
  | none => exact .print _
  | some path => exact .bind (.write _ _ _) fun _ => .note _

theorem keeps_runValidate (input : String) : (runValidate s input).Keeps P :=
  .bind (.lift _) fun _ => .bind (.lift _) fun _ => .printLines _

theorem keeps_runSimulate (keeps : ∀ settings, (s.evaluator settings).Keeps P) (input : String)
    (config : Option String) (evaluator : Option EvaluatorKind) : (runSimulate s input config evaluator).Keeps P := by
  refine .bind (.lift _) fun settings => .bind (.lift _) fun c => .bind (.printLines _) fun _ => ?_
  refine .bind (.exchange ((keeps settings).simulate c)) fun answer => ?_
  cases answer with
  | error => exact .throw _
  | ok => exact .printLines _

theorem keeps_runDebug (keeps : ∀ settings, (s.evaluator settings).Keeps P) (input : String)
    (config : Option String) (evaluator : Option EvaluatorKind) (breakpoints : List Index) :
    (runDebug s input config evaluator breakpoints).Keeps P := by
  simp only [runDebug, openPrompt, bind_assoc, pure_bind]
  refine .bind (.lift _) fun settings => .bind (.lift _) fun c => .bind (.lift _) fun p => ?_
  refine .bind (.printLines _) fun _ => ?_
  refine .bind (.exchange (Prompt.keeps_session (keeps settings) p _ _)) fun shown => ?_
  exact .bind (.print _) fun _ => .ofExcept _

/-- The command has a circuit made. -/
def IsGeneration (c : Command) : Prop := ∃ prompt dialect output config, c = generate prompt dialect output config

/-- **A command keeps what its evaluators keep**, unless it has a circuit made. -/
theorem keeps_run (keeps : ∀ settings, (s.evaluator settings).Keeps P) {c : Command} (other : ¬ c.IsGeneration) :
    (c.run s).Keeps P := by
  cases c with
  | parse input format => exact keeps_runParse input format
  | render input dialect output => exact keeps_runRender input dialect output
  | validate input => exact keeps_runValidate input
  | simulate input config evaluator => exact keeps_runSimulate keeps input config evaluator
  | debug input config evaluator breakpoints => exact keeps_runDebug keeps input config evaluator breakpoints
  | generate prompt dialect output config => exact absurd ⟨prompt, dialect, output, config, rfl⟩ other
  | version => exact .printLines _

end Command

end QuantumWorkbench
