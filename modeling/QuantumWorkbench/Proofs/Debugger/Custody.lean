import QuantumWorkbench.Proofs.Debugger.Transition

/-!
# Custody of sessions

Calls and sessions find each other by generations alone: a call keeps the generation of the session
that it took, and a session only keeps a flag that says that it is taken. This module shows that flag
and calls agree in every state that can be reached, and that no answer is committed to a session that
has moved since it was asked for.

## Contents
- `Debugger.guard?`: the session that a call holds.
- `Debugger.Custody`: the flag of the running session is up exactly while one call holds it, no two
  calls hold one session, and sessions are numbered in ascending order.
- `Debugger.InStep`: a call that waits for an answer stands where its session stands.
- `Debugger.custody_run`, `Debugger.inStep_run`: both hold after every run.
- `Debugger.mutual_exclusion`: what they say of calls and their answers.
-/

namespace QuantumWorkbench

namespace Debugger

/-! ## Guards -/

/-- The session that a call under way holds. -/
def guard? (s : Debugger) (n : Nat) : Option Nat := (s.call? n).map (·.generation)

/-- The session that was opened. -/
def Entry.opened? : Entry → Option Nat
  | .opened session _ => some session
  | .stopped .. | .asked .. | .settled .. | .lost .. => none

/-- The sessions that were opened, in order. -/
def openedSessions (h : List Entry) : List Nat := h.filterMap Entry.opened?

variable {s s' : Debugger} {h more : List Entry}

theorem guard?_eq_some_iff {n g : Nat} :
    s.guard? n = some g ↔ ∃ c, s.call? n = some c ∧ c.generation = g := by
  simp [guard?]

theorem guard?_of_call? {n : Nat} {c : Call} (found : s.call? n = some c) :
    s.guard? n = some c.generation := guard?_eq_some_iff.mpr ⟨c, found, rfl⟩

/-- A call keeps its session from section to section. -/
theorem guard?_withCall {n : Nat} {c d : Call} (found : s.call? n = some c)
    (same : d.generation = c.generation) : (s.withCall n d).guard? = s.guard? := by
  funext m
  unfold guard?
  rw [call?_withCall]
  by_cases hm : m = n
  · rw [if_pos hm, hm, found]
    simp [same]
  · rw [if_neg hm]

theorem guard?_without (s : Debugger) (n m : Nat) :
    (s.without n).guard? m = if m = n then none else s.guard? m := by
  unfold guard?
  rw [call?_without]
  split <;> rfl

theorem guard?_joined (k : Controller) (c : Call) (fresh : s.call? s.nextCall = none) (m : Nat) :
    (s.joined k c).guard? m = if m = s.nextCall then some c.generation else s.guard? m := by
  unfold guard?
  rw [call?_joined k c fresh]
  split <;> rfl

theorem keys_withCall (s : Debugger) (n : Nat) (c : Call) :
    (s.withCall n c).calls.map Prod.fst = s.calls.map Prod.fst := by
  simp only [withCall, List.map_map]
  congr 1
  funext entry
  simp only [Function.comp]
  split <;> rfl

theorem call?_isSome_iff_mem_keys {n : Nat} :
    (s.call? n).isSome ↔ n ∈ s.calls.map Prod.fst := by
  rw [← Option.ne_none_iff_isSome, call?, Ne, List.lookup_eq_none_iff]
  simp

/-! ## The invariant of guards -/

/-- **Flag and guards agree.** -/
structure Custody (s : Debugger) (h : List Entry) : Prop where
  /-- The running session is the one that was opened last. -/
  latest : ∀ {σ}, s.controller.session? = some σ → σ.generation = s.controller.generation
  /-- No call holds a session that is yet to be opened. -/
  known : ∀ {n g}, s.guard? n = some g → g ≤ s.controller.generation
  /-- Calls are numbered as they begin. -/
  numbered : ∀ {n}, n ∈ s.calls.map Prod.fst → n < s.nextCall
  distinct : (s.calls.map Prod.fst).Nodup
  single : ∀ {g n m}, s.guard? n = some g → s.guard? m = some g → n = m
  busy : ∀ {σ}, s.controller.session? = some σ →
    (σ.inFlight = true ↔ ∃ n, s.guard? n = some σ.generation)
  ascending : (openedSessions h).Pairwise (· < ·)
  opened : ∀ {g}, g ∈ openedSessions h → g ≤ s.controller.generation

namespace Custody

theorem init : Custody {} [] where
  latest := nofun
  known := nofun
  numbered := nofun
  distinct := List.nodup_nil
  single := nofun
  busy := nofun
  ascending := List.Pairwise.nil
  opened := nofun

/-- The number of the next call is free. -/
theorem fresh (hc : Custody s h) : s.call? s.nextCall = none := by
  cases found : s.call? s.nextCall with
  | none => rfl
  | some c =>
      have listed := call?_isSome_iff_mem_keys.mp (Option.isSome_of_eq_some found)
      exact absurd (hc.numbered listed) (Nat.lt_irrefl _)

/-- The invariant looks at generations, flags and guards only. -/
theorem of_same (hc : Custody s h) (generation : s'.controller.generation = s.controller.generation)
    (session : s'.controller.session?.map (fun σ => (σ.generation, σ.inFlight)) =
      s.controller.session?.map (fun σ => (σ.generation, σ.inFlight)))
    (guards : s'.guard? = s.guard?) (keys : s'.calls.map Prod.fst = s.calls.map Prod.fst)
    (nextCall : s'.nextCall = s.nextCall) (quiet : openedSessions more = []) :
    Custody s' (h ++ more) := by
  have sessions : openedSessions (h ++ more) = openedSessions h := by
    rw [openedSessions, List.filterMap_append, ← openedSessions, ← openedSessions, quiet,
      List.append_nil]
  have running : ∀ {σ'}, s'.controller.session? = some σ' → ∃ σ, s.controller.session? = some σ ∧
      σ.generation = σ'.generation ∧ σ.inFlight = σ'.inFlight := by
    intro σ' hσ'
    obtain ⟨σ, hσ, same⟩ := Controller.exists_session_of_map session hσ'
    exact ⟨σ, hσ, congrArg Prod.fst same, congrArg Prod.snd same⟩
  refine ⟨?_, ?_, ?_, ?_, ?_, ?_, ?_, ?_⟩
  · intro σ' hσ'
    obtain ⟨σ, hσ, sameGeneration, -⟩ := running hσ'
    rw [← sameGeneration, generation]
    exact hc.latest hσ
  · rw [guards, generation]
    exact hc.known
  · rw [keys, nextCall]
    exact hc.numbered
  · rw [keys]
    exact hc.distinct
  · rw [guards]
    exact hc.single
  · intro σ' hσ'
    obtain ⟨σ, hσ, sameGeneration, sameFlag⟩ := running hσ'
    rw [guards, ← sameGeneration, ← sameFlag]
    exact hc.busy hσ
  · rw [sessions]
    exact hc.ascending
  · rw [sessions, generation]
    exact hc.opened

/-- A new session has a number above all others, so no call holds it. -/
theorem start (hc : Custody s h) (circuit : Circuit) :
    Custody { s with controller := s.controller.opened circuit }
      (h ++ [.opened (s.controller.generation + 1) circuit]) := by
  have sessions : openedSessions (h ++ [.opened (s.controller.generation + 1) circuit]) =
      openedSessions h ++ [s.controller.generation + 1] := by
    rw [openedSessions, List.filterMap_append]
    rfl
  refine ⟨?_, fun held => ?_, hc.numbered, hc.distinct, hc.single, ?_, ?_, ?_⟩
  · rintro σ ⟨⟩
    rfl
  · exact Nat.le_succ_of_le (hc.known held)
  · -- The new session is free, and every guard is for an older one.
    rintro σ ⟨⟩
    refine ⟨nofun, ?_⟩
    rintro ⟨n, held⟩
    exact absurd (hc.known held) (Nat.not_succ_le_self _)
  · rw [sessions, List.pairwise_append]
    refine ⟨hc.ascending, List.pairwise_singleton _ _, ?_⟩
    intro g hg g' hg'
    rw [List.mem_singleton.mp hg']
    exact Nat.lt_succ_of_le (hc.opened hg)
  · intro g hg
    rw [sessions, List.mem_append, List.mem_singleton] at hg
    rcases hg with old | rfl
    · exact Nat.le_succ_of_le (hc.opened old)
    · exact Nat.le_refl _

theorem stop (hc : Custody s h) (σ : Session) :
    Custody { s with controller := s.controller.closed σ }
      (h ++ [.stopped σ.generation σ.circuit]) := by
  have sessions : openedSessions (h ++ [.stopped σ.generation σ.circuit]) = openedSessions h := by
    rw [openedSessions, List.filterMap_append]
    exact List.append_nil _
  refine ⟨nofun, hc.known, hc.numbered, hc.distinct, hc.single, nofun, ?_, ?_⟩
  · rw [sessions]
    exact hc.ascending
  · rw [sessions]
    exact hc.opened

/-- A call takes the session only while no other call holds it. -/
theorem begin (hc : Custody s h) {σ : Session} {kind : CallKind}
    (running : s.controller.session? = some σ) (free : σ.inFlight = false) :
    Custody (s.joined (s.controller.withSession { σ with inFlight := true })
      { kind, generation := σ.generation }) h := by
  have guards := guard?_joined (s.controller.withSession { σ with inFlight := true })
    { kind, generation := σ.generation } hc.fresh
  have unheld : ∀ n, s.guard? n ≠ some σ.generation := by
    intro n held
    have taken := (hc.busy running).mpr ⟨n, held⟩
    rw [free] at taken
    cases taken
  refine ⟨?_, ?_, ?_, ?_, ?_, ?_, hc.ascending, hc.opened⟩
  · rintro _ ⟨⟩
    have latest : σ.generation = s.controller.generation := hc.latest running
    exact latest
  · intro n g held
    rw [guards] at held
    split at held
    · cases held
      exact Nat.le_of_eq (hc.latest running)
    · exact hc.known held
  · intro n listed
    rw [joined, List.map_append, List.mem_append] at listed
    rcases listed with old | new
    · exact Nat.lt_succ_of_lt (hc.numbered old)
    · rw [List.mem_singleton.mp new]
      exact Nat.lt_succ_self _
  · rw [joined, List.map_append, List.nodup_append]
    refine ⟨hc.distinct, by simp, ?_⟩
    intro n old m new same
    rw [List.mem_singleton.mp new] at same
    exact absurd (hc.numbered old) (same ▸ Nat.lt_irrefl _)
  · intro g n m hn hm
    rw [guards] at hn hm
    -- The new call holds the running session, and no older call does.
    split at hn <;> split at hm
    · omega
    · cases hn
      exact absurd hm (unheld m)
    · cases hm
      exact absurd hn (unheld n)
    · exact hc.single hn hm
  · rintro _ ⟨⟩
    refine ⟨fun _ => ⟨s.nextCall, ?_⟩, fun _ => rfl⟩
    rw [guards, if_pos rfl]

/-- A call that takes leave was the only one that held its session. -/
theorem release (hc : Custody s h) {n : Nat} {c : Call} (found : s.call? n = some c) :
    Custody (s.released n c) h := by
  have guards : ∀ m, (s.released n c).guard? m = if m = n then none else s.guard? m :=
    fun m => guard?_without { s with controller := s.controller.release c.generation } n m
  have held := guard?_of_call? found
  have still : ∀ {m g}, (s.released n c).guard? m = some g → m ≠ n ∧ s.guard? m = some g := by
    intro m g hm
    rw [guards] at hm
    split at hm
    · cases hm
    · exact ⟨‹_›, hm⟩
  have keys : ∀ {m}, m ∈ (s.released n c).calls.map Prod.fst → m ∈ s.calls.map Prod.fst :=
    fun listed => (List.filter_sublist.map Prod.fst).subset listed
  have generation : (s.released n c).controller.generation = s.controller.generation :=
    Controller.release_generation s.controller c.generation
  refine ⟨?_, ?_, ?_, ?_, ?_, ?_, hc.ascending, ?_⟩
  · intro σ' hσ'
    rw [released_session?] at hσ'
    obtain ⟨σ, running, rfl⟩ := Option.map_eq_some_iff.mp hσ'
    rw [generation, ← hc.latest running]
    split <;> rfl
  · intro m g hm
    rw [generation]
    exact hc.known (still hm).2
  · intro m listed
    exact hc.numbered (keys listed)
  · exact hc.distinct.sublist (List.filter_sublist.map Prod.fst)
  · intro g m m' hm hm'
    exact hc.single (still hm).2 (still hm').2
  · intro σ' hσ'
    rw [released_session?] at hσ'
    obtain ⟨σ, running, rfl⟩ := Option.map_eq_some_iff.mp hσ'
    -- The session that is given back loses its only guard. Any other session keeps its own.
    by_cases own : σ.generation = c.generation
    · rw [if_pos own]
      refine ⟨nofun, ?_⟩
      rintro ⟨m, hm⟩
      obtain ⟨other, hm⟩ := still hm
      exact absurd (hc.single hm (own ▸ held)) other
    · rw [if_neg own, hc.busy running]
      constructor
      · rintro ⟨m, hm⟩
        refine ⟨m, ?_⟩
        rw [guards, if_neg]
        · exact hm
        · rintro rfl
          exact own (Option.some.inj (hm.symm.trans held))
      · rintro ⟨m, hm⟩
        exact ⟨m, (still hm).2⟩
  · rw [generation]
    exact hc.opened

/-- **Every rule keeps custody.** -/
theorem step {event : Event} {reply : Reply} (hc : Custody s h)
    (hs : Step s event reply more s') : Custody s' (h ++ more) := by
  cases hs with
  | refused | ignored | stoppedIdle => rwa [List.append_nil]
  | opened => exact hc.start _
  | toggled running =>
      refine hc.of_same rfl ?_ rfl rfl rfl rfl
      rw [running]
      rfl
  | stopped => exact hc.stop _
  | begun running free =>
      rw [List.append_nil]
      exact hc.begin running free
  | asked found | halted found | abandoned found | lost found =>
      exact hc.of_same rfl rfl (guard?_withCall found rfl) (keys_withCall _ _ _) rfl rfl
  | advanced found waiting current =>
      obtain ⟨running, -⟩ := Controller.current?_eq_some_iff.mp current
      refine hc.of_same rfl ?_ (guard?_withCall found (Call.advanced_generation _ _))
        (keys_withCall _ _ _) rfl rfl
      rw [running]
      rfl
  | failed found waiting current =>
      obtain ⟨running, -⟩ := Controller.current?_eq_some_iff.mp current
      refine hc.of_same rfl ?_ (guard?_withCall found rfl) (keys_withCall _ _ _) rfl rfl
      rw [running]
      rfl
  | finished found | dropped found =>
      rw [List.append_nil]
      exact hc.release found

end Custody

theorem custody_run (events : List Event) : Custody (run {} events) (history {} events) :=
  run_induction Custody.init (fun hc hs => hc.step hs) events

/-! ## Calls in step with their sessions -/

/-- A call waits for an answer about the circuit up to the step after `cursor`, in session `g`. -/
def Waits (s : Debugger) (n g : Nat) (circuit : Circuit) (cursor : Index) : Prop :=
  ∃ c, s.call? n = some c ∧ c.generation = g ∧ c.stage = .awaiting circuit cursor

theorem Waits.guard? {n g : Nat} {circuit : Circuit} {cursor : Index}
    (hw : s.Waits n g circuit cursor) : s.guard? n = some g := by
  obtain ⟨c, found, same, -⟩ := hw
  exact guard?_eq_some_iff.mpr ⟨c, found, same⟩

/-- Replacing a call leaves the other calls waiting, and this one if its stage says so. -/
theorem waits_withCall {n m g : Nat} {c d : Call} {circuit : Circuit} {cursor : Index}
    (found : s.call? n = some c) (hw : (s.withCall n d).Waits m g circuit cursor) :
    (m = n ∧ d.generation = g ∧ d.stage = .awaiting circuit cursor) ∨
      (m ≠ n ∧ s.Waits m g circuit cursor) := by
  obtain ⟨c', found', same, stage⟩ := hw
  rcases call?_withCall_cases found found' with ⟨hm, rfl⟩ | ⟨hm, old⟩
  · exact .inl ⟨hm, same, stage⟩
  · exact .inr ⟨hm, c', old, same, stage⟩

/-- Behind a section that ends with anything but a question, only the other calls wait. -/
theorem waits_of_withCall {n m g : Nat} {c d : Call} {circuit : Circuit} {cursor : Index}
    (found : s.call? n = some c) (quiet : ∀ circuit cursor, d.stage ≠ .awaiting circuit cursor)
    (hw : (s.withCall n d).Waits m g circuit cursor) : m ≠ n ∧ s.Waits m g circuit cursor := by
  rcases waits_withCall found hw with ⟨-, -, stage⟩ | other
  · exact absurd stage (quiet _ _)
  · exact other

theorem waits_of_joined {k : Controller} {c : Call} {m g : Nat} {circuit : Circuit} {cursor : Index}
    (fresh : s.call? s.nextCall = none) (new : c.stage = .deciding)
    (hw : (s.joined k c).Waits m g circuit cursor) : s.Waits m g circuit cursor := by
  obtain ⟨c', found', same, stage⟩ := hw
  rw [call?_joined k c fresh] at found'
  split at found'
  · cases found'
    rw [new] at stage
    cases stage
  · exact ⟨c', found', same, stage⟩

theorem waits_of_released {n m g : Nat} {c : Call} {circuit : Circuit} {cursor : Index}
    (hw : (s.released n c).Waits m g circuit cursor) : s.Waits m g circuit cursor := by
  obtain ⟨c', found', same, stage⟩ := hw
  exact ⟨c', (call?_of_released found').2, same, stage⟩

/-- **Answers find their sessions where they left them.** -/
structure InStep (s : Debugger) : Prop where
  within : ∀ {σ}, s.controller.session? = some σ → σ.cursor ≤ σ.circuit.stepCount
  waiting : ∀ {σ n circuit cursor}, s.controller.session? = some σ →
    s.Waits n σ.generation circuit cursor →
    circuit = σ.circuit ∧ cursor = σ.cursor ∧ σ.cursor < σ.circuit.stepCount

namespace InStep

theorem init : InStep {} where
  within := nofun
  waiting := nofun

/-- The invariant looks at circuits and cursors only, and at the calls that wait. -/
theorem of_same (hi : InStep s)
    (session : s'.controller.session?.map (fun σ => (σ.generation, σ.circuit, σ.cursor)) =
      s.controller.session?.map (fun σ => (σ.generation, σ.circuit, σ.cursor)))
    (waits : ∀ {n g circuit cursor}, s'.Waits n g circuit cursor → s.Waits n g circuit cursor) :
    InStep s' := by
  constructor
  · intro σ' hσ'
    obtain ⟨σ, hσ, same⟩ := Controller.exists_session_of_map session hσ'
    injection same with _ same
    injection same with sameCircuit sameCursor
    rw [← sameCircuit, ← sameCursor]
    exact hi.within hσ
  · intro σ' n circuit cursor hσ' hw
    obtain ⟨σ, hσ, same⟩ := Controller.exists_session_of_map session hσ'
    injection same with sameGeneration same
    injection same with sameCircuit sameCursor
    rw [← sameCircuit, ← sameCursor]
    exact hi.waiting hσ (sameGeneration ▸ waits hw)

/-- A committed answer moves its session by one step. The answer was the only one that the session
waited for, so no other call is left behind. -/
theorem advance (hc : Custody s h) (hi : InStep s) {n : Nat} {c : Call} {circuit : Circuit}
    {cursor : Index} {σ : Session} {e : Evaluation} (found : s.call? n = some c)
    (waiting : c.stage = .awaiting circuit cursor)
    (current : s.controller.current? c.generation = some σ) :
    InStep ({ s with controller := s.controller.withSession (σ.advance (cursor + 1) e) }.withCall n
      (c.advanced (cursor + 1))) := by
  obtain ⟨running, own⟩ := Controller.current?_eq_some_iff.mp current
  obtain ⟨-, rfl, within⟩ := hi.waiting running ⟨c, found, own.symm, waiting⟩
  constructor
  · rintro _ ⟨⟩
    exact Index.succ_le within
  · rintro _ m circuit' cursor' ⟨⟩ hw
    obtain ⟨other, hw⟩ := waits_of_withCall found (Call.advanced_stage_ne _ _) hw
    have both : s.guard? m = some c.generation := own ▸ hw.guard?
    exact absurd (hc.single both (guard?_of_call? found)) other

/-- **Every rule keeps calls in step.** -/
theorem step {event : Event} {reply : Reply} (hc : Custody s h) (hi : InStep s)
    (hs : Step s event reply more s') : InStep s' := by
  cases hs with
  | refused | ignored | stoppedIdle => exact hi
  | opened =>
      constructor
      · rintro _ ⟨⟩
        exact UInt32.zero_le
      · -- No call can wait for a session that is only now opened.
        rintro _ n circuit cursor ⟨⟩ hw
        exact absurd (hc.known (Waits.guard? hw)) (Nat.not_succ_le_self _)
  | toggled running =>
      refine hi.of_same ?_ id
      rw [running]
      rfl
  | stopped => exact ⟨nofun, nofun⟩
  | begun running free =>
      refine hi.of_same ?_ (waits_of_joined hc.fresh rfl)
      rw [running]
      rfl
  | asked found deciding current within clear =>
      obtain ⟨running, own⟩ := Controller.current?_eq_some_iff.mp current
      refine ⟨hi.within, ?_⟩
      intro σ n circuit cursor hσ hw
      rcases waits_withCall found hw with ⟨-, -, stage⟩ | ⟨-, hw⟩
      · cases stage
        cases running.symm.trans hσ
        exact ⟨rfl, rfl, within⟩
      · exact hi.waiting hσ hw
  | halted found | abandoned found | lost found =>
      exact hi.of_same rfl fun hw => (waits_of_withCall found (Call.ended_stage_ne _ _) hw).2
  | advanced found waiting current => exact advance hc hi found waiting current
  | failed found waiting current =>
      obtain ⟨running, -⟩ := Controller.current?_eq_some_iff.mp current
      refine hi.of_same ?_ fun hw => (waits_of_withCall found (Call.ended_stage_ne _ _) hw).2
      rw [running]
      rfl
  | finished | dropped =>
      exact hi.of_same (released_keeps _ _ _ fun _ => rfl) waits_of_released

end InStep

theorem inStep_run (events : List Event) : InStep (run {} events) :=
  (run_induction (P := fun s h => Custody s h ∧ InStep s) ⟨Custody.init, InStep.init⟩
    (fun ⟨hc, hi⟩ hs => ⟨hc.step hs, InStep.step hc hi hs⟩) events).2

/-! ## Calls that leave -/

/-- The call returned its outcome, or it was dropped. -/
def Leaves (n : Nat) (event : Event) (reply : Reply) : Prop :=
  (∃ outcome, event = .finish n ∧ reply = .finished outcome) ∨
    (event = .drop n ∧ reply = .dropped)

/-- A call that leaves is released, wherever it stood. -/
theorem released_of_leaves {n : Nat} {event : Event} {reply : Reply}
    (hl : Leaves n event reply) (hs : Step s event reply more s') :
    ∃ c, s.call? n = some c ∧ s' = s.released n c := by
  rcases hl with ⟨outcome, rfl, rfl⟩ | ⟨rfl, rfl⟩
  · cases hs with
    | finished found => exact ⟨_, found, rfl⟩
  · cases hs with
    | dropped found => exact ⟨_, found, rfl⟩

/-- Behind a call that leaves, its session is free. -/
theorem free_of_released {n : Nat} {c : Call} {σ : Session}
    (running : (s.released n c).controller.session? = some σ) (own : σ.generation = c.generation) :
    σ.inFlight = false := by
  rw [released_session?] at running
  obtain ⟨before, -, rfl⟩ := Option.map_eq_some_iff.mp running
  split at own
  · rw [if_pos ‹_›]
  · exact absurd own ‹_›

/-- **Answers are committed where they were asked for.** -/
theorem settled_spec (hi : InStep s) {n g : Nat} {limit : Index} {answer : Answer} {event : Event}
    (committed : .settled n g limit answer ∈ s.entries event) :
    ∃ σ, s.controller.session? = some σ ∧ σ.generation = g ∧ s.Waits n g σ.circuit σ.cursor ∧
      limit = σ.cursor + 1 ∧ limit.toNat = σ.cursor.toNat + 1 ∧ limit ≤ σ.circuit.stepCount := by
  have hs := step_spec s event
  have found : ∃ c circuit cursor σ, s.call? n = some c ∧ c.stage = .awaiting circuit cursor ∧
      s.controller.current? c.generation = some σ ∧ g = c.generation ∧ limit = cursor + 1 := by
    generalize (s.step event).1 = reply, s.entries event = more, (s.step event).2 = s' at hs committed
    -- Only two of the rules commit an answer.
    cases hs with
    | advanced found waiting current | failed found waiting current =>
        cases List.mem_singleton.mp committed
        exact ⟨_, _, _, _, found, waiting, current, rfl, rfl⟩
    | opened | stopped | asked | lost => cases List.mem_singleton.mp committed
    | _ => cases committed
  obtain ⟨c, circuit, cursor, σ, found, waiting, current, rfl, rfl⟩ := found
  obtain ⟨running, own⟩ := Controller.current?_eq_some_iff.mp current
  have waits : s.Waits n σ.generation circuit cursor := ⟨c, found, own.symm, waiting⟩
  obtain ⟨rfl, rfl, within⟩ := hi.waiting running waits
  exact ⟨σ, running, own, own ▸ waits, rfl, Index.toNat_succ within, Index.succ_le within⟩

/-! ## Mutual exclusion -/

/-- **One call at a time, and no step lost or repeated.** After any events:
* the flag of the running session is up exactly while a call holds the session, no two calls hold one
  session, and no two calls go by one number;
* sessions are numbered in ascending order;
* an answer that is committed finds the cursor where its question left it, with room for one more
  step;
* a call that leaves, by returning or by being dropped, holds nothing any more and leaves its session
  free. -/
theorem mutual_exclusion (events : List Event) :
    let s := run {} events
    (∀ σ, s.controller.session? = some σ →
      (σ.inFlight = true ↔ ∃ n, s.guard? n = some σ.generation)) ∧
    (∀ g n m, s.guard? n = some g → s.guard? m = some g → n = m) ∧
    (s.calls.map Prod.fst).Nodup ∧
    (openedSessions (history {} events)).Pairwise (· < ·) ∧
    (∀ event n g limit answer, .settled n g limit answer ∈ s.entries event →
      ∃ σ, s.controller.session? = some σ ∧ σ.generation = g ∧ s.Waits n g σ.circuit σ.cursor ∧
        limit = σ.cursor + 1 ∧ limit.toNat = σ.cursor.toNat + 1 ∧
        limit ≤ σ.circuit.stepCount) ∧
    (∀ event n g, s.guard? n = some g → Leaves n event (s.step event).1 →
      (s.step event).2.guard? n = none ∧
      ∀ σ, (s.step event).2.controller.session? = some σ → σ.generation = g →
        σ.inFlight = false) := by
  intro s
  have hc : Custody s (history {} events) := custody_run events
  have hi : InStep s := inStep_run events
  refine ⟨fun σ => hc.busy, fun g n m => hc.single, hc.distinct, hc.ascending, ?_, ?_⟩
  · intro event n g limit answer committed
    exact settled_spec hi committed
  · intro event n g held hl
    obtain ⟨c, found, after⟩ := released_of_leaves hl (step_spec s event)
    have own : g = c.generation := Option.some.inj (held.symm.trans (guard?_of_call? found))
    rw [after, own]
    refine ⟨?_, fun σ running => free_of_released running⟩
    rw [released, guard?_without, if_pos rfl]

/-- Halfway through a run of steps the flag is up, the call holds its session, the answer is going to
be committed, and dropping the call instead frees the session. -/
theorem mutual_exclusion_halfway :
    let s := run {} halfway
    (∃ σ, s.controller.session? = some σ ∧ σ.inFlight = true ∧ s.guard? 0 = some σ.generation) ∧
    .settled 0 1 2 (.ok (.initial 1)) ∈ s.entries (.answer 0 (.ok (.initial 1))) ∧
    (∃ σ, s.controller.session? = some σ ∧ s.Waits 0 1 σ.circuit σ.cursor ∧ 2 = σ.cursor + 1) ∧
    Leaves 0 (.drop 0) (s.step (.drop 0)).1 ∧
    ∃ σ, (s.step (.drop 0)).2.controller.session? = some σ ∧ σ.inFlight = false := by
  intro s
  obtain ⟨flag, -, -, -, committed, left⟩ := mutual_exclusion halfway
  have answered : .settled 0 1 2 (.ok (.initial 1)) ∈ s.entries (.answer 0 (.ok (.initial 1))) :=
    List.mem_singleton.mpr rfl
  have dropped : Leaves 0 (.drop 0) (s.step (.drop 0)).1 := .inr ⟨rfl, rfl⟩
  refine ⟨⟨_, rfl, (flag _ rfl).mpr ⟨0, rfl⟩, rfl⟩, answered, ?_, dropped, _, rfl, ?_⟩
  · obtain ⟨σ, running, -, waits, next, -⟩ := committed _ 0 1 2 _ answered
    exact ⟨σ, running, waits, next⟩
  · exact (left _ 0 1 rfl dropped).2 _ rfl rfl

end Debugger

end QuantumWorkbench
