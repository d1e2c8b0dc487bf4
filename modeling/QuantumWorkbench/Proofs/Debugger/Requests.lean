import QuantumWorkbench.Proofs.Debugger.Continue
import QuantumWorkbench.Proofs.Debugger.Ledger
import QuantumWorkbench.Proofs.Debugger.Tally
import QuantumWorkbench.Proofs.Debugger.Whole

/-!
# Requests

All that leaves the debugger for the evaluator: which questions a session asks, in which order, and what the
evaluator gets to see of them. A call that stops by itself has asked nothing in vain.

## Contents
- `Debugger.Docket`: a call knows how many questions it asked, and `Debugger.docket_run`.
- `Debugger.Decided`: a call that has its outcome, and `Debugger.questions_of_decided`: it asks no more.
- `Debugger.request_log`: the requests of a session, over every run.
-/

namespace QuantumWorkbench

/-- The number of steps that a call had committed when it stopped by itself, at the end of the circuit or
before a breakpoint. -/
def Outcome.halted? : Outcome → Option Index
  | .step .endOfCircuit => some 0
  | .run taken (.breakpoint _) | .run taken .endOfCircuit => some taken
  | .step (.advanced _) | .step (.failed _) | .step .discarded => none
  | .run _ (.failed _) | .run _ .discarded => none

/-- The number of questions that a call has asked, as far as the call shows it. -/
def Call.asked? (c : Call) : Option Nat :=
  match c.stage with
  | .deciding => some c.taken.toNat
  | .awaiting _ _ => some (c.taken.toNat + 1)
  | .finishing outcome => outcome.halted?.map UInt32.toNat

theorem Call.asked?_of_deciding {c : Call} (deciding : c.stage = .deciding) :
    c.asked? = some c.taken.toNat := by
  rw [Call.asked?, deciding]

theorem Call.asked?_of_awaiting {c : Call} {circuit : Circuit} {cursor : Index}
    (waiting : c.stage = .awaiting circuit cursor) : c.asked? = some (c.taken.toNat + 1) := by
  rw [Call.asked?, waiting]

theorem Call.halted?_stopped_discarded (c : Call) : (c.stopped .discarded).halted? = none := by
  obtain ⟨kind, _, _, _⟩ := c
  cases kind <;> rfl

theorem Call.halted?_stopped_failed (c : Call) (fault : Fault) :
    (c.stopped (.failed fault)).halted? = none := by
  obtain ⟨kind, _, _, _⟩ := c
  cases kind <;> rfl

namespace Debugger

variable {s s' : Debugger} {h more : List Entry} {n : Nat}

/-- A call that stops by itself tells how many steps it had committed. -/
theorem halted?_of_halts {c : Call} {σ : Session} {reason : StopReason} (single : c.kind = .step → c.taken = 0)
    (halts : Halts σ c.kind reason) : (c.stopped reason).halted? = some c.taken := by
  obtain ⟨kind, generation, taken, stage⟩ := c
  cases halts with
  | breakpoint => rfl
  | atEnd =>
      cases kind with
      | run => rfl
      | step => exact congrArg some (single rfl).symm

/-! ## Calls and their questions -/

/-- **A call knows how many questions it asked.** -/
structure Docket (s : Debugger) (h : List Entry) : Prop where
  asked : ∀ {n c k}, s.call? n = some c → c.asked? = some k → questions n h = k
  /-- A step is over with its first success. -/
  single : ∀ {n c}, s.call? n = some c → c.kind = .step → c.taken = 0
  /-- A call that is yet to begin has asked nothing. -/
  unborn : ∀ {n}, s.nextCall ≤ n → questions n h = 0

namespace Docket

theorem init : Docket {} [] where
  asked := nofun
  single := nofun
  unborn := fun _ => rfl

/-- Nothing is asked, and calls show what they showed before, or less. -/
theorem of_quiet (hd : Docket s h)
    (calls : ∀ {n c'}, s'.call? n = some c' → ∃ c, s.call? n = some c ∧ c.kind = c'.kind ∧
      (c.kind = .step → c'.taken = c.taken) ∧ ∀ k, c'.asked? = some k → c.asked? = some k)
    (nextCall : s.nextCall ≤ s'.nextCall) (quiet : ∀ n, questions n more = 0) :
    Docket s' (h ++ more) where
  asked := fun {n c' k} found' shown => by
    obtain ⟨c, found, -, -, before⟩ := calls found'
    rw [questions_append, quiet, Nat.add_zero]
    exact hd.asked found (before k shown)
  single := fun {n c'} found' step => by
    obtain ⟨c, found, same, still, -⟩ := calls found'
    rw [still (same.trans step)]
    exact hd.single found (same.trans step)
  unborn := fun {n} later => by
    rw [questions_append, quiet, Nat.add_zero]
    exact hd.unborn (Nat.le_trans nextCall later)

/-- A call that is replaced by one that shows no more than it did. -/
theorem of_withCall (hd : Docket s h) {k : Controller} {c d : Call} (found : s.call? n = some c)
    (kind : c.kind = d.kind) (still : c.kind = .step → d.taken = c.taken)
    (shown : ∀ k, d.asked? = some k → c.asked? = some k) (quiet : ∀ n, questions n more = 0) :
    Docket ({ s with controller := k }.withCall n d) (h ++ more) := by
  refine hd.of_quiet (fun found' => ?_) (Nat.le_refl _) quiet
  rcases call?_withCall_cases (s := { s with controller := k }) found found' with ⟨rfl, rfl⟩ | ⟨-, old⟩
  · exact ⟨c, found, kind, still, shown⟩
  · exact ⟨_, old, rfl, fun _ => rfl, fun _ => id⟩

/-- **A question is put on the docket of the call that asks it.** -/
theorem ask (hc : Custody s h) (hd : Docket s h) {c : Call} {circuit : Circuit} {cursor limit : Index}
    (found : s.call? n = some c) (deciding : c.stage = .deciding) :
    Docket (s.withCall n (c.awaiting circuit cursor)) (h ++ [.asked n c.generation circuit limit]) := by
  have count : ∀ m, questions m (h ++ [.asked n c.generation circuit limit]) =
      questions m h + if n = m then 1 else 0 := by
    intro m
    rw [questions_append, questions_asked]
  refine ⟨?_, ?_, ?_⟩
  · intro m c' k found' shown
    rw [count]
    rcases call?_withCall_cases found found' with ⟨rfl, rfl⟩ | ⟨other, old⟩
    · have before := hd.asked found (Call.asked?_of_deciding deciding)
      rw [Call.asked?_of_awaiting (c := c.awaiting circuit cursor) rfl] at shown
      rw [if_pos rfl, before]
      exact Option.some.inj shown
    · rw [if_neg (Ne.symm other)]
      exact hd.asked old shown
  · intro m c' found' step
    rcases call?_withCall_cases found found' with ⟨rfl, rfl⟩ | ⟨-, old⟩
    · exact hd.single (c := c) found step
    · exact hd.single old step
  · intro m later
    have old : n < s.nextCall :=
      hc.numbered (call?_isSome_iff_mem_keys.mp (Option.isSome_of_eq_some found))
    have later : s.nextCall ≤ m := later
    rw [count, if_neg (by omega)]
    exact hd.unborn later

/-- **Every rule keeps the docket.** -/
theorem step {event : Event} {reply : Reply} (hc : Custody s h) (hi : InStep s) (ht : Tally s h)
    (hd : Docket s h) (hs : Step s event reply more s') : Docket s' (h ++ more) := by
  cases hs with
  | refused | ignored | stoppedIdle => rwa [List.append_nil]
  | opened | toggled | stopped =>
      exact hd.of_quiet (fun found => ⟨_, found, rfl, fun _ => rfl, fun _ => id⟩) (Nat.le_refl _)
        fun _ => rfl
  | begun running free =>
      rw [List.append_nil]
      refine ⟨?_, ?_, fun later => hd.unborn (Nat.le_of_succ_le later)⟩
      · intro n c k found shown
        rw [call?_joined _ _ hc.fresh] at found
        split at found
        · cases found
          rw [hd.unborn (Nat.le_of_eq ‹n = s.nextCall›.symm)]
          exact Option.some.inj shown
        · exact hd.asked found shown
      · intro n c found step
        rw [call?_joined _ _ hc.fresh] at found
        split at found
        · cases found
          rfl
        · exact hd.single found step
  | asked found deciding => exact hd.ask hc found deciding
  | @halted n c σ reason found deciding current halts =>
      refine hd.of_withCall found rfl (fun _ => rfl) ?_ fun _ => rfl
      intro k shown
      have told : (c.ended (c.stopped reason)).asked? = some c.taken.toNat := by
        show (c.stopped reason).halted?.map UInt32.toNat = _
        rw [halted?_of_halts (hd.single found) halts]
        rfl
      rw [Call.asked?_of_deciding deciding, ← told, shown]
  | @abandoned n c found | @lost n c _ _ _ found =>
      refine hd.of_withCall found rfl (fun _ => rfl) ?_ fun _ => rfl
      intro k shown
      have untold : (c.ended (c.stopped .discarded)).asked? = none :=
        congrArg (Option.map UInt32.toNat) (Call.halted?_stopped_discarded c)
      rw [untold] at shown
      cases shown
  | @failed n c circuit cursor σ error found =>
      refine hd.of_withCall found rfl (fun _ => rfl) ?_ fun _ => rfl
      intro k shown
      have untold : (c.ended (c.stopped (.failed error.fault))).asked? = none :=
        congrArg (Option.map UInt32.toNat) (Call.halted?_stopped_failed c error.fault)
      rw [untold] at shown
      cases shown
  | @advanced n c circuit cursor σ e found waiting current =>
      refine hd.of_withCall found (Call.advanced_kind _ _).symm ?_ ?_ fun _ => rfl
      · intro step
        rw [Call.advanced_of_step step]
        rfl
      · intro k shown
        cases kind : c.kind with
        | step =>
            rw [Call.advanced_of_step kind] at shown
            cases shown
        | run =>
            -- One more step was committed, and with it the question is settled.
            obtain ⟨running, own⟩ := Controller.current?_eq_some_iff.mp current
            obtain ⟨-, rfl, within⟩ := hi.waiting running ⟨c, found, own.symm, waiting⟩
            have low := ht.bounded found running own
            have below : c.taken < σ.circuit.stepCount := UInt32.lt_of_le_of_lt low within
            rw [Call.advanced_of_run kind] at shown
            rw [Call.asked?_of_awaiting waiting, ← Index.toNat_succ below]
            exact shown
  | finished | dropped =>
      exact hd.of_quiet
        (fun found' => ⟨_, (call?_of_released found').2, rfl, fun _ => rfl, fun _ => id⟩)
        (Nat.le_refl _) fun _ => rfl

end Docket

theorem docket_run (events : List Event) : Docket (run {} events) (history {} events) :=
  (run_induction (P := fun s h => Custody s h ∧ InStep s ∧ Tally s h ∧ Docket s h)
    ⟨Custody.init, InStep.init, Tally.init, Docket.init⟩
    (fun ⟨hc, hi, ht, hd⟩ hs =>
      ⟨hc.step hs, InStep.step hc hi hs, Tally.step hc hi ht hs, Docket.step hc hi ht hd hs⟩)
    events).2.2.2

/-! ## Calls that have their outcome -/

/-- The call is over: it has its outcome, or it has left. -/
structure Decided (n : Nat) (s : Debugger) : Prop where
  begun : n < s.nextCall
  finishing : ∀ {c}, s.call? n = some c → ∃ outcome, c.stage = .finishing outcome

namespace Decided

/-- Another call goes on. -/
theorem of_withCall (hd : Decided n s) {m : Nat} {k : Controller} {c d : Call} (found : s.call? m = some c)
    (undecided : ∀ outcome, c.stage ≠ .finishing outcome) :
    m ≠ n ∧ Decided n ({ s with controller := k }.withCall m d) := by
  have other : m ≠ n := by
    rintro rfl
    obtain ⟨outcome, finishing⟩ := hd.finishing found
    exact undecided outcome finishing
  refine ⟨other, hd.begun, ?_⟩
  intro c' found'
  rcases call?_withCall_cases (s := { s with controller := k }) found found' with ⟨own, -⟩ | ⟨-, old⟩
  · exact absurd own.symm other
  · exact hd.finishing old

/-- A call that is over asks nothing, whatever happens. -/
theorem step {event : Event} {reply : Reply} (hc : Custody s h) (hd : Decided n s)
    (hs : Step s event reply more s') : Decided n s' ∧ questions n more = 0 := by
  cases hs with
  | refused | ignored | stoppedIdle | opened | toggled | stopped => exact ⟨⟨hd.begun, hd.finishing⟩, rfl⟩
  | begun running free =>
      refine ⟨⟨Nat.lt_succ_of_lt hd.begun, fun found => ?_⟩, rfl⟩
      rw [call?_joined _ _ hc.fresh, if_neg (Nat.ne_of_lt hd.begun)] at found
      exact hd.finishing found
  | @asked m c σ found deciding =>
      obtain ⟨other, kept⟩ := hd.of_withCall (k := s.controller)
        (d := c.awaiting σ.circuit σ.cursor) found (by simp [deciding])
      exact ⟨kept, by rw [questions_asked, if_neg other]⟩
  | halted found deciding | abandoned found deciding =>
      exact ⟨(hd.of_withCall found (by simp [deciding])).2, rfl⟩
  | lost found waiting | advanced found waiting | failed found waiting =>
      exact ⟨(hd.of_withCall found (by simp [waiting])).2, rfl⟩
  | finished | dropped =>
      exact ⟨⟨hd.begun, fun found' => hd.finishing (call?_of_released found').2⟩, rfl⟩

end Decided

/-- **A call that has its outcome asks nothing more.** -/
theorem questions_of_decided (hc : Custody s h) (hd : Decided n s) (events : List Event) :
    questions n (h ++ s.history events) = questions n h := by
  refine (run_induction_from (P := fun s h' => Custody s h' ∧ Decided n s ∧ questions n h' = questions n h)
    ?_ events s h ⟨hc, hd, rfl⟩).2.2
  rintro s h' event reply more s' ⟨hc, hd, count⟩ hs
  obtain ⟨kept, none⟩ := hd.step hc hs
  refine ⟨hc.step hs, kept, ?_⟩
  rw [questions_append, none, count, Nat.add_zero]

end Debugger

/-! ## What the evaluator sees -/

/-- A call that waits hands its question to the evaluator, and goes on with the answer. -/
theorem Call.drive_of_awaiting {m : Type → Type} [Monad m] (e : Evaluator m) (fuel : Nat) {c : Call}
    {circuit : Circuit} {cursor : Index} (waiting : c.stage = .awaiting circuit cursor) (k : Controller) :
    c.drive e (fuel + 1) k = (do
      let answer ← e.evaluateUpTo circuit (cursor + 1)
      let (c, k) := c.settle cursor answer k
      c.drive e fuel k) := by
  obtain ⟨kind, generation, taken, stage⟩ := c
  cases waiting
  rfl

namespace Debugger

/-- **The requests of a session.** After any events:
* a session asks about its own circuit, which was valid when the session was opened, and about no more steps
  than there are. The first question is about one step. What the evaluator gets to see of a circuit is valid
  too, and has the same register;
* each further question is about one step more if the answer to the one before was committed as a success, and
  about as many steps otherwise;
* a call that waits has put its question into the history, and an evaluator that only takes circuits gets the
  circuit as of the steps in question, and nothing else, before the call goes on;
* an event that is refused asks nothing and changes nothing;
* a call that stopped by itself, at the end of the circuit or before a breakpoint, has asked as often as it
  committed a step, which is not at all for a step at the end, and never asks again. -/
theorem request_log (events : List Event) :
    let s := run {} events
    let h := history {} events
    (∀ before n g c limit after, h = before ++ .asked n g c limit :: after →
      .opened g c ∈ before ∧ c.validate = .ok () ∧ limit ≤ c.stepCount ∧
      ((∀ m d l, .asked m g d l ∉ before) → limit = 1) ∧
      (c.upTo limit).validate = .ok () ∧ (c.upTo limit).qubitCount = c.qubitCount) ∧
    (∀ before n g c limit between n' c' limit' after,
      h = before ++ .asked n g c limit :: (between ++ .asked n' g c' limit' :: after) →
      (∀ m d l, .asked m g d l ∉ between) → c' = c ∧
        ((∃ e, .settled n g limit (.ok e) ∈ between) ∧ limit'.toNat = limit.toNat + 1 ∨
          (∀ m l e, .settled m g l (.ok e) ∉ between) ∧ limit' = limit)) ∧
    (∀ n call circuit cursor, s.call? n = some call → call.stage = .awaiting circuit cursor →
      .asked n call.generation circuit (cursor + 1) ∈ h ∧
      ∀ (m : Type → Type) [Monad m] (name : String) (evaluate : Circuit → m Answer) (fuel : Nat)
        (k : Controller), call.drive { name, evaluate } (fuel + 1) k = (do
          let answer ← evaluate (circuit.upTo (cursor + 1))
          let (call, k) := call.settle cursor answer k
          call.drive { name, evaluate } fuel k)) ∧
    (∀ event error, (s.step event).1 = .refused error → s.entries event = [] ∧ (s.step event).2 = s) ∧
    (∀ n call outcome taken, s.call? n = some call → call.stage = .finishing outcome →
      outcome.halted? = some taken →
      ∀ later, questions n (history {} (events ++ later)) = taken.toNat) := by
  intro s h
  have hc : Custody s h := custody_run events
  have hl : Ledger s h := ledger_run events
  refine ⟨?_, ?_, ?_, ?_, ?_⟩
  · intro before n g c limit after split
    obtain ⟨opened, within, -⟩ := hl.recorded _ _ _ split
    have valid : c.validate = .ok () := hl.recorded.valid (split ▸ List.mem_append_left _ opened)
    exact ⟨opened, valid, within, first_limit hl.recorded split, Circuit.validate_upTo valid limit, rfl⟩
  · intro before n g c limit between n' c' limit' after split last
    have opened : .opened g c ∈ h := by
      rw [split]
      exact List.mem_append_left _ (hl.recorded _ _ _ split).1
    have regrouped := split
    rw [← List.cons_append, ← List.append_assoc] at regrouped
    have opened' : .opened g c' ∈ h := by
      rw [regrouped]
      exact List.mem_append_left _ (hl.recorded _ _ _ regrouped).1
    exact ⟨circuit_unique hc opened' opened, next_limit hl.recorded split last⟩
  · intro n call circuit cursor found waiting
    refine ⟨(account_run events).asked ⟨call, found, rfl, waiting⟩, ?_⟩
    intro m _ name evaluate fuel k
    exact Call.drive_of_awaiting _ fuel waiting k
  · intro event error refused
    have hs := step_spec s event
    rw [refused] at hs
    generalize s.entries event = more, (s.step event).2 = s' at hs
    cases hs with
    | refused => exact ⟨rfl, rfl⟩
  · intro n call outcome taken found finishing halted later
    have shown : call.asked? = some taken.toNat := by
      rw [Call.asked?, finishing]
      exact congrArg (Option.map UInt32.toNat) halted
    have decided : Decided n s := by
      refine ⟨hc.numbered (call?_isSome_iff_mem_keys.mp (Option.isSome_of_eq_some found)), ?_⟩
      intro c found'
      cases found.symm.trans found'
      exact ⟨outcome, finishing⟩
    rw [history_append, questions_of_decided hc decided, (docket_run events).asked found shown]

/-- A step that failed, and a run of steps that tried again and waits for its second answer. -/
def resumed : List Event :=
  [.start twoSteps, .begin .step, .decide 0, .answer 0 (.error (.unavailable "busy")), .finish 0,
    .begin .run, .decide 1, .answer 1 (.ok (.initial 1)), .decide 1]

/-- A run of steps that stopped before a breakpoint behind its first step. -/
def paused : List Event :=
  [.start twoSteps, .toggleBreakpoint 2, .begin .run, .decide 0, .answer 0 (.ok (.initial 1)), .decide 0]

theorem request_log_resumed :
    let s := run {} resumed
    let failed : List Entry := [.settled 0 1 1 (.error (.unavailable "busy"))]
    let answered : List Entry := [.settled 1 1 1 (.ok (.initial 1))]
    (history {} resumed = [.opened 1 twoSteps] ++ .asked 0 1 twoSteps 1 ::
        (failed ++ .asked 1 1 twoSteps 1 :: (answered ++ .asked 1 1 twoSteps 2 :: [])) ∧
      (∀ m d l, .asked m 1 d l ∉ failed) ∧ (∀ m d l, .asked m 1 d l ∉ answered)) ∧
    ((twoSteps.upTo 1).validate = .ok () ∧ (∀ m l e, .settled m 1 l (.ok e) ∉ failed) ∧
      ∃ e, .settled 1 1 1 (.ok e) ∈ answered) ∧
    (∃ call, s.call? 1 = some call ∧ call.stage = .awaiting twoSteps 1 ∧
      .asked 1 call.generation twoSteps 2 ∈ history {} resumed) ∧
    ((s.step (.begin .step)).1 = .refused (.requestInFlight 1) ∧ s.entries (.begin .step) = []) ∧
    ∃ call, (run {} paused).call? 0 = some call ∧ call.stage = .finishing (.run 1 (.breakpoint 2)) ∧
      questions 0 (history {} (paused ++ [.finish 0, .begin .run])) = 1 := by
  intro s failed answered
  obtain ⟨requests, next, waits, refuses, -⟩ := request_log resumed
  have told : history {} resumed = [.opened 1 twoSteps] ++ .asked 0 1 twoSteps 1 ::
      (failed ++ .asked 1 1 twoSteps 1 :: (answered ++ .asked 1 1 twoSteps 2 :: [])) := rfl
  have later : history {} resumed = ([.opened 1 twoSteps, .asked 0 1 twoSteps 1] ++ failed) ++
      .asked 1 1 twoSteps 1 :: (answered ++ .asked 1 1 twoSteps 2 :: []) := rfl
  have quiet : ∀ m d l, .asked m 1 d l ∉ failed := by simp [failed]
  have quiet' : ∀ m d l, .asked m 1 d l ∉ answered := by simp [answered]
  obtain ⟨-, -, -, -, shown, -⟩ := requests _ _ _ _ _ _ told
  have repeated := (next _ _ _ _ _ _ _ _ _ _ told quiet).2
  have advanced := (next _ _ _ _ _ _ _ _ _ _ later quiet').2
  refine ⟨⟨told, quiet, quiet'⟩, ⟨shown, ?_, ?_⟩, ⟨_, rfl, rfl, (waits 1 _ _ _ rfl rfl).1⟩,
    ⟨rfl, (refuses (.begin .step) _ rfl).1⟩, ⟨_, rfl, rfl, ?_⟩⟩
  · rcases repeated with ⟨-, more⟩ | ⟨none, -⟩
    · cases more
    · exact none
  · rcases advanced with ⟨committed, -⟩ | ⟨-, same⟩
    · exact committed
    · cases same
  · exact (request_log paused).2.2.2.2 0 _ _ 1 rfl rfl rfl [.finish 0, .begin .run]

end Debugger

end QuantumWorkbench
