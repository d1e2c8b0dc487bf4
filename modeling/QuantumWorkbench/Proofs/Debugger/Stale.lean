import QuantumWorkbench.Proofs.Debugger.Tally

/-!
# Calls whose sessions are gone

When a session is stopped or replaced, a call that holds it goes on: it may still get its answer, decide
and give back what it holds. This module compares such a run with the run in which the call is dropped
there and then, and finds no difference.

## Contents
- `Debugger.others`: the events without those of one call, and `Debugger.transcript`: what is replied
  and shown during a run.
- `Debugger.step_without`: what is not an event of a call goes the same way without the call.
- `Debugger.Stale`: the invariant of a call whose session is gone, with what it is going to report.
- `Debugger.step_stale`: what such a call does changes nothing but the call.
- `Debugger.stale_unobservable`: the comparison, over whole runs.
-/

namespace QuantumWorkbench

/-- What a call reports when it finds its session gone: the outcome that it already had, if any. -/
def Call.farewell (c : Call) : Outcome :=
  match c.stage with
  | .finishing outcome => outcome
  | .deciding | .awaiting .. => c.stopped .discarded

namespace Call

variable {c : Call} {outcome : Outcome}

theorem farewell_of_finishing (finishing : c.stage = .finishing outcome) :
    c.farewell = outcome := by
  rw [farewell, finishing]

theorem farewell_of_pending (pending : ∀ outcome, c.stage ≠ .finishing outcome) :
    c.farewell = c.stopped .discarded := by
  unfold farewell
  cases stage : c.stage with
  | deciding => rfl
  | awaiting => rfl
  | finishing outcome => exact absurd stage (pending outcome)

end Call

namespace Debugger

/-! ## Runs without a call -/

/-- The event is one of a given call. -/
def Event.concerns (n : Nat) : Event → Bool
  | .decide m | .answer m _ | .finish m | .drop m => m == n
  | .start _ | .toggleBreakpoint _ | .stop | .begin _ => false

/-- The events that are not those of a given call. -/
def others (n : Nat) (events : List Event) : List Event :=
  events.filter fun event => !event.concerns n

/-- What is to be seen of a run: each event with its reply, and the controller behind it. -/
def transcript (s : Debugger) : List Event → List (Event × Reply × Controller)
  | [] => []
  | event :: rest =>
    (event, (s.step event).1, (s.step event).2.controller) :: (s.step event).2.transcript rest

variable {s s' : Debugger} {h more : List Entry} {n : Nat}

theorem others_cons_of_concerns {event : Event} (own : event.concerns n = true)
    (rest : List Event) : others n (event :: rest) = others n rest :=
  List.filter_cons_of_neg (by simp [own])

theorem others_cons_of_not_concerns {event : Event} (other : event.concerns n = false)
    (rest : List Event) : others n (event :: rest) = event :: others n rest :=
  List.filter_cons_of_pos (by simp [other])

theorem without_without (s : Debugger) (n m : Nat) :
    (s.without m).without n = (s.without n).without m := by
  simp only [without, List.filter_filter, Bool.and_comm]

theorem without_withCall (s : Debugger) (n m : Nat) (c : Call) :
    (s.withCall m c).without n = (s.without n).withCall m c := by
  simp only [without, withCall, List.filter_map]
  congr 2
  apply List.filter_congr
  rintro ⟨i, d⟩ -
  by_cases hi : i = m <;> simp [hi]

/-- Taken out, a call does not tell what it was replaced by. -/
theorem without_withCall_self (s : Debugger) (n : Nat) (c : Call) :
    (s.withCall n c).without n = s.without n := by
  rw [without_withCall]
  unfold withCall without
  congr 1
  refine (List.map_congr_left fun entry member => ?_).trans (List.map_id _)
  obtain ⟨i, d⟩ := entry
  have other : i ≠ n := by simpa using (List.mem_filter.mp member).2
  exact if_neg other

theorem without_self (s : Debugger) (n : Nat) : (s.without n).without n = s.without n := by
  simp [without]

/-- The controller does not look at calls. -/
theorem respond_without {α : Type} (s : Debugger) (n : Nat) (reply : α → Reply)
    (result : Except DebugError (α × Controller)) :
    (s.without n).respond reply result =
      ((s.respond reply result).1, (s.respond reply result).2.without n) := by
  cases result with
  | error error => rfl
  | ok result => rfl

/-- A call goes the same way without another call, if its section does. -/
theorem onCall_without {m : Nat} (other : m ≠ n) {act act' : Call → Reply × Debugger}
    (same : ∀ c, act' c = ((act c).1, (act c).2.without n)) :
    (s.without n).onCall m act' = ((s.onCall m act).1, (s.onCall m act).2.without n) := by
  unfold onCall
  rw [call?_without, if_neg other]
  cases s.call? m with
  | none => rfl
  | some c => exact same c

theorem beginCall_without (old : n < s.nextCall) (kind : CallKind) :
    (s.without n).beginCall kind = ((s.beginCall kind).1, (s.beginCall kind).2.without n) := by
  unfold beginCall
  rw [without_controller]
  cases Call.begin kind s.controller with
  | error error => rfl
  | ok begun =>
      have later : s.nextCall ≠ n := Nat.ne_of_gt old
      simp [without, later]

/-- **Without the call.** What is not an event of a call goes the same way without the call. -/
theorem step_without (old : n < s.nextCall) {event : Event} (other : event.concerns n = false) :
    (s.without n).step event = ((s.step event).1, (s.step event).2.without n) := by
  cases event with
  | start circuit => exact respond_without ..
  | toggleBreakpoint i => exact respond_without ..
  | stop => rfl
  | begin kind => exact beginCall_without old kind
  | decide m =>
      refine onCall_without (ne_of_beq_false other) fun c => ?_
      rcases c.stage with _ | _ | _
      · exact congrArg _ (without_withCall ..).symm
      · rfl
      · rfl
  | answer m answer =>
      refine onCall_without (ne_of_beq_false other) fun c => ?_
      rcases c.stage with _ | _ | _
      · rfl
      · exact congrArg (Prod.mk Reply.went)
          (without_withCall { s with controller := _ } n m _).symm
      · rfl
  | finish m =>
      refine onCall_without (ne_of_beq_false other) fun c => ?_
      rcases c.stage with _ | _ | _
      · rfl
      · rfl
      · exact congrArg (Prod.mk _)
          (without_without { s with controller := c.finish s.controller } n m).symm
  | drop m =>
      refine onCall_without (ne_of_beq_false other) fun c => ?_
      exact congrArg (Prod.mk Reply.dropped)
        (without_without { s with controller := c.finish s.controller } n m).symm

/-! ## Calls whose sessions are gone -/

/-- A session that is gone does not come back. -/
theorem gone_of_step {event : Event} {reply : Reply} (hs : Step s event reply more s') {g : Nat}
    (old : g ≤ s.controller.generation) (gone : s.controller.current? g = none) :
    g ≤ s'.controller.generation ∧ s'.controller.current? g = none := by
  rw [Controller.current?_eq_none_iff] at gone ⊢
  cases hs with
  | refused | ignored | stoppedIdle | asked | halted | abandoned | lost => exact ⟨old, gone⟩
  | opened =>
      refine ⟨Nat.le_succ_of_le old, ?_⟩
      rintro _ ⟨⟩
      exact Nat.ne_of_gt (Nat.lt_succ_of_le old)
  | stopped =>
      refine ⟨old, ?_⟩
      rintro _ ⟨⟩
  | @toggled _ σ running | @begun _ σ running =>
      have other : σ.generation ≠ g := gone σ running
      refine ⟨old, ?_⟩
      rintro _ ⟨⟩
      exact other
  | @advanced _ _ _ _ σ _ _ _ current | @failed _ _ _ _ σ _ _ _ current =>
      have other : σ.generation ≠ g := gone σ (Controller.current?_eq_some_iff.mp current).1
      refine ⟨old, ?_⟩
      rintro _ ⟨⟩
      exact other
  | @finished m c | @dropped m c =>
      have kept : (s.released m c).controller.session?.map Session.generation =
          s.controller.session?.map Session.generation := released_keeps s m c fun _ => rfl
      refine ⟨?_, ?_⟩
      · rw [released, without_controller, Controller.release_generation]
        exact old
      · intro σ' after
        obtain ⟨σ, running, same⟩ := Controller.exists_session_of_map kept after
        rw [← same]
        exact gone σ running

/-- **The session of the call is gone.** If the call is still under way, all that it is ever going to
report is `outcome`. -/
structure Stale (s : Debugger) (n : Nat) (outcome : Outcome) : Prop where
  begun : n < s.nextCall
  gone : ∀ {c}, s.call? n = some c →
    c.generation ≤ s.controller.generation ∧ s.controller.current? c.generation = none
  farewell : ∀ {c}, s.call? n = some c → c.farewell = outcome

/-- What a call does whose session is gone changes nothing but the call. -/
theorem step_stale {outcome : Outcome} (hg : Stale s n outcome) {event : Event}
    (own : event.concerns n = true) :
    (s.step event).2.controller = s.controller ∧ (s.step event).2.without n = s.without n := by
  have hs := step_spec s event
  generalize (s.step event).1 = reply, s.entries event = more, (s.step event).2 = s' at hs ⊢
  -- The rules that touch a session need one, and the call has none.
  have gone : ∀ {m c σ}, m = n → s.call? m = some c →
      s.controller.current? c.generation ≠ some σ := by
    rintro m c σ rfl found current
    rw [(hg.gone found).2] at current
    cases current
  cases hs with
  | refused | ignored | stoppedIdle => exact ⟨rfl, rfl⟩
  | opened | stopped | toggled | begun => cases own
  | asked found _ current | halted found _ current | advanced found _ current
  | failed found _ current => exact absurd current (gone (beq_iff_eq.mp own) found)
  | abandoned | lost =>
      cases beq_iff_eq.mp own
      exact ⟨rfl, without_withCall_self s n _⟩
  | finished found | dropped found =>
      cases beq_iff_eq.mp own
      rw [released, Controller.release_gone (hg.gone found).2]
      exact ⟨rfl, without_self s n⟩

namespace Stale

variable {outcome : Outcome}

/-- The call is as it was, or it is out. -/
theorem of_calls (hg : Stale s n outcome)
    (forgets : ∀ {g}, g ≤ s.controller.generation → s.controller.current? g = none →
      g ≤ s'.controller.generation ∧ s'.controller.current? g = none)
    (nextCall : s.nextCall ≤ s'.nextCall)
    (calls : ∀ {c'}, s'.call? n = some c' → ∃ c, s.call? n = some c ∧
      (c.generation, c.farewell) = (c'.generation, c'.farewell)) : Stale s' n outcome where
  begun := Nat.lt_of_lt_of_le hg.begun nextCall
  gone := fun found' => by
    obtain ⟨c, found, same⟩ := calls found'
    injection same with sameGeneration
    obtain ⟨old, gone⟩ := hg.gone found
    rw [← sameGeneration]
    exact forgets old gone
  farewell := fun found' => by
    obtain ⟨c, found, same⟩ := calls found'
    injection same with _ sameFarewell
    rw [← sameFarewell]
    exact hg.farewell found

/-- **Every rule keeps the call from saying anything else.** -/
theorem step (hc : Custody s h) (hg : Stale s n outcome) {event : Event} {reply : Reply}
    (hs : Step s event reply more s') : Stale s' n outcome := by
  have forgets : ∀ {g}, g ≤ s.controller.generation → s.controller.current? g = none →
      g ≤ s'.controller.generation ∧ s'.controller.current? g = none :=
    fun old gone => gone_of_step hs old gone
  have other : ∀ {m c σ}, s.call? m = some c → s.controller.current? c.generation = some σ →
      n ≠ m := by
    rintro m c σ found current rfl
    rw [(hg.gone found).2] at current
    cases current
  cases hs with
  | refused | ignored | stoppedIdle | opened | stopped | toggled =>
      exact hg.of_calls forgets (Nat.le_refl _) fun found => ⟨_, found, rfl⟩
  | begun running free =>
      refine hg.of_calls forgets (Nat.le_succ _) fun found => ?_
      rw [call?_joined _ _ hc.fresh, if_neg (Nat.ne_of_lt hg.begun)] at found
      exact ⟨_, found, rfl⟩
  | asked found _ current | halted found _ current | advanced found _ current
  | failed found _ current =>
      exact hg.of_calls forgets (Nat.le_refl _)
        (exists_call?_of_withCall _ found fun own => absurd own (other found current))
  | abandoned found stage | lost found stage =>
      refine hg.of_calls forgets (Nat.le_refl _) (exists_call?_of_withCall _ found fun _ => ?_)
      rw [Call.farewell, stage]
      rfl
  | finished | dropped =>
      exact hg.of_calls forgets (Nat.le_refl _) fun found' =>
        ⟨_, (call?_of_released found').2, rfl⟩

end Stale

/-! ## Whole runs -/

variable {outcome : Outcome}

/-- The run with the call, seen without the call, is the run without the call. -/
theorem run_without (hc : Custody s h) (hg : Stale s n outcome) (events : List Event) :
    (s.run events).without n = (s.without n).run (others n events) := by
  induction events generalizing s h with
  | nil => rfl
  | cons event rest ih =>
      have next := step_spec s event
      have rest' := ih (hc.step next) (Stale.step hc hg next)
      -- An event of the call is a step in one of the runs only. Any other is the same step in both.
      cases own : event.concerns n with
      | true =>
          rw [others_cons_of_concerns own, ← (step_stale hg own).2]
          exact rest'
      | false =>
          rw [others_cons_of_not_concerns own]
          show _ = (((s.without n).step event).2).run (others n rest)
          rw [step_without hg.begun own]
          exact rest'

/-- What the others get to see is the same. -/
theorem transcript_without (hc : Custody s h) (hg : Stale s n outcome) (events : List Event) :
    (s.transcript events).filter (fun seen => !seen.1.concerns n) =
      (s.without n).transcript (others n events) := by
  induction events generalizing s h with
  | nil => rfl
  | cons event rest ih =>
      have next := step_spec s event
      have rest' := ih (hc.step next) (Stale.step hc hg next)
      cases own : event.concerns n with
      | true =>
          rw [transcript, List.filter_cons_of_neg (by simp [own]), others_cons_of_concerns own,
            ← (step_stale hg own).2]
          exact rest'
      | false =>
          rw [transcript, List.filter_cons_of_pos (by simp [own]),
            others_cons_of_not_concerns own, transcript, step_without hg.begun own, rest']
          rfl

theorem stale_run (hc : Custody s h) (hg : Stale s n outcome) (events : List Event) :
    Stale (s.run events) n outcome :=
  (run_induction_from (P := fun s h => Custody s h ∧ Stale s n outcome)
    (fun ⟨hc, hg⟩ hs => ⟨hc.step hs, Stale.step hc hg hs⟩) events s h ⟨hc, hg⟩).2

/-- A call that returns behind its session reports what there was to report. -/
theorem farewell_of_finished (hg : Stale s n outcome) {told : Outcome}
    (finished : (s.step (.finish n)).1 = .finished told) : told = outcome := by
  have hs := step_spec s (.finish n)
  rw [finished] at hs
  generalize s.entries (.finish n) = more, (s.step (.finish n)).2 = s' at hs
  cases hs with
  | finished found finishing => rw [← hg.farewell found, Call.farewell_of_finishing finishing]

/-- The event stops the session that is running, or replaces it. -/
def Ends : Event → Prop
  | .stop => True
  | .start circuit => circuit.validate = .ok ()
  | .toggleBreakpoint _ | .begin _ | .decide _ | .answer .. | .finish _ | .drop _ => False

/-- Behind the end of its session, a call is stale. -/
theorem stale_of_ends (hc : Custody s h) {c : Call} {event : Event} (pending : s.call? n = some c)
    (ends : Ends event) : Stale (s.step event).2 n c.farewell := by
  have hs := step_spec s event
  generalize (s.step event).1 = reply, s.entries event = more, (s.step event).2 = s' at hs ⊢
  have begun : n < s.nextCall :=
    hc.numbered (call?_isSome_iff_mem_keys.mp (Option.isSome_of_eq_some pending))
  have low : ∀ {c'}, s.call? n = some c' → c'.generation ≤ s.controller.generation :=
    fun found => hc.known (guard?_of_call? found)
  have farewell : ∀ {c'}, s.call? n = some c' → c'.farewell = c.farewell := by
    intro c' found
    cases pending.symm.trans found
    rfl
  cases hs with
  | opened valid =>
      refine ⟨begun, fun found => ⟨Nat.le_succ_of_le (low found), ?_⟩, farewell⟩
      rw [Controller.current?_eq_none_iff]
      rintro _ ⟨⟩
      exact Nat.ne_of_gt (Nat.lt_succ_of_le (low found))
  | stopped running => exact ⟨begun, fun found => ⟨low found, rfl⟩, farewell⟩
  | stoppedIdle idle =>
      refine ⟨begun, fun found => ⟨low found, ?_⟩, farewell⟩
      rw [Controller.current?, idle]
      rfl
  | refused refuses =>
      cases refuses with
      | invalid invalid => cases invalid.symm.trans ends
      | _ => exact ends.elim
  | ignored ignores =>
      cases event with
      | start | stop => exact ignores.elim
      | _ => exact ends.elim
  | _ => exact ends.elim

/-- A call that is dropped behind its session is taken out and nothing else. -/
theorem drop_stale (hg : Stale s n outcome) {c : Call} (pending : s.call? n = some c) :
    (s.step (.drop n)).2 = s.without n := by
  simp only [Debugger.step, dropCall, onCall, pending, Call.finish]
  rw [Controller.release_gone (hg.gone pending).2]

theorem call?_of_ends {c : Call} {event : Event} (pending : s.call? n = some c)
    (ends : Ends event) : (s.step event).2.call? n = some c := by
  cases event with
  | stop => exact pending
  | start circuit =>
      rw [step, Controller.start_ok ends]
      exact pending
  | _ => exact ends.elim

/-! ## The comparison -/

/-- **Stale answers cannot be observed.** Let a session end, by a stop or by a start, while a call is
pending, and compare going on from there with dropping the call at that moment. Whatever the call and
its evaluator do afterwards:
* the runs differ in nothing but the call, and at every later event that is not one of the call, the
  replies and the controllers are the same;
* what the call does leaves the controller as it is, publications included;
* if the call returns, it reports the outcome that it already had, and without one that its session was
  discarded, with the number of the steps that it committed before that moment. -/
theorem stale_unobservable (before after : List Event) (event : Event) {n : Nat} {c : Call}
    (pending : (run {} before).call? n = some c) (ends : Ends event) :
    let kept := ((run {} before).step event).2
    let dropped := (kept.step (.drop n)).2
    (kept.run after).without n = dropped.run (others n after) ∧
    (kept.transcript after).filter (fun seen => !seen.1.concerns n) =
      dropped.transcript (others n after) ∧
    (∀ event, event.concerns n = true →
      ((kept.run after).step event).2.controller = (kept.run after).controller) ∧
    ∀ outcome, ((kept.run after).step (.finish n)).1 = .finished outcome →
      c.stage = .finishing outcome ∨
      (∀ early, c.stage ≠ .finishing early) ∧
        (c.kind = .step → outcome = .step .discarded) ∧
        (c.kind = .run → ∃ taken, outcome = .run taken .discarded ∧
          taken.toNat = committed n (history {} before)) := by
  intro kept dropped
  have hc := custody_run before
  have hc' : Custody kept _ := hc.step (step_spec _ event)
  have hg : Stale kept n c.farewell := stale_of_ends hc pending ends
  have same : dropped = kept.without n := drop_stale hg (call?_of_ends pending ends)
  refine ⟨?_, ?_, ?_, ?_⟩
  · rw [same]
    exact run_without hc' hg after
  · rw [same]
    exact transcript_without hc' hg after
  · intro event own
    exact (step_stale (stale_run hc' hg after) own).1
  · intro outcome finished
    have told := farewell_of_finished (stale_run hc' hg after) finished
    by_cases early : ∃ early, c.stage = .finishing early
    · obtain ⟨early, finishing⟩ := early
      rw [told, Call.farewell_of_finishing finishing]
      exact .inl finishing
    · have unfinished : ∀ early, c.stage ≠ .finishing early := not_exists.mp early
      rw [told, Call.farewell_of_pending unfinished]
      refine .inr ⟨unfinished, Call.discarded_of_step, fun run => ?_⟩
      exact ⟨c.taken, Call.stopped_of_run run _, (tally_run before).taken pending run⟩

/-- The run of steps of `halfway` committed one step, when its session is replaced. The new session
goes its way and is busy, while the old call is answered; and the old call reports that one step. -/
theorem stale_unobservable_halfway :
    let kept := ((run {} halfway).step (.start twoSteps)).2
    let dropped := (kept.step (.drop 0)).2
    let after := [.begin .step, .decide 1, .answer 0 (.ok (.initial 1))]
    (kept.run after).without 0 = dropped.run [.begin .step, .decide 1] ∧
    ((kept.run after).step (.finish 0)).1 = .finished (.run 1 .discarded) ∧
    ∃ taken, Outcome.run 1 .discarded = .run taken .discarded ∧
      taken.toNat = committed 0 (history {} halfway) := by
  intro kept dropped after
  obtain ⟨same, -, -, told⟩ :=
    stale_unobservable halfway after (.start twoSteps) (n := 0) rfl rfl
  refine ⟨same, rfl, ?_⟩
  rcases told (.run 1 .discarded) rfl with early | ⟨-, -, run⟩
  · cases early
  · exact run rfl

end Debugger

end QuantumWorkbench
