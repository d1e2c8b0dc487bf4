import QuantumWorkbench.Proofs.Debugger.Custody

/-!
# The count of committed steps

A run of steps reports how many steps it committed. The count is kept in a word and goes up with each
advance; here it is tied to the history, and shown to stay below the cursor, so that it never wraps.

## Contents
- `Debugger.committed`: how many successful answers of a call were committed.
- `Debugger.Tally`: the invariant, and `Debugger.tally_run`: it holds after every run.
-/

namespace QuantumWorkbench

namespace Debugger

/-- A successful answer of the call was committed. -/
def Entry.commits (n : Nat) : Entry → Bool
  | .settled call _ _ (.ok _) => call == n
  | .settled _ _ _ (.error _) | .opened .. | .stopped .. | .asked .. | .lost .. => false

/-- The number of successful answers of a call that were committed. -/
def committed (n : Nat) (h : List Entry) : Nat := h.countP (Entry.commits n)

variable {s s' : Debugger} {h more : List Entry}

theorem committed_append (n : Nat) (h more : List Entry) :
    committed n (h ++ more) = committed n h + committed n more := List.countP_append

/-- **Runs of steps count what they commit.** -/
structure Tally (s : Debugger) (h : List Entry) : Prop where
  taken : ∀ {n c}, s.call? n = some c → c.kind = .run → c.taken.toNat = committed n h
  bounded : ∀ {n c σ}, s.call? n = some c → s.controller.session? = some σ →
    σ.generation = c.generation → c.taken ≤ σ.cursor
  /-- A call that is yet to begin has committed nothing. -/
  unborn : ∀ {n}, s.nextCall ≤ n → committed n h = 0

namespace Tally

theorem init : Tally {} [] where
  taken := nofun
  bounded := nofun
  unborn := fun _ => rfl

/-- Replacing a call by one that took as many steps, next to a session that did not move. -/
theorem of_quiet (ht : Tally s h)
    (session : s'.controller.session?.map (fun σ => (σ.generation, σ.cursor)) =
      s.controller.session?.map (fun σ => (σ.generation, σ.cursor)))
    (calls : ∀ {n c'}, s'.call? n = some c' → ∃ c, s.call? n = some c ∧
      (c.kind, c.generation, c.taken) = (c'.kind, c'.generation, c'.taken))
    (nextCall : s.nextCall ≤ s'.nextCall)
    (quiet : ∀ n, committed n more = 0) : Tally s' (h ++ more) where
  taken := fun {n c'} found' run => by
    obtain ⟨c, found, same⟩ := calls found'
    injection same with sameKind same
    injection same with _ sameTaken
    rw [committed_append, quiet, Nat.add_zero, ← sameTaken]
    exact ht.taken found (sameKind.trans run)
  bounded := fun {n c' σ'} found' running' own' => by
    obtain ⟨c, found, same⟩ := calls found'
    injection same with _ same
    injection same with sameGeneration sameTaken
    obtain ⟨σ, running, same⟩ := Controller.exists_session_of_map session running'
    injection same with sameSession sameCursor
    rw [← sameTaken, ← sameCursor]
    exact ht.bounded found running (by rw [sameSession, own', sameGeneration])
  unborn := fun {n} later => by
    rw [committed_append, quiet, Nat.add_zero]
    exact ht.unborn (Nat.le_trans nextCall later)

/-- A committed step is counted once, by its call and by its session. -/
theorem advance (hc : Custody s h) (hi : InStep s) (ht : Tally s h) {n : Nat} {c : Call} {circuit : Circuit}
    {cursor : Index} {σ : Session} {e : Evaluation} (found : s.call? n = some c)
    (waiting : c.stage = .awaiting circuit cursor)
    (current : s.controller.current? c.generation = some σ) :
    Tally ({ s with controller := s.controller.withSession (σ.advance (cursor + 1) e) }.withCall n
        (c.advanced (cursor + 1)))
      (h ++ [.settled n c.generation (cursor + 1) (.ok e)]) := by
  obtain ⟨running, own⟩ := Controller.current?_eq_some_iff.mp current
  obtain ⟨-, rfl, within⟩ := hi.waiting running ⟨c, found, own.symm, waiting⟩
  -- The count is at most the cursor, and the cursor is short of the end: neither addition wraps.
  have moved := Index.toNat_succ within
  have low := UInt32.le_iff_toNat_le.mp (ht.bounded found running own)
  have below : c.taken < σ.circuit.stepCount :=
    UInt32.lt_iff_toNat_lt.mpr (Nat.lt_of_le_of_lt low (UInt32.lt_iff_toNat_lt.mp within))
  have counted := Index.toNat_succ below
  have tally : ∀ m, committed m (h ++ [.settled n c.generation (σ.cursor + 1) (.ok e)]) =
      committed m h + if n = m then 1 else 0 := by
    intro m
    rw [committed_append]
    by_cases hm : n = m <;> simp [committed, Entry.commits, hm]
  refine ⟨?_, ?_, ?_⟩
  · intro m c' found' run
    rw [call?_withCall] at found'
    rw [tally]
    by_cases hm : m = n
    · subst hm
      rw [if_pos rfl] at found'
      obtain ⟨-, -, rfl⟩ := Option.map_eq_some_iff.mp found'
      rw [Call.advanced_kind] at run
      rw [if_pos rfl, ← ht.taken found run, ← counted]
      unfold Call.advanced
      rw [run]
    · rw [if_neg hm] at found'
      rw [if_neg (Ne.symm hm)]
      exact ht.taken found' run
  · rintro m c' _ found' ⟨⟩ own'
    rw [call?_withCall] at found'
    show c'.taken ≤ σ.cursor + 1
    rw [UInt32.le_iff_toNat_le, moved]
    by_cases hm : m = n
    · rw [if_pos hm] at found'
      obtain ⟨-, -, rfl⟩ := Option.map_eq_some_iff.mp found'
      unfold Call.advanced
      cases c.kind with
      | step => exact Nat.le_succ_of_le low
      | run => exact counted ▸ Nat.succ_le_succ low
    · rw [if_neg hm] at found'
      exact Nat.le_succ_of_le (UInt32.le_iff_toNat_le.mp (ht.bounded found' running own'))
  · intro m later
    have old : n < s.nextCall :=
      hc.numbered (call?_isSome_iff_mem_keys.mp (Option.isSome_of_eq_some found))
    have later : s.nextCall ≤ m := later
    rw [tally, if_neg (by omega)]
    exact ht.unborn later

/-- **Every rule keeps the tally.** -/
theorem step {event : Event} {reply : Reply} (hc : Custody s h) (hi : InStep s) (ht : Tally s h)
    (hs : Step s event reply more s') : Tally s' (h ++ more) := by
  cases hs with
  | refused | ignored | stoppedIdle => rwa [List.append_nil]
  | @opened circuit valid =>
      refine ⟨?_, ?_, ?_⟩
      · intro n c found run
        rw [committed_append]
        exact ht.taken found run
      · -- No call holds a session that is only now opened.
        rintro n c _ found ⟨⟩ own
        have low := hc.known (guard?_of_call? found)
        exact absurd (own ▸ low) (Nat.not_succ_le_self _)
      · intro n later
        rw [committed_append]
        exact ht.unborn later
  | toggled running =>
      refine ht.of_quiet ?_ (fun found => ⟨_, found, rfl⟩) (Nat.le_refl _) (fun _ => rfl)
      rw [running]
      rfl
  | stopped =>
      refine ⟨?_, nofun, ?_⟩
      · intro n c found run
        rw [committed_append]
        exact ht.taken found run
      · intro n later
        rw [committed_append]
        exact ht.unborn later
  | @begun kind σ running free =>
      rw [List.append_nil]
      refine ⟨?_, ?_, ?_⟩
      · intro n c found run
        rw [call?_joined _ _ hc.fresh] at found
        split at found
        · cases found
          exact (ht.unborn (Nat.le_of_eq ‹n = s.nextCall›.symm)).symm
        · exact ht.taken found run
      · rintro n c _ found ⟨⟩ own
        rw [call?_joined _ _ hc.fresh] at found
        split at found
        · cases found
          exact UInt32.zero_le
        · have low : c.taken ≤ σ.cursor := ht.bounded found running own
          exact low
      · exact fun later => ht.unborn (Nat.le_of_succ_le later)
  | asked found | halted found | abandoned found | lost found =>
      exact ht.of_quiet rfl (exists_call?_of_withCall _ found fun _ => rfl) (Nat.le_refl _) (fun _ => rfl)
  | advanced found waiting current => exact advance hc hi ht found waiting current
  | failed found waiting current =>
      obtain ⟨running, -⟩ := Controller.current?_eq_some_iff.mp current
      refine ht.of_quiet ?_ (exists_call?_of_withCall _ found fun _ => rfl) (Nat.le_refl _) (fun _ => rfl)
      rw [running]
      rfl
  | finished | dropped =>
      exact ht.of_quiet (released_keeps _ _ _ fun _ => rfl)
        (fun found' => ⟨_, (call?_of_released found').2, rfl⟩) (Nat.le_refl _) (fun _ => rfl)

end Tally

/-- **The count is the count.** Every run of steps reports how many of its steps were committed. -/
theorem tally_run (events : List Event) : Tally (run {} events) (history {} events) :=
  (run_induction (P := fun s h => Custody s h ∧ InStep s ∧ Tally s h)
    ⟨Custody.init, InStep.init, Tally.init⟩
    (fun ⟨hc, hi, ht⟩ hs => ⟨hc.step hs, InStep.step hc hi hs, Tally.step hc hi ht hs⟩)
    events).2.2

end Debugger

end QuantumWorkbench
