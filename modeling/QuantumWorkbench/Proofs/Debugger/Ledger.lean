import QuantumWorkbench.Proofs.Debugger.Provenance

/-!
# The order of questions

What a session asks is put down in its history together with the answers that are committed to it. Each entry
of a history is justified by the entries before it: a question is about one step more than were committed so
far, and a committed answer is the answer to the last question.

## Contents
- `Debugger.Sound`: what an entry owes to those before it, and `Debugger.Recorded`, a history of sound entries.
- `Debugger.Ledger`: the invariant, and `Debugger.ledger_run`: it holds after every run.
- `Debugger.settled_of_last`: what is committed behind a question is the answer to it, and is committed once.
- `Debugger.first_limit`, `Debugger.next_limit`: the first question of a session, and how each one follows
  from the one before.
- `Debugger.exists_success_before`: what was committed before an answer about several steps.
-/

namespace QuantumWorkbench

namespace Debugger

variable {s s' : Debugger} {h more : List Entry}

/-! ## Successes and silence -/

/-- A successful answer was committed to the session. -/
def Entry.succeeds (g : Nat) : Entry → Bool
  | .settled _ session _ (.ok _) => session == g
  | .settled _ _ _ (.error _) | .opened .. | .stopped .. | .asked .. | .lost .. => false

theorem Entry.succeeds_iff {g : Nat} {entry : Entry} :
    entry.succeeds g = true ↔ ∃ n limit e, entry = .settled n g limit (.ok e) := by
  constructor
  · intro succeeded
    cases entry with
    | settled n session limit answer =>
        cases answer with
        | ok e =>
            have same : session = g := by simpa [succeeds] using succeeded
            exact ⟨n, limit, e, same ▸ rfl⟩
        | error => cases succeeded
    | _ => cases succeeded
  · rintro ⟨n, limit, e, rfl⟩
    simp [succeeds]

/-- The number of successful answers that were committed to a session. -/
def successes (g : Nat) (h : List Entry) : Nat := h.countP (Entry.succeeds g)

theorem successes_append (g : Nat) (h more : List Entry) :
    successes g (h ++ more) = successes g h + successes g more := List.countP_append

theorem successes_eq_zero_iff {g : Nat} :
    successes g h = 0 ↔ ∀ n limit e, .settled n g limit (.ok e) ∉ h := by
  rw [successes, List.countP_eq_zero]
  constructor
  · intro none n limit e member
    exact none _ member (Entry.succeeds_iff.mpr ⟨n, limit, e, rfl⟩)
  · intro none entry member succeeded
    obtain ⟨n, limit, e, rfl⟩ := Entry.succeeds_iff.mp succeeded
    exact none n limit e member

@[simp] theorem successes_asked (g n session : Nat) (circuit : Circuit) (limit : Index) (h : List Entry) :
    successes g (.asked n session circuit limit :: h) = successes g h := List.countP_cons_of_neg nofun

@[simp] theorem successes_success (g n : Nat) (limit : Index) (e : Evaluation) (h : List Entry) :
    successes g (.settled n g limit (.ok e) :: h) = successes g h + 1 :=
  List.countP_cons_of_pos (Entry.succeeds_iff.mpr ⟨n, limit, e, rfl⟩)

/-- The session asks nothing, and nothing is committed to it. -/
structure Silent (g : Nat) (h : List Entry) : Prop where
  asked : ∀ n circuit limit, .asked n g circuit limit ∉ h
  settled : ∀ n limit answer, .settled n g limit answer ∉ h

theorem Silent.nil (g : Nat) : Silent g [] := ⟨nofun, nofun⟩

theorem Silent.append {g : Nat} (first : Silent g h) (second : Silent g more) : Silent g (h ++ more) where
  asked := fun n circuit limit member =>
    (List.mem_append.mp member).elim (first.asked n circuit limit) (second.asked n circuit limit)
  settled := fun n limit answer member =>
    (List.mem_append.mp member).elim (first.settled n limit answer) (second.settled n limit answer)

theorem Silent.successes {g : Nat} (quiet : Silent g h) : successes g h = 0 :=
  successes_eq_zero_iff.mpr fun n limit e => quiet.settled n limit (.ok e)

/-! ## Sound entries -/

/-- **What an entry owes to those before it.** Sessions are opened on valid circuits. A question is about one
step more than were committed to its session, and about no more steps than there are. An answer is committed
to a session that has asked for it last, and has heard nothing since. -/
def Sound (before : List Entry) : Entry → Prop
  | .opened _ circuit => circuit.validate = .ok ()
  | .asked _ g circuit limit =>
    .opened g circuit ∈ before ∧ limit ≤ circuit.stepCount ∧ limit.toNat = successes g before + 1
  | .settled n g limit _ => ∃ earlier circuit later,
    before = earlier ++ .asked n g circuit limit :: later ∧ Silent g later
  | .stopped .. | .lost .. => True

/-- Every entry of the history is sound. -/
def Recorded (h : List Entry) : Prop :=
  ∀ before entry after, h = before ++ entry :: after → Sound before entry

theorem Recorded.nil : Recorded [] := by
  intro before entry after split
  cases before <;> cases split

/-- One more entry at the end leaves those before it as they are. -/
theorem Recorded.snoc {entry : Entry} (hr : Recorded h) (sound : Sound h entry) :
    Recorded (h ++ [entry]) := by
  intro before entry' after split
  rcases List.eq_nil_or_concat after with rfl | ⟨front, last, rfl⟩
  · obtain ⟨rfl, same⟩ := List.append_inj' split rfl
    cases same
    exact sound
  · rw [List.concat_eq_append, ← List.cons_append, ← List.append_assoc] at split
    exact hr before entry' front (List.append_inj' split rfl).1

theorem Recorded.valid {g : Nat} {circuit : Circuit} (hr : Recorded h) (opened : .opened g circuit ∈ h) :
    circuit.validate = .ok () := by
  obtain ⟨before, after, split⟩ := List.append_of_mem opened
  exact hr before _ after split

/-! ## The invariant -/

/-- **The history is sound, and the running session stands where its history has brought it.** -/
structure Ledger (s : Debugger) (h : List Entry) : Prop where
  recorded : Recorded h
  cursor : ∀ {σ}, s.controller.session? = some σ → σ.cursor.toNat = successes σ.generation h
  /-- A call that waits has asked the last question, and there is no answer to it so far. -/
  pending : ∀ {σ n circuit cursor}, s.controller.session? = some σ →
    s.Waits n σ.generation circuit cursor → ∃ before after,
      h = before ++ .asked n σ.generation circuit (cursor + 1) :: after ∧ Silent σ.generation after

namespace Ledger

theorem init : Ledger {} [] where
  recorded := .nil
  cursor := nofun
  pending := nofun

/-- Entries in which no session asks or hears anything, next to a session that does not move. -/
theorem of_quiet (hl : Ledger s h)
    (session : s'.controller.session?.map (fun σ => (σ.generation, σ.cursor)) =
      s.controller.session?.map (fun σ => (σ.generation, σ.cursor)))
    (waits : ∀ {n g circuit cursor}, s'.Waits n g circuit cursor → s.Waits n g circuit cursor)
    (quiet : ∀ g, Silent g more) (recorded : Recorded (h ++ more)) : Ledger s' (h ++ more) where
  recorded := recorded
  cursor := fun {σ'} running' => by
    obtain ⟨σ, running, same⟩ := Controller.exists_session_of_map session running'
    injection same with sameGeneration sameCursor
    rw [← sameGeneration, ← sameCursor, successes_append, (quiet _).successes]
    exact hl.cursor running
  pending := fun {σ' n circuit cursor} running' hw => by
    obtain ⟨σ, running, same⟩ := Controller.exists_session_of_map session running'
    injection same with sameGeneration _
    rw [← sameGeneration] at hw ⊢
    obtain ⟨before, after, split, silent⟩ := hl.pending running (waits hw)
    refine ⟨before, after ++ more, ?_, silent.append (quiet _)⟩
    rw [split, List.append_assoc, List.cons_append]

/-- A session starts with an empty page. -/
theorem start (hc : Custody s h) (ha : Account s h) (hl : Ledger s h) {circuit : Circuit}
    (valid : circuit.validate = .ok ()) :
    Ledger { s with controller := s.controller.opened circuit }
      (h ++ [.opened (s.controller.generation + 1) circuit]) := by
  refine ⟨hl.recorded.snoc valid, ?_, ?_⟩
  · rintro _ ⟨⟩
    have unheard : successes (s.controller.generation + 1) h = 0 :=
      successes_eq_zero_iff.mpr fun n limit e member => absurd (ha.early member) (Nat.not_succ_le_self _)
    show 0 = successes (s.controller.generation + 1) _
    rw [successes_append, unheard]
    rfl
  · rintro _ n circuit' cursor ⟨⟩ hw
    exact absurd (hc.known (Waits.guard? hw)) (Nat.not_succ_le_self _)

/-- **A question is about one step more than were committed.** -/
theorem ask (hc : Custody s h) (ha : Account s h) (hl : Ledger s h) {n : Nat} {c : Call} {σ : Session}
    (found : s.call? n = some c) (current : s.controller.current? c.generation = some σ)
    (within : σ.cursor < σ.circuit.stepCount) :
    Ledger (s.withCall n (c.awaiting σ.circuit σ.cursor))
      (h ++ [.asked n c.generation σ.circuit (σ.cursor + 1)]) := by
  obtain ⟨running, own⟩ := Controller.current?_eq_some_iff.mp current
  rw [← own]
  have limit : (σ.cursor + 1).toNat = successes σ.generation h + 1 := by
    rw [Index.toNat_succ within, hl.cursor running]
  refine ⟨hl.recorded.snoc ⟨(ha.session running).opened, Index.succ_le within, limit⟩, ?_, ?_⟩
  · intro σ' running'
    rw [successes_append]
    exact hl.cursor running'
  · intro σ' m circuit cursor running' hw
    cases running.symm.trans running'
    rcases waits_withCall found hw with ⟨rfl, -, stage⟩ | ⟨other, hw⟩
    · cases stage
      exact ⟨h, [], rfl, .nil _⟩
    · -- The session is held by the call that asks, so that no other call waits for it.
      have both : s.guard? m = some c.generation := own ▸ hw.guard?
      exact absurd (hc.single both (guard?_of_call? found)) other

/-- **A committed answer is the answer to the last question.** -/
theorem settle (hc : Custody s h) (hl : Ledger s h) {n : Nat} {c d : Call} {circuit : Circuit}
    {cursor : Index} {σ σ' : Session} {answer : Answer} (found : s.call? n = some c)
    (waiting : c.stage = .awaiting circuit cursor)
    (current : s.controller.current? c.generation = some σ)
    (quiet : ∀ circuit cursor, d.stage ≠ .awaiting circuit cursor) (same : σ'.generation = σ.generation)
    (moved : σ'.cursor.toNat =
      σ.cursor.toNat + successes σ.generation [.settled n σ.generation (cursor + 1) answer]) :
    Ledger ({ s with controller := s.controller.withSession σ' }.withCall n d)
      (h ++ [.settled n c.generation (cursor + 1) answer]) := by
  obtain ⟨running, own⟩ := Controller.current?_eq_some_iff.mp current
  have waits : s.Waits n σ.generation circuit cursor := ⟨c, found, own.symm, waiting⟩
  obtain ⟨before, after, split, silent⟩ := hl.pending running waits
  rw [← own]
  refine ⟨hl.recorded.snoc ⟨before, circuit, after, split, silent⟩, ?_, ?_⟩
  · rintro _ ⟨⟩
    rw [successes_append, same, moved, hl.cursor running]
  · rintro _ m circuit' cursor' ⟨⟩ hw
    obtain ⟨other, hw⟩ := waits_of_withCall (s := { s with controller := _ }) found quiet hw
    have both : s.guard? m = some c.generation := own ▸ same ▸ Waits.guard? hw
    exact absurd (hc.single both (guard?_of_call? found)) other

/-- **Every rule keeps the ledger.** -/
theorem step {event : Event} {reply : Reply} (hc : Custody s h) (hi : InStep s) (ha : Account s h)
    (hl : Ledger s h) (hs : Step s event reply more s') : Ledger s' (h ++ more) := by
  have unchanged : Recorded (h ++ []) := by
    rw [List.append_nil]
    exact hl.recorded
  cases hs with
  | refused | ignored | stoppedIdle => rwa [List.append_nil]
  | opened valid => exact hl.start hc ha valid
  | toggled running =>
      refine hl.of_quiet ?_ id Silent.nil unchanged
      rw [running]
      rfl
  | stopped => exact ⟨hl.recorded.snoc trivial, nofun, nofun⟩
  | begun running free =>
      refine hl.of_quiet ?_ (waits_of_joined hc.fresh rfl) Silent.nil unchanged
      rw [running]
      rfl
  | asked found deciding current within clear => exact hl.ask hc ha found current within
  | halted found | abandoned found =>
      exact hl.of_quiet rfl (fun hw => (waits_of_withCall found (Call.ended_stage_ne _ _) hw).2) Silent.nil
        unchanged
  | lost found =>
      refine hl.of_quiet rfl (fun hw => (waits_of_withCall found (Call.ended_stage_ne _ _) hw).2) ?_
        (hl.recorded.snoc trivial)
      intro g
      constructor <;> simp
  | @advanced n c circuit cursor σ e found waiting current =>
      obtain ⟨running, own⟩ := Controller.current?_eq_some_iff.mp current
      obtain ⟨-, rfl, within⟩ := hi.waiting running ⟨c, found, own.symm, waiting⟩
      refine hl.settle hc found waiting current (Call.advanced_stage_ne _ _) rfl ?_
      show (σ.cursor + 1).toNat = _
      rw [Index.toNat_succ within, successes_success]
      rfl
  | failed found waiting current =>
      exact hl.settle hc found waiting current (Call.ended_stage_ne _ _) rfl rfl
  | finished | dropped =>
      exact hl.of_quiet (released_keeps _ _ _ fun _ => rfl) waits_of_released Silent.nil unchanged

end Ledger

theorem ledger_run (events : List Event) : Ledger (run {} events) (history {} events) :=
  (run_induction (P := fun s h => Custody s h ∧ InStep s ∧ Account s h ∧ Ledger s h)
    ⟨Custody.init, InStep.init, Account.init, Ledger.init⟩
    (fun ⟨hc, hi, ha, hl⟩ hs =>
      ⟨hc.step hs, InStep.step hc hi hs, Account.step hc hi ha hs, Ledger.step hc hi ha hl hs⟩)
    events).2.2.2

/-! ## One question after the other -/

section
variable {g n : Nat} {circuit : Circuit} {limit : Index} {before between after : List Entry}

/-- **The first question** is about one step. -/
theorem first_limit (hr : Recorded h) (split : h = before ++ .asked n g circuit limit :: after)
    (first : ∀ m d l, .asked m g d l ∉ before) : limit = 1 := by
  have unheard : successes g before = 0 := by
    rw [successes_eq_zero_iff]
    intro m l e member
    obtain ⟨front, back, rfl⟩ := List.append_of_mem member
    rw [List.append_assoc] at split
    obtain ⟨earlier, d, later, question, -⟩ := hr _ _ _ split
    refine first m d l (List.mem_append_left _ ?_)
    rw [question]
    exact List.mem_append_right earlier List.mem_cons_self
  have count : limit.toNat = successes g before + 1 := (hr _ _ _ split).2.2
  exact UInt32.toNat_inj.mp (by rw [count, unheard]; rfl)

/-- There is one last question of a session. -/
theorem last_unique {n' : Nat} {circuit' : Circuit} {limit' : Index} {before' after' : List Entry}
    (split : before ++ .asked n g circuit limit :: after =
      before' ++ .asked n' g circuit' limit' :: after')
    (last : ∀ m d l, .asked m g d l ∉ after) (last' : ∀ m d l, .asked m g d l ∉ after') :
    (n, circuit, limit) = (n', circuit', limit') ∧ after = after' := by
  rcases List.append_eq_append_iff.mp split with ⟨front, -, tails⟩ | ⟨front, -, tails⟩
  · cases front with
    | nil =>
        cases tails
        exact ⟨rfl, rfl⟩
    | cons _ front =>
        obtain ⟨-, later⟩ := List.cons_eq_cons.mp tails
        exact absurd (later ▸ List.mem_append_right front List.mem_cons_self) (last n' circuit' limit')
  · cases front with
    | nil =>
        cases tails
        exact ⟨rfl, rfl⟩
    | cons _ front =>
        obtain ⟨-, later⟩ := List.cons_eq_cons.mp tails
        exact absurd (later ▸ List.mem_append_right front List.mem_cons_self) (last' n circuit limit)

/-- **What is committed behind a question is the answer to it**, and nothing was committed in between. -/
theorem settled_of_last (hr : Recorded h) {m : Nat} {l : Index} {answer : Answer}
    (split : h = before ++ .asked n g circuit limit :: (between ++ .settled m g l answer :: after))
    (last : ∀ m d l, .asked m g d l ∉ between) : m = n ∧ l = limit ∧ Silent g between := by
  rw [← List.cons_append, ← List.append_assoc] at split
  obtain ⟨earlier, circuit', later, question, silent⟩ := hr _ _ _ split
  obtain ⟨same, rfl⟩ := last_unique question last silent.asked
  cases same
  exact ⟨rfl, rfl, silent⟩

/-- So it is committed once. -/
theorem successes_of_last (hr : Recorded h) {e : Evaluation} {m : Nat} {l : Index}
    (split : h = before ++ .asked n g circuit limit :: (between ++ after))
    (last : ∀ m d l, .asked m g d l ∉ between) (committed : .settled m g l (.ok e) ∈ between) :
    m = n ∧ l = limit ∧ successes g between = 1 := by
  obtain ⟨front, back, rfl⟩ := List.append_of_mem committed
  have lastFront : ∀ m d l, .asked m g d l ∉ front :=
    fun m d l member => last m d l (List.mem_append_left _ member)
  have first : h = before ++ .asked n g circuit limit ::
      (front ++ .settled m g l (.ok e) :: (back ++ after)) := by
    rw [split, List.append_assoc, List.cons_append]
  obtain ⟨rfl, rfl, silent⟩ := settled_of_last hr first lastFront
  refine ⟨rfl, rfl, ?_⟩
  have alone : successes g back = 0 := by
    rw [successes_eq_zero_iff]
    intro m' l' e' member
    obtain ⟨middle, rest, rfl⟩ := List.append_of_mem member
    -- A second success would have the first one in the silence before it.
    have grouped : front ++ .settled m g l (.ok e) :: (middle ++ .settled m' g l' (.ok e') :: rest) =
        (front ++ .settled m g l (.ok e) :: middle) ++ .settled m' g l' (.ok e') :: rest := by
      simp
    have second : h = before ++ .asked m g circuit l ::
        ((front ++ .settled m g l (.ok e) :: middle) ++ .settled m' g l' (.ok e') :: (rest ++ after)) := by
      rw [split, grouped, List.append_assoc _ _ after, List.cons_append]
    rw [grouped] at last
    have quiet := (settled_of_last hr second fun m d l member =>
      last m d l (List.mem_append_left _ member)).2.2
    exact quiet.settled m l (.ok e) (List.mem_append_right front List.mem_cons_self)
  rw [successes_append, silent.successes, successes_success, alone]

/-- **The next question** is about one step more if the last one was answered and the answer was committed as
a success, and about the same number of steps otherwise. -/
theorem next_limit (hr : Recorded h) {n' : Nat} {circuit' : Circuit} {limit' : Index}
    (split : h = before ++ .asked n g circuit limit :: (between ++ .asked n' g circuit' limit' :: after))
    (last : ∀ m d l, .asked m g d l ∉ between) :
    (∃ e, .settled n g limit (.ok e) ∈ between) ∧ limit'.toNat = limit.toNat + 1 ∨
      (∀ m l e, .settled m g l (.ok e) ∉ between) ∧ limit' = limit := by
  have count : limit.toNat = successes g before + 1 := (hr _ _ _ split).2.2
  have count' : limit'.toNat = successes g before + successes g between + 1 := by
    have regrouped := split
    rw [← List.cons_append, ← List.append_assoc] at regrouped
    rw [(hr _ _ _ regrouped).2.2, successes_append, successes_asked]
  by_cases committed : ∃ m l e, .settled m g l (.ok e) ∈ between
  · obtain ⟨m, l, e, member⟩ := committed
    obtain ⟨rfl, rfl, once⟩ := successes_of_last hr split last member
    exact .inl ⟨⟨e, member⟩, by omega⟩
  · have none : ∀ m l e, .settled m g l (.ok e) ∉ between :=
      fun m l e member => committed ⟨m, l, e, member⟩
    have zero := successes_eq_zero_iff.mpr none
    exact .inr ⟨none, UInt32.toNat_inj.mp (by omega)⟩

/-- A committed answer is about one step more than were committed before it. -/
theorem limit_of_settled (hr : Recorded h) {answer : Answer}
    (split : h = before ++ .settled n g limit answer :: after) :
    ∃ c, .opened g c ∈ h ∧ limit.toNat = successes g before + 1 := by
  obtain ⟨earlier, c, later, question, silent⟩ := hr _ _ _ split
  rw [question, List.append_assoc] at split
  obtain ⟨opened, -, count⟩ := hr _ _ _ split
  refine ⟨c, ?_, ?_⟩
  · rw [split]
    exact List.mem_append_left _ opened
  · rw [question, successes_append, successes_asked, silent.successes, count]

theorem exists_last_success (some_success : 0 < successes g h) :
    ∃ front m l e back, h = front ++ .settled m g l (.ok e) :: back ∧ successes g back = 0 := by
  induction h with
  | nil => cases some_success
  | cons entry rest ih =>
      by_cases further : 0 < successes g rest
      · obtain ⟨front, m, l, e, back, rfl, none⟩ := ih further
        exact ⟨entry :: front, m, l, e, back, rfl, none⟩
      · have none : successes g rest = 0 := Nat.eq_zero_of_not_pos further
        have own : entry.succeeds g = true := by
          by_cases own : entry.succeeds g = true
          · exact own
          · rw [successes, List.countP_cons_of_neg own] at some_success
            exact absurd some_success further
        obtain ⟨m, l, e, rfl⟩ := Entry.succeeds_iff.mp own
        exact ⟨[], m, l, e, rest, rfl, none⟩

/-- **Success climbs step by step.** Before an answer about more than one step is committed, a success about
one step less was. -/
theorem exists_success_before (hr : Recorded h) {answer : Answer}
    (split : h = before ++ .settled n g limit answer :: after) (more : 1 < limit.toNat) :
    ∃ m l e, .settled m g l (.ok e) ∈ h ∧ l.toNat + 1 = limit.toNat := by
  obtain ⟨-, -, count⟩ := limit_of_settled hr split
  obtain ⟨front, m, l, e, back, rfl, none⟩ := exists_last_success (g := g) (h := before) (by omega)
  have first : h = front ++ .settled m g l (.ok e) :: (back ++ .settled n g limit answer :: after) := by
    rw [split, List.append_assoc, List.cons_append]
  obtain ⟨-, -, count'⟩ := limit_of_settled hr first
  refine ⟨m, l, e, ?_, ?_⟩
  · rw [first]
    exact List.mem_append_right front List.mem_cons_self
  · rw [count, count', successes_append, successes_success, none]

end

end Debugger

end QuantumWorkbench
