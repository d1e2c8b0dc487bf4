import QuantumWorkbench.Proofs.Script.Words
import QuantumWorkbench.Script.Circuit

/-!
# What the lines of a text say

A line feed between two texts ends the last line of the first one. The lines of the whole are those of its
parts, but for a carriage return that stood at the end and for a line that is empty. Neither says anything.

## Contents
- `Token.cut_return`, `Token.readings_return`: a carriage return at the end of a line is not read.
- `Gate.ofLine?_congr`, `registerSize?_congr`: lines that are read alike say the same.
- `registerSize?_isSome_iff`: a line has a register if the call for one is among its tokens.
- `filterMap_textLines_append`: what two texts say, line by line, with a line feed between them.
-/

namespace QuantumWorkbench

namespace Token

/-! ## Carriage returns -/

/-- A cut of a text and of the same text with a carriage return behind it agree: what stands at the head is
the same, and it is as long, unless it is all of the text and takes the carriage return too. -/
def CutsAlike (rest : List Char) (x y : Head × Nat) : Prop :=
  x.1 = y.1 ∧ (y.2 = x.2 ∧ x.2 ≤ rest.length ∨ y.2 = x.2 + 1 ∧ x.2 = rest.length)

theorem CutsAlike.of_eq {c : Char} {rest : List Char} (same : cut c (rest ++ ['\r']) = cut c rest) :
    CutsAlike rest (cut c rest) (cut c (rest ++ ['\r'])) :=
  ⟨congrArg Prod.fst same.symm, .inl ⟨congrArg Prod.snd same, cut_le c rest⟩⟩

theorem breaks_return : Breaks '\r' := ⟨rfl, by decide, by decide⟩

/-- **What stands at the head of a text is the same with a carriage return at the end of the text.** It
goes on into the carriage return only in a comment, and behind a quote that is not closed. -/
theorem cut_return (c : Char) (rest : List Char) :
    CutsAlike rest (cut c rest) (cut c (rest ++ ['\r'])) := by
  have return_inside : ∀ {P : Char → Prop} {body : List Char}, (∀ d ∈ body, P d) → P '\r' →
      ∀ d ∈ body ++ ['\r'], P d := by
    intro P body inside passes
    exact List.forall_mem_append.mpr ⟨inside, List.forall_mem_singleton.mpr passes⟩
  by_cases comment : c = '#'
  · subst comment
    obtain ⟨body, tail, rfl, inside, stop⟩ := comment_cases rest
    cases tail with
    | nil =>
        have own := cut_comment inside stop
        have all := cut_comment (return_inside inside (by decide)) stop
        rw [List.append_nil] at own all ⊢
        rw [own, all]
        exact ⟨rfl, .inr ⟨List.length_append, rfl⟩⟩
    | cons d tail =>
        apply CutsAlike.of_eq
        rw [List.append_assoc, cut_comment inside stop]
        exact cut_comment inside stop
  by_cases quote : c = '"' ∨ c = '\''
  · obtain ⟨body, tail, inside, rfl | ⟨rfl, stop⟩⟩ := quotation_cases c rest
    · apply CutsAlike.of_eq
      rw [List.append_assoc, cut_closed quote inside]
      exact cut_closed quote inside _
    · cases tail with
      | nil =>
          have other : '\r' ≠ c ∧ '\r' ≠ '\n' := by rcases quote with rfl | rfl <;> decide
          have own := cut_open quote inside stop
          have all := cut_open quote (return_inside inside other) stop
          rw [List.append_nil] at own all ⊢
          rw [own, all]
          exact ⟨rfl, .inr ⟨List.length_append, rfl⟩⟩
      | cons d tail =>
          apply CutsAlike.of_eq
          rw [List.append_assoc, cut_open quote inside stop]
          exact cut_open quote inside stop
  · exact .of_eq (cut_break breaks_return comment quote rest [])

/-- Behind the head there is nothing to tell the two texts apart. -/
theorem readings_drop_return {rest : List Char} {x y : Head × Nat} (alike : CutsAlike rest x y)
    (ih : readings (rest.drop x.2 ++ ['\r']) = readings (rest.drop x.2)) :
    readings ((rest ++ ['\r']).drop y.2) = readings (rest.drop x.2) := by
  rcases alike.2 with ⟨same, inside⟩ | ⟨more, all⟩
  · rw [same, List.drop_append_of_le_length inside, ih]
  · have nothing : (rest ++ ['\r']).drop y.2 = [] := by
      rw [List.drop_eq_nil_iff]
      simp [more, all]
    rw [nothing, all, List.drop_length]

/-- **A carriage return at the end of a line is not read.** -/
theorem readings_return (text : List Char) : readings (text ++ ['\r']) = readings text := by
  suffices ∀ start : Nat, readings (text ++ ['\r']) = readings text from this 0
  intro start
  induction start, text using piecesFrom.induct with
  | case1 start => exact readings_of_gap (cut_space rfl [])
  | case2 start c rest n text hcut ih =>
      have alike := cut_return c rest
      have behind := readings_drop_return alike (by rwa [hcut])
      rw [hcut] at alike behind
      rw [List.cons_append, readings_of_gap hcut, ← behind]
      exact readings_of_gap (Prod.ext alike.1.symm rfl)
  | case3 start c rest n text token? hcut ih =>
      have alike := cut_return c rest
      have behind := readings_drop_return alike (by rwa [hcut])
      rw [hcut] at alike behind
      rw [List.cons_append, readings_of_piece hcut, ← behind]
      exact readings_of_piece (Prod.ext alike.1.symm rfl)

/-- The carriage return that a line feed takes away with it says nothing. -/
theorem readings_dropReturn (line : List Char) : readings (dropReturn line) = readings line := by
  unfold dropReturn
  split
  · rename_i ends
    obtain ⟨body, rfl⟩ := List.getLast?_eq_some_iff.mp ends
    rw [List.dropLast_concat, readings_return]
  · rfl

/-! ## Lines that are read alike -/

/-- The tokens of a line are known from its readings. -/
theorem line?_eq (text : List Char) : line? text = (readings text).mapM id := by
  unfold line? line readings
  generalize pieces text = found
  induction found with
  | nil => rfl
  | cons p rest ih =>
      rw [List.map_cons, List.mapM_cons, List.mapM_cons, ← ih]
      cases p.token? with
      | none => rfl
      | some t => cases List.mapM (m := Except Piece) _ rest <;> rfl

end Token

open Token (readings)

theorem Gate.ofLine?_congr {line line' : List Char} (alike : readings line = readings line')
    (step : Index) : ofLine? line step = ofLine? line' step := by
  rw [ofLine?, ofLine?, Token.line?_eq, Token.line?_eq, alike]

theorem registerSize?_congr {line line' : List Char} (alike : readings line = readings line') :
    registerSize? line = registerSize? line' := by
  rw [registerSize?_eq, registerSize?_eq, alike]

/-! ## Registers -/

/-- The tokens that call for a register of `n` qubits. -/
def registerCall (n : UInt64) : List Token :=
  [.ident "QuantumRegister", .mark '(', .int n, .mark ')']

/-- A line calls for a register whose size is an index. Its pieces that are no tokens are passed over. -/
def DeclaresRegister (line : List Char) : Prop :=
  ∃ n : UInt64, n.toNat < UInt32.size ∧ registerCall n <:+: (Token.pieces line).filterMap (·.token?)

theorem registerOfTokens?_isSome_iff {tokens : List Token} :
    (registerOfTokens? tokens).isSome ↔
      ∃ n : UInt64, n.toNat < UInt32.size ∧ registerCall n <:+: tokens := by
  induction tokens with
  | nil => simp [registerOfTokens?, registerCall]
  | cons t rest ih =>
      simp only [List.infix_cons_iff]
      -- The search goes on where no call stands, and where one stands whose size is too large.
      have further (missing : ∀ n : UInt64, n.toNat < UInt32.size → ¬ registerCall n <+: t :: rest) :
          (registerOfTokens? rest).isSome ↔ ∃ n : UInt64, n.toNat < UInt32.size ∧
            (registerCall n <+: t :: rest ∨ registerCall n <:+: rest) :=
        ih.trans <| exists_congr fun n => and_congr_right fun fits => (or_iff_right (missing n fits)).symm
      unfold registerOfTokens?
      split
      · rename_i n tail
        by_cases fits : n.toNat < UInt32.size
        · rw [if_pos fits]
          exact ⟨fun _ => ⟨n, fits, .inl ⟨tail, rfl⟩⟩, fun _ => rfl⟩
        · rw [if_neg fits]
          apply further
          rintro m small ⟨_, same⟩
          cases same
          exact fits small
      · rename_i noCall
        apply further
        rintro m small ⟨tail, same⟩
        cases same
        exact noCall m tail rfl rfl

/-- **A line declares a register if it calls for one.** -/
theorem registerSize?_isSome_iff {line : List Char} :
    (registerSize? line).isSome ↔ DeclaresRegister line :=
  registerOfTokens?_isSome_iff

instance : DecidablePred DeclaresRegister := fun _ => decidable_of_iff _ registerSize?_isSome_iff

/-! ## Texts put together -/

/-- A line feed ends the line that is being read, and those before it stay as they are. -/
theorem linesFrom_feed (line xs ys : List Char) :
    linesFrom line (xs ++ '\n' :: ys) = linesFrom line (xs ++ ['\n']) ++ linesFrom [] ys := by
  induction xs generalizing line with
  | nil => simp [linesFrom]
  | cons c rest ih =>
      rw [List.cons_append, List.cons_append, linesFrom, linesFrom]
      split
      · rw [ih, List.cons_append]
      · exact ih _

section
variable {α : Type} {f : List Char → Option α}
  (told : ∀ line line', readings line = readings line' → f line = f line') (silent : f [] = none)
include told silent

/-- A line feed at the end of a text says nothing. -/
theorem filterMap_linesFrom_feed (line xs : List Char) :
    (linesFrom line (xs ++ ['\n'])).filterMap f = (linesFrom line xs).filterMap f := by
  induction xs generalizing line with
  | nil =>
      have ended : f (dropReturn line.reverse) = f line.reverse :=
        told _ _ (Token.readings_dropReturn _)
      have only : linesFrom line ([] ++ ['\n']) = [dropReturn line.reverse] := by simp [linesFrom]
      rw [only, List.filterMap_cons, ended]
      cases line with
      | nil => simp [linesFrom, silent]
      | cons c line => rfl
  | cons c rest ih =>
      rw [List.cons_append, linesFrom, linesFrom]
      split
      · rw [List.filterMap_cons, List.filterMap_cons, ih]
      · exact ih _

/-- **Two texts with a line feed between them say what the first one says, and then what the second one
says.** -/
theorem filterMap_textLines_append (a b : String) :
    (textLines (a ++ "\n" ++ b)).filterMap f =
      (textLines a).filterMap f ++ (textLines b).filterMap f := by
  have whole : textLines (a ++ "\n" ++ b) = linesFrom [] (a.toList ++ '\n' :: b.toList) := by
    simp [textLines]
  rw [whole, linesFrom_feed, List.filterMap_append, filterMap_linesFrom_feed told silent]
  rfl

end

end QuantumWorkbench
