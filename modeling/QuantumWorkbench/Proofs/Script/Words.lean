import QuantumWorkbench.Proofs.Script.Cuts
import QuantumWorkbench.Script.Line

/-!
# Words of a script

What the scanner makes of text that is put together word by word. Blanks stand between words where two of
them would grow together otherwise.

## Contents
- `Token.readings`: what the pieces of a text stand for, without their places, and the law for each
  kind of piece at its head.
- `Token.Word`: a name, a number, a mark or a blank, with its text.
- `Token.isWritten`: no word grows together with the next.
- `Token.readings_spell`: written words are read back, one token for each word that is no blank.
-/

namespace QuantumWorkbench

namespace Token

/-! ## Readings -/

/-- What the pieces of a text stand for, in order. -/
def readings (text : List Char) : List (Option Token) := (pieces text).map (·.token?)

/-- Where a text starts does not matter to what it says. -/
theorem map_token?_piecesFrom (start : Nat) (text : List Char) :
    (piecesFrom start text).map (·.token?) = readings text := by
  suffices ∀ other, (piecesFrom start text).map (·.token?) =
      (piecesFrom other text).map (·.token?) from this 0
  induction start, text using piecesFrom.induct with
  | case1 start =>
      intro other
      simp [piecesFrom]
  | case2 start c rest n text hcut ih =>
      intro other
      rw [piecesFrom, piecesFrom, hcut]
      exact ih _
  | case3 start c rest n text token? hcut ih =>
      intro other
      rw [piecesFrom, piecesFrom, hcut]
      exact congrArg (token? :: ·) (ih _)

@[simp] theorem readings_nil : readings [] = [] := by
  simp [readings, pieces, piecesFrom]

theorem readings_of_gap {c : Char} {rest : List Char} {n : Nat} (h : cut c rest = (.gap, n)) :
    readings (c :: rest) = readings (rest.drop n) := by
  rw [readings, pieces, piecesFrom, h]
  exact map_token?_piecesFrom _ _

theorem readings_of_piece {c : Char} {rest : List Char} {n : Nat} {token? : Option Token}
    (h : cut c rest = (.piece token?, n)) :
    readings (c :: rest) = token? :: readings (rest.drop n) := by
  rw [readings, pieces, piecesFrom, h]
  exact congrArg (token? :: ·) (map_token?_piecesFrom _ _)

/-! ## Words -/

/-- A token as it is written most plainly, or a blank. -/
inductive Word where
  | blank
  | name (text : String)
  | number (n : Index)
  | sign (char : Char)

namespace Word

def text : Word → List Char
  | blank => [' ']
  | name s => s.toList
  | number n => Nat.toDigits 10 n.toNat
  | sign c => [c]

/-- The token that a word is read as. -/
def token? : Word → Option Token
  | blank => none
  | name s => some (.ident s)
  | number n => some (.int n.toUInt64)
  | sign c => some (.mark c)

/-- A name is a name, and a sign is one of the marks. -/
def isPlain : Word → Bool
  | blank | number _ => true
  | name s => s.toList.head?.any isNameStart && s.toList.all isNameChar
  | sign c => marks.contains c

/-- The second word does not go on where the first one ends. -/
def isApart : Word → Word → Bool
  | name _, name _ | name _, number _ | number _, number _ => false
  | number _, sign c => c ≠ '.'
  | _, _ => true

/-- What stands behind a name does not lengthen it. -/
theorem stop_name {s : String} {w : Word} (plain : w.isPlain = true)
    (apart : (name s).isApart w = true) : ∀ c ∈ w.text.head?, isNameChar c = false := by
  intro c hc
  cases w with
  | blank =>
      cases hc
      rfl
  | name => cases apart
  | number => cases apart
  | sign mark =>
      cases hc
      have known : c ∈ marks := by simpa [isPlain] using plain
      have none_named : marks.all (fun c => !isNameChar c) = true := by decide
      simpa using List.all_eq_true.mp none_named c known

/-- What stands behind a number neither lengthens it nor makes a fraction of it. -/
theorem stop_number {n : Index} {w : Word} (plain : w.isPlain = true)
    (apart : (number n).isApart w = true) : ∀ c ∈ w.text.head?, c.isDigit = false ∧ c ≠ '.' := by
  intro c hc
  cases w with
  | blank =>
      cases hc
      exact ⟨rfl, by decide⟩
  | name s =>
      have start : isNameStart c = true := by
        rw [isPlain, Bool.and_eq_true] at plain
        rw [show s.toList.head? = some c from hc] at plain
        exact plain.1
      constructor
      · exact isDigit_of_isNameStart start
      · rintro rfl
        exact absurd start (by decide)
  | number => cases apart
  | sign mark =>
      cases hc
      have known : c ∈ marks := by simpa [isPlain] using plain
      have noPoint : c ≠ '.' := by simpa [isApart] using apart
      have no_digit : marks.all (fun c => !c.isDigit) = true := by decide
      exact ⟨by simpa using List.all_eq_true.mp no_digit c known, noPoint⟩

theorem text_ne_nil {w : Word} (plain : w.isPlain = true) : w.text ≠ [] := by
  cases w with
  | name s =>
      intro empty
      rw [isPlain, show s.toList = [] from empty] at plain
      cases plain
  | number n => exact Nat.toDigits_ne_nil
  | blank | sign => simp [text]

end Word

/-- The text of some words, one behind the other. -/
def spell (words : List Word) : List Char := words.flatMap Word.text

/-- Each word is plain, and no word grows together with the next. -/
def isWritten : List Word → Bool
  | [] => true
  | w :: rest => w.isPlain && rest.head?.all w.isApart && isWritten rest

/-- What stands behind a word is what the next word begins with. -/
theorem head?_spell {words : List Word} (h : isWritten words = true) {w : Word} {P : Char → Prop}
    (apart : words.head?.all w.isApart = true)
    (stop : ∀ v : Word, v.isPlain = true → w.isApart v = true → ∀ c ∈ v.text.head?, P c) :
    ∀ c ∈ (spell words).head?, P c := by
  intro c hc
  cases words with
  | nil => cases hc
  | cons v rest =>
      simp only [isWritten, Bool.and_eq_true] at h
      have begins : (spell (v :: rest)).head? = v.text.head? := by
        rw [spell, List.flatMap_cons, List.head?_append]
        cases hv : v.text with
        | nil => exact absurd hv (Word.text_ne_nil h.1.1)
        | cons => rfl
      exact stop v h.1.1 (by simpa using apart) c (begins ▸ hc)

/-- The digits of an index are read as that index. -/
theorem intToken?_toDigits (n : Index) :
    intToken? (Nat.toDigits 10 n.toNat) = some (.int n.toUInt64) := by
  have value : digitsValue (Nat.toDigits 10 n.toNat) = n.toNat := Nat.ofDigitChars_ten_toDigits
  have fits : n.toNat < UInt64.size := Nat.lt_trans n.toNat_lt (by decide)
  have same : UInt64.ofNat n.toNat = n.toUInt64 := UInt64.toNat_inj.mp (by simp)
  simp only [intToken?, value, if_pos fits, same]

/-- **Written words are read back.** -/
theorem readings_spell {words : List Word} (h : isWritten words = true) :
    readings (spell words) = (words.filterMap Word.token?).map some := by
  induction words with
  | nil => exact readings_nil
  | cons w rest ih =>
      simp only [isWritten, Bool.and_eq_true] at h
      obtain ⟨⟨plain, apart⟩, written⟩ := h
      rw [show spell (w :: rest) = w.text ++ spell rest from rfl]
      cases w with
      | blank => exact (readings_of_gap (cut_space rfl _)).trans (ih written)
      | sign c => exact (readings_of_piece (cut_mark plain _)).trans (congrArg _ (ih written))
      | name s =>
          -- A blank or a mark stands behind the name, if anything does, so that it ends where it should.
          have stop := head?_spell written apart fun _ => Word.stop_name
          simp only [Word.isPlain, Bool.and_eq_true, List.all_eq_true] at plain
          cases hs : s.toList with
          | nil => simp [hs] at plain
          | cons c body =>
              rw [hs] at plain
              have inside : ∀ d ∈ body, isNameChar d = true :=
                fun d hd => plain.2 d (List.mem_cons_of_mem c hd)
              rw [show (Word.name s).text = c :: body from hs, List.cons_append,
                readings_of_piece (cut_name plain.1 inside stop), List.drop_left, ih written,
                ← hs, String.ofList_toList]
              rfl
      | number n =>
          -- No point stands behind the number either, which would make a fraction of it.
          have stop := head?_spell written apart fun _ => Word.stop_number
          cases hn : Nat.toDigits 10 n.toNat with
          | nil => exact absurd hn Nat.toDigits_ne_nil
          | cons c body =>
              have digits : ∀ d ∈ c :: body, d.isDigit = true := fun d hd =>
                Nat.isDigit_of_mem_toDigits (by decide) (by decide) (hn ▸ hd)
              have inside : ∀ d ∈ body, d.isDigit = true :=
                fun d hd => digits d (List.mem_cons_of_mem c hd)
              rw [show (Word.number n).text = c :: body from hn, List.cons_append,
                readings_of_piece (cut_number (digits c List.mem_cons_self) inside stop),
                List.drop_left, ih written, ← hn, intToken?_toDigits]
              rfl

/-! ## Lines -/

/-- Words hold no line breaks. -/
theorem noBreak_spell {words : List Word} (h : isWritten words = true) :
    ∀ c ∈ spell words, c ≠ '\n' ∧ c ≠ '\r' := by
  have outside : ∀ {p : Char → Bool}, p '\n' = false → p '\r' = false →
      ∀ {c : Char}, p c = true → c ≠ '\n' ∧ c ≠ '\r' := by
    intro p noFeed noReturn c inside
    constructor
    · rintro rfl
      simp [inside] at noFeed
    · rintro rfl
      simp [inside] at noReturn
  induction words with
  | nil => exact fun c hc => absurd hc List.not_mem_nil
  | cons w rest ih =>
      simp only [isWritten, Bool.and_eq_true] at h
      intro c hc
      rw [spell, List.flatMap_cons, List.mem_append] at hc
      rcases hc with here | there
      · cases w with
        | blank =>
            cases List.mem_singleton.mp here
            decide
        | name s =>
            simp only [Word.isPlain, Bool.and_eq_true, List.all_eq_true] at h
            exact outside (p := isNameChar) (by decide) (by decide) (h.1.1.2 c here)
        | number n =>
            exact outside (p := Char.isDigit) (by decide) (by decide)
              (Nat.isDigit_of_mem_toDigits (by decide) (by decide) here)
        | sign mark =>
            cases List.mem_singleton.mp here
            exact outside (p := marks.contains) (by decide) (by decide) h.1.1
      · exact ih h.2 c there

/-- A line all of whose pieces are tokens. -/
theorem line_of_readings {text : List Char} {tokens : List Token}
    (h : readings text = tokens.map some) : line text = .ok tokens := by
  unfold readings at h
  unfold line
  generalize pieces text = found at h ⊢
  induction found generalizing tokens with
  | nil =>
      cases tokens with
      | nil => rfl
      | cons => cases h
  | cons p rest ih =>
      cases tokens with
      | nil => cases h
      | cons t tokens =>
          obtain ⟨first, others⟩ := List.cons_eq_cons.mp h
          rw [List.mapM_cons, show p.token? = some t from first, ih others]
          rfl

theorem line?_spell {words : List Word} (h : isWritten words = true) :
    line? (spell words) = some (words.filterMap Word.token?) :=
  congrArg Except.toOption (line_of_readings (readings_spell h))

end Token

open Token in
/-- A register is declared by the tokens of a line alone. -/
theorem registerSize?_eq (line : List Char) :
    registerSize? line = registerOfTokens? ((readings line).filterMap id) := by
  rw [registerSize?, readings, List.filterMap_map]
  rfl

open Token in
/-- The register that written words declare. -/
theorem registerSize?_spell {words : List Word} (h : isWritten words = true) :
    registerSize? (spell words) = registerOfTokens? (words.filterMap Word.token?) := by
  rw [registerSize?_eq, readings_spell h, List.filterMap_map]
  exact congrArg registerOfTokens? (List.filterMap_some ..)

end QuantumWorkbench
