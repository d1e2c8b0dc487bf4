import QuantumWorkbench.Proofs.Script.Cuts

/-!
# Lexemes

Which texts are tokens, and which tokens they are. At the head of every text the scanner takes the longest
lexeme that there is, and says what it denotes. Where there is none it takes a gap, a quotation that is not
closed or a single character.

## Contents
- `Token.Denotes`: the lexemes, and what each of them denotes.
- `Token.Denotes.cut`: a lexeme at the head of a text is taken, or something longer is.
- `Token.Denotes.unique`: a text denotes one thing.
- `Token.Longest`, `Token.Unmatched`: the longest lexeme at the head of a text, and none at all.
- `Token.Gap`, `Token.Entry`: what is dropped, and what is kept.
- `Token.cut_spec`: what the scanner takes.
-/

namespace QuantumWorkbench

namespace Token

/-! ## Lexemes and what they denote -/

/-- The text is a lexeme and denotes this. A whole number that does not fit 64 bits denotes nothing. -/
inductive Denotes : List Char → Option Token → Prop where
  | float {whole fraction exponent : List Char} {e : Int} (digits : IsDigits whole)
      (more : ∀ d ∈ fraction, d.isDigit = true) (power : Exponent exponent e) :
      Denotes (whole ++ '.' :: (fraction ++ exponent))
        (some (.float (nearestFloat (digitsValue (whole ++ fraction)) (e - fraction.length))))
  | int {ds : List Char} {n : UInt64} (digits : IsDigits ds) (value : digitsValue ds = n.toNat) :
      Denotes ds (some (.int n))
  | overflow {ds : List Char} (digits : IsDigits ds) (large : UInt64.size ≤ digitsValue ds) : Denotes ds none
  | str {quote : Char} {body : List Char} (isQuote : quote = '"' ∨ quote = '\'')
      (inside : ∀ d ∈ body, d ≠ quote ∧ d ≠ '\n') :
      Denotes (quote :: (body ++ [quote])) (some (.str (String.ofList body)))
  | ident {c : Char} {body : List Char} (start : isNameStart c = true) (inside : ∀ d ∈ body, isNameChar d = true) :
      Denotes (c :: body) (some (.ident (String.ofList (c :: body))))
  | mark {c : Char} (listed : marks.contains c = true) : Denotes [c] (some (.mark c))

theorem denotes_intToken? {ds : List Char} (digits : IsDigits ds) : Denotes ds (intToken? ds) := by
  unfold intToken?
  by_cases fits : digitsValue ds < UInt64.size
  · rw [if_pos fits]
    exact .int digits (UInt64.toNat_ofNat_of_lt' fits).symm
  · rw [if_neg fits]
    exact .overflow digits (Nat.le_of_not_lt fits)

theorem intToken?_of_value {ds : List Char} {n : UInt64} (value : digitsValue ds = n.toNat) :
    intToken? ds = some (.int n) := by
  rw [intToken?, value, if_pos n.toNat_lt, UInt64.ofNat_toNat]

/-- What is taken at the head of a text: the lexeme that stands there, if it denotes this, or something longer. -/
def TakesAtLeast (lexeme : List Char) (token? : Option Token) (taken : Head × Nat) : Prop :=
  lexeme.length ≤ taken.2 ∧ (taken.2 = lexeme.length → taken.1 = .piece token?)

variable {c : Char} {body : List Char} {token? : Option Token}

/-- A whole number at the head of a text is taken, unless digits or a point follow. -/
theorem takesAtLeast_digits (first : c.isDigit = true) (inside : ∀ d ∈ body, d.isDigit = true) (tail : List Char) :
    TakesAtLeast body (intToken? (c :: body)) (cut c (body ++ tail)) := by
  rcases number_cases tail with ⟨more, tail, rfl, further, stop⟩ | ⟨more, fraction, tail, rfl, further, digits, stop⟩
  all_goals have all : ∀ d ∈ body ++ more, d.isDigit = true := List.forall_mem_append.mpr ⟨inside, further⟩
  · rw [← List.append_assoc, cut_number first all stop]
    refine ⟨List.length_append ▸ Nat.le_add_right _ _, fun same => ?_⟩
    have none : more = [] := by simpa using same
    rw [none, List.append_nil]
  · rw [← List.append_assoc, cut_point first all digits stop, List.length_append]
    refine ⟨by simp only; omega, fun same => ?_⟩
    simp only at same
    omega

/-- A number with a point is taken whole if no digit follows its own. -/
theorem takesAtLeast_point {whole fraction exponent : List Char} {e : Int} (digits : IsDigits (c :: whole))
    (more : ∀ d ∈ fraction, d.isDigit = true) (power : Exponent exponent e) {tail : List Char}
    (stop : ∀ d ∈ (exponent ++ tail).head?, d.isDigit = false) :
    TakesAtLeast (whole ++ '.' :: (fraction ++ exponent))
      (some (.float (nearestFloat (digitsValue (c :: whole ++ fraction)) (e - fraction.length))))
      (cut c (whole ++ '.' :: (fraction ++ (exponent ++ tail)))) := by
  obtain ⟨first, inside⟩ := List.forall_mem_cons.mp digits.2
  have longest := power.length_le tail
  have taken := cut_point first inside more stop
  constructor
  · rw [taken]
    simp only [List.length_append, List.length_cons]
    omega
  · intro same
    have counted : exponentLength (exponent ++ tail) = exponent.length := by
      rw [taken] at same
      simp only [List.length_append, List.length_cons] at same
      omega
    rw [← point_append, cut_float digits more power stop counted]

theorem takesAtLeast_float {whole fraction exponent : List Char} {e : Int} (digits : IsDigits (c :: whole))
    (more : ∀ d ∈ fraction, d.isDigit = true) (power : Exponent exponent e) (tail : List Char) :
    TakesAtLeast (whole ++ '.' :: (fraction ++ exponent))
      (some (.float (nearestFloat (digitsValue (c :: whole ++ fraction)) (e - fraction.length))))
      (cut c ((whole ++ '.' :: (fraction ++ exponent)) ++ tail)) := by
  rw [point_append]
  by_cases stop : ∀ d ∈ (exponent ++ tail).head?, d.isDigit = false
  · exact takesAtLeast_point digits more power stop
  -- Digits that follow belong to the fraction, which is then longer.
  obtain ⟨first, inside⟩ := List.forall_mem_cons.mp digits.2
  cases power with
  | power isMark isSign digits => exact absurd (Exponent.power isMark isSign digits).noDigit stop
  | missing =>
      obtain ⟨further, tail, rfl, longer, ends⟩ := exists_run Char.isDigit tail
      have some : further ≠ [] := by
        rintro rfl
        exact stop ends
      have counted := List.length_pos_iff.mpr some
      have all : ∀ d ∈ fraction ++ further, d.isDigit = true := List.forall_mem_append.mpr ⟨more, longer⟩
      rw [List.nil_append, ← List.append_assoc, cut_point first inside all ends]
      simp only [TakesAtLeast, List.append_nil, List.length_append, List.length_cons]
      exact ⟨by omega, fun same => by omega⟩

/-- **A lexeme at the head of a text is taken, or something longer is.** -/
theorem Denotes.cut (h : Denotes (c :: body) token?) (tail : List Char) :
    TakesAtLeast body token? (cut c (body ++ tail)) := by
  generalize shape : c :: body = text at h
  cases h with
  | @float whole fraction exponent e digits more power =>
      obtain ⟨d, whole, rfl⟩ := List.exists_cons_of_ne_nil digits.1
      cases shape
      exact takesAtLeast_float digits more power tail
  | int digits value =>
      subst shape
      obtain ⟨first, inside⟩ := List.forall_mem_cons.mp digits.2
      rw [← intToken?_of_value value]
      exact takesAtLeast_digits first inside tail
  | overflow digits large =>
      subst shape
      obtain ⟨first, inside⟩ := List.forall_mem_cons.mp digits.2
      have none : intToken? (c :: body) = none := if_neg (Nat.not_lt.mpr large)
      rw [← none]
      exact takesAtLeast_digits first inside tail
  | str isQuote inside =>
      cases shape
      rw [List.append_assoc, List.cons_append, cut_closed isQuote inside]
      exact ⟨Nat.le_of_eq List.length_append, fun _ => rfl⟩
  | ident start inside =>
      cases shape
      obtain ⟨more, tail, rfl, further, stop⟩ := exists_run isNameChar tail
      have all : ∀ d ∈ body ++ more, isNameChar d = true := List.forall_mem_append.mpr ⟨inside, further⟩
      rw [← List.append_assoc, cut_name start all stop]
      refine ⟨List.length_append ▸ Nat.le_add_right _ _, fun same => ?_⟩
      have none : more = [] := by simpa using same
      rw [none, List.append_nil]
  | mark listed =>
      cases shape
      rw [cut_mark listed]
      exact ⟨Nat.le_refl _, fun _ => rfl⟩

theorem Denotes.ne_nil {text : List Char} (h : Denotes text token?) : text ≠ [] := by
  cases h with
  | float digits => exact List.append_ne_nil_of_left_ne_nil digits.1 _
  | int digits => exact digits.1
  | overflow digits => exact digits.1
  | str => exact List.cons_ne_nil _ _
  | ident => exact List.cons_ne_nil _ _
  | mark => exact List.cons_ne_nil _ _

/-- **A text denotes one thing.** By itself it is taken whole, and nothing longer is there. -/
theorem Denotes.unique {text : List Char} {token?' : Option Token} (h : Denotes text token?)
    (h' : Denotes text token?') : token? = token?' := by
  obtain ⟨c, body, rfl⟩ := List.exists_cons_of_ne_nil h.ne_nil
  -- The scanner takes all of the text, and it says one thing.
  obtain ⟨least, whole⟩ := h.cut []
  obtain ⟨-, whole'⟩ := h'.cut []
  have most := cut_le c (body ++ [])
  rw [List.append_nil] at least whole whole' most
  have all : (Token.cut c body).2 = body.length := Nat.le_antisymm most least
  exact Head.piece.inj ((whole all).symm.trans (whole' all))

/-! ## The longest lexeme -/

/-- No lexeme stands at the head of the text. -/
def Unmatched (text : List Char) : Prop := ∀ lexeme, lexeme <+: text → ∀ token?, ¬ Denotes lexeme token?

/-- No lexeme at the head of `text ++ tail` is longer than `text`. -/
def Longest (text tail : List Char) : Prop :=
  ∀ lexeme, lexeme <+: text ++ tail → ∀ token?, Denotes lexeme token? → lexeme.length ≤ text.length

/-- A lexeme at the head of a text starts with the first character of the text. -/
theorem Denotes.exists_of_prefix {lexeme rest : List Char} (h : Denotes lexeme token?)
    (isPrefix : lexeme <+: c :: rest) : ∃ body tail, lexeme = c :: body ∧ rest = body ++ tail := by
  obtain ⟨d, body, rfl⟩ := List.exists_cons_of_ne_nil h.ne_nil
  obtain ⟨rfl, tail, rfl⟩ := List.cons_prefix_cons.mp isPrefix
  exact ⟨body, tail, rfl, rfl⟩

/-- Nothing longer than what the scanner takes is a lexeme. -/
theorem longest_of_cut {tail : List Char} (ends : (cut c (body ++ tail)).2 = body.length) :
    Longest (c :: body) tail := by
  intro lexeme isPrefix token? denotes
  obtain ⟨own, behind, rfl, same⟩ := denotes.exists_of_prefix (List.cons_append ▸ isPrefix)
  obtain ⟨least, -⟩ := denotes.cut behind
  rw [← same, ends] at least
  exact Nat.succ_le_succ least

/-! ## What is taken -/

/-- What is dropped at the head of a text, with what follows it: a blank, or a comment to the end of its line. -/
inductive Gap (tail : List Char) : List Char → Prop where
  | blank {c : Char} (space : isSpace c = true) : Gap tail [c]
  | comment {body : List Char} (inside : ∀ d ∈ body, d ≠ '\n') (stop : ∀ d ∈ tail.head?, d = '\n') :
      Gap tail ('#' :: body)

/-- What is kept at the head of a text, with what follows it: the longest lexeme, as what it denotes, or what is no
lexeme. That is a quotation that is not closed on its line, or else a single character. -/
inductive Entry (tail : List Char) : List Char → Option Token → Prop where
  | lexeme {text : List Char} {token? : Option Token} (denotes : Denotes text token?) (longest : Longest text tail) :
      Entry tail text token?
  | unclosed {quote : Char} {body : List Char} (isQuote : quote = '"' ∨ quote = '\'')
      (inside : ∀ d ∈ body, d ≠ quote ∧ d ≠ '\n') (stop : ∀ d ∈ tail.head?, d = '\n')
      (unmatched : Unmatched (quote :: (body ++ tail))) : Entry tail (quote :: body) none
  | stray {c : Char} (space : isSpace c = false) (comment : c ≠ '#') (quote : ¬ (c = '"' ∨ c = '\''))
      (unmatched : Unmatched (c :: tail)) : Entry tail [c] none

/-- What a lexeme can start with. One that starts with a quote ends with the same quote. -/
theorem Denotes.starts (h : Denotes (c :: body) token?) :
    c.isDigit = true ∨ isNameStart c = true ∨ marks.contains c = true ∨
    (c = '"' ∨ c = '\'') ∧ ∃ text, body = text ++ [c] ∧ ∀ d ∈ text, d ≠ c ∧ d ≠ '\n' := by
  generalize shape : c :: body = text at h
  cases h with
  | float digits =>
      obtain ⟨d, whole, rfl⟩ := List.exists_cons_of_ne_nil digits.1
      cases shape
      exact .inl (digits.2 _ List.mem_cons_self)
  | int digits | overflow digits =>
      subst shape
      exact .inl (digits.2 _ List.mem_cons_self)
  | ident start =>
      cases shape
      exact .inr (.inl start)
  | mark listed =>
      cases shape
      exact .inr (.inr (.inl listed))
  | str isQuote inside =>
      cases shape
      exact .inr (.inr (.inr ⟨isQuote, _, rfl, inside⟩))

/-- A lexeme that starts with a quote is closed by the same quote. -/
theorem Denotes.closed (h : Denotes (c :: body) token?) (quote : c = '"' ∨ c = '\'') :
    ∃ text, body = text ++ [c] ∧ ∀ d ∈ text, d ≠ c ∧ d ≠ '\n' := by
  have others : ¬ c.isDigit = true ∧ ¬ isNameStart c = true ∧ ¬ marks.contains c = true := by
    rcases quote with rfl | rfl <;> decide
  rcases h.starts with digit | name | mark | ⟨-, closed⟩
  · exact absurd digit others.1
  · exact absurd name others.2.1
  · exact absurd mark others.2.2
  · exact closed

/-- The scanner takes a gap or an entry. -/
inductive Takes (tail text : List Char) : Head → Prop where
  | gap (gap : Gap tail text) : Takes tail text .gap
  | piece {token? : Option Token} (entry : Entry tail text token?) : Takes tail text (.piece token?)

/-- A lexeme that is taken is the longest one. -/
theorem takes_lexeme {tail : List Char} (denotes : Denotes (c :: body) token?)
    (taken : cut c (body ++ tail) = (.piece token?, body.length)) : Takes tail (c :: body) (.piece token?) :=
  .piece (.lexeme denotes (longest_of_cut (congrArg Prod.snd taken)))

/-- **What the scanner takes** at the head of a text. -/
theorem cut_spec (c : Char) (rest : List Char) : ∃ body tail head, rest = body ++ tail ∧
    cut c rest = (head, body.length) ∧ Takes tail (c :: body) head := by
  cases starts c with
  | space space => exact ⟨[], rest, .gap, rfl, cut_space space rest, .gap (.blank space)⟩
  | comment =>
      obtain ⟨body, tail, rfl, inside, stop⟩ := comment_cases rest
      exact ⟨body, tail, .gap, rfl, cut_comment inside stop, .gap (.comment inside stop)⟩
  | number digit =>
      have digits : ∀ {ds}, (∀ d ∈ ds, d.isDigit = true) → IsDigits (c :: ds) := fun inside =>
        ⟨List.cons_ne_nil _ _, List.forall_mem_cons.mpr ⟨digit, inside⟩⟩
      rcases number_cases rest with ⟨body, tail, rfl, inside, stop⟩ | ⟨whole, fraction, tail, rfl, inside, more, stop⟩
      · have taken := cut_number digit inside stop
        exact ⟨body, tail, _, rfl, taken, takes_lexeme (denotes_intToken? (digits inside)) taken⟩
      · obtain ⟨exponent, tail, e, rfl, power, counted⟩ := exists_exponent tail
        have taken := cut_float (digits inside) more power stop counted
        rw [← point_append]
        exact ⟨_, tail, _, rfl, taken, takes_lexeme (.float (digits inside) more power) taken⟩
  | name start =>
      obtain ⟨body, tail, rfl, inside, stop⟩ := exists_run isNameChar rest
      have taken := cut_name start inside stop
      exact ⟨body, tail, _, rfl, taken, takes_lexeme (.ident start inside) taken⟩
  | quotation quote =>
      obtain ⟨body, tail, inside, rfl | ⟨rfl, stop⟩⟩ := quotation_cases c rest
      · have taken := cut_closed quote inside tail
        rw [List.append_cons] at taken ⊢
        have length : (body ++ [c]).length = body.length + 1 := List.length_append
        rw [← length] at taken
        exact ⟨body ++ [c], tail, _, rfl, taken, takes_lexeme (.str quote inside) taken⟩
      · have taken := cut_open quote inside stop
        refine ⟨body, tail, _, rfl, taken, .piece (.unclosed quote inside stop ?_)⟩
        -- A lexeme would be closed, and the scanner would have taken it.
        intro lexeme isPrefix token? denotes
        obtain ⟨own, behind, rfl, same⟩ := denotes.exists_of_prefix isPrefix
        obtain ⟨text, rfl, inside'⟩ := denotes.closed quote
        rw [same, List.append_assoc] at taken
        cases (cut_closed quote inside' behind).symm.trans taken
  | mark listed =>
      have taken := cut_mark listed rest
      exact ⟨[], rest, _, rfl, taken, takes_lexeme (.mark listed) taken⟩
  | stray alone space comment digit name quote mark =>
      refine ⟨[], rest, _, rfl, alone rest, .piece (.stray space comment quote ?_)⟩
      intro lexeme isPrefix token? denotes
      obtain ⟨own, behind, rfl, -⟩ := denotes.exists_of_prefix isPrefix
      rcases denotes.starts with isDigit | start | listed | ⟨isQuote, -⟩
      · exact absurd isDigit (Bool.eq_false_iff.mp digit)
      · exact absurd start (Bool.eq_false_iff.mp name)
      · exact absurd listed (Bool.eq_false_iff.mp mark)
      · exact quote isQuote

end Token

end QuantumWorkbench
