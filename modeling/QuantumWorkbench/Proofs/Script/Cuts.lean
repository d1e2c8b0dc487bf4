import QuantumWorkbench.Script.Token

/-!
# What stands at the head of a text

The scanner takes the text apart from its head. What it takes is told here by what the text is put together
from: a run of characters of one class, and what follows it.

## Contents
- `Token.exists_run`, `Token.takeWhile_of_stop`: runs of characters of one class.
- `Token.Exponent`: exponents and their values; `Token.exists_exponent` and `Token.Exponent.length_le`: the one at
  the head of a text is as long as one can be.
- `Token.floatValue_eq`: the value of a number with a point.
- `Token.Starts`, `Token.starts`: what a character can start, with the law of `Token.cut` for each kind.
- `Token.Breaks`, `Token.cut_break`: what does not lengthen a word or a number.
-/

namespace QuantumWorkbench

namespace Token

/-! ## Runs -/

/-- A run of characters of one class, and what follows it. -/
theorem exists_run (p : Char → Bool) (text : List Char) : ∃ run tail, text = run ++ tail ∧
    (∀ c ∈ run, p c = true) ∧ ∀ c ∈ tail.head?, p c = false := by
  induction text with
  | nil => exact ⟨[], [], rfl, nofun, nofun⟩
  | cons c rest ih =>
      cases holds : p c with
      | false =>
          refine ⟨[], c :: rest, rfl, nofun, ?_⟩
          rintro _ ⟨⟩
          exact holds
      | true =>
          obtain ⟨run, tail, rfl, inside, stop⟩ := ih
          exact ⟨c :: run, tail, rfl, List.forall_mem_cons.mpr ⟨holds, inside⟩, stop⟩

/-- A run of characters of one class ends where the class ends. -/
theorem takeWhile_of_stop {p : Char → Bool} {run tail : List Char} (inside : ∀ c ∈ run, p c = true)
    (stop : ∀ c ∈ tail.head?, p c = false) : (run ++ tail).takeWhile p = run := by
  rw [List.takeWhile_append_of_pos inside]
  cases tail with
  | nil => simp
  | cons c tail =>
      have out : ¬ p c = true := by simp [stop c rfl]
      rw [List.takeWhile_cons_of_neg out, List.append_nil]

/-- A class that has neither a blank nor the mark of a comment in it starts no gap. -/
theorem noGap {p : Char → Bool} (out : [' ', '\t', '\r', '\n', '\x0c', '#'].any p = false) {c : Char}
    (h : p c = true) : ¬ isSpace c = true ∧ c ≠ '#' := by
  constructor
  · intro space
    simp only [isSpace, Bool.or_eq_true, decide_eq_true_eq] at space
    rcases space with (((rfl | rfl) | rfl) | rfl) | rfl <;> simp [h] at out
  · rintro rfl
    simp [h] at out

theorem isDigit_of_isNameStart {c : Char} (h : isNameStart c = true) : c.isDigit = false := by
  by_cases underscore : c = '_'
  · rw [underscore]
    rfl
  · have letter : c.isAlpha = (decide (c.val ≥ 'A'.val ∧ c.val ≤ 'Z'.val) ||
        decide (c.val ≥ 'a'.val) && decide (c.val ≤ 'z'.val)) := rfl
    simp only [isNameStart, underscore, decide_false, Bool.or_false, letter, Bool.or_eq_true,
      Bool.and_eq_true, decide_eq_true_eq] at h
    simp only [Char.isDigit, Bool.and_eq_false_iff, decide_eq_false_iff_not]
    grind

/-! ## Exponents -/

/-- One digit or several. -/
def IsDigits (ds : List Char) : Prop := ds ≠ [] ∧ ∀ d ∈ ds, d.isDigit = true

/-- The signs of an exponent, and what they multiply it by. -/
def signs : List (List Char × Int) := [([], 1), (['+'], 1), (['-'], -1)]

/-- The text is an exponent with this value: a mark, possibly a sign, and digits. It may be missing, and is `0` then. -/
inductive Exponent : List Char → Int → Prop where
  | missing : Exponent [] 0
  | power {mark : Char} {sign ds : List Char} {σ : Int} (isMark : mark = 'e' ∨ mark = 'E')
      (isSign : (sign, σ) ∈ signs) (digits : IsDigits ds) :
      Exponent (mark :: (sign ++ ds)) (σ * digitsValue ds)

theorem not_sign_of_isDigit {d : Char} (digit : d.isDigit = true) : d ≠ '+' ∧ d ≠ '-' := by
  constructor
  · rintro rfl
    cases digit
  · rintro rfl
    cases digit

/-- No exponent is taken for a digit. -/
theorem Exponent.noDigit {exponent : List Char} {e : Int} (h : Exponent exponent e) :
    ∀ d ∈ exponent.head?, d.isDigit = false := by
  cases h with
  | missing => nofun
  | power isMark =>
      rintro _ ⟨⟩
      rcases isMark with rfl | rfl <;> rfl

theorem exponentLength_of_ne {c : Char} (noMark : ¬ (c = 'e' ∨ c = 'E')) (rest : List Char) :
    exponentLength (c :: rest) = 0 := by
  unfold exponentLength
  exact if_neg noMark

/-- Behind the mark and the sign the digits are counted. -/
theorem exponentLength_mark {mark : Char} {sign : List Char} {σ : Int} (isMark : mark = 'e' ∨ mark = 'E')
    (isSign : (sign, σ) ∈ signs) {ds : List Char} (unsigned : sign = [] → ∀ d ∈ ds.head?, d ≠ '+' ∧ d ≠ '-') :
    exponentLength (mark :: (sign ++ ds)) =
      if ds.takeWhile Char.isDigit = [] then 0 else 1 + sign.length + (ds.takeWhile Char.isDigit).length := by
  simp only [signs, List.mem_cons, Prod.mk.injEq, List.not_mem_nil, or_false] at isSign
  rcases isSign with ⟨rfl, -⟩ | ⟨rfl, -⟩ | ⟨rfl, -⟩
  · cases ds with
    | nil => simp [exponentLength]
    | cons d ds =>
        -- What stands in the place of the sign is none.
        obtain ⟨noPlus, noMinus⟩ := unsigned rfl d rfl
        cases run : (d :: ds).takeWhile Char.isDigit <;> simp [exponentLength, isMark, noPlus, noMinus, run]
  · cases run : ds.takeWhile Char.isDigit <;> simp [exponentLength, isMark, run]
  · cases run : ds.takeWhile Char.isDigit <;> simp [exponentLength, isMark, run]

/-- What stands behind a mark: a sign, unless there is none, and the rest. -/
theorem exists_sign (text : List Char) : ∃ sign σ ds, text = sign ++ ds ∧ (sign, σ) ∈ signs ∧
    (sign = [] → ∀ d ∈ ds.head?, d ≠ '+' ∧ d ≠ '-') := by
  cases text with
  | nil => exact ⟨[], 1, [], rfl, by decide, nofun⟩
  | cons d rest =>
      by_cases plus : d = '+'
      · exact ⟨['+'], 1, rest, by rw [plus]; rfl, by decide, nofun⟩
      by_cases minus : d = '-'
      · exact ⟨['-'], -1, rest, by rw [minus]; rfl, by decide, nofun⟩
      refine ⟨[], 1, d :: rest, rfl, by decide, ?_⟩
      rintro - _ ⟨⟩
      exact ⟨plus, minus⟩

/-- A sign may stand before digits, and no second one is taken for it. -/
theorem unsigned_digits {ds : List Char} (digits : IsDigits ds) (tail : List Char) :
    ∀ d ∈ (ds ++ tail).head?, d ≠ '+' ∧ d ≠ '-' := by
  obtain ⟨some, inside⟩ := digits
  obtain ⟨d, ds, rfl⟩ := List.exists_cons_of_ne_nil some
  rintro _ ⟨⟩
  exact not_sign_of_isDigit (inside d List.mem_cons_self)

/-- **How long an exponent is.** At the head of every text there is one, which may be missing. -/
theorem exists_exponent (text : List Char) :
    ∃ exponent tail e, text = exponent ++ tail ∧ Exponent exponent e ∧ exponentLength text = exponent.length := by
  cases text with
  | nil => exact ⟨[], [], 0, rfl, .missing, rfl⟩
  | cons mark rest =>
      by_cases isMark : mark = 'e' ∨ mark = 'E'
      · obtain ⟨sign, σ, ds, rfl, isSign, unsigned⟩ := exists_sign rest
        obtain ⟨run, tail, rfl, inside, stop⟩ := exists_run Char.isDigit ds
        have counted := exponentLength_mark isMark isSign unsigned
        rw [takeWhile_of_stop inside stop] at counted
        -- A mark without digits is no exponent, even if a sign stands behind it.
        by_cases none : run = []
        · rw [if_pos none] at counted
          exact ⟨[], _, 0, rfl, .missing, counted⟩
        · rw [if_neg none] at counted
          refine ⟨mark :: (sign ++ run), tail, _, ?_, .power isMark isSign ⟨none, inside⟩, ?_⟩
          · rw [List.cons_append, List.append_assoc]
          · rw [counted, List.length_cons, List.length_append, Nat.add_assoc, Nat.add_comm 1]
      · exact ⟨[], _, 0, rfl, .missing, exponentLength_of_ne isMark rest⟩

/-- No exponent at the head of a text is longer. -/
theorem Exponent.length_le {exponent : List Char} {e : Int} (h : Exponent exponent e) (tail : List Char) :
    exponent.length ≤ exponentLength (exponent ++ tail) := by
  cases h with
  | missing => exact Nat.zero_le _
  | @power mark sign ds σ isMark isSign digits =>
      -- Digits that follow are counted too.
      obtain ⟨more, tail, rfl, further, stop⟩ := exists_run Char.isDigit tail
      have counted := exponentLength_mark isMark isSign fun _ => unsigned_digits digits (more ++ tail)
      have all : ∀ d ∈ ds ++ more, d.isDigit = true := List.forall_mem_append.mpr ⟨digits.2, further⟩
      rw [← List.append_assoc ds, takeWhile_of_stop all stop,
        if_neg (List.append_ne_nil_of_left_ne_nil digits.1 more)] at counted
      rw [List.cons_append, List.append_assoc, ← List.append_assoc ds, counted]
      simp only [List.length_cons, List.length_append]
      omega

theorem exponentLength_le (text : List Char) : exponentLength text ≤ text.length := by
  obtain ⟨exponent, tail, _, rfl, -, counted⟩ := exists_exponent text
  rw [counted, List.length_append]
  exact Nat.le_add_right _ _

/-! ## Floats -/

/-- The value of a float is told by its digits and its exponent. -/
theorem floatValue_eq {whole fraction exponent : List Char} {e : Int} (digits : ∀ d ∈ whole, d.isDigit = true)
    (more : ∀ d ∈ fraction, d.isDigit = true) (power : Exponent exponent e) :
    floatValue (whole ++ '.' :: (fraction ++ exponent)) =
      nearestFloat (digitsValue (whole ++ fraction)) (e - fraction.length) := by
  have run : (whole ++ '.' :: (fraction ++ exponent)).takeWhile Char.isDigit = whole :=
    takeWhile_of_stop digits (by rintro _ ⟨⟩; rfl)
  have behind : (whole ++ '.' :: (fraction ++ exponent)).drop (whole.length + 1) = fraction ++ exponent := by
    rw [List.drop_length_add_append, List.drop_succ_cons, List.drop_zero]
  simp only [floatValue, run, behind, takeWhile_of_stop more power.noDigit, List.drop_left]
  congr 2
  cases power with
  | missing => rfl
  | @power mark sign ds σ isMark isSign digits =>
      simp only [signs, List.mem_cons, Prod.mk.injEq, List.not_mem_nil, or_false] at isSign
      rcases isSign with ⟨rfl, rfl⟩ | ⟨rfl, rfl⟩ | ⟨rfl, rfl⟩
      · obtain ⟨d, ds, rfl⟩ := List.exists_cons_of_ne_nil digits.1
        obtain ⟨noPlus, noMinus⟩ := not_sign_of_isDigit (digits.2 d List.mem_cons_self)
        simp [noPlus, noMinus]
      · exact (Int.one_mul _).symm
      · exact (Int.neg_one_mul _).symm

/-! ## Heads -/

theorem cut_space {c : Char} (h : isSpace c = true) (rest : List Char) :
    cut c rest = (.gap, 0) := by
  rw [cut, if_pos h]

/-- A name goes as far as its characters do. -/
theorem cut_name {c : Char} {body tail : List Char} (start : isNameStart c = true)
    (inside : ∀ d ∈ body, isNameChar d = true) (stop : ∀ d ∈ tail.head?, isNameChar d = false) :
    cut c (body ++ tail) = (.piece (some (.ident (String.ofList (c :: body)))), body.length) := by
  obtain ⟨noSpace, noComment⟩ := noGap (p := isNameStart) (by decide) start
  have noDigit : ¬ c.isDigit = true := by simp [isDigit_of_isNameStart start]
  rw [cut, if_neg noSpace, if_neg noComment, if_neg noDigit, if_pos start]
  simp only [takeWhile_of_stop inside stop, List.take_left]

/-- A whole number goes as far as its digits do, unless a point follows. -/
theorem cut_number {c : Char} {body tail : List Char} (first : c.isDigit = true)
    (inside : ∀ d ∈ body, d.isDigit = true) (stop : ∀ d ∈ tail.head?, d.isDigit = false ∧ d ≠ '.') :
    cut c (body ++ tail) = (.piece (intToken? (c :: body)), body.length) := by
  obtain ⟨noSpace, noComment⟩ := noGap (p := Char.isDigit) (by decide) first
  have run : (body ++ tail).takeWhile Char.isDigit = body :=
    takeWhile_of_stop inside fun d hd => (stop d hd).1
  rw [cut, if_neg noSpace, if_neg noComment, if_pos first]
  simp only [run, List.drop_left, List.take_left]
  split
  · rename_i behind
    exact absurd rfl (stop '.' rfl).2
  · rfl

/-- A mark stands alone. -/
theorem cut_mark {c : Char} (h : marks.contains c = true) (rest : List Char) :
    cut c rest = (.piece (some (.mark c)), 0) := by
  have known : c ∈ marks := by simpa using h
  simp only [marks, List.mem_cons, List.not_mem_nil, or_false] at known
  rcases known with rfl | rfl | rfl | rfl | rfl | rfl | rfl | rfl | rfl | rfl | rfl | rfl | rfl <;>
    rfl

/-- A comment goes to the end of its line. -/
theorem cut_comment {body tail : List Char} (inside : ∀ d ∈ body, d ≠ '\n') (stop : ∀ d ∈ tail.head?, d = '\n') :
    cut '#' (body ++ tail) = (.gap, body.length) := by
  have run : (body ++ tail).takeWhile (· ≠ '\n') = body :=
    takeWhile_of_stop (fun d hd => decide_eq_true (inside d hd))
      fun d hd => decide_eq_false (not_not_intro (stop d hd))
  show (Head.gap, ((body ++ tail).takeWhile (· ≠ '\n')).length) = _
  rw [run]

/-- What follows a number with a point follows its exponent. -/
theorem point_append (whole fraction exponent tail : List Char) :
    (whole ++ '.' :: (fraction ++ exponent)) ++ tail = whole ++ '.' :: (fraction ++ (exponent ++ tail)) := by
  rw [List.append_assoc, List.cons_append, List.append_assoc]

/-- A number with a point goes as far as its digits and its exponent do. -/
theorem cut_point {c : Char} {whole fraction tail : List Char} (first : c.isDigit = true)
    (inside : ∀ d ∈ whole, d.isDigit = true) (more : ∀ d ∈ fraction, d.isDigit = true)
    (stop : ∀ d ∈ tail.head?, d.isDigit = false) :
    cut c (whole ++ '.' :: (fraction ++ tail)) =
      (.piece (some (.float (floatValue (c :: (whole ++ '.' :: (fraction ++ tail.take (exponentLength tail))))))),
        whole.length + 1 + fraction.length + exponentLength tail) := by
  obtain ⟨noSpace, noComment⟩ := noGap (p := Char.isDigit) (by decide) first
  have run : (whole ++ '.' :: (fraction ++ tail)).takeWhile Char.isDigit = whole :=
    takeWhile_of_stop inside (by rintro _ ⟨⟩; rfl)
  have behind : (fraction ++ tail).takeWhile Char.isDigit = fraction := takeWhile_of_stop more stop
  rw [cut, if_neg noSpace, if_neg noComment, if_pos first]
  simp only [run, List.drop_left, behind]
  have taken : (whole ++ '.' :: (fraction ++ tail)).take (whole.length + 1 + fraction.length + exponentLength tail) =
      whole ++ '.' :: (fraction ++ tail.take (exponentLength tail)) := by
    rw [Nat.add_assoc, Nat.add_assoc, List.take_length_add_append, Nat.add_comm 1, List.take_succ_cons,
      List.take_length_add_append]
  rw [taken]

/-- With an exponent that goes as far as it can, a number with a point denotes what its parts say. -/
theorem cut_float {c : Char} {whole fraction exponent tail : List Char} {e : Int} (digits : IsDigits (c :: whole))
    (more : ∀ d ∈ fraction, d.isDigit = true) (power : Exponent exponent e)
    (stop : ∀ d ∈ (exponent ++ tail).head?, d.isDigit = false)
    (longest : exponentLength (exponent ++ tail) = exponent.length) :
    cut c ((whole ++ '.' :: (fraction ++ exponent)) ++ tail) =
      (.piece (some (.float (nearestFloat (digitsValue (c :: whole ++ fraction)) (e - fraction.length)))),
        (whole ++ '.' :: (fraction ++ exponent)).length) := by
  obtain ⟨first, inside⟩ := List.forall_mem_cons.mp digits.2
  have value := floatValue_eq digits.2 more power
  rw [List.cons_append] at value
  rw [point_append, cut_point first inside more stop, longest, List.take_left, value]
  simp only [List.length_append, List.length_cons, Nat.add_assoc, Nat.add_comm 1]

/-- Behind a quote, everything up to the next one or to the end of the line is taken. -/
theorem cut_quote {c : Char} (quote : c = '"' ∨ c = '\'') (rest : List Char) : cut c rest =
    let body := rest.takeWhile fun d => d ≠ c && d ≠ '\n'
    if (rest.drop body.length).head? = some c then (.piece (some (.str (String.ofList body))), body.length + 1)
    else (.piece none, body.length) := by
  have plain : isSpace c = false ∧ c ≠ '#' ∧ c.isDigit = false ∧ isNameStart c = false := by
    rcases quote with rfl | rfl <;> decide
  obtain ⟨noSpace, noComment, noDigit, noName⟩ := plain
  simp only [cut, noSpace, noComment, noDigit, noName, quote, Bool.false_eq_true, if_false, if_true]

section Quote

variable {c : Char} {body tail : List Char}

theorem takeWhile_quotation (inside : ∀ d ∈ body, d ≠ c ∧ d ≠ '\n') (stop : ∀ d ∈ tail.head?, d = c ∨ d = '\n') :
    (body ++ tail).takeWhile (fun d => d ≠ c && d ≠ '\n') = body := by
  apply takeWhile_of_stop
  · intro d hd
    simpa using inside d hd
  · intro d hd
    rcases stop d hd with rfl | rfl <;> simp

/-- A quotation goes to the quote that closes it. -/
theorem cut_closed (quote : c = '"' ∨ c = '\'') (inside : ∀ d ∈ body, d ≠ c ∧ d ≠ '\n') (tail : List Char) :
    cut c (body ++ c :: tail) = (.piece (some (.str (String.ofList body))), body.length + 1) := by
  have closes : ∀ d ∈ (c :: tail).head?, d = c ∨ d = '\n' := by
    rintro _ ⟨⟩
    exact .inl rfl
  rw [cut_quote quote, takeWhile_quotation inside closes]
  simp only [List.drop_left, List.head?_cons, if_true]

/-- Without the quote that closes it, a quotation goes to the end of the line and is no token. -/
theorem cut_open (quote : c = '"' ∨ c = '\'') (inside : ∀ d ∈ body, d ≠ c ∧ d ≠ '\n')
    (stop : ∀ d ∈ tail.head?, d = '\n') : cut c (body ++ tail) = (.piece none, body.length) := by
  have run := takeWhile_quotation inside fun d hd => .inr (stop d hd)
  have unclosed : tail.head? ≠ some c := by
    intro closed
    have feed : c = '\n' := stop c closed
    subst feed
    exact absurd quote (by decide)
  rw [cut_quote quote, run]
  simp only [List.drop_left, if_neg unclosed]

end Quote

/-- What starts nothing stands alone. -/
theorem cut_stray {c : Char} (space : isSpace c = false) (comment : c ≠ '#') (digit : c.isDigit = false)
    (name : isNameStart c = false) (quote : ¬ (c = '"' ∨ c = '\'')) (mark : marks.contains c = false)
    (rest : List Char) : cut c rest = (.piece none, 0) := by
  simp only [cut, space, comment, digit, name, quote, mark, Bool.false_eq_true, if_false]

/-! ## Kinds of heads -/

/-- What a character can start. -/
inductive Starts : Char → Prop where
  | space {c : Char} (space : isSpace c = true) : Starts c
  | comment : Starts '#'
  | number {c : Char} (digit : c.isDigit = true) : Starts c
  | name {c : Char} (start : isNameStart c = true) : Starts c
  | quotation {c : Char} (quote : c = '"' ∨ c = '\'') : Starts c
  | mark {c : Char} (listed : marks.contains c = true) : Starts c
  | stray {c : Char} (alone : ∀ rest, cut c rest = (.piece none, 0)) (space : isSpace c = false) (comment : c ≠ '#')
      (digit : c.isDigit = false) (name : isNameStart c = false) (quote : ¬ (c = '"' ∨ c = '\''))
      (mark : marks.contains c = false) : Starts c

/-- Every character starts something, or stands alone. -/
theorem starts (c : Char) : Starts c := by
  by_cases space : isSpace c = true
  · exact .space space
  by_cases comment : c = '#'
  · rw [comment]
    exact .comment
  by_cases digit : c.isDigit = true
  · exact .number digit
  by_cases name : isNameStart c = true
  · exact .name name
  by_cases quote : c = '"' ∨ c = '\''
  · exact .quotation quote
  by_cases mark : marks.contains c = true
  · exact .mark mark
  rw [Bool.not_eq_true] at space digit name mark
  exact .stray (cut_stray space comment digit name quote mark) space comment digit name quote mark

/-- What stands behind the mark of a comment: the rest of the line. -/
theorem comment_cases (rest : List Char) : ∃ body tail, rest = body ++ tail ∧ (∀ d ∈ body, d ≠ '\n') ∧
    ∀ d ∈ tail.head?, d = '\n' := by
  obtain ⟨body, tail, rfl, inside, stop⟩ := exists_run (· ≠ '\n') rest
  exact ⟨body, tail, rfl, by simpa using inside, by simpa using stop⟩

/-- What stands behind the first digit of a number: more digits, and possibly a point and digits again. -/
theorem number_cases (rest : List Char) :
    (∃ body tail, rest = body ++ tail ∧ (∀ d ∈ body, d.isDigit = true) ∧
      ∀ d ∈ tail.head?, d.isDigit = false ∧ d ≠ '.') ∨
    ∃ whole fraction tail, rest = whole ++ '.' :: (fraction ++ tail) ∧ (∀ d ∈ whole, d.isDigit = true) ∧
      (∀ d ∈ fraction, d.isDigit = true) ∧ ∀ d ∈ tail.head?, d.isDigit = false := by
  obtain ⟨whole, tail, rfl, inside, stop⟩ := exists_run Char.isDigit rest
  by_cases point : tail.head? = some '.'
  · obtain ⟨behind, rfl⟩ := List.head?_eq_some_iff.mp point
    obtain ⟨fraction, tail, rfl, more, stop⟩ := exists_run Char.isDigit behind
    exact .inr ⟨whole, fraction, tail, rfl, inside, more, stop⟩
  · refine .inl ⟨whole, tail, rfl, inside, fun d hd => ⟨stop d hd, ?_⟩⟩
    rintro rfl
    exact point hd

/-- What stands behind a quote: a text and the quote that closes it, or the rest of the line. -/
theorem quotation_cases (c : Char) (rest : List Char) :
    ∃ body tail, (∀ d ∈ body, d ≠ c ∧ d ≠ '\n') ∧
      (rest = body ++ c :: tail ∨ rest = body ++ tail ∧ ∀ d ∈ tail.head?, d = '\n') := by
  obtain ⟨body, tail, rfl, inside, stop⟩ := exists_run (fun d => d ≠ c && d ≠ '\n') rest
  simp only [Bool.and_eq_true, decide_eq_true_eq] at inside
  by_cases closed : tail.head? = some c
  · obtain ⟨tail, rfl⟩ := List.head?_eq_some_iff.mp closed
    exact ⟨body, tail, inside, .inl rfl⟩
  · refine ⟨body, tail, inside, .inr ⟨rfl, fun d hd => ?_⟩⟩
    by_cases feed : d = '\n'
    · exact feed
    · have own : d = c := by simpa [feed] using stop d hd
      exact absurd (own ▸ hd) closed

/-- What is at the head of a text is no longer than the text. -/
theorem cut_le (c : Char) (rest : List Char) : (cut c rest).2 ≤ rest.length := by
  cases starts c with
  | space space =>
      rw [cut_space space]
      exact Nat.zero_le _
  | comment =>
      obtain ⟨body, tail, rfl, inside, stop⟩ := comment_cases rest
      rw [cut_comment inside stop, List.length_append]
      exact Nat.le_add_right _ _
  | number digit =>
      rcases number_cases rest with ⟨body, tail, rfl, inside, stop⟩ | ⟨whole, fraction, tail, rfl, inside, more, stop⟩
      · rw [cut_number digit inside stop, List.length_append]
        exact Nat.le_add_right _ _
      · have inside' := exponentLength_le tail
        rw [cut_point digit inside more stop]
        simp only [List.length_append, List.length_cons]
        omega
  | name start =>
      obtain ⟨body, tail, rfl, inside, stop⟩ := exists_run isNameChar rest
      rw [cut_name start inside stop, List.length_append]
      exact Nat.le_add_right _ _
  | quotation quote =>
      obtain ⟨body, tail, inside, rfl | ⟨rfl, stop⟩⟩ := quotation_cases c rest
      · rw [cut_closed quote inside, List.length_append]
        exact Nat.add_le_add_left (Nat.succ_pos _) _
      · rw [cut_open quote inside stop, List.length_append]
        exact Nat.le_add_right _ _
  | mark listed =>
      rw [cut_mark listed]
      exact Nat.zero_le _
  | stray alone =>
      rw [alone]
      exact Nat.zero_le _

/-! ## Breaks -/

/-- What may stand behind a word or a number without being part of it. -/
structure Breaks (d : Char) : Prop where
  noName : isNameChar d = false
  noPoint : d ≠ '.'
  noSign : d ≠ '+' ∧ d ≠ '-'

theorem Breaks.noDigit {d : Char} (h : Breaks d) : d.isDigit = false := by
  have outside := h.noName
  rw [isNameChar, Char.isAlphanum, Bool.or_eq_false_iff, Bool.or_eq_false_iff] at outside
  exact outside.1.2

/-- A run of characters does not go on into one that is none of them. -/
theorem takeWhile_break {p : Char → Bool} {d : Char} (stops : p d = false) (text behind : List Char) :
    (text ++ d :: behind).takeWhile p = text.takeWhile p := by
  induction text with
  | nil => simp [stops]
  | cons c rest ih => rw [List.cons_append, List.takeWhile_cons, List.takeWhile_cons, ih]

theorem head?_break {P : Char → Prop} {tail : List Char} (stop : ∀ d ∈ tail.head?, P d) {d : Char} (breaks : P d)
    (behind : List Char) : ∀ d' ∈ (tail ++ d :: behind).head?, P d' := by
  cases tail with
  | nil =>
      rintro _ ⟨⟩
      exact breaks
  | cons => exact stop

/-- No exponent goes on into a character that breaks words. -/
theorem exponentLength_break {d : Char} (breaks : Breaks d) (text behind : List Char) :
    exponentLength (text ++ d :: behind) = exponentLength text := by
  cases text with
  | nil =>
      apply exponentLength_of_ne
      rintro (rfl | rfl)
      · cases breaks.noName
      · cases breaks.noName
  | cons mark rest =>
      by_cases isMark : mark = 'e' ∨ mark = 'E'
      · obtain ⟨sign, σ, ds, rfl, isSign, unsigned⟩ := exists_sign rest
        rw [exponentLength_mark isMark isSign unsigned, List.cons_append, List.append_assoc,
          exponentLength_mark isMark isSign fun none => head?_break (unsigned none) breaks.noSign behind,
          takeWhile_break breaks.noDigit]
      · rw [List.cons_append, exponentLength_of_ne isMark, exponentLength_of_ne isMark]

/-- **What stands at the head of a text does not go on into a break**, unless that may be commented out or quoted. -/
theorem cut_break {d : Char} (breaks : Breaks d) {c : Char} (comment : c ≠ '#') (quote : ¬ (c = '"' ∨ c = '\''))
    (rest behind : List Char) : cut c (rest ++ d :: behind) = cut c rest := by
  cases starts c with
  | space space => rw [cut_space space, cut_space space]
  | comment => exact absurd rfl comment
  | number digit =>
      rcases number_cases rest with ⟨body, tail, rfl, inside, stop⟩ | ⟨whole, fraction, tail, rfl, inside, more, stop⟩
      · rw [List.append_assoc, cut_number digit inside stop,
          cut_number digit inside (head?_break stop ⟨breaks.noDigit, breaks.noPoint⟩ behind)]
      · have stop' := head?_break stop breaks.noDigit behind
        rw [point_append, cut_point digit inside more stop, cut_point digit inside more stop',
          exponentLength_break breaks,
          List.take_append_of_le_length (exponentLength_le tail)]
  | name start =>
      obtain ⟨body, tail, rfl, inside, stop⟩ := exists_run isNameChar rest
      rw [List.append_assoc, cut_name start inside stop,
        cut_name start inside (head?_break stop breaks.noName behind)]
  | quotation own => exact absurd own quote
  | mark listed => rw [cut_mark listed, cut_mark listed]
  | stray alone => rw [alone, alone]

end Token

end QuantumWorkbench
