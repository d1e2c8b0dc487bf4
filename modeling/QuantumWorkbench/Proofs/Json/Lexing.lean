import Mathlib.Data.List.TakeDrop
import Mathlib.Data.List.TakeWhile
import QuantumWorkbench.Json.Printer
import QuantumWorkbench.Json.Reader

/-!
# Scalars and their texts

How the scanner goes over the text of a scalar. A string ends with its quote. A number ends where no
number goes on, so that what stands behind it has to be looked at.

## Contents
- `JsonToken.lexFrom?`: the tokens of a text, and `Json.value?_eq`: reading is scanning and building.
- `JsonToken.lexFrom?_quoted`: a quoted text is scanned as its string.
- `JsonToken.Lexes`: what a text is scanned as in front of anything that ends a word.
- `JsonToken.lexes_int`: the numeral of a whole number is scanned as the number.
-/

namespace QuantumWorkbench

/-! ## Scanning and building -/

/-- The tokens of a text, from a place of the scanner. -/
def JsonToken.lexFrom? (scan : JsonToken.Scan) : List Char → Option (List JsonToken)
  | [] => scan.finish?
  | c :: rest =>
    (scan.step? c).bind fun (tokens, next) => (tokens ++ ·) <$> lexFrom? next rest

/-- The value that is complete. -/
def Json.Builder.result? (b : Json.Builder) : Option Json :=
  match b.due with
  | .nothing v => some v
  | _ => none

/-- **Reading is scanning and then building.** -/
theorem Json.value?_eq (isStrict : Bool) (text : String) :
    Json.value? isStrict text = (JsonToken.lexFrom? .gap text.toList).bind fun tokens =>
      (tokens.foldlM (Builder.step? isStrict) {}).bind Builder.result? := by
  suffices ∀ (chars : List Char) (b : Builder) (scan : JsonToken.Scan),
      ((chars.foldlM (fun (state : Builder × JsonToken.Scan) c => do
          let (ts, scan) ← state.2.step? c
          return (← ts.foldlM (Builder.step? isStrict) state.1, scan)) (b, scan)).bind
        fun state => (state.2.finish?).bind fun ts =>
          (ts.foldlM (Builder.step? isStrict) state.1).bind Builder.result?) =
      (JsonToken.lexFrom? scan chars).bind fun tokens =>
        (tokens.foldlM (Builder.step? isStrict) b).bind Builder.result? from
    this text.toList {} .gap
  intro chars
  induction chars with
  | nil => exact fun _ _ => rfl
  | cons c rest ih =>
      intro b scan
      rw [List.foldlM_cons, JsonToken.lexFrom?]
      cases stepped : scan.step? c with
      | none => rfl
      | some pair =>
          obtain ⟨tokens, next⟩ := pair
          -- What the character completes is built before what stands behind it.
          have behind : ∀ more : Option (List JsonToken),
              (((tokens ++ ·) <$> more).bind fun tokens =>
                (tokens.foldlM (Builder.step? isStrict) b).bind Builder.result?) =
              more.bind fun more => ((tokens.foldlM (Builder.step? isStrict) b).bind fun b =>
                more.foldlM (Builder.step? isStrict) b).bind Builder.result? := by
            intro more
            cases more with
            | none => rfl
            | some more =>
                show ((tokens ++ more).foldlM (Builder.step? isStrict) b).bind Builder.result? = _
                rw [List.foldlM_append]
                rfl
          rw [Option.bind_some, behind]
          cases built : tokens.foldlM (Builder.step? isStrict) b with
          | none => simp [built]
          | some b' =>
              have going := ih b' next
              simpa [built] using going

namespace JsonToken

open Scan

/-- Groups of tokens are put in front one after the other, or together. -/
theorem prepend_prepend (ts us : List JsonToken) (more? : Option (List JsonToken)) :
    (ts ++ ·) <$> ((us ++ ·) <$> more?) = (ts ++ us ++ ·) <$> more? := by
  cases more? with
  | none => rfl
  | some more => exact congrArg some (List.append_assoc ts us more).symm

section Steps

variable {scan next : Scan} {c : Char} {rest : List Char}

theorem lexFrom?_step {tokens : List JsonToken} (stepped : scan.step? c = some (tokens, next)) :
    lexFrom? scan (c :: rest) = (tokens ++ ·) <$> lexFrom? next rest := by
  rw [lexFrom?, stepped]
  rfl

/-- A character that completes nothing. -/
theorem lexFrom?_quiet (stepped : scan.step? c = some ([], next)) :
    lexFrom? scan (c :: rest) = lexFrom? next rest := by
  rw [lexFrom?_step stepped]
  exact Option.map_id_apply

theorem lexFrom?_space (space : isSpace c = true) : lexFrom? .gap (c :: rest) = lexFrom? .gap rest :=
  lexFrom?_quiet (if_pos space)

theorem lexFrom?_spaces {blank : List Char} (spaces : ∀ c ∈ blank, isSpace c = true) :
    lexFrom? .gap (blank ++ rest) = lexFrom? .gap rest := by
  induction blank with
  | nil => rfl
  | cons c blank ih =>
      obtain ⟨space, spaces⟩ := List.forall_mem_cons.mp spaces
      rw [List.cons_append, lexFrom?_space space, ih spaces]

theorem lexFrom?_mark {token : JsonToken} (mark : mark? c = some token) :
    lexFrom? .gap (c :: rest) = (token :: ·) <$> lexFrom? .gap rest := by
  have known : Scan.gap.step? c = some ([token], .gap) := by
    unfold mark? at mark
    split at mark
    all_goals first | (cases mark; rfl) | cases mark
  exact lexFrom?_step known

end Steps

/-! ## Strings -/

theorem lexFrom?_plain {c : Char} (noQuote : c ≠ '"') (noBackslash : c ≠ '\\') (read rest : List Char) :
    lexFrom? (.text read) (c :: rest) = lexFrom? (.text (c :: read)) rest :=
  lexFrom?_quiet (by rw [step?, if_neg noQuote, if_neg noBackslash])

/-- Whatever stands behind a backslash belongs to the string. -/
theorem lexFrom?_escape (c : Char) (read rest : List Char) :
    lexFrom? (.text read) ('\\' :: c :: rest) = lexFrom? (.text (c :: '\\' :: read)) rest := by
  have opens : (Scan.text read).step? '\\' = some ([], .escaped ('\\' :: read)) := rfl
  rw [lexFrom?_quiet opens, lexFrom?_quiet rfl]

/-- The ways in which a character is written inside quotes: by one letter, by its code, or as it is. -/
theorem quotedChar_cases (c : Char) :
    (∃ letter, (quotedChar c).toList = ['\\', letter] ∧ escape? letter = some c) ∨
    (c.toNat < 32 ∧ (quotedChar c).toList =
      ['\\', 'u', '0', '0', Nat.digitChar (c.toNat / 16), Nat.digitChar (c.toNat % 16)]) ∨
    ((quotedChar c).toList = [c] ∧ c ≠ '"' ∧ c ≠ '\\' ∧ ¬ c < ' ') := by
  unfold quotedChar
  split
  · exact .inl ⟨'"', rfl, rfl⟩
  · exact .inl ⟨'\\', rfl, rfl⟩
  · exact .inl ⟨'b', rfl, rfl⟩
  · exact .inl ⟨'f', rfl, rfl⟩
  · exact .inl ⟨'n', rfl, rfl⟩
  · exact .inl ⟨'r', rfl, rfl⟩
  · exact .inl ⟨'t', rfl, rfl⟩
  · rename_i noQuote noBackslash _ _ _ _ _
    split
    · rename_i control
      refine .inr (.inl ⟨control, ?_⟩)
      rw [String.toList_append]
      exact congrArg (['\\', 'u', '0', '0'] ++ ·) String.toList_ofList
    · rename_i visible
      exact .inr (.inr ⟨String.toList_singleton c, noQuote, noBackslash, visible⟩)

theorem digitChar_plain : ∀ n < 16, Nat.digitChar n ≠ '"' ∧ Nat.digitChar n ≠ '\\' := by
  decide

/-- A character is scanned as it is written, and stays inside its string. -/
theorem lexFrom?_quotedChar (c : Char) (read rest : List Char) :
    lexFrom? (.text read) ((quotedChar c).toList ++ rest) =
      lexFrom? (.text ((quotedChar c).toList.reverse ++ read)) rest := by
  rcases quotedChar_cases c with ⟨letter, written, -⟩ | ⟨control, written⟩ | ⟨written, noQuote, noBackslash, -⟩
  · rw [written]
    exact lexFrom?_escape letter read rest
  · obtain ⟨highQuote, highBackslash⟩ := digitChar_plain (c.toNat / 16) (by omega)
    obtain ⟨lowQuote, lowBackslash⟩ := digitChar_plain (c.toNat % 16) (Nat.mod_lt _ (by decide))
    rw [written]
    show lexFrom? (.text read) ('\\' :: 'u' :: '0' :: '0' :: _ :: _ :: rest) = _
    rw [lexFrom?_escape, lexFrom?_plain (by decide) (by decide), lexFrom?_plain (by decide) (by decide),
      lexFrom?_plain highQuote highBackslash, lexFrom?_plain lowQuote lowBackslash]
    rfl
  · rw [written]
    exact lexFrom?_plain noQuote noBackslash read rest

theorem hex4?_digitChar : ∀ n < 32,
    hex4? '0' '0' (Nat.digitChar (n / 16)) (Nat.digitChar (n % 16)) = some n := by
  decide

/-- A character is read as it was before it was written. -/
theorem unescape_quotedChar (c : Char) (rest : List Char) :
    unescape ((quotedChar c).toList ++ rest) = (c :: ·) <$> unescape rest := by
  rcases quotedChar_cases c with ⟨letter, written, known⟩ | ⟨control, written⟩ |
      ⟨written, -, noBackslash, visible⟩
  · have short : letter ≠ 'u' := by
      rintro rfl
      cases known
    rw [written, List.cons_append, List.cons_append, List.nil_append, unescape, known]
    · cases unescape rest with
      | none => rfl
      | some cs => rfl
    · exact fun _ _ _ _ _ same _ => short same
  · have code := hex4?_digitChar c.toNat control
    rw [written]
    show unescape ('\\' :: 'u' :: '0' :: '0' :: _ :: _ :: rest) = _
    rw [unescape, code]
    show (if _ then _ else _) = _
    rw [if_pos (.inl (by omega)), Char.ofNat_toNat]
    cases unescape rest with
    | none => rfl
    | some cs => rfl
  · rw [written, List.cons_append, List.nil_append, unescape, if_neg visible]
    · exact fun _ _ _ _ _ same _ => noBackslash same
    · exact fun _ _ same _ => noBackslash same
    · exact fun same _ => noBackslash same

/-- A quoted text between its quotes. -/
def quotedBody (cs : List Char) : List Char := cs.flatMap fun c => (quotedChar c).toList

theorem toList_quotedText (s : String) : (quotedText s).toList = '"' :: (quotedBody s.toList ++ ['"']) := by
  have folded : ∀ (cs : List Char) (acc : String),
      (cs.foldl (fun acc c => acc ++ quotedChar c) acc).toList = acc.toList ++ quotedBody cs := by
    intro cs
    induction cs with
    | nil => exact fun acc => (List.append_nil _).symm
    | cons c cs ih =>
        intro acc
        rw [List.foldl_cons, ih, String.toList_append, List.append_assoc]
        rfl
  rw [quotedText, String.toList_append, String.toList_append, folded]
  rfl

theorem lexFrom?_quotedBody (cs read rest : List Char) :
    lexFrom? (.text read) (quotedBody cs ++ rest) =
      lexFrom? (.text ((quotedBody cs).reverse ++ read)) rest := by
  induction cs generalizing read with
  | nil => rfl
  | cons c cs ih =>
      show lexFrom? _ (((quotedChar c).toList ++ quotedBody cs) ++ rest) =
        lexFrom? (.text (((quotedChar c).toList ++ quotedBody cs).reverse ++ read)) rest
      rw [List.append_assoc, lexFrom?_quotedChar, ih, List.reverse_append, List.append_assoc]

theorem unescape_quotedBody (cs : List Char) : unescape (quotedBody cs) = some cs := by
  induction cs with
  | nil => rfl
  | cons c cs ih =>
      show unescape ((quotedChar c).toList ++ quotedBody cs) = _
      rw [unescape_quotedChar, ih]
      rfl

/-- **A quoted text is scanned as its string.** -/
theorem lexFrom?_quoted (s : String) (rest : List Char) :
    lexFrom? .gap ((quotedText s).toList ++ rest) = (.scalar (.str s) :: ·) <$> lexFrom? .gap rest := by
  have closed : (Scan.text (quotedBody s.toList).reverse).step? '"' = some ([.scalar (.str s)], .gap) := by
    show (text? (quotedBody s.toList).reverse.reverse).map _ = _
    rw [List.reverse_reverse, text?, unescape_quotedBody]
    show some ([scalar (.str (String.ofList s.toList))], _) = _
    rw [String.ofList_toList]
  have opened : Scan.gap.step? '"' = some ([], .text []) := rfl
  rw [toList_quotedText, List.cons_append, List.append_assoc, lexFrom?_quiet opened, lexFrom?_quotedBody,
    List.append_nil, List.cons_append, List.nil_append, lexFrom?_step closed]
  rfl

/-! ## Words -/

/-- What stands behind a word does not go on with it. -/
def Stops (rest : List Char) : Prop := ∀ c ∈ rest.head?, isWordChar c = false

theorem isWordChar_of_isSpace {c : Char} (space : isSpace c = true) : isWordChar c = false := by
  simp only [isSpace, Bool.or_eq_true, decide_eq_true_eq] at space
  rcases space with ((rfl | rfl) | rfl) | rfl <;> rfl

theorem start?_word {c : Char} (inside : isWordChar c = true) : start? c = some ([], .word [c]) := by
  have noSpace : isSpace c = false := by
    rw [Bool.eq_false_iff]
    intro space
    rw [isWordChar_of_isSpace space] at inside
    cases inside
  have noQuote : c ≠ '"' := by
    rintro rfl
    cases inside
  have noMark : mark? c = none := by
    unfold mark?
    split
    all_goals first | cases inside | rfl
  rw [start?, noSpace, if_neg noQuote, noMark, inside]
  rfl

/-- The text is scanned as the tokens, in front of anything that ends a word. -/
def Lexes (text : List Char) (tokens : List JsonToken) : Prop :=
  ∀ rest, Stops rest → lexFrom? .gap (text ++ rest) = (tokens ++ ·) <$> lexFrom? .gap rest

theorem lexFrom?_wordChars {word : List Char} (inside : ∀ c ∈ word, isWordChar c = true)
    (read rest : List Char) :
    lexFrom? (.word read) (word ++ rest) = lexFrom? (.word (word.reverse ++ read)) rest := by
  induction word generalizing read with
  | nil => rfl
  | cons c word ih =>
      obtain ⟨first, inside⟩ := List.forall_mem_cons.mp inside
      have goesOn : (Scan.word read).step? c = some ([], .word (c :: read)) := if_pos first
      rw [List.cons_append, lexFrom?_quiet goesOn, ih inside, List.reverse_cons, List.append_assoc]
      rfl

/-- What ends a word completes it, and begins something else. -/
theorem step?_ends {read : List Char} {c : Char} {v : Json} (ends : isWordChar c = false)
    (means : word? read.reverse = some v) :
    (Scan.word read).step? c = (start? c).map fun pair => (.scalar v :: pair.1, pair.2) := by
  have outside : ¬ isWordChar c = true := by simp [ends]
  rw [Scan.step?, if_neg outside, means]
  cases start? c with
  | none => rfl
  | some pair => rfl

/-- A word is complete when something else begins. -/
theorem lexes_word {word : List Char} {v : Json} (inside : ∀ c ∈ word, isWordChar c = true)
    (means : word? word = some v) (nonempty : word ≠ []) : Lexes word [.scalar v] := by
  intro rest stops
  obtain ⟨c, word, rfl⟩ := List.exists_cons_of_ne_nil nonempty
  obtain ⟨first, inside⟩ := List.forall_mem_cons.mp inside
  have means' : word? (word.reverse ++ [c]).reverse = some v := by
    rwa [List.reverse_append, List.reverse_reverse]
  have begins : Scan.gap.step? c = some ([], .word [c]) := start?_word first
  rw [List.cons_append, lexFrom?_quiet begins, lexFrom?_wordChars inside]
  cases rest with
  | nil =>
      show (word? _).map _ = _
      rw [means']
      rfl
  | cons d rest =>
      -- The character that ends the word begins something else in the same step.
      rw [lexFrom?, step?_ends (stops d rfl) means', lexFrom?, Scan.step?]
      cases start? d with
      | none => rfl
      | some pair =>
          obtain ⟨tokens, next⟩ := pair
          exact (prepend_prepend [.scalar v] tokens _).symm

theorem lexes_null : Lexes "null".toList [.scalar .null] :=
  lexes_word (List.all_eq_true.mp rfl) rfl (by decide)

theorem lexes_bool (b : Bool) : Lexes (Json.bool b).scalarText.toList [.scalar (.bool b)] := by
  cases b with
  | false => exact lexes_word (List.all_eq_true.mp rfl) rfl (by decide)
  | true => exact lexes_word (List.all_eq_true.mp rfl) rfl (by decide)

/-! ## Whole numbers -/

/-- A numeral of more than one digit does not begin with a zero. -/
theorem head?_toDigits {n : Nat} (pos : 0 < n) : (Nat.toDigits 10 n).head? ≠ some '0' := by
  induction n using Nat.base_induction 10 (by decide) with
  | single m small =>
      rw [Nat.toDigits_of_lt_base small]
      revert m
      decide
  | digit m k low pos' ih =>
      -- The first digit is that of the number without its last digit.
      rw [← Nat.toDigits_append_toDigits (by decide) pos' low, List.head?_append]
      cases digits : (Nat.toDigits 10 m).head? with
      | none => exact absurd (List.head?_eq_none_iff.mp digits) Nat.toDigits_ne_nil
      | some c =>
          rw [digits] at ih
          exact ih pos'

theorem isDigit_toDigits (n : Nat) : ∀ c ∈ Nat.toDigits 10 n, c.isDigit = true :=
  fun _ hc => Nat.isDigit_of_mem_toDigits (by decide) (by decide) hc

theorem span_toDigits (n : Nat) : (Nat.toDigits 10 n).span Char.isDigit = (Nat.toDigits 10 n, []) := by
  rw [List.span_eq_takeWhile_dropWhile, List.takeWhile_eq_self_iff.mpr (isDigit_toDigits n),
    List.dropWhile_eq_nil_iff.mpr (isDigit_toDigits n)]

theorem digitsValue_toDigits (n : Nat) : digitsValue (Nat.toDigits 10 n) = n :=
  Nat.ofDigitChars_ten_toDigits

/-- A numeral has one digit, or does not begin with a zero. -/
theorem canonical_toDigits (n : Nat) :
    (Nat.toDigits 10 n).length = 1 ∨ (Nat.toDigits 10 n).head? ≠ some '0' := by
  cases n with
  | zero => exact .inl rfl
  | succ n => exact .inr (head?_toDigits (Nat.succ_pos n))

/-- The sign of a number as it is written. -/
def signText (negative : Bool) : List Char := if negative then ['-'] else []

/-- **A numeral is the whole number that it stands for.** -/
theorem number?_numeral (negative : Bool) (n : Nat) :
    number? (signText negative ++ Nat.toDigits 10 n) = some (wholeNumber negative n) := by
  unfold number?
  split
  rename_i sign digits split
  -- No sign is split off a numeral without one, since it begins with a digit.
  have parts : (sign, digits) = (negative, Nat.toDigits 10 n) := by
    cases negative with
    | true => exact split.symm
    | false =>
        rw [← split, signText]
        split
        · rename_i same
          have signed : Nat.toDigits 10 n = '-' :: _ := same
          cases isDigit_toDigits n '-' (signed ▸ List.mem_cons_self)
        · rfl
  cases parts
  rw [span_toDigits]
  have accepted : (!(Nat.toDigits 10 n).isEmpty) = true ∧
      ((Nat.toDigits 10 n).length = 1 ∨ (Nat.toDigits 10 n).head? ≠ some '0') :=
    ⟨by simp, canonical_toDigits n⟩
  show ((if _ then some () else none) >>= fun _ =>
    some (wholeNumber negative (digitsValue (Nat.toDigits 10 n)))) = _
  rw [if_pos accepted, digitsValue_toDigits]
  rfl

theorem mem_numeral {negative : Bool} {n : Nat} {c : Char}
    (member : c ∈ signText negative ++ Nat.toDigits 10 n) : c.isDigit = true ∨ c = '-' := by
  rcases List.mem_append.mp member with sign | digit
  · cases negative with
    | true => exact .inr (List.mem_singleton.mp sign)
    | false => cases sign
  · exact .inl (isDigit_toDigits n c digit)

theorem word?_numeral (negative : Bool) (n : Nat) :
    word? (signText negative ++ Nat.toDigits 10 n) = some (wholeNumber negative n) := by
  have differs : ∀ {name : List Char}, (∃ c ∈ name, ¬ (c.isDigit = true ∨ c = '-')) →
      signText negative ++ Nat.toDigits 10 n ≠ name := by
    rintro name ⟨c, hc, outside⟩ rfl
    exact outside (mem_numeral hc)
  rw [word?, if_neg (differs ⟨'n', by decide, by decide⟩), if_neg (differs ⟨'t', by decide, by decide⟩),
    if_neg (differs ⟨'f', by decide, by decide⟩), number?_numeral]

theorem toList_toString (n : Int) :
    (toString n).toList = signText (decide (n < 0)) ++ Nat.toDigits 10 n.natAbs := by
  rw [Int.toString_eq_repr, Int.repr_eq_if]
  by_cases negative : n < 0
  · have size : (-n).toNat = n.natAbs := by omega
    rw [if_neg (Int.not_le.mpr negative), decide_eq_true negative, String.toList_append, Nat.toList_repr, size]
    rfl
  · have size : n.toNat = n.natAbs := by omega
    rw [if_pos (Int.not_lt.mp negative), decide_eq_false negative, Nat.toList_repr, size]
    rfl

/-- The number fits 64 bits, signed or unsigned. -/
def IsWord (n : Int) : Prop := -Nat.pow 2 63 ≤ n ∧ n < UInt64.size

theorem wholeNumber_natAbs {n : Int} (small : IsWord n) : wholeNumber (decide (n < 0)) n.natAbs = .int n := by
  obtain ⟨low, high⟩ := small
  rw [wholeNumber]
  by_cases negative : n < 0
  · have fits : n.natAbs ≠ 0 ∧ n.natAbs ≤ Nat.pow 2 63 := by omega
    have same : -(n.natAbs : Int) = n := by omega
    rw [decide_eq_true negative, if_pos rfl, if_pos fits, same]
  · have fits : n.natAbs < UInt64.size := by omega
    have same : (n.natAbs : Int) = n := by omega
    rw [decide_eq_false negative, if_neg Bool.false_ne_true, if_pos fits, same]

/-- **The text of a whole number is scanned as the number.** -/
theorem lexes_int {n : Int} (small : IsWord n) : Lexes (toString n).toList [.scalar (.int n)] := by
  rw [toList_toString]
  refine lexes_word ?_ ((word?_numeral _ _).trans (congrArg some (wholeNumber_natAbs small))) ?_
  · intro c hc
    rcases mem_numeral hc with digit | rfl
    · have letterOrDigit : c.isAlphanum = (c.isAlpha || c.isDigit) := rfl
      rw [isWordChar, letterOrDigit, digit]
      simp
    · rfl
  · simp

end JsonToken

end QuantumWorkbench
