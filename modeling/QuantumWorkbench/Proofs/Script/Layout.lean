import QuantumWorkbench.Proofs.Script.Lexeme

/-!
# The pieces of a text

The scanner lays out its text: gaps and pieces follow on each other from the first byte to the last one, and
each piece is the longest lexeme at its place or else no lexeme. A line feed takes a text apart, so that a
text is scanned line by line.

## Contents
- `Token.Layout`, `Token.layout_piecesFrom`: the text as gaps and pieces.
- `Token.AccountedFor`: what a character can belong to.
- `Token.piecesFrom_feed`: two lines are scanned one after the other.
- `Token.Scanned`, `Token.scanning`: what is known of the pieces of a text.
-/

namespace QuantumWorkbench

namespace Token

/-! ## Bytes -/

theorem byteLength_cons (c : Char) (rest : List Char) : byteLength (c :: rest) = c.utf8Size + byteLength rest := by
  have from_any : ∀ (cs : List Char) (n : Nat), cs.foldl (fun n c => n + c.utf8Size) n = n + byteLength cs := by
    intro cs
    induction cs with
    | nil => exact fun n => rfl
    | cons d rest ih =>
        intro n
        rw [byteLength, List.foldl_cons, List.foldl_cons, ih, ih (0 + d.utf8Size)]
        omega
  rw [byteLength, List.foldl_cons, from_any, Nat.zero_add]

theorem byteLength_append (xs ys : List Char) : byteLength (xs ++ ys) = byteLength xs + byteLength ys := by
  induction xs with
  | nil => exact (Nat.zero_add _).symm
  | cons c rest ih => rw [List.cons_append, byteLength_cons, byteLength_cons, ih, Nat.add_assoc]

/-- The number of bytes is the one of the text. -/
theorem utf8ByteSize_ofList (cs : List Char) : (String.ofList cs).utf8ByteSize = byteLength cs := by
  induction cs with
  | nil => rfl
  | cons c rest ih =>
      rw [String.ofList_cons, String.utf8ByteSize_append, ih, byteLength_cons, String.utf8ByteSize_singleton]

theorem byteLength_pos {cs : List Char} (some : cs ≠ []) : 0 < byteLength cs := by
  obtain ⟨c, rest, rfl⟩ := List.exists_cons_of_ne_nil some
  rw [byteLength_cons]
  exact Nat.add_pos_left c.utf8Size_pos _

/-! ## Layouts -/

/-- The text, whose first byte is number `start`, is made of gaps and of the pieces that were found, in order. -/
inductive Layout : Nat → List Char → List Piece → Prop where
  | nil {start : Nat} : Layout start [] []
  | gap {start : Nat} {text tail : List Char} {found : List Piece} (gap : Gap tail text)
      (rest : Layout (start + byteLength text) tail found) : Layout start (text ++ tail) found
  | piece {start : Nat} {text tail : List Char} {token? : Option Token} {found : List Piece}
      (entry : Entry tail text token?) (rest : Layout (start + byteLength text) tail found) :
      Layout start (text ++ tail) ({ token?, text, start } :: found)

theorem piecesFrom_gap {c : Char} {body tail : List Char} (taken : cut c (body ++ tail) = (.gap, body.length))
    (start : Nat) : piecesFrom start (c :: (body ++ tail)) = piecesFrom (start + byteLength (c :: body)) tail := by
  rw [piecesFrom, taken]
  simp only [List.take_left, List.drop_left]

theorem piecesFrom_piece {c : Char} {body tail : List Char} {token? : Option Token}
    (taken : cut c (body ++ tail) = (.piece token?, body.length)) (start : Nat) :
    piecesFrom start (c :: (body ++ tail)) =
      { token?, text := c :: body, start } :: piecesFrom (start + byteLength (c :: body)) tail := by
  rw [piecesFrom, taken]
  simp only [List.take_left, List.drop_left]

/-- Induction along a text as the scanner takes it apart. -/
@[elab_as_elim]
theorem scan_induction {motive : List Char → Prop} (nil : motive [])
    (step : ∀ c body tail head, cut c (body ++ tail) = (head, body.length) → Takes tail (c :: body) head →
      motive tail → motive (c :: (body ++ tail))) (text : List Char) : motive text := by
  induction length : text.length using Nat.strongRecOn generalizing text with
  | ind n ih =>
      cases text with
      | nil => exact nil
      | cons c rest =>
          obtain ⟨body, tail, head, rfl, taken, takes⟩ := cut_spec c rest
          have shorter : tail.length < n := by
            rw [← length, List.length_cons, List.length_append]
            omega
          exact step c body tail head taken takes (ih _ shorter tail rfl)

/-- **The scanner lays out its text.** -/
theorem layout_piecesFrom (start : Nat) (text : List Char) : Layout start text (piecesFrom start text) := by
  induction text using scan_induction generalizing start with
  | nil =>
      rw [piecesFrom]
      exact .nil
  | step c body tail head taken takes ih =>
      cases takes with
      | gap gap =>
          rw [piecesFrom_gap taken, ← List.cons_append]
          exact .gap gap (ih _)
      | piece entry =>
          rw [piecesFrom_piece taken, ← List.cons_append]
          exact .piece entry (ih _)

namespace Layout

variable {start : Nat} {text : List Char} {found : List Piece}

/-- Each piece is a stretch of the text, and an entry there. -/
theorem placed (h : Layout start text found) {p : Piece} (listed : p ∈ found) : ∃ before behind,
    text = before ++ (p.text ++ behind) ∧ p.start = start + byteLength before ∧ Entry behind p.text p.token? := by
  induction h with
  | nil => cases listed
  | @gap start seg tail found gap rest ih =>
      obtain ⟨before, behind, rfl, place, entry⟩ := ih listed
      refine ⟨seg ++ before, behind, (List.append_assoc ..).symm, ?_, entry⟩
      rw [place, byteLength_append, Nat.add_assoc]
  | @piece start seg tail token? found entry rest ih =>
      rcases List.mem_cons.mp listed with rfl | listed
      · exact ⟨[], tail, rfl, rfl, entry⟩
      · obtain ⟨before, behind, rfl, place, entry⟩ := ih listed
        refine ⟨seg ++ before, behind, (List.append_assoc ..).symm, ?_, entry⟩
        rw [place, byteLength_append, Nat.add_assoc]

theorem start_le (h : Layout start text found) {p : Piece} (listed : p ∈ found) : start ≤ p.start := by
  obtain ⟨before, -, -, place, -⟩ := h.placed listed
  rw [place]
  exact Nat.le_add_right _ _

/-- No piece starts before the one in front of it has ended. -/
theorem ordered (h : Layout start text found) : found.Pairwise fun p q => p.stop ≤ q.start := by
  induction h with
  | nil => exact .nil
  | gap gap rest ih => exact ih
  | piece entry rest ih => exact .cons (fun q listed => rest.start_le listed) ih


end Layout

/-! ## What is between the pieces -/

/-- No piece has a byte from number `i` to before number `j`. -/
def Clear (found : List Piece) (i j : Nat) : Prop := ∀ p ∈ found, p.stop ≤ i ∨ j ≤ p.start

/-- What accounts for the character `c` behind `before`, in a text whose first byte is number `start`: a piece that it
belongs to, or else it is a blank, or part of a comment that goes to the end of its line and has no piece in it. -/
inductive AccountedFor (start : Nat) (text : List Char) (found : List Piece) (before : List Char) (c : Char) :
    Prop where
  | piece {p : Piece} (listed : p ∈ found) (low : p.start ≤ start + byteLength before)
      (high : start + byteLength before + c.utf8Size ≤ p.stop) : AccountedFor start text found before c
  | blank (space : isSpace c = true) : AccountedFor start text found before c
  | comment {lead body tail : List Char} (shape : text = lead ++ ('#' :: body ++ tail))
      (inside : ∀ d ∈ body, d ≠ '\n') (stop : ∀ d ∈ tail.head?, d = '\n') (low : lead.length ≤ before.length)
      (high : before.length ≤ lead.length + body.length)
      (clear : Clear found (start + byteLength lead) (start + byteLength (lead ++ '#' :: body))) :
      AccountedFor start text found before c

/-- What is accounted for in a part of a text is so in the whole, with the pieces that stand before that part. -/
theorem AccountedFor.append {start : Nat} {text tail : List Char} {found found' : List Piece} {before : List Char}
    {c : Char} (h : AccountedFor (start + byteLength text) tail found before c) (listed : ∀ p ∈ found, p ∈ found')
    (others : ∀ p ∈ found', p ∈ found ∨ p.stop ≤ start + byteLength text) :
    AccountedFor start (text ++ tail) found' (text ++ before) c := by
  have shift : ∀ more, start + byteLength text + byteLength more = start + byteLength (text ++ more) := by
    intro more
    rw [byteLength_append, Nat.add_assoc]
  cases h with
  | piece member low high =>
      rw [shift] at low high
      exact .piece (listed _ member) low high
  | blank space => exact .blank space
  | @comment lead body tail shape inside stop low high clear =>
      rw [shape]
      refine .comment (List.append_assoc ..).symm inside stop ?_ ?_ ?_
      · simp only [List.length_append]
        omega
      · simp only [List.length_append]
        omega
      · rw [shift, shift, ← List.append_assoc] at clear
        intro p member
        rcases others p member with old | ahead
        · exact clear p old
        · refine .inl (Nat.le_trans ahead ?_)
          rw [byteLength_append]
          omega

/-- A character of two texts in a row belongs to the first one or to the second one. -/
theorem cons_of_append {text tail before behind : List Char} {c : Char} (shape : text ++ tail = before ++ c :: behind) :
    (∃ more, text = before ++ c :: more) ∨ ∃ rest, before = text ++ rest ∧ tail = rest ++ c :: behind := by
  rcases List.append_eq_append_iff.mp shape with ⟨rest, rfl, same⟩ | ⟨more, rfl, same⟩
  · exact .inr ⟨rest, rfl, same⟩
  · cases more with
    | nil => exact .inr ⟨[], by rw [List.append_nil, List.append_nil], same.symm⟩
    | cons d more =>
        obtain ⟨rfl, -⟩ := List.cons.inj same
        exact .inl ⟨more, rfl⟩

/-- **Nothing is lost**: every character belongs to a piece, is a blank or belongs to a comment. -/
theorem Layout.accounted {start : Nat} {text : List Char} {found : List Piece} (h : Layout start text found)
    {before behind : List Char} {c : Char} (shape : text = before ++ c :: behind) :
    AccountedFor start text found before c := by
  induction h generalizing before with
  | nil => cases before <;> cases shape
  | @gap start text tail found gap rest ih =>
      -- The character belongs to the gap, or stands behind it.
      rcases cons_of_append shape with ⟨more, own⟩ | ⟨before, rfl, later⟩
      · have length := congrArg List.length own
        rw [List.length_append, List.length_cons] at length
        cases gap with
        | blank space =>
            rw [List.length_singleton] at length
            obtain rfl : before = [] := List.eq_nil_of_length_eq_zero (by omega)
            cases own
            exact .blank space
        | @comment body inside stop =>
            have whole : '#' :: body ++ tail = [] ++ ('#' :: body ++ tail) := rfl
            refine .comment whole inside stop (Nat.zero_le _) ?_ fun p listed => .inr (rest.start_le listed)
            rw [List.length_cons] at length
            rw [List.length_nil]
            omega
      · exact (ih later).append (fun p listed => listed) fun p listed => .inl listed
  | @piece start text tail token? found entry rest ih =>
      rcases cons_of_append shape with ⟨more, own⟩ | ⟨before, rfl, later⟩
      · refine .piece List.mem_cons_self (Nat.le_add_right _ _) ?_
        show _ ≤ start + byteLength text
        rw [own, byteLength_append, byteLength_cons]
        omega
      · refine (ih later).append (fun p listed => List.mem_cons_of_mem _ listed) fun p listed => ?_
        rcases List.mem_cons.mp listed with rfl | listed
        · exact .inr (Nat.le_refl _)
        · exact .inl listed

/-! ## Line by line -/

theorem breaks_feed : Breaks '\n' := ⟨rfl, by decide, by decide⟩

/-- **What stands at the head of a text ends with its line.** -/
theorem cut_feed (c : Char) (rest behind : List Char) : cut c (rest ++ '\n' :: behind) = cut c rest := by
  have ends : ∀ {tail : List Char}, (∀ d ∈ tail.head?, d = '\n') →
      ∀ d ∈ (tail ++ '\n' :: behind).head?, d = '\n' := fun stop => head?_break stop rfl behind
  by_cases comment : c = '#'
  · subst comment
    obtain ⟨body, tail, rfl, inside, stop⟩ := comment_cases rest
    rw [List.append_assoc, cut_comment inside stop, cut_comment inside (ends stop)]
  by_cases quote : c = '"' ∨ c = '\''
  · obtain ⟨body, tail, inside, rfl | ⟨rfl, stop⟩⟩ := quotation_cases c rest
    · rw [List.append_assoc, List.cons_append, cut_closed quote inside, cut_closed quote inside]
    · rw [List.append_assoc, cut_open quote inside stop, cut_open quote inside (ends stop)]
  · exact cut_break breaks_feed comment quote rest behind

/-- The piece in a text that has `n` bytes more in front. -/
def Piece.shift (n : Nat) (p : Piece) : Piece := { p with start := p.start + n }

theorem piecesFrom_shift (n start : Nat) (text : List Char) :
    piecesFrom (start + n) text = (piecesFrom start text).map (·.shift n) := by
  induction start, text using piecesFrom.induct with
  | case1 start => simp only [piecesFrom, List.map_nil]
  | case2 start c rest n' text hcut ih =>
      rw [piecesFrom, piecesFrom, hcut]
      simp only [Nat.add_right_comm start n]
      exact ih
  | case3 start c rest n' text token? hcut ih =>
      rw [piecesFrom, piecesFrom, hcut]
      simp only [Nat.add_right_comm start n, List.map_cons]
      exact congrArg (_ :: ·) ih

/-- **A line feed takes a text apart**: it lengthens nothing that is in front of it. -/
theorem piecesFrom_feed (start : Nat) (xs ys : List Char) : piecesFrom start (xs ++ '\n' :: ys) =
    piecesFrom start xs ++ piecesFrom (start + (byteLength xs + 1)) ys := by
  induction xs using scan_induction generalizing start with
  | nil =>
      have taken : cut '\n' ([] ++ ys) = (.gap, ([] : List Char).length) := cut_space rfl ys
      rw [piecesFrom]
      exact piecesFrom_gap taken start
  | step c body tail head taken takes ih =>
      have whole : c :: (body ++ tail) ++ '\n' :: ys = c :: (body ++ (tail ++ '\n' :: ys)) := by
        rw [List.cons_append, List.append_assoc]
      have taken' : cut c (body ++ (tail ++ '\n' :: ys)) = (head, body.length) := by
        rw [← List.append_assoc, cut_feed, taken]
      have bytes : start + byteLength (c :: body) + (byteLength tail + 1) =
          start + (byteLength (c :: (body ++ tail)) + 1) := by
        rw [← List.cons_append, byteLength_append]
        omega
      cases takes with
      | gap gap => rw [whole, piecesFrom_gap taken, piecesFrom_gap taken', ih, bytes]
      | piece entry => rw [whole, piecesFrom_piece taken, piecesFrom_piece taken', ih, bytes, List.cons_append]

/-! ## Texts -/

theorem Entry.ne_nil {tail text : List Char} {token? : Option Token} (h : Entry tail text token?) : text ≠ [] := by
  cases h with
  | lexeme denotes => exact denotes.ne_nil
  | unclosed => exact List.cons_ne_nil _ _
  | stray => exact List.cons_ne_nil _ _

/-- The pieces are those of the text. -/
structure Scanned (text : String) (found : List Piece) : Prop where
  /-- Each piece is a stretch of the text, with its bytes, and an entry there. -/
  placed : ∀ p ∈ found, ∃ before behind : String, text = before ++ String.ofList p.text ++ behind ∧
    p.start = before.utf8ByteSize ∧ p.stop = (before ++ String.ofList p.text).utf8ByteSize ∧ p.start < p.stop ∧
    Entry behind.toList p.text p.token?
  /-- They follow on each other and share no byte. -/
  ordered : found.Pairwise fun p q => p.stop ≤ q.start
  /-- What is in none of them is a blank or part of a comment. -/
  accounted : ∀ before c behind, text.toList = before ++ c :: behind → AccountedFor 0 text.toList found before c

theorem Layout.scanned {text : String} {found : List Piece} (h : Layout 0 text.toList found) : Scanned text found := by
  refine ⟨?_, h.ordered, fun before c behind shape => h.accounted shape⟩
  intro p listed
  obtain ⟨before, behind, shape, place, entry⟩ := h.placed listed
  rw [Nat.zero_add] at place
  refine ⟨String.ofList before, String.ofList behind, ?_, ?_, ?_, ?_, ?_⟩
  · rw [← String.toList_inj, shape]
    simp only [String.toList_append, String.toList_ofList, List.append_assoc]
  · rw [place, utf8ByteSize_ofList]
  · rw [Piece.stop, place, ← String.ofList_append, utf8ByteSize_ofList, byteLength_append]
  · exact Nat.lt_add_of_pos_right (byteLength_pos entry.ne_nil)
  · rwa [String.toList_ofList]

/-- **The pieces of a text.**
* Each is a stretch of the text that starts and stops at characters. They are in order and share no byte, and whatever
  is in none of them is a blank or part of a comment.
* What is a token is the longest lexeme at its place, as the one thing that it denotes. What is none is a number that
  does not fit, a quotation that is not closed on its line or a single character at which no lexeme starts, and is
  reported with its text.
* A text is scanned line by line. -/
theorem scanning :
    (∀ text : String, Scanned text (pieces text.toList)) ∧
    (∀ text token? token?', Denotes text token? → Denotes text token?' → token? = token?') ∧
    (∀ p : Piece, p.invalidText = "Invalid token: '" ++ String.ofList p.text ++ "'") ∧
    ∀ a b : String, pieces (a ++ "\n" ++ b).toList =
      pieces a.toList ++ (pieces b.toList).map (·.shift (a.utf8ByteSize + 1)) := by
  refine ⟨fun text => (layout_piecesFrom 0 text.toList).scanned, fun _ _ _ => Denotes.unique, fun _ => rfl, ?_⟩
  intro a b
  have whole : (a ++ "\n" ++ b).toList = a.toList ++ '\n' :: b.toList := by
    simp only [String.toList_append, List.append_assoc]
    rfl
  have bytes : byteLength a.toList = a.utf8ByteSize := by rw [← utf8ByteSize_ofList, String.ofList_toList]
  rw [whole, pieces, piecesFrom_feed, piecesFrom_shift, bytes]
  rfl

/-- A name, a comment with a quote in it, and a quotation that is not closed. -/
def halfQuoted : String := "x # 'y\n'é"

theorem scanning_halfQuoted :
    pieces halfQuoted.toList = [⟨some (.ident "x"), ['x'], 0⟩, ⟨none, ['\'', 'é'], 7⟩] ∧
    (∃ before behind : String, halfQuoted = before ++ "'é" ++ behind ∧ 7 = before.utf8ByteSize ∧
      Entry behind.toList ['\'', 'é'] none) ∧
    AccountedFor 0 halfQuoted.toList (pieces halfQuoted.toList) ['x', ' ', '#', ' '] '\'' ∧
    (∀ token?, Denotes ['x'] token? → token? = some (.ident "x")) ∧
    pieces ("x # 'y" ++ "\n" ++ "'é").toList = pieces "x # 'y".toList ++ (pieces "'é".toList).map (·.shift 7) := by
  have found : pieces halfQuoted.toList = [⟨some (.ident "x"), ['x'], 0⟩, ⟨none, ['\'', 'é'], 7⟩] := by
    decide +kernel
  obtain ⟨scanned, unique, -, lines⟩ := scanning
  obtain ⟨placed, -, accounted⟩ := scanned halfQuoted
  have last : ⟨none, ['\'', 'é'], 7⟩ ∈ pieces halfQuoted.toList := by
    rw [found]
    exact List.mem_cons_of_mem _ List.mem_cons_self
  obtain ⟨before, behind, shape, place, -, -, entry⟩ := placed _ last
  have name : Denotes ['x'] (some (.ident "x")) := .ident rfl nofun
  exact ⟨found, ⟨before, behind, shape, place, entry⟩, accounted _ _ ['y', '\n', '\'', 'é'] rfl,
    fun token? denotes => unique _ _ _ denotes name, lines "x # 'y" "'é"⟩

end Token

end QuantumWorkbench
