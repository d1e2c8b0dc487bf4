import QuantumWorkbench.Proofs.Json.Lexing

/-!
# Values and their texts

What the printer writes is read back. The text of a value is scanned as the marks and scalars of the
value, whatever the indentation, and these are built into the value again.

## Contents
- `Json.tokens`: the marks and scalars of a value, in the order of its text.
- `Json.Fits`: no doubles, whole numbers of at most 64 bits, and a bound on the depth.
- `Json.lexes_container`: a container is scanned part by part, whatever blanks stand in it.
- `Json.Fits.lexes_prettyAt`, `Json.Fits.lexes_compact`: both texts are scanned as the tokens of the value.
- `Json.Fits.builds`: the tokens of a value are built into the value.
- `Json.parse?_pretty`, `Json.parse?_compact`: what is printed is read back, with its keys in order.
-/

namespace QuantumWorkbench

namespace Json

open JsonToken

/-! ## The tokens of a value -/

mutual

/-- The marks and scalars of a value. -/
def tokens : Json → List JsonToken
  | arr items => .openArray :: ([.comma].intercalate (itemTokens items) ++ [.closeArray])
  | obj fields => .openObject :: ([.comma].intercalate (fieldTokens fields) ++ [.closeObject])
  | v => [.scalar v]

def itemTokens : List Json → List (List JsonToken)
  | [] => []
  | v :: rest => tokens v :: itemTokens rest

def fieldTokens : List (String × Json) → List (List JsonToken)
  | [] => []
  | (k, v) :: rest => (.scalar (.str k) :: .colon :: tokens v) :: fieldTokens rest

end

theorem itemTokens_eq_map (items : List Json) : itemTokens items = items.map tokens := by
  induction items with
  | nil => rw [itemTokens, List.map_nil]
  | cons v rest ih => rw [itemTokens, ih, List.map_cons]

theorem fieldTokens_eq_map (fields : List (String × Json)) :
    fieldTokens fields = fields.map fun e => .scalar (.str e.1) :: .colon :: e.2.tokens := by
  induction fields with
  | nil => rw [fieldTokens, List.map_nil]
  | cons first rest ih => rw [fieldTokens, ih, List.map_cons]

theorem prettyItems_eq_map (indent : Nat) (items : List Json) :
    prettyItems indent items = items.map (prettyAt indent) := by
  induction items with
  | nil => rw [prettyItems, List.map_nil]
  | cons v rest ih => rw [prettyItems, ih, List.map_cons]

theorem prettyFields_eq_map (indent : Nat) (fields : List (String × Json)) :
    prettyFields indent fields =
      fields.map fun e => quotedText e.1 ++ ": " ++ e.2.prettyAt indent := by
  induction fields with
  | nil => rw [prettyFields, List.map_nil]
  | cons first rest ih => rw [prettyFields, ih, List.map_cons]

/-- The value has no doubles, its whole numbers have at most 64 bits, and at most `room` of its
containers are open at a time. -/
inductive Fits : (room : Nat) → Json → Prop where
  | null {room : Nat} : Fits room .null
  | bool {room : Nat} (b : Bool) : Fits room (.bool b)
  | int {room : Nat} {n : Int} (small : IsWord n) : Fits room (.int n)
  | str {room : Nat} (s : String) : Fits room (.str s)
  | arr {room : Nat} {items : List Json} (fit : ∀ v ∈ items, Fits room v) : Fits (room + 1) (.arr items)
  | obj {room : Nat} {fields : List (String × Json)} (fit : ∀ e ∈ fields, Fits room e.2) :
      Fits (room + 1) (.obj fields)

/-! ## Scanning -/

theorem intercalate_cons {α : Type} (separator first : List α) (rest : List (List α)) :
    separator.intercalate (first :: rest) = first ++ rest.flatMap (separator ++ ·) := by
  induction rest generalizing first with
  | nil => simp
  | cons second rest ih =>
      rw [List.intercalate_cons_cons, ih, List.flatMap_cons, List.append_assoc, List.append_assoc]

/-- The line break and the blanks in front of what stands at `width`. -/
def margin (width : Nat) : List Char := '\n' :: List.replicate width ' '

theorem spaces_margin (width : Nat) : ∀ c ∈ margin width, isSpace c = true := by
  intro c hc
  rcases List.mem_cons.mp hc with rfl | blank
  · rfl
  · rw [List.eq_of_mem_replicate blank]
    rfl

theorem toList_pushn (width : Nat) : ("".pushn ' ' width).toList = List.replicate width ' ' := by
  rw [String.pushn_eq_repeat_push]
  induction width with
  | zero => rfl
  | succ width ih => rw [Nat.repeat, String.toList_push, ih, List.replicate_succ']

/-- The text of a container with parts in it. -/
theorem toList_block_cons (indent : Nat) (opening closing first : String) (rest : List String) :
    (block indent opening closing (first :: rest)).toList = opening.toList ++ (margin (indent + 2) ++
      ((first.toList ++ rest.flatMap fun part => (',' :: margin (indent + 2)) ++ part.toList) ++
        (margin indent ++ closing.toList))) := by
  have written : block indent opening closing (first :: rest) =
      opening ++ ("\n" ++ "".pushn ' ' (indent + 2)) ++
        ("," ++ ("\n" ++ "".pushn ' ' (indent + 2))).intercalate (first :: rest) ++
        "\n" ++ "".pushn ' ' indent ++ closing := rfl
  have comma : ",".toList = [','] := rfl
  have feed : "\n".toList = ['\n'] := rfl
  rw [written]
  simp only [String.toList_append, String.toList_intercalate, toList_pushn, comma, feed, List.map_cons,
    intercalate_cons, List.flatMap_map, margin, List.append_assoc, List.cons_append, List.nil_append]

theorem stops_spaces {blank rest : List Char} (spaces : ∀ c ∈ blank, isSpace c = true) (stops : Stops rest) :
    Stops (blank ++ rest) := by
  cases blank with
  | nil => exact stops
  | cons c blank =>
      rintro _ ⟨⟩
      exact isWordChar_of_isSpace (spaces c List.mem_cons_self)

theorem stops_mark {c : Char} {token : JsonToken} (mark : mark? c = some token) (rest : List Char) :
    Stops (c :: rest) := by
  rintro _ ⟨⟩
  unfold mark? at mark
  split at mark
  all_goals first | rfl | cases mark

theorem lexes_nil : Lexes [] [] := fun _ _ => Option.map_id_apply.symm

/-- Texts are scanned one after the other, if the second does not go on with a word. -/
theorem lexes_append {a b : List Char} {ts us : List JsonToken} (first : Lexes a ts) (second : Lexes b us)
    (apart : Stops b) : Lexes (a ++ b) (ts ++ us) := by
  intro rest stops
  -- Without `b` it is the rest that ends a word of `a`.
  have apart' : Stops (b ++ rest) := by
    cases b with
    | nil => exact stops
    | cons c b => exact apart
  rw [List.append_assoc, first _ apart', second rest stops]
  exact prepend_prepend ts us _

section Parts

variable {α : Type} {items : List α} {text : α → List Char} {spelled : α → List JsonToken} {gap : List Char}

/-- The texts of parts behind another one, with a comma and a gap in front of each. -/
def moreParts (gap : List Char) (text : α → List Char) (items : List α) : List Char :=
  items.flatMap fun a => (',' :: gap) ++ text a

theorem stops_moreParts (gap : List Char) (text : α → List Char) (items : List α) :
    Stops (moreParts gap text items) := by
  cases items with
  | nil => exact nofun
  | cons a items =>
      rintro _ ⟨⟩
      rfl

theorem lexes_moreParts (blank : ∀ c ∈ gap, isSpace c = true) (parts : ∀ a ∈ items, Lexes (text a) (spelled a)) :
    Lexes (moreParts gap text items) (items.flatMap fun a => [.comma] ++ spelled a) := by
  induction items with
  | nil => exact lexes_nil
  | cons a items ih =>
      obtain ⟨first, parts⟩ := List.forall_mem_cons.mp parts
      have separated : Lexes ((',' :: gap) ++ text a) ([.comma] ++ spelled a) := by
        intro rest stops
        rw [List.append_assoc, List.cons_append, lexFrom?_mark (show mark? ',' = some .comma from rfl),
          lexFrom?_spaces blank, first rest stops]
        exact prepend_prepend [.comma] (spelled a) _
      rw [moreParts, List.flatMap_cons, List.flatMap_cons]
      exact lexes_append separated (ih parts) (stops_moreParts gap text items)

section Container

variable {o c : Char} {opened closed : JsonToken} (first : mark? o = some opened) (last : mark? c = some closed)
include first last

theorem lexes_empty : Lexes [o, c] [opened, closed] := by
  intro rest stops
  rw [List.cons_append, List.cons_append, lexFrom?_mark first, lexFrom?_mark last]
  exact prepend_prepend [opened] [closed] _

/-- **A container is scanned part by part**, whatever blanks stand behind its marks and its commas. -/
theorem lexes_container {lead trail : List Char} {a : α} (leads : ∀ c ∈ lead, isSpace c = true)
    (gaps : ∀ c ∈ gap, isSpace c = true) (trails : ∀ c ∈ trail, isSpace c = true)
    (parts : ∀ b ∈ a :: items, Lexes (text b) (spelled b)) :
    Lexes (o :: (lead ++ ((text a ++ moreParts gap text items) ++ (trail ++ [c]))))
      (opened :: ([.comma].intercalate ((a :: items).map spelled) ++ [closed])) := by
  intro rest stops
  obtain ⟨head, parts⟩ := List.forall_mem_cons.mp parts
  have inner := lexes_append head (lexes_moreParts gaps parts) (stops_moreParts gap text items)
  have written : o :: (lead ++ ((text a ++ moreParts gap text items) ++ (trail ++ [c]))) ++ rest =
      o :: (lead ++ ((text a ++ moreParts gap text items) ++ (trail ++ c :: rest))) := by
    simp only [List.append_assoc, List.cons_append, List.nil_append]
  rw [written, lexFrom?_mark first, lexFrom?_spaces leads, inner _ (stops_spaces trails (stops_mark last rest)),
    lexFrom?_spaces trails, lexFrom?_mark last, List.map_cons, intercalate_cons]
  cases lexFrom? .gap rest with
  | none => rfl
  | some more => simp [List.flatMap_map]

end Container

/-- An indented container is scanned part by part, whatever its margin. -/
theorem lexes_block {opening closing : String} {o c : Char} {opened closed : JsonToken} (indent : Nat)
    (opens : opening.toList = [o]) (closes : closing.toList = [c]) (first : mark? o = some opened)
    (last : mark? c = some closed) {text : α → String}
    (parts : ∀ a ∈ items, Lexes (text a).toList (spelled a)) :
    Lexes (block indent opening closing (items.map text)).toList
      (opened :: ([.comma].intercalate (items.map spelled) ++ [closed])) := by
  cases items with
  | nil =>
      show Lexes (opening ++ closing).toList _
      rw [String.toList_append, opens, closes]
      exact lexes_empty first last
  | cons a items =>
      have inner := lexes_container first last (spaces_margin (indent + 2)) (spaces_margin (indent + 2))
        (spaces_margin indent) parts
      rw [List.map_cons, toList_block_cons, List.flatMap_map, opens, closes]
      exact inner

/-- A container on one line is scanned part by part. -/
theorem lexes_inline {opening closing : String} {o c : Char} {opened closed : JsonToken}
    (opens : opening.toList = [o]) (closes : closing.toList = [c]) (first : mark? o = some opened)
    (last : mark? c = some closed) {text : α → String}
    (parts : ∀ a ∈ items, Lexes (text a).toList (spelled a)) :
    Lexes (opening ++ ",".intercalate (items.map text) ++ closing).toList
      (opened :: ([.comma].intercalate (items.map spelled) ++ [closed])) := by
  have comma : ",".toList = [','] := rfl
  rw [String.toList_append, String.toList_append, String.toList_intercalate, comma, opens, closes, List.map_map]
  cases items with
  | nil => exact lexes_empty first last
  | cons a items =>
      have inner := lexes_container first last (List.forall_mem_nil _) (List.forall_mem_nil _)
        (List.forall_mem_nil _) parts
      rw [List.map_cons, intercalate_cons, List.flatMap_map, List.append_assoc]
      exact inner

end Parts

theorem Fits.lexes_prettyAt {room : Nat} {v : Json} (h : v.Fits room) (indent : Nat) :
    Lexes (v.prettyAt indent).toList v.tokens := by
  induction h generalizing indent with
  | null => exact lexes_null
  | bool b => exact lexes_bool b
  | int small => exact lexes_int small
  | str s => exact fun rest _ => lexFrom?_quoted s rest
  | @arr room items fit ih =>
      rw [prettyAt, tokens, prettyItems_eq_map, itemTokens_eq_map]
      exact lexes_block indent rfl rfl rfl rfl fun v hv => ih v hv (indent + 2)
  | @obj room fields fit ih =>
      rw [prettyAt, tokens, prettyFields_eq_map, fieldTokens_eq_map]
      refine lexes_block indent rfl rfl rfl rfl fun e he => ?_
      intro rest stops
      -- A key ends with its quote, whatever stands behind it.
      rw [String.toList_append, String.toList_append, List.append_assoc, List.append_assoc, lexFrom?_quoted]
      show _ <$> lexFrom? .gap (':' :: ' ' :: ((e.2.prettyAt (indent + 2)).toList ++ rest)) = _
      rw [lexFrom?_mark (show mark? ':' = some .colon from rfl), lexFrom?_space rfl, ih e he _ rest stops]
      have value := prepend_prepend [.colon] e.2.tokens (lexFrom? .gap rest)
      exact (congrArg _ value).trans (prepend_prepend [.scalar (.str e.1)] (.colon :: e.2.tokens) _)

theorem compactItems_eq_map (items : List Json) : compactItems items = items.map compact := by
  induction items with
  | nil => rw [compactItems, List.map_nil]
  | cons v rest ih => rw [compactItems, ih, List.map_cons]

theorem compactFields_eq_map (fields : List (String × Json)) :
    compactFields fields = fields.map fun e => quotedText e.1 ++ ":" ++ e.2.compact := by
  induction fields with
  | nil => rw [compactFields, List.map_nil]
  | cons first rest ih => rw [compactFields, ih, List.map_cons]

theorem Fits.lexes_compact {room : Nat} {v : Json} (h : v.Fits room) : Lexes v.compact.toList v.tokens := by
  induction h with
  | null => exact lexes_null
  | bool b => exact lexes_bool b
  | int small => exact lexes_int small
  | str s => exact fun rest _ => lexFrom?_quoted s rest
  | @arr room items fit ih =>
      rw [compact, tokens, compactItems_eq_map, itemTokens_eq_map]
      exact lexes_inline rfl rfl rfl rfl ih
  | @obj room fields fit ih =>
      rw [compact, tokens, compactFields_eq_map, fieldTokens_eq_map]
      refine lexes_inline rfl rfl rfl rfl fun e he => ?_
      intro rest stops
      rw [String.toList_append, String.toList_append, List.append_assoc, List.append_assoc, lexFrom?_quoted]
      show _ <$> lexFrom? .gap (':' :: (e.2.compact.toList ++ rest)) = _
      rw [lexFrom?_mark (show mark? ':' = some .colon from rfl), ih e he rest stops]
      have value := prepend_prepend [.colon] e.2.tokens (lexFrom? .gap rest)
      exact (congrArg _ value).trans (prepend_prepend [.scalar (.str e.1)] (.colon :: e.2.tokens) _)

/-! ## Building -/

section Build

variable {b b' : Builder} {t : JsonToken} {ts us : List JsonToken} {stack : List Frame}

/-- Hands tokens to a builder, one after the other. -/
def feed? (b : Builder) (ts : List JsonToken) : Option Builder := ts.foldlM (Builder.step? true) b

theorem feed?_cons (step : b.step? true t = some b') : feed? b (t :: ts) = feed? b' ts := by
  rw [feed?, List.foldlM_cons, step]
  rfl

theorem feed?_append (first : feed? b ts = some b') : feed? b (ts ++ us) = feed? b' us := by
  rw [feed?] at first
  rw [feed?, List.foldlM_append, first]
  rfl

/-- The tokens are built into the value, wherever a value may stand and there is room for it. -/
def Builds (room : Nat) (v : Json) : Prop :=
  ∀ (stack : List Frame) (due : Due), due = .value ∨ due = .firstItem → stack.length + room ≤ Builder.maxDepth →
    feed? ⟨stack, due⟩ v.tokens = some (.put v stack)

theorem builds_scalar {room : Nat} {v : Json} (spelled : v.tokens = [.scalar v]) (usable : v.isUnusable = false) :
    Builds room v := by
  intro stack due ready _
  have put : Builder.begin? true stack (.scalar v) = some (.put v stack) := by
    rw [Builder.begin?, usable]
    rfl
  rw [spelled]
  rcases ready with rfl | rfl
  · exact feed?_cons put
  · exact feed?_cons put

/-- The mark of a container opens it, if there is room. -/
theorem push?_eq_some {frame : Frame} {due : Due} (room : stack.length < Builder.maxDepth) :
    Builder.push? true frame due stack = some ⟨frame :: stack, due⟩ :=
  if_neg fun deep => Nat.not_le.mpr room deep.2

theorem feed?_moreItems {room : Nat} {items : List Json} (fit : ∀ v ∈ items, Builds room v) (done : List Json)
    (shallow : stack.length + 1 + room ≤ Builder.maxDepth) :
    feed? ⟨.items done :: stack, .separator⟩ (items.flatMap fun v => [.comma] ++ v.tokens) =
      some ⟨.items (items.reverse ++ done) :: stack, .separator⟩ := by
  induction items generalizing done with
  | nil => rfl
  | cons v items ih =>
      obtain ⟨first, fit⟩ := List.forall_mem_cons.mp fit
      rw [List.flatMap_cons, List.append_assoc, List.cons_append, List.nil_append, feed?_cons rfl,
        feed?_append (first (.items done :: stack) .value (.inl rfl) shallow)]
      -- The value joins the others of its container, and a comma is due.
      show feed? ⟨.items (v :: done) :: stack, .separator⟩ _ = _
      rw [ih fit, List.reverse_cons, List.append_assoc]
      rfl

theorem feed?_moreFields {room : Nat} {fields : List (String × Json)} (fit : ∀ e ∈ fields, Builds room e.2)
    (done : List (String × Json)) (shallow : stack.length + 1 + room ≤ Builder.maxDepth) :
    feed? ⟨.fields done "" :: stack, .separator⟩
        (fields.flatMap fun e => [.comma] ++ (.scalar (.str e.1) :: .colon :: e.2.tokens)) =
      some ⟨.fields (fields.reverse ++ done) "" :: stack, .separator⟩ := by
  induction fields generalizing done with
  | nil => rfl
  | cons e fields ih =>
      obtain ⟨first, fit⟩ := List.forall_mem_cons.mp fit
      rw [List.flatMap_cons, List.append_assoc, List.cons_append, List.nil_append, feed?_cons rfl,
        List.cons_append, feed?_cons rfl, List.cons_append, feed?_cons rfl,
        feed?_append (first (.fields done e.1 :: stack) .value (.inl rfl) shallow)]
      show feed? ⟨.fields (e :: done) "" :: stack, .separator⟩ _ = _
      rw [ih fit, List.reverse_cons, List.append_assoc]
      rfl

theorem builds_arr {room : Nat} {items : List Json} (fit : ∀ v ∈ items, Builds room v) :
    Builds (room + 1) (.arr items) := by
  intro stack due ready shallow
  have opened : Builder.step? true ⟨stack, due⟩ .openArray = some ⟨.items [] :: stack, .firstItem⟩ := by
    have room : stack.length < Builder.maxDepth := by omega
    rcases ready with rfl | rfl
    · exact push?_eq_some room
    · exact push?_eq_some room
  have inner : stack.length + 1 + room ≤ Builder.maxDepth := by omega
  rw [tokens, itemTokens_eq_map, feed?_cons opened]
  cases items with
  | nil => rfl
  | cons v items =>
      obtain ⟨first, fit⟩ := List.forall_mem_cons.mp fit
      rw [List.map_cons, intercalate_cons, List.flatMap_map, List.append_assoc,
        feed?_append (first (.items [] :: stack) .firstItem (.inr rfl) inner)]
      show feed? ⟨.items [v] :: stack, .separator⟩ _ = _
      rw [feed?_append (feed?_moreItems fit [v] inner), feed?_cons rfl, List.reverse_append, List.reverse_reverse]
      rfl

theorem builds_obj {room : Nat} {fields : List (String × Json)} (fit : ∀ e ∈ fields, Builds room e.2) :
    Builds (room + 1) (.obj fields) := by
  intro stack due ready shallow
  have opened : Builder.step? true ⟨stack, due⟩ .openObject = some ⟨.fields [] "" :: stack, .firstKey⟩ := by
    have room : stack.length < Builder.maxDepth := by omega
    rcases ready with rfl | rfl
    · exact push?_eq_some room
    · exact push?_eq_some room
  have inner : stack.length + 1 + room ≤ Builder.maxDepth := by omega
  rw [tokens, fieldTokens_eq_map, feed?_cons opened]
  cases fields with
  | nil => rfl
  | cons e fields =>
      obtain ⟨first, fit⟩ := List.forall_mem_cons.mp fit
      rw [List.map_cons, intercalate_cons, List.flatMap_map, List.append_assoc, List.cons_append, feed?_cons rfl,
        List.cons_append, feed?_cons rfl, feed?_append (first (.fields [] e.1 :: stack) .value (.inl rfl) inner)]
      show feed? ⟨.fields [e] "" :: stack, .separator⟩ _ = _
      rw [feed?_append (feed?_moreFields fit [e] inner), feed?_cons rfl, List.reverse_append, List.reverse_reverse]
      rfl

end Build

/-- **The tokens of a value are built into the value.** -/
theorem Fits.builds {room : Nat} {v : Json} (h : v.Fits room) : Builds room v := by
  induction h with
  | null => exact builds_scalar rfl rfl
  | bool b => exact builds_scalar rfl rfl
  | int small => exact builds_scalar rfl rfl
  | str s => exact builds_scalar rfl rfl
  | arr fit ih => exact builds_arr ih
  | obj fit ih => exact builds_obj ih

/-! ## Reading back -/

/-- A text that is scanned as the tokens of a value is read as the value, with its keys in order and whatever
blanks behind it. -/
theorem parse?_of_lexes {v : Json} (h : v.Fits Builder.maxDepth) {text tail : String}
    (lexes : Lexes text.toList v.tokens) (blank : ∀ c ∈ tail.toList, isSpace c = true) :
    parse? (text ++ tail) = some v.canonical := by
  have behind : lexFrom? .gap tail.toList = some [] := by
    have scanned : lexFrom? .gap (tail.toList ++ []) = lexFrom? .gap [] := lexFrom?_spaces blank
    rwa [List.append_nil] at scanned
  have scanned : lexFrom? .gap (text ++ tail).toList = some v.tokens := by
    have stops : Stops tail.toList := fun c hc =>
      isWordChar_of_isSpace (blank c (List.mem_of_mem_head? hc))
    rw [String.toList_append, lexes _ stops, behind]
    exact congrArg some (List.append_nil _)
  have built : v.tokens.foldlM (Builder.step? true) {} = some (.put v []) :=
    h.builds [] .value (.inl rfl) (Nat.le_of_eq (Nat.zero_add _))
  rw [parse?, value?_eq, scanned]
  show ((v.tokens.foldlM (Builder.step? true) {}).bind Builder.result?).map canonical = _
  rw [built]
  rfl

/-- **What is printed is read back**, with its keys in order and whatever blanks behind it. -/
theorem parse?_pretty {v : Json} (h : v.Fits Builder.maxDepth) {tail : String}
    (blank : ∀ c ∈ tail.toList, isSpace c = true) : parse? (v.pretty ++ tail) = some v.canonical :=
  parse?_of_lexes h (h.lexes_prettyAt 0) blank

theorem parse?_compact {v : Json} (h : v.Fits Builder.maxDepth) : parse? v.compact = some v.canonical := by
  rw [← String.append_empty (s := v.compact)]
  exact parse?_of_lexes h h.lexes_compact (List.forall_mem_nil _)

end Json

end QuantumWorkbench
