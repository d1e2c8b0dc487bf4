import QuantumWorkbench.Proofs.Script.RoundTrip

/-!
# The grammar of calls

Which lines of a script place a gate. The reader looks for the end of a call from behind, and for the ends of its
arguments from the front, where it counts brackets as it goes. The grammar says of whole stretches of tokens what
has to be in them.

## Contents
- `Token.depth`: the brackets that are open behind some tokens.
- `Token.IsPart`: a stretch between two commas of an argument list, and `Token.IsPartFrom`, the same with some
  brackets open already.
- `MethodCall.splitFrom_eq_some_iff`: the pieces that the splitter cuts are such parts, joined by commas.
- `MethodCall.ofTokens?_eq_some_iff`: the form of a call.
- `Arguments`, `IsCall`: the four calls that place a gate.
- `Gate.line_grammar`: a line places a gate if and only if it is one of them.
-/

namespace QuantumWorkbench

namespace Token

/-! ## Brackets -/

/-- What a token adds to the number of open brackets. -/
def bracketChange (t : Token) : Int :=
  if t = .mark '(' ∨ t = .mark '[' then 1
  else if t = .mark ')' ∨ t = .mark ']' then -1
  else 0

/-- The number of open brackets behind some tokens. It does not matter which bracket closes which. -/
def depth : List Token → Int
  | [] => 0
  | t :: rest => t.bracketChange + depth rest

/-- A part of an argument list where `d` brackets are open already: no bracket closes nothing, all are closed at
the end, and commas are inside brackets. -/
structure IsPartFrom (d : Int) (tokens : List Token) : Prop where
  matched : ∀ before after, tokens = before ++ after → 0 ≤ d + depth before
  closed : d + depth tokens = 0
  enclosed : ∀ before after, tokens = before ++ .mark ',' :: after → d + depth before ≠ 0

/-- A part of an argument list, between commas or the brackets of the call. -/
abbrev IsPart (tokens : List Token) : Prop := IsPartFrom 0 tokens

@[simp] theorem depth_nil : depth [] = 0 := rfl

@[simp] theorem depth_cons (t : Token) (rest : List Token) :
    depth (t :: rest) = t.bracketChange + depth rest := rfl

theorem isPartFrom_nil {d : Int} : IsPartFrom d [] ↔ d = 0 := by
  constructor
  · intro part
    simpa using part.closed
  · rintro rfl
    refine ⟨?_, rfl, ?_⟩
    · intro before after split
      rw [(List.append_eq_nil_iff.mp split.symm).1]
      exact Int.le_refl 0
    · intro before after split
      cases (List.append_eq_nil_iff.mp split.symm).2

theorem isPartFrom_cons {d : Int} {t : Token} {rest : List Token} :
    IsPartFrom d (t :: rest) ↔
      0 ≤ d ∧ (t = .mark ',' → d ≠ 0) ∧ IsPartFrom (d + t.bracketChange) rest := by
  constructor
  · intro part
    refine ⟨?_, ?_, ?_, ?_, ?_⟩
    · simpa using part.matched [] (t :: rest) rfl
    · rintro rfl
      simpa using part.enclosed [] rest rfl
    · intro before after split
      have behind := part.matched (t :: before) after (congrArg (t :: ·) split)
      rwa [depth_cons, ← Int.add_assoc] at behind
    · rw [Int.add_assoc, ← depth_cons]
      exact part.closed
    · intro before after split
      have behind := part.enclosed (t :: before) after (congrArg (t :: ·) split)
      rwa [depth_cons, ← Int.add_assoc] at behind
  · rintro ⟨above, comma, part⟩
    refine ⟨?_, ?_, ?_⟩
    · intro before after split
      cases before with
      | nil => simpa using above
      | cons first before =>
          cases split
          rw [depth_cons, ← Int.add_assoc]
          exact part.matched before after rfl
    · rw [depth_cons, ← Int.add_assoc]
      exact part.closed
    · intro before after split
      cases before with
      | nil =>
          cases split
          simpa using comma rfl
      | cons first before =>
          cases split
          rw [depth_cons, ← Int.add_assoc]
          exact part.enclosed before after rfl

/-! ## Argument lists -/

/-- Tokens with commas before each part but the first. -/
def joinParts (first : List Token) (parts : List (List Token)) : List Token :=
  first ++ parts.flatMap (.mark ',' :: ·)

end Token

open Token (IsPart IsPartFrom joinParts)

namespace MethodCall

/-- The pieces `args` are parts that commas join to `arg.reverse ++ tokens`, where `arg` has been read already and
has left `d` brackets open. -/
def Splits (d : Int) (arg tokens : List Token) (args : List (List Token)) : Prop :=
  ∃ first parts, args = (arg.reverse ++ first) :: parts ∧ tokens = joinParts first parts ∧
    IsPartFrom d first ∧ ∀ part ∈ parts, IsPart part

variable {d : Int} {arg rest : List Token} {args : List (List Token)} {t : Token}

theorem splits_nil : Splits d arg [] args ↔ d = 0 ∧ args = [arg.reverse] := by
  constructor
  · rintro ⟨first, parts, rfl, split, part, -⟩
    obtain ⟨rfl, none_else⟩ := List.append_eq_nil_iff.mp split.symm
    cases parts with
    | nil => exact ⟨Token.isPartFrom_nil.mp part, by simp⟩
    | cons => cases none_else
  · rintro ⟨rfl, rfl⟩
    exact ⟨[], [], by simp, rfl, Token.isPartFrom_nil.mpr rfl, nofun⟩

/-- A token that is no comma between parts belongs to the part that is being read. -/
theorem splits_cons (inside : t = .mark ',' → d ≠ 0) :
    Splits d arg (t :: rest) args ↔ 0 ≤ d ∧ Splits (d + t.bracketChange) (t :: arg) rest args := by
  constructor
  · rintro ⟨first, parts, rfl, split, part, others⟩
    cases first with
    | nil =>
        -- The part would have to end here, with a comma behind it.
        cases parts with
        | nil => cases split
        | cons =>
            cases split
            exact absurd (Token.isPartFrom_nil.mp part) (inside rfl)
    | cons =>
        cases split
        obtain ⟨above, -, part⟩ := Token.isPartFrom_cons.mp part
        exact ⟨above, _, parts, by simp, rfl, part, others⟩
  · rintro ⟨above, first, parts, rfl, rfl, part, others⟩
    exact ⟨t :: first, parts, by simp, rfl, Token.isPartFrom_cons.mpr ⟨above, inside, part⟩, others⟩

/-- A comma outside brackets ends a part. -/
theorem splits_comma :
    Splits 0 arg (.mark ',' :: rest) args ↔
      ∃ others, args = arg.reverse :: others ∧ Splits 0 [] rest others := by
  constructor
  · rintro ⟨first, parts, rfl, split, part, each⟩
    cases first with
    | nil =>
        cases parts with
        | nil => cases split
        | cons next parts =>
            cases split
            obtain ⟨own, each⟩ := List.forall_mem_cons.mp each
            exact ⟨next :: parts, by simp, next, parts, rfl, rfl, own, each⟩
    | cons =>
        cases split
        exact absurd rfl ((Token.isPartFrom_cons.mp part).2.1 rfl)
  · rintro ⟨others, rfl, next, parts, rfl, rfl, own, each⟩
    refine ⟨[], next :: parts, by simp, rfl, Token.isPartFrom_nil.mpr rfl, ?_⟩
    exact List.forall_mem_cons.mpr ⟨own, each⟩

/-- **The splitter cuts tokens into parts that commas join.** -/
theorem splitFrom_eq_some_iff {d : Nat} {arg tokens : List Token} {args : List (List Token)} :
    splitFrom d arg tokens = some args ↔ Splits d arg tokens args := by
  induction tokens generalizing d arg args with
  | nil =>
      rw [splitFrom.eq_def, splits_nil, Int.natCast_eq_zero]
      dsimp only
      split
      · rename_i closed
        simp [closed, eq_comm]
      · rename_i unclosed
        simp [unclosed]
  | cons t rest ih =>
      rw [splitFrom.eq_def]
      dsimp only
      split
      · rename_i opens
        have change : t.bracketChange = 1 := if_pos opens
        have inside : t = .mark ',' → (d : Int) ≠ 0 := by
          rintro rfl
          simp at opens
        rw [ih, splits_cons inside, change, and_iff_right (Int.natCast_nonneg d)]
        rfl
      · rename_i noOpening
        split
        · rename_i closes
          have change : t.bracketChange = -1 := (if_neg noOpening).trans (if_pos closes)
          have inside : t = .mark ',' → (d : Int) ≠ 0 := by
            rintro rfl
            simp at closes
          rw [splits_cons inside, change]
          cases d with
          | zero =>
              -- The bracket closes nothing, so that no part goes on behind it.
              constructor
              · intro found
                cases found
              · rintro ⟨-, first, parts, -, -, part, -⟩
                exact absurd (part.matched [] first rfl) (by decide)
          | succ d =>
              rw [and_iff_right (Int.natCast_nonneg _), ← Int.sub_eq_add_neg, Int.natCast_succ,
                Int.add_sub_cancel]
              exact ih
        · rename_i noClosing
          have change : t.bracketChange = 0 := (if_neg noOpening).trans (if_neg noClosing)
          split
          · rename_i ends
            obtain ⟨rfl, rfl⟩ := ends
            rw [Int.ofNat_zero, splits_comma, Option.map_eq_map, Option.map_eq_some_iff]
            simp only [ih, and_comm, eq_comm]
            rfl
          · rename_i goesOn
            have inside : t = .mark ',' → (d : Int) ≠ 0 := by
              intro comma closed
              exact goesOn ⟨comma, Int.natCast_eq_zero.mp closed⟩
            rw [ih, splits_cons inside, change, Int.add_zero, and_iff_right (Int.natCast_nonneg d)]

/-- The arguments of a call are parts with something in them, joined by commas. -/
theorem splitArgs?_eq_some_iff {tokens : List Token} {args : List (List Token)} :
    splitArgs? tokens = some args ↔
      (tokens = [] ∧ args = []) ∨
      ∃ first parts, args = first :: parts ∧ tokens = joinParts first parts ∧
        ∀ part ∈ first :: parts, part ≠ [] ∧ IsPart part := by
  rw [splitArgs?]
  split
  · rename_i empty
    rw [List.isEmpty_iff] at empty
    constructor
    · rintro ⟨⟩
      exact .inl ⟨empty, rfl⟩
    · rintro (⟨-, rfl⟩ | ⟨first, parts, -, split, each⟩)
      · rfl
      · rw [empty] at split
        exact absurd (List.append_eq_nil_iff.mp split.symm).1 (each first List.mem_cons_self).1
  · rename_i nonempty
    rw [List.isEmpty_iff] at nonempty
    rw [Option.filter_eq_some_iff, splitFrom_eq_some_iff, List.all_eq_true]
    constructor
    · rintro ⟨⟨first, parts, rfl, split, part, others⟩, filled⟩
      refine .inr ⟨first, parts, rfl, split, fun p hp => ⟨?_, ?_⟩⟩
      · simpa using filled p hp
      · rcases List.mem_cons.mp hp with rfl | behind
        · exact part
        · exact others p behind
    · rintro (⟨empty, -⟩ | ⟨first, parts, rfl, split, each⟩)
      · exact absurd empty nonempty
      · obtain ⟨own, others⟩ := List.forall_mem_cons.mp each
        refine ⟨⟨first, parts, rfl, split, own.2, fun p hp => (others p hp).2⟩, fun p hp => ?_⟩
        simpa using (each p hp).1

/-- Brackets of different kinds close each other. -/
example :
    splitArgs? [.int 1, .mark ',', .ident "c", .mark '[', .int 0, .mark ')'] =
      some [[.int 1], [.ident "c", .mark '[', .int 0, .mark ')']] := by decide

theorem splitArgs?_join (first : List Token) (parts : List (List Token))
    (each : ∀ part ∈ first :: parts, part ≠ [] ∧ IsPart part) :
    splitArgs? (joinParts first parts) = some (first :: parts) :=
  splitArgs?_eq_some_iff.mpr (.inr ⟨first, parts, rfl, rfl, each⟩)

/-- The tokens of a call on the circuit object, with `args` between its brackets. -/
def tokens (method : String) (args : List Token) : List Token :=
  .ident "circuit" :: .mark '.' :: .ident method :: .mark '(' :: args ++ [.mark ')']

/-- A semicolon behind a call is passed over. -/
theorem ofTokens?_semicolon (method : String) (args : List Token) :
    ofTokens? (tokens method args ++ [.mark ';']) = ofTokens? (tokens method args) := by
  have last : (args ++ [Token.mark ')', .mark ';']).getLast? = some (.mark ';') := by
    rw [List.append_cons]
    exact List.getLast?_concat
  have before : (args ++ [Token.mark ')', .mark ';']).dropLast = args ++ [.mark ')'] := by
    rw [List.append_cons]
    exact List.dropLast_concat
  have bracket : (args ++ [Token.mark ')']).getLast? = some (.mark ')') := List.getLast?_concat
  have noSemicolon : some (Token.mark ')') ≠ some (.mark ';') := by decide
  simp only [tokens, List.cons_append, List.append_assoc, List.nil_append, ofTokens?, last, before, bracket,
    if_true, if_neg noSemicolon]

/-- **A call ends in a bracket, and in a semicolon behind it if one likes.** -/
theorem ofTokens?_eq_some_iff {line : List Token} {call : MethodCall} :
    ofTokens? line = some call ↔
      ∃ args, splitArgs? args = some call.args ∧
        (line = tokens call.method args ∨ line = tokens call.method args ++ [.mark ';']) := by
  constructor
  · intro found
    rw [ofTokens?.eq_def] at found
    split at found
    · rename_i method rest
      have closing : ∀ body : List Token,
          (if body.getLast? = some (.mark ')') then
            (splitArgs? body.dropLast).map fun args => { method, args } else none) = some call →
          ∃ args, splitArgs? args = some call.args ∧ body = args ++ [.mark ')'] ∧ method = call.method := by
        intro body found
        split at found
        · rename_i ends
          obtain ⟨args, splits, rfl⟩ := Option.map_eq_some_iff.mp found
          obtain ⟨inner, rfl⟩ := List.getLast?_eq_some_iff.mp ends
          rw [List.dropLast_concat] at splits
          exact ⟨inner, splits, rfl, rfl⟩
        · cases found
      dsimp only at found
      split at found
      · rename_i semicolon
        obtain ⟨body, rfl⟩ := List.getLast?_eq_some_iff.mp semicolon
        rw [List.dropLast_concat] at found
        obtain ⟨args, splits, rfl, rfl⟩ := closing body found
        exact ⟨args, splits, .inr rfl⟩
      · obtain ⟨args, splits, rfl, rfl⟩ := closing rest found
        exact ⟨args, splits, .inl rfl⟩
    · cases found
  · have bare : ∀ args, splitArgs? args = some call.args → ofTokens? (tokens call.method args) = some call := by
      intro args splits
      exact (ofTokens?_call _ args).trans (by rw [splits]; rfl)
    rintro ⟨args, splits, rfl | rfl⟩
    · exact bare args splits
    · rw [ofTokens?_semicolon]
      exact bare args splits

end MethodCall

/-! ## The four calls -/

theorem indexArg?_eq_some_iff {arg : List Token} {q : Index} :
    indexArg? arg = some q ↔ arg = [.int q.toUInt64] := by
  constructor
  · intro found
    unfold indexArg? at found
    split at found
    · split at found
      · rename_i n small
        cases found
        have same : n.toUInt32.toUInt64 = n := by
          rw [← UInt64.toNat_inj, UInt32.toNat_toUInt64, UInt64.toNat_toUInt32]
          exact Nat.mod_eq_of_lt small
        rw [same]
      · cases found
    · cases found
  · rintro rfl
    exact indexArg?_toUInt64 q

/-- What a method of the circuit object takes between its brackets, and the operation that it places. -/
inductive Arguments : String → List Token → Operation → Prop where
  | hadamard (q : Index) : Arguments "h" [.int q.toUInt64] (.hadamard q)
  | pauliX (q : Index) : Arguments "x" [.int q.toUInt64] (.pauliX q)
  | controlledNot (c t : Index) (ne : c ≠ t) :
      Arguments "cx" [.int c.toUInt64, .mark ',', .int t.toUInt64] (.controlledNot c t ne)
  /-- Where the result goes is not looked at, as long as it is in parts. -/
  | measure (q : Index) (parts : List (List Token)) (each : ∀ part ∈ parts, part ≠ [] ∧ IsPart part) :
      Arguments "measure" (joinParts [.int q.toUInt64] parts) (.measure q)

/-- The tokens of a call that places an operation. -/
def IsCall (line : List Token) (op : Operation) : Prop :=
  ∃ method args, Arguments method args op ∧
    (line = MethodCall.tokens method args ∨ line = MethodCall.tokens method args ++ [.mark ';'])

theorem isPart_index (q : Index) : ([Token.int q.toUInt64] : List Token) ≠ [] ∧ IsPart [.int q.toUInt64] := by
  refine ⟨List.cons_ne_nil _ _, Token.isPartFrom_cons.mpr ⟨Int.le_refl 0, nofun, ?_⟩⟩
  exact Token.isPartFrom_nil.mpr rfl

namespace Gate

variable {method : String} {args : List Token} {parts : List (List Token)} {step : Index} {g : Gate}

/-- A call that is read as a gate has the arguments that its method takes. -/
theorem arguments_of_ofCall? (splits : MethodCall.splitArgs? args = some parts)
    (found : ofCall? step { method, args := parts } = some g) :
    g.step = step ∧ Arguments method args g.operation := by
  have joined : ∀ {first : List Token} {others : List (List Token)}, parts = first :: others →
      args = joinParts first others ∧ ∀ part ∈ others, part ≠ [] ∧ IsPart part := by
    rintro first others rfl
    rcases MethodCall.splitArgs?_eq_some_iff.mp splits with ⟨-, none_else⟩ | ⟨_, _, same, rfl, each⟩
    · cases none_else
    · cases same
      exact ⟨rfl, (List.forall_mem_cons.mp each).2⟩
  have placed : ∀ {q : List Token} {place : Index → Gate}, (indexArg? q).map place = some g →
      ∃ i, q = [.int i.toUInt64] ∧ g = place i := by
    intro q place found
    obtain ⟨i, read, rfl⟩ := Option.map_eq_some_iff.mp found
    exact ⟨i, indexArg?_eq_some_iff.mp read, rfl⟩
  unfold ofCall? at found
  split at found
  · rename_i named passed
    cases named
    obtain ⟨i, rfl, rfl⟩ := placed found
    obtain ⟨rfl, -⟩ := joined passed
    exact ⟨rfl, .hadamard i⟩
  · rename_i named passed
    cases named
    obtain ⟨i, rfl, rfl⟩ := placed found
    obtain ⟨rfl, -⟩ := joined passed
    exact ⟨rfl, .pauliX i⟩
  · rename_i named passed
    cases named
    obtain ⟨control, readControl, read⟩ := Option.bind_eq_some_iff.mp found
    obtain ⟨target, readTarget, made⟩ := Option.bind_eq_some_iff.mp read
    cases indexArg?_eq_some_iff.mp readControl
    cases indexArg?_eq_some_iff.mp readTarget
    obtain ⟨rfl, -⟩ := joined passed
    by_cases ne : control = target
    · rw [controlledNot, dif_pos ne] at made
      cases made
    · rw [controlledNot_of_ne ne] at made
      cases made
      exact ⟨rfl, .controlledNot control target ne⟩
  · rename_i named passed
    cases named
    obtain ⟨i, rfl, rfl⟩ := placed found
    obtain ⟨rfl, each⟩ := joined passed
    exact ⟨rfl, .measure i _ each⟩
  · cases found

/-- The arguments that a method takes are read, and the call places its operation. -/
theorem ofCall?_of_arguments {op : Operation} (takes : Arguments method args op) (step : Index) :
    ∃ parts, MethodCall.splitArgs? args = some parts ∧
      ofCall? step { method, args := parts } = some ⟨op, step⟩ := by
  have alone : ∀ q : Index, ∀ part ∈ [[Token.int q.toUInt64]], part ≠ [] ∧ IsPart part :=
    fun q => List.forall_mem_singleton.mpr (isPart_index q)
  cases takes with
  | hadamard q =>
      refine ⟨_, MethodCall.splitArgs?_join [.int q.toUInt64] [] (alone q), ?_⟩
      simp [ofCall?, Gate.hadamard]
  | pauliX q =>
      refine ⟨_, MethodCall.splitArgs?_join [.int q.toUInt64] [] (alone q), ?_⟩
      simp [ofCall?, Gate.pauliX]
  | controlledNot c t ne =>
      refine ⟨_, MethodCall.splitArgs?_join [.int c.toUInt64] [[.int t.toUInt64]]
        (List.forall_mem_cons.mpr ⟨isPart_index c, alone t⟩), ?_⟩
      simp [ofCall?, controlledNot_of_ne ne, Except.toOption]
  | measure q others each =>
      refine ⟨_, MethodCall.splitArgs?_join [.int q.toUInt64] others
        (List.forall_mem_cons.mpr ⟨isPart_index q, each⟩), ?_⟩
      simp [ofCall?, Gate.measure]

/-- **The grammar of lines.** A line places a gate exactly if all its pieces are tokens and the tokens are a call
on the circuit object, with at most one semicolon behind it, that is one of four: `h` or `x` of one index, `cx` of
two different ones, and `measure` of an index and any number of further parts. The gate is the one of the call, at
the step that the reader has come to. Every other line places nothing. -/
theorem line_grammar (line : List Char) (step : Index) :
    (∀ g, ofLine? line step = some g ↔
      g.step = step ∧ ∃ tokens, Token.line? line = some tokens ∧ IsCall tokens g.operation) ∧
    (ofLine? line step = none ↔ ∀ tokens op, Token.line? line = some tokens → ¬ IsCall tokens op) := by
  have placed : ∀ g, ofLine? line step = some g ↔
      g.step = step ∧ ∃ tokens, Token.line? line = some tokens ∧ IsCall tokens g.operation := by
    intro g
    rw [ofLine?, Option.bind_eq_some_iff]
    constructor
    · rintro ⟨⟨method, parts⟩, called, found⟩
      obtain ⟨tokens, scanned, called⟩ := Option.bind_eq_some_iff.mp called
      obtain ⟨args, splits, spelt⟩ := MethodCall.ofTokens?_eq_some_iff.mp called
      obtain ⟨same, takes⟩ := arguments_of_ofCall? splits found
      exact ⟨same, tokens, scanned, method, args, takes, spelt⟩
    · rintro ⟨rfl, tokens, scanned, method, args, takes, spelt⟩
      obtain ⟨parts, splits, found⟩ := ofCall?_of_arguments takes g.step
      refine ⟨{ method, args := parts }, ?_, found⟩
      rw [scanned, Option.bind_some]
      exact MethodCall.ofTokens?_eq_some_iff.mpr ⟨args, splits, spelt⟩
  refine ⟨placed, ?_⟩
  constructor
  · intro silent tokens op scanned call
    rw [(placed ⟨op, step⟩).mpr ⟨rfl, tokens, scanned, call⟩] at silent
    cases silent
  · intro noCall
    refine Option.eq_none_iff_forall_ne_some.mpr fun g found => ?_
    obtain ⟨-, tokens, scanned, call⟩ := (placed g).mp found
    exact noCall tokens g.operation scanned call

end Gate

end QuantumWorkbench
