import QuantumWorkbench.Yaml.Token

/-!
# Flat YAML documents

Reads a document that is one mapping of scalars, or one sequence of them, either between brackets or
with an entry to each line.

## Contents
- `Yaml.Document`: the entries of a mapping or the items of a sequence, in their order.
- `Yaml.flowEntries?`, `Yaml.flowItems?`: what stands between brackets.
- `Yaml.blockEntries?`, `Yaml.blockItems?`: what stands at the margin.
- `Yaml.document?`: the document in a text. A text that says nothing is an empty mapping.
-/

namespace QuantumWorkbench.Yaml

/-- A flat document. -/
inductive Document where
  | entries (list : List (Scalar × Scalar))
  | items (list : List Scalar)
deriving DecidableEq, Repr

/-! ## Between brackets -/

/-- The entries behind an opening brace. A value may be left out, and a comma may follow the last
entry. -/
def flowEntries? : List Token → Option (List (Scalar × Scalar))
  | [.closing .brace] => some []
  | [.scalar key, .closing .brace] | [.key key, .closing .brace] => some [(key, .nothing)]
  | [.key key, .scalar value, .closing .brace] => some [(key, value)]
  | .scalar key :: .comma :: rest | .key key :: .comma :: rest =>
    ((key, .nothing) :: ·) <$> flowEntries? rest
  | .key key :: .scalar value :: .comma :: rest => ((key, value) :: ·) <$> flowEntries? rest
  | _ => none

/-- The items behind an opening bracket. A comma may follow the last one. -/
def flowItems? : List Token → Option (List Scalar)
  | [.closing .square] => some []
  | [.scalar item, .closing .square] => some [item]
  | .scalar item :: .comma :: rest => (item :: ·) <$> flowItems? rest
  | _ => none

/-! ## At the margin -/

/-- Does a token start a line at the margin? -/
def Lexeme.isAt (margin : Nat) (l : Lexeme) : Bool := l.startsLine && l.column = margin

/-- Does a token stand behind another one, or deeper than the margin? -/
def Lexeme.isDeeper (margin : Nat) (l : Lexeme) : Bool := !l.startsLine || margin < l.column

/-- The entries whose keys stand at the margin. -/
def blockEntries? (margin : Nat) : List Lexeme → Option (List (Scalar × Scalar))
  | [] => some []
  | l :: rest =>
    match l.token with
    | .key key =>
      if l.isAt margin then
        match rest with
        | m :: more =>
          match m.token with
          | .scalar value =>
            if m.isDeeper margin then ((key, value) :: ·) <$> blockEntries? margin more else none
          | _ => ((key, .nothing) :: ·) <$> blockEntries? margin (m :: more)
        | [] => some [(key, .nothing)]
      else none
    | _ => none

/-- The items whose dashes stand at the margin. -/
def blockItems? (margin : Nat) : List Lexeme → Option (List Scalar)
  | [] => some []
  | l :: rest =>
    if l.token = .dash ∧ l.isAt margin then
      match rest with
      | m :: more =>
        match m.token with
        | .scalar value =>
          if margin < m.column then (value :: ·) <$> blockItems? margin more else none
        | _ => (.nothing :: ·) <$> blockItems? margin (m :: more)
      | [] => some [.nothing]
    else none

/-! ## Documents -/

/-- The document of tokens without marks between documents. -/
def content? : List Lexeme → Option Document
  | [] => some (.entries [])
  | l :: rest =>
    match l.token with
    | .opening .brace => .entries <$> flowEntries? (rest.map (·.token))
    | .opening .square => .items <$> flowItems? (rest.map (·.token))
    | .dash => .items <$> blockItems? l.column (l :: rest)
    | _ => .entries <$> blockEntries? l.column (l :: rest)

/-- Is the token a mark between documents? -/
def Lexeme.isDocumentMark (l : Lexeme) : Bool :=
  l.token = .documentStart || l.token = .documentEnd

/-- The document in a text. There is only one: a mark may start it, and marks may end it, but not
before it has started. -/
def document? (text : String) : Option Document := do
  let lexemes ← lexemes? false none true (← cells? text)
  let isMarked := lexemes.head?.any (·.token = .documentStart)
  let (content, tail) :=
    (if isMarked then lexemes.drop 1 else lexemes).span (!·.isDocumentMark)
  guard (tail.all (·.token = .documentEnd))
  guard (isMarked || tail.isEmpty || !content.isEmpty)
  content? content

end QuantumWorkbench.Yaml
