import QuantumWorkbench.Decimal.Numeral

/-!
# Tokens of a script

Cuts the text of a circuit script into tokens. Blanks and comments are dropped; a comment runs from
a `#` to the end of its line. At every place the longest token is taken. What starts no token is
kept as a piece of its own, so that a reader can say where a line goes wrong.

## Contents
- `Token`: numbers, strings, names and marks.
- `Token.cut`: what stands at the head of a text, and how far it goes.
- `Token.Piece`, `Token.pieces`: the text as a list of pieces with their byte offsets.
- `Token.line?`: the tokens of a line, if it has no piece that is no token.
-/

namespace QuantumWorkbench

/-- A token of a circuit script. -/
inductive Token where
  | float (value : Float)
  | int (value : UInt64)
  | str (value : String)
  | ident (name : String)
  | mark (char : Char)
deriving DecidableEq, Repr

namespace Token

/-- The marks of punctuation and arithmetic. -/
def marks : List Char := ['(', ')', '[', ']', ',', '.', '=', ':', ';', '+', '-', '*', '/']

def isSpace (c : Char) : Bool := c = ' ' || c = '\t' || c = '\r' || c = '\n' || c = '\x0c'

def isNameStart (c : Char) : Bool := c.isAlpha || c = '_'

def isNameChar (c : Char) : Bool := c.isAlphanum || c = '_'

/-- The length of an exponent at the head of the text, `0` if there is none. A mark without digits
behind it is no exponent. -/
def exponentLength : List Char → Nat
  | c :: rest =>
    if c = 'e' ∨ c = 'E' then
      let (sign, digits) := match rest with
        | '+' :: ds => (1, ds)
        | '-' :: ds => (1, ds)
        | ds => (0, ds)
      match (digits.takeWhile Char.isDigit).length with
      | 0 => 0
      | n + 1 => 1 + sign + (n + 1)
    else 0
  | [] => 0

/-- The value of a float: digits, a point, digits that may be missing, and possibly an exponent. -/
def floatValue (text : List Char) : Float :=
  let whole := text.takeWhile Char.isDigit
  let rest := text.drop (whole.length + 1)
  let fraction := rest.takeWhile Char.isDigit
  let e : Int := match rest.drop fraction.length with
    | _ :: '-' :: ds => -(digitsValue ds : Int)
    | _ :: '+' :: ds => digitsValue ds
    | _ :: ds => digitsValue ds
    | [] => 0
  nearestFloat (digitsValue (whole ++ fraction)) (e - fraction.length)

/-- A whole number, if it fits 64 bits. -/
def intToken? (digits : List Char) : Option Token :=
  let n := digitsValue digits
  if n < UInt64.size then some (int (UInt64.ofNat n)) else none

/-- What stands at the head of a text. -/
inductive Head where
  /-- A blank or a comment. -/
  | gap
  /-- A token, or something that is none. -/
  | piece (token? : Option Token)

/-- What starts with `c`, and how many of the characters behind `c` belong to it. -/
def cut (c : Char) (rest : List Char) : Head × Nat :=
  if isSpace c then (.gap, 0)
  else if c = '#' then (.gap, (rest.takeWhile (· ≠ '\n')).length)
  else if c.isDigit then
    let whole := (rest.takeWhile Char.isDigit).length
    match rest.drop whole with
    | '.' :: behind =>
      let fraction := (behind.takeWhile Char.isDigit).length
      let n := whole + 1 + fraction + exponentLength (behind.drop fraction)
      (.piece (some (float (floatValue (c :: rest.take n)))), n)
    | _ => (.piece (intToken? (c :: rest.take whole)), whole)
  else if isNameStart c then
    let n := (rest.takeWhile isNameChar).length
    (.piece (some (ident (String.ofList (c :: rest.take n)))), n)
  else if c = '"' ∨ c = '\'' then
    let body := rest.takeWhile fun d => d ≠ c && d ≠ '\n'
    if (rest.drop body.length).head? = some c then
      (.piece (some (str (String.ofList body))), body.length + 1)
    else (.piece none, body.length)  -- the closing quote is missing
  else if marks.contains c then (.piece (some (mark c)), 0)
  else (.piece none, 0)

/-- A token, or something that is none, with its text and the byte at which it starts. -/
structure Piece where
  token? : Option Token
  text : List Char
  start : Nat
deriving DecidableEq, Repr

/-- The number of bytes that characters take. -/
def byteLength (cs : List Char) : Nat := cs.foldl (fun n c => n + c.utf8Size) 0

/-- The byte behind the last one. -/
def Piece.stop (p : Piece) : Nat := p.start + byteLength p.text

/-- What is said of a piece that is no token. -/
def Piece.invalidText (p : Piece) : String := s!"Invalid token: '{String.ofList p.text}'"

/-- The pieces of a text whose first byte is number `start`. -/
def piecesFrom (start : Nat) : List Char → List Piece
  | [] => []
  | c :: rest =>
    let (head, n) := cut c rest
    let text := c :: rest.take n
    let tail := piecesFrom (start + byteLength text) (rest.drop n)
    match head with
    | .gap => tail
    | .piece token? => { token?, text, start } :: tail
termination_by cs => cs.length
decreasing_by simp only [List.length_drop, List.length_cons]; omega

/-- The pieces of a text. -/
def pieces (text : List Char) : List Piece := piecesFrom 0 text

/-- The tokens of a line, or its first piece that is none. -/
def line (text : List Char) : Except Piece (List Token) :=
  (pieces text).mapM fun p =>
    match p.token? with
    | some t => .ok t
    | none => .error p

/-- The tokens of a line, if all its pieces are tokens. -/
def line? (text : List Char) : Option (List Token) := (line text).toOption

end Token

end QuantumWorkbench
