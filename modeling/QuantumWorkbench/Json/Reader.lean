import QuantumWorkbench.Decimal.Numeral
import QuantumWorkbench.Json.Basic

/-!
# Reading JSON

A reader of one value with nothing after it and no raw control characters in strings. Strict reading
also refuses lone surrogates, numbers beyond the range of doubles, and more than 127 containers open
at a time. Reading for a record does not: what the record passes over need not have a value.

## Contents
- `JsonToken.Scan`: a machine that cuts the text into tokens, one character at a time.
- `Json.Builder`: a machine that puts tokens together, with a stack of open containers.
- `Json.read?`: both together, for a record. Keys stay in textual order and repeated keys are kept,
  so that the record can tell.
- `Json.parse?`: the canonical value, strictly read.
-/

namespace QuantumWorkbench

/-- A mark or a complete scalar. -/
inductive JsonToken where
  | openArray
  | closeArray
  | openObject
  | closeObject
  | comma
  | colon
  | scalar (value : Json)

namespace JsonToken

def mark? : Char → Option JsonToken
  | '[' => some openArray
  | ']' => some closeArray
  | '\x7b' => some openObject
  | '\x7d' => some closeObject
  | ',' => some comma
  | ':' => some colon
  | _ => none

/-! ## Strings -/

def hexValue? (c : Char) : Option Nat :=
  if c.isDigit then some (c.toNat - '0'.toNat)
  else if 'a' ≤ c ∧ c ≤ 'f' then some (c.toNat - 'a'.toNat + 10)
  else if 'A' ≤ c ∧ c ≤ 'F' then some (c.toNat - 'A'.toNat + 10)
  else none

def hex4? (a b c d : Char) : Option Nat := do
  return (((← hexValue? a) * 16 + (← hexValue? b)) * 16 + (← hexValue? c)) * 16 + (← hexValue? d)

/-- The character of a one-letter escape. -/
def escape? : Char → Option Char
  | '"' => some '"'
  | '\\' => some '\\'
  | '/' => some '/'
  | 'b' => some '\x08'
  | 'f' => some '\x0c'
  | 'n' => some '\n'
  | 'r' => some '\r'
  | 't' => some '\t'
  | _ => none

/-- Resolves the escapes of a string's body. A surrogate stands only in a pair. -/
def unescape : List Char → Option (List Char)
  | [] => some []
  | '\\' :: 'u' :: a :: b :: c :: d :: rest => do
    let unit ← hex4? a b c d
    if unit < 0xD800 ∨ 0xDFFF < unit then
      return Char.ofNat unit :: (← unescape rest)
    else if unit < 0xDC00 then
      match rest with
      | '\\' :: 'u' :: a' :: b' :: c' :: d' :: rest' =>
        let low ← hex4? a' b' c' d'
        if 0xDC00 ≤ low ∧ low ≤ 0xDFFF then
          return Char.ofNat (0x10000 + (unit - 0xD800) * 0x400 + (low - 0xDC00))
            :: (← unescape rest')
        else none
      | _ => none
    else none
  | '\\' :: c :: rest => do
    return (← escape? c) :: (← unescape rest)
  | ['\\'] => none
  | c :: rest => if c < ' ' then none else (c :: ·) <$> unescape rest

/-- Are the escapes of a string's body complete, and its other characters allowed? -/
def isWritten : List Char → Bool
  | [] => true
  | '\\' :: 'u' :: a :: b :: c :: d :: rest => (hex4? a b c d).isSome && isWritten rest
  | '\\' :: c :: rest => (escape? c).isSome && isWritten rest
  | ['\\'] => false
  | c :: rest => !decide (c < ' ') && isWritten rest

/-- The string with a body, if it is well written. -/
def text? (body : List Char) : Option Json :=
  match unescape body with
  | some s => some (.str (String.ofList s))
  | none => if isWritten body then some .unusable else none

/-! ## Numbers -/

/-- The number nearest to `m * 10 ^ e`. -/
def scientific (negative : Bool) (m : Nat) (e : Int) : Json :=
  let x := nearestFloat m e
  if x.isInf then .unusable else .real (if negative then -x else x)

/-- A whole number, as a double if it does not fit 64 bits or is a negative zero. -/
def wholeNumber (negative : Bool) (n : Nat) : Json :=
  if negative then
    if n ≠ 0 ∧ n ≤ Nat.pow 2 63 then .int (-n) else scientific true n 0
  else if n < UInt64.size then .int n
  else scientific false n 0

/-- The exponent after its mark: an optional sign and at least one digit. -/
def exponent? (cs : List Char) : Option Int := do
  let (negative, digits) := match cs with
    | '+' :: rest => (false, rest)
    | '-' :: rest => (true, rest)
    | rest => (false, rest)
  let n ← numeral? digits
  return if negative then -(n : Int) else n

/-- A number: an optional minus, digits without a leading zero, then possibly a fraction and an
exponent. -/
def number? (cs : List Char) : Option Json := do
  let (negative, cs) := match cs with
    | '-' :: rest => (true, rest)
    | rest => (false, rest)
  let (whole, cs) := cs.span Char.isDigit
  guard (!whole.isEmpty ∧ (whole.length = 1 ∨ whole.head? ≠ some '0'))
  if cs.isEmpty then return wholeNumber negative (digitsValue whole)
  else
    let (fraction, cs) ← match cs with
      | '.' :: rest =>
        let (digits, rest) := rest.span Char.isDigit
        if digits.isEmpty then none else some (digits, rest)
      | rest => some ([], rest)
    let e ← match cs with
      | [] => some 0
      | mark :: rest => if mark = 'e' ∨ mark = 'E' then exponent? rest else none
    return scientific negative (digitsValue (whole ++ fraction)) (e - fraction.length)

/-- A run of letters, digits, signs and points: a literal name or a number. -/
def word? (cs : List Char) : Option Json :=
  if cs = "null".toList then some .null
  else if cs = "true".toList then some (.bool true)
  else if cs = "false".toList then some (.bool false)
  else number? cs

def isWordChar (c : Char) : Bool := c.isAlphanum || c = '-' || c = '+' || c = '.'

def isSpace (c : Char) : Bool := c = ' ' || c = '\t' || c = '\n' || c = '\r'

/-! ## Cutting the text into tokens -/

/-- Where the machine is: between tokens, in a word, in a string, or behind a backslash. What has
been read of the token is kept in reverse. -/
inductive Scan where
  | gap
  | word (read : List Char)
  | text (read : List Char)
  | escaped (read : List Char)

namespace Scan

/-- A character that starts something: the tokens it completes and the place after it. -/
def start? (c : Char) : Option (List JsonToken × Scan) :=
  if isSpace c then some ([], gap)
  else if c = '"' then some ([], text [])
  else match mark? c with
    | some t => some ([t], gap)
    | none => if isWordChar c then some ([], word [c]) else none

def step? : Scan → Char → Option (List JsonToken × Scan)
  | gap, c => start? c
  | word read, c =>
    if isWordChar c then some ([], word (c :: read))
    else do
      let v ← word? read.reverse
      let (ts, s) ← start? c
      return (.scalar v :: ts, s)
  | text read, c =>
    if c = '"' then (text? read.reverse).map fun v => ([.scalar v], gap)
    else if c = '\\' then some ([], escaped (c :: read))
    else some ([], text (c :: read))
  | escaped read, c => some ([], text (c :: read))

/-- The token that the end of the text completes. -/
def finish? : Scan → Option (List JsonToken)
  | gap => some []
  | word read => (word? read.reverse).map fun v => [.scalar v]
  | text _ | escaped _ => none

end Scan

end JsonToken

/-! ## Putting tokens together -/

namespace Json

/-- A container whose end has not come, its contents in reverse. An object keeps the key whose value
is due. -/
inductive Frame where
  | items (done : List Json)
  | fields (done : List (String × Json)) (key : String)

/-- What may come next. -/
inductive Due where
  | value
  | firstItem
  | firstKey
  | nextKey
  | colon
  | separator
  | nothing (result : Json)

/-- The open containers, innermost first, and what may come next. -/
structure Builder where
  stack : List Frame := []
  due : Due := .value

namespace Builder

/-- The most containers that may be open at a time. -/
def maxDepth : Nat := 127

/-- Hands a complete value to the innermost open container. -/
def put (v : Json) : List Frame → Builder
  | [] => { due := .nothing v }
  | .items done :: rest => { stack := .items (v :: done) :: rest, due := .separator }
  | .fields done key :: rest =>
    { stack := .fields ((key, v) :: done) "" :: rest, due := .separator }

def push? (isStrict : Bool) (frame : Frame) (due : Due) (stack : List Frame) : Option Builder :=
  if isStrict ∧ maxDepth ≤ stack.length then none else some { stack := frame :: stack, due }

/-- Starts a value. -/
def begin? (isStrict : Bool) (stack : List Frame) : JsonToken → Option Builder
  | .scalar v => if isStrict ∧ v.isUnusable then none else some (put v stack)
  | .openArray => push? isStrict (.items []) .firstItem stack
  | .openObject => push? isStrict (.fields [] "") .firstKey stack
  | _ => none

def step? (isStrict : Bool) (b : Builder) (t : JsonToken) : Option Builder :=
  match b.due, t, b.stack with
  | .firstItem, .closeArray, .items done :: rest => some (put (.arr done.reverse) rest)
  | .value, t, stack | .firstItem, t, stack => begin? isStrict stack t
  | .firstKey, .closeObject, .fields done _ :: rest => some (put (.obj done.reverse) rest)
  | .firstKey, .scalar (.str k), .fields done _ :: rest
  | .nextKey, .scalar (.str k), .fields done _ :: rest =>
    some { stack := .fields done k :: rest, due := .colon }
  | .colon, .colon, stack => some { stack, due := .value }
  | .separator, .comma, stack@(.items _ :: _) => some { stack, due := .value }
  | .separator, .comma, stack@(.fields .. :: _) => some { stack, due := .nextKey }
  | .separator, .closeArray, .items done :: rest => some (put (.arr done.reverse) rest)
  | .separator, .closeObject, .fields done _ :: rest => some (put (.obj done.reverse) rest)
  | _, _, _ => none

end Builder

/-- The value that a text writes, with its keys as they stand in the text. -/
def value? (isStrict : Bool) (text : String) : Option Json := do
  let feed (state : Builder × JsonToken.Scan) (c : Char) : Option (Builder × JsonToken.Scan) := do
    let (ts, scan) ← state.2.step? c
    return (← ts.foldlM (Builder.step? isStrict) state.1, scan)
  let (b, scan) ← text.toList.foldlM feed ({}, .gap)
  let b ← (← scan.finish?).foldlM (Builder.step? isStrict) b
  match b.due with
  | .nothing v => some v
  | _ => none

/-- The value that a text writes, to read a record out of it. -/
def read? (text : String) : Option Json := value? false text

/-- The canonical value that a text writes, strictly read. -/
def parse? (text : String) : Option Json := (value? true text).map canonical

end Json

end QuantumWorkbench
