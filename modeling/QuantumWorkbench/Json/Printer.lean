import QuantumWorkbench.Json.Basic
import QuantumWorkbench.Decimal.Shortest

/-!
# Writing JSON

## Contents
- `numberText`: a double by the fewest digits that read back, always with a fraction or an exponent.
- `quotedText`: a string between quotes.
- `Json.compact`, `Json.pretty`: a value on one line, and indented by two blanks a level.
-/

namespace QuantumWorkbench

/-- A positive or zero decimal with its point set. Numbers whose leading digit stands for a power of
ten from -5 to 15 are written in full, others with a signed exponent. -/
def Decimal.pointText (d : Decimal) : String :=
  let ds := Nat.toDigits 10 d.digits
  let lead : Int := d.exponent + ds.length - 1
  if -5 ≤ lead ∧ lead ≤ 15 then
    if 0 ≤ d.exponent then
      String.ofList (ds ++ List.replicate d.exponent.toNat '0') ++ ".0"
    else if 0 ≤ lead then
      let whole := lead.toNat + 1
      String.ofList (ds.take whole) ++ "." ++ String.ofList (ds.drop whole)
    else
      "0." ++ String.ofList (List.replicate (-lead - 1).toNat '0' ++ ds)
  else
    let fraction := ds.drop 1
    String.ofList (ds.take 1) ++ (if fraction.isEmpty then "" else "." ++ String.ofList fraction)
      ++ (if lead < 0 then "e-" else "e+") ++ toString lead.natAbs

/-- A double by the fewest digits that read back. JSON has no text for the values that are no
number; they are written `null`. -/
def numberText (x : Float) : String :=
  match FloatClass.ofFloat x with
  | .finite negative magnitude => (if negative then "-" else "") ++ magnitude.shortest.pointText
  | .nan | .infinite _ => "null"

/-- A character inside quotes. -/
def quotedChar (c : Char) : String :=
  match c with
  | '"' => "\\\""
  | '\\' => "\\\\"
  | '\x08' => "\\b"
  | '\x0c' => "\\f"
  | '\n' => "\\n"
  | '\r' => "\\r"
  | '\t' => "\\t"
  | _ =>
    if c < ' ' then
      "\\u00" ++ String.ofList [Nat.digitChar (c.toNat / 16), Nat.digitChar (c.toNat % 16)]
    else c.toString

/-- A string between quotes. -/
def quotedText (s : String) : String :=
  "\"" ++ s.toList.foldl (fun acc c => acc ++ quotedChar c) "" ++ "\""

namespace Json

/-- The text of a value that has no parts. -/
def scalarText : Json → String
  | null => "null"
  | bool true => "true"
  | bool false => "false"
  | int n => toString n
  | real x => numberText x
  | str s => quotedText s
  | arr _ => "[]"
  | obj _ => "\x7b\x7d"

mutual

/-- The value on one line without blanks. -/
def compact : Json → String
  | arr items => "[" ++ ",".intercalate (compactItems items) ++ "]"
  | obj fields => "\x7b" ++ ",".intercalate (compactFields fields) ++ "\x7d"
  | v => v.scalarText

/-- The items on one line each. -/
def compactItems : List Json → List String
  | [] => []
  | v :: rest => compact v :: compactItems rest

/-- The fields on one line each. -/
def compactFields : List (String × Json) → List String
  | [] => []
  | (k, v) :: rest => (quotedText k ++ ":" ++ compact v) :: compactFields rest

end

/-- The lines of a container's parts between its marks, indented one level more than `indent`. -/
def block (indent : Nat) (opening closing : String) (parts : List String) : String :=
  let inner := "\n" ++ "".pushn ' ' (indent + 2)
  match parts with
  | [] => opening ++ closing
  | _ =>
    opening ++ inner ++ ("," ++ inner).intercalate parts
      ++ "\n" ++ "".pushn ' ' indent ++ closing

mutual

/-- The value with one part a line, in a container that stands at `indent`. -/
def prettyAt (indent : Nat) : Json → String
  | arr items => block indent "[" "]" (prettyItems (indent + 2) items)
  | obj fields => block indent "\x7b" "\x7d" (prettyFields (indent + 2) fields)
  | v => v.scalarText

/-- The items, each at `indent`. -/
def prettyItems (indent : Nat) : List Json → List String
  | [] => []
  | v :: rest => prettyAt indent v :: prettyItems indent rest

/-- The fields, each at `indent`. -/
def prettyFields (indent : Nat) : List (String × Json) → List String
  | [] => []
  | (k, v) :: rest => (quotedText k ++ ": " ++ prettyAt indent v) :: prettyFields indent rest

end

/-- The value with one part a line, indented by two blanks a level. -/
def pretty (v : Json) : String := v.prettyAt 0

end Json

end QuantumWorkbench
