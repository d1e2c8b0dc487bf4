import QuantumWorkbench.Text.Unprintable

/-!
# String literals

A string as messages and descriptions show it: between quotes, with what cannot be seen spelt out.

## Contents
- `literalText`: the literal of a string.
- `optionText`: an optional string, `Some("x")` or `None`.
-/

namespace QuantumWorkbench

/-- A character inside a literal. -/
def literalChar (c : Char) : String :=
  match c with
  | '"' => "\\\""
  | '\\' => "\\\\"
  | '\n' => "\\n"
  | '\r' => "\\r"
  | '\t' => "\\t"
  | '\x00' => "\\0"
  | _ =>
    if isUnprintable c then
      "\\u\x7b" ++ String.ofList (Nat.toDigits 16 c.toNat) ++ "\x7d"
    else c.toString

/-- A string between quotes, with quotes, backslashes and unprintable characters spelt out. -/
def literalText (s : String) : String :=
  "\"" ++ s.toList.foldl (fun acc c => acc ++ literalChar c) "" ++ "\""

def optionText : Option String → String
  | some s => "Some(" ++ literalText s ++ ")"
  | none => "None"

example : literalText "a\"\t" = "\"a\\\"\\t\"" := by decide +kernel

end QuantumWorkbench
