import QuantumWorkbench.Json.Printer
import QuantumWorkbench.Text.Pieces

/-!
# Request targets

The part of an address that goes into a request: its path and its query.

## Contents
- `percentEncoded`: characters as the percent signs of their bytes.
- `pathSegments`: the segments of a path, with those that mean "here" and "up" resolved.
- `requestTarget`: path and query in normal form.
-/

namespace QuantumWorkbench

/-- A byte as a percent sign and two digits. -/
def percentByte (b : UInt8) : List Char :=
  let digit (n : Nat) : Char := (Nat.digitChar n).toUpper
  ['%', digit (b.toNat / 16), digit (b.toNat % 16)]

/-- Writes control characters, blanks, all that is not ASCII and the characters of `reserved` by
their bytes. -/
def percentEncoded (reserved : List Char) (cs : List Char) : List Char :=
  cs.flatMap fun c =>
    if c ≤ ' ' ∨ '\x7e' < c ∨ c ∈ reserved then c.toString.toUTF8.toList.flatMap percentByte
    else [c]

/-- The segments that `/` parts, where a backslash is one too. -/
def splitSegments (cs : List Char) : List (List Char) := pieces (fun c => c = '/' || c = '\\') cs

/-- The segments of a path. One dot is left out and two take back the segment before; at the end
both leave an empty segment. -/
def pathSegments : List (List Char) → List (List Char) → List (List Char)
  | before, [] => before.reverse
  | before, s :: rest =>
    if s = ['.'] then pathSegments (if rest.isEmpty then [] :: before else before) rest
    else if s = ['.', '.'] then
      pathSegments (if rest.isEmpty then [] :: before.drop 1 else before.drop 1) rest
    else pathSegments (s :: before) rest

/-- The path and the query of an address. A fragment is not sent. -/
def requestTarget (url : String) : String :=
  let cs := url.toList.filter (· ∉ ['\t', '\n', '\r'])
  let behindScheme := (cs.dropWhile (· ≠ ':')).drop 3
  let local' := behindScheme.dropWhile (· ∉ ['/', '\\', '?', '#'])
  let sent := local'.takeWhile (· ≠ '#')
  let path := sent.takeWhile (· ≠ '?')
  let query := sent.drop path.length
  let segments := pathSegments [] (splitSegments (path.drop 1))
  let encoded := segments.map (percentEncoded ['"', '<', '>', '\x60', '\x7b', '\x7d'])
  "/" ++ "/".intercalate (encoded.map String.ofList)
    ++ String.ofList (percentEncoded ['"', '<', '>', '\''] query)

example : requestTarget "http://host/a b/../c?d e#f" = "/c?d%20e" := by decide +kernel

end QuantumWorkbench
