/-!
# Lines

## Contents
- `textLines`: the lines of a text, split at line feeds only.
- `joinLines`: lines as a text; `textLines_joinLines` says that they can be had back.
-/

namespace QuantumWorkbench

/-! ## Splitting -/

/-- A line that a line feed ended, without the carriage return before it. -/
def dropReturn (line : List Char) : List Char :=
  if line.getLast? = some '\r' then line.dropLast else line

/-- The lines among `cs`, where `line` is the one being read, in reverse. What stands after the last
line feed is a line only if it is not empty. -/
def linesFrom (line : List Char) : List Char → List (List Char)
  | [] => if line.isEmpty then [] else [line.reverse]
  | c :: rest =>
    if c = '\n' then dropReturn line.reverse :: linesFrom [] rest else linesFrom (c :: line) rest

/-- The lines of a text. A line ends at a line feed, with the carriage return before it if there is
one. -/
def textLines (s : String) : List (List Char) := linesFrom [] s.toList

example : textLines "a\r\n\nb\r" = [['a'], [], ['b', '\r']] := by decide

/-! ## Joining -/

/-- The lines with a line feed behind each. -/
def joinLines (lines : List String) : String :=
  String.ofList (lines.flatMap fun line => line.toList ++ ['\n'])

/-- A line that can stand in a text without becoming another. -/
def IsLine (line : String) : Prop := '\n' ∉ line.toList ∧ line.toList.getLast? ≠ some '\r'

theorem linesFrom_append {body : List Char} (h : '\n' ∉ body) (line rest : List Char) :
    linesFrom line (body ++ '\n' :: rest)
      = dropReturn (line.reverse ++ body) :: linesFrom [] rest := by
  induction body generalizing line with
  | nil => simp [linesFrom]
  | cons c body ih =>
    have hc : c ≠ '\n' := fun e => h (by simp [e])
    have hb : '\n' ∉ body := fun e => h (List.mem_cons_of_mem _ e)
    simp [linesFrom, hc, ih hb]

/-- Lines that were joined are the lines of the text. -/
theorem textLines_joinLines {lines : List String} (h : ∀ line ∈ lines, IsLine line) :
    textLines (joinLines lines) = lines.map String.toList := by
  unfold textLines joinLines
  rw [String.toList_ofList]
  induction lines with
  | nil => rfl
  | cons line rest ih =>
    have hl := h line (by simp)
    have hr := ih fun l hm => h l (List.mem_cons_of_mem _ hm)
    rw [List.flatMap_cons, List.append_assoc, List.singleton_append, linesFrom_append hl.1, hr]
    simp [dropReturn, hl.2]

end QuantumWorkbench
