/-
Line endings. A line may end in a carriage return and a line feed, in a lone carriage return, or in a lone line feed.
`unifyNewlines` leaves the last kind only.

Pairs are folded first, so that a pair becomes one line feed and not two. A carriage return before a pair is a line
ending of its own: folding the pair leaves a carriage return before a line feed, and that is not folded again.
A text that is split at line feeds keeps the carriage return of a pair at the end of the line; `withoutReturn` takes it
off.
- `unifyNewlines_of_noReturn`: a text without carriage returns stays as it is.
- `return_notMem_unifyNewlines`: none is left.
-/
import PowerPrefs.Text

namespace PowerPrefs.Text

/-- each carriage return and line feed becomes one line feed -/
def foldPairs : Text → Text
  | [] => []
  | [c] => [c]
  | c :: d :: r => if c = '\r' ∧ d = '\n' then '\n' :: foldPairs r else c :: foldPairs (d :: r)

/-- each carriage return becomes a line feed -/
def foldReturns (t : Text) : Text := t.map fun c => if c = '\r' then '\n' else c

/-- every line ending becomes a line feed -/
def unifyNewlines (t : Text) : Text := if '\r' ∈ t then foldReturns (foldPairs t) else t

/-- a line without the carriage return of its line ending -/
def withoutReturn (line : Text) : Text := if line.getLast? = some '\r' then line.dropLast else line

theorem unifyNewlines_of_noReturn {t : Text} (h : '\r' ∉ t) : unifyNewlines t = t := by
  simp [unifyNewlines, h]

theorem return_notMem_foldReturns (t : Text) : '\r' ∉ foldReturns t := by
  simp only [foldReturns, List.mem_map, not_exists, not_and]
  intro c _
  split
  · decide
  · assumption

theorem return_notMem_unifyNewlines (t : Text) : '\r' ∉ unifyNewlines t := by
  unfold unifyNewlines
  split
  · exact return_notMem_foldReturns _
  · assumption

end PowerPrefs.Text
