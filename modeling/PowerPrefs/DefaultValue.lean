/-
Default values. A default file holds the value of one pref; what counts is its text on one line, without the blanks
around it, whichever way its lines end.
- `newline_notMem_ofContent`: the value is a single line.
-/
import PowerPrefs.Text.Newline
import PowerPrefs.Text.Blank

namespace PowerPrefs.DefaultValue

/-- each line feed becomes a space -/
def foldLines (t : Text) : Text := t.map fun c => if c = '\n' then ' ' else c

/-- the value that a file with this content gives -/
def ofContent (content : Text) : Text := foldLines content.unifyNewlines.trim

theorem newline_notMem_foldLines (t : Text) : '\n' ∉ foldLines t := by
  simp only [foldLines, List.mem_map, not_exists, not_and]
  intro c _
  split
  · decide
  · assumption

theorem newline_notMem_ofContent (content : Text) : '\n' ∉ ofContent content :=
  newline_notMem_foldLines _

end PowerPrefs.DefaultValue
