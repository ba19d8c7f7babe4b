/-
Double-quoted scalars. A value is written between quotes with a backslash before each quote and backslash of its own, so
that the first quote without one ends it.
- `scan_escape`: scanning from the left, where a backslash takes the next character as it is, finds the value again and
  stops at the quote that was put after it, whatever follows.
-/
import PowerPrefs.Text

namespace PowerPrefs.Schema.Scalar

/-- quotes and backslashes, each with a backslash before it -/
def escape : Text → Text
  | [] => []
  | c :: r => if c = '\\' ∨ c = '"' then '\\' :: c :: escape r else c :: escape r

/-- the value as it stands in the schema -/
def quoted (value : Text) : Text := '"' :: escape value ++ ['"']

/-- the value up to the first quote that no backslash takes, and the text after that quote -/
def scan : Text → Option (Text × Text)
  | [] => none
  | '\\' :: c :: r => (scan r).map fun (value, rest) => (c :: value, rest)
  | c :: r => if c = '"' then some ([], r) else (scan r).map fun (value, rest) => (c :: value, rest)

theorem scan_escape (value rest : Text) : scan (escape value ++ '"' :: rest) = some (value, rest) := by
  induction value with
  | nil => simp [escape, scan]
  | cons c r ih =>
    by_cases hb : c = '\\'
    · simp [escape, hb, scan, ih]
    · by_cases hq : c = '"'
      · simp [escape, hq, scan, ih]
      · simp [escape, hb, hq, scan, ih]

end PowerPrefs.Schema.Scalar
