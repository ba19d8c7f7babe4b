/-
Texts in quotes, for a reader of a log. A text is put between double quotes, its quotes and backslashes are taken by a
backslash, and every character that would not show is written by name or by number, so that one line tells the text
exactly. All other characters stand for themselves.
-/
import PowerPrefs.Text.Glyphless

namespace PowerPrefs.Text

/-- digits of a number in base 16, lower case, without leading zeros -/
def hexDigits (n : Nat) : Text := Nat.toDigits 16 n

/-- how one character stands between the quotes -/
def quoteChar (c : Char) : Text :=
  if c = '"' ∨ c = '\\' then ['\\', c]
  else if c = '\x00' then ['\\', '0']
  else if c = '\t' then ['\\', 't']
  else if c = '\r' then ['\\', 'r']
  else if c = '\n' then ['\\', 'n']
  else if isGlyphless c then "\\u\x7b".toList ++ hexDigits c.toNat ++ "\x7d".toList
  else [c]

def quoted (t : Text) : Text := '"' :: t.flatMap quoteChar ++ ['"']

/-- a set of texts: its members quoted, in braces, with a comma and a space between them -/
def quotedSet (ts : List Text) : Text :=
  "\x7b".toList ++ List.intercalate (", ".toList) (ts.map quoted) ++ "\x7d".toList

end PowerPrefs.Text
