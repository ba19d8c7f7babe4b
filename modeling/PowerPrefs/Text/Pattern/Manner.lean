/-
How a pattern is to be taken. A `Manner` says whether letters are the same in both cases, which characters there are,
where lines end, which repetitions are reluctant, and whether blanks count. Letters in a pattern, such as the one in
`(?i)`, turn one of these on or off; a hyphen before them turns it off.

Where blanks do not count, `skip` leaves them out, and with them what is between a number sign and the end of its line.
-/
import PowerPrefs.Text.Blank
import PowerPrefs.Text.Pattern

namespace PowerPrefs.Text.Pattern

structure Manner where
  /-- letters are the same in both cases -/
  caseless : Bool
  /-- the front and the end are those of every line -/
  linewise : Bool
  /-- any character means also a line end -/
  acrossLines : Bool
  /-- the characters are those of Unicode, not only of ASCII -/
  unicode : Bool
  /-- carriage returns end lines, too -/
  returns : Bool
  /-- a question mark makes a repetition an eager one -/
  swapped : Bool
  /-- blanks do not count -/
  spaced : Bool
deriving DecidableEq, Repr

namespace Manner

def standard : Manner := ⟨false, false, false, true, false, false, false⟩

/-! ## Letters -/

/-- the manner with what one letter stands for turned on or off -/
def set? (m : Manner) (value : Bool) : Char → Option Manner
  | 'i' => some { m with caseless := value }
  | 'm' => some { m with linewise := value }
  | 's' => some { m with acrossLines := value }
  | 'u' => some { m with unicode := value }
  | 'R' => some { m with returns := value }
  | 'U' => some { m with swapped := value }
  | 'x' => some { m with spaced := value }
  | _ => none

/-- reads letters, each at most once, up to the colon or the parenthesis after them, with `seen` those before, the last
first; a hyphen may be among them once, but not at their end -/
def readLetters? (m : Manner) (seen : List Char) : Text → Option (Manner × List Char × Text)
  | [] => none
  | c :: r =>
    if c = ':' ∨ c = ')' then if seen.head? = some '-' then none else some (m, seen, c :: r)
    else if c ∈ seen then none
    else if c = '-' then readLetters? m (c :: seen) r
    else (m.set? ('-' ∉ seen) c).bind fun m => readLetters? m (c :: seen) r

/-! ## Blanks that do not count -/

/-- without the blanks and comments in front; `comment` tells that one has begun -/
def dropSpace (comment : Bool) : Text → Text
  | [] => []
  | c :: r =>
    if comment then dropSpace (c ≠ '\n') r
    else if c = '#' then dropSpace true r
    else if isBlank c then dropSpace false r
    else c :: r

/-- without what does not count in front -/
def skip (m : Manner) (t : Text) : Text := if m.spaced then dropSpace false t else t

/-- the first character that counts; of a comment only its sign is passed over -/
def next? (m : Manner) (t : Text) : Option Char :=
  if m.spaced then
    let rest : Text := t.dropWhile isBlank
    let rest : Text := if rest.head? = some '#' then rest.tail.dropWhile isBlank else rest
    rest.head?
  else t.head?

/-! ## Sets -/

/-- with all cases of its letters, if they are the same -/
def fold (m : Manner) (s : CharSet) : CharSet :=
  if m.caseless then s.foldCase (if m.unicode then CharSet.cases else CharSet.asciiCases) else s

/-- all others, if so asked; ASCII alone does not have them -/
def invert? (m : Manner) (inverted : Bool) (s : CharSet) : Option CharSet :=
  if inverted then if m.unicode then some s.inverse else none else some s

/-- any character -/
def any? (m : Manner) : Option CharSet :=
  if m.unicode then
    let ends := CharSet.ofList ((if m.acrossLines then [] else ['\n'] ++ if m.returns then ['\r'] else []).map .single)
    some ends.inverse
  else none

/-! ## The front and the end -/

def front (m : Manner) : Look := if m.linewise then .lineFront m.returns else .textFront

def back (m : Manner) : Look := if m.linewise then .lineBack m.returns else .textBack

end Manner

end PowerPrefs.Text.Pattern
