/-
Texts for a terminal. A text from outside may hold characters that a terminal takes as commands: control characters, and
sequences that begin with an escape character. `withoutControls` leaves them out, so that the text shows and does
nothing else; tabs and line ends stay.

The kinds of sequences end in different ways, and `Taken` keeps them apart. Anywhere, an escape character begins the
next one, and a cancel or substitute character ends the one at hand. A sequence that does not end takes the rest of the
text.

A tab or a line end in a short sequence, or in one with parameters, is shown. What becomes of the sequence depends on
the `Passage` of the text. In a message it ends there. On a stream all that can be shown is shown up to the next
character that cannot, and from that one on the sequence goes on, unless a character beyond ASCII has ended it.
-/
import PowerPrefs.Text

namespace PowerPrefs.Text

/-- what the terminal takes the next character for -/
inductive Taken where
  | shown
  /-- tells the kind of a sequence -/
  | escape
  /-- part of a short sequence -/
  | short
  /-- part of a sequence with parameters -/
  | parameters
  /-- tells how a device string begins -/
  | deviceHead
  /-- a parameter of a device string -/
  | deviceParameters
  /-- a mark between the parameters of a device string and its text -/
  | deviceMarks
  /-- part of a string that a string terminator ends -/
  | string
  /-- part of a string that a bell ends -/
  | command
deriving DecidableEq, Repr

def isControl (c : Char) : Bool := c.toNat < 0x20 || c.toNat = 0x7F

/-- control characters that only lay out a text -/
def isLayout (c : Char) : Bool := c ∈ ['\t', '\n', '\x0c', '\r']

/-- the string terminator, a single byte; as it may also be part of the UTF-8 form of a character, that ends a string -/
def endsString (c : Char) : Bool := 0x9C ∈ String.utf8EncodeChar c

namespace Taken

/-- the character is shown -/
def shows (t : Taken) (c : Char) : Bool :=
  match t with
  | .shown => !isControl c || isLayout c
  | .escape | .short | .parameters => isLayout c
  | _ => false

/-- what the character after `c` is taken for, where `c` is not shown -/
def after (t : Taken) (c : Char) : Taken :=
  match t with
  | .shown => .shown
  | .escape =>
    if c = '[' then .parameters
    else if c = ']' then .command
    else if c = 'P' then .deviceHead
    else if c ∈ ['X', '^', '_'] then .string
    else if '0' ≤ c ∧ c ≤ '~' then .shown
    else if ' ' ≤ c ∧ c ≤ '/' then .short
    else .escape
  | .short => if '0' ≤ c ∧ c ≤ '~' then .shown else .short
  | .parameters => if '@' ≤ c ∧ c ≤ '~' then .shown else .parameters
  | .deviceHead =>
    if '@' ≤ c ∧ c ≤ '~' then .string
    else if '0' ≤ c ∧ c ≤ '?' then .deviceParameters
    else if ' ' ≤ c ∧ c ≤ '/' then .deviceMarks
    else .deviceHead
  | .deviceParameters =>
    if '<' ≤ c ∧ c ≤ '~' then .string
    else if ' ' ≤ c ∧ c ≤ '/' then .deviceMarks
    else .deviceParameters
  | .deviceMarks => if '0' ≤ c ∧ c ≤ '~' then .string else .deviceMarks
  | .string => if endsString c then .shown else .string
  | .command => if c = '\x07' then .shown else .command

end Taken

/-- how a text gets to its reader -/
inductive Passage where
  /-- handed over as a whole -/
  | message
  /-- written to where a terminal may be -/
  | stream
deriving DecidableEq, Repr

/-- what the character after `c` is taken for, where `c` is shown though `t` was expected -/
def Taken.afterShown (p : Passage) (t : Taken) (c : Char) : Taken :=
  match p with
  | .message => .shown
  | .stream => if c.toNat < 0x80 then t else .shown

/-- without what a terminal would take as a command; `run` tells that the character before was shown -/
def dropControls (p : Passage) (t : Taken) (run : Bool) : Text → Text
  | [] => []
  | c :: r =>
    if c = '\x1b' then dropControls p .escape false r
    else if c = '\x18' ∨ c = '\x1a' then dropControls p .shown false r
    else if (run && Taken.shown.shows c) || t.shows c then c :: dropControls p (t.afterShown p c) true r
    else dropControls p (t.after c) false r

def withoutControls (p : Passage) (s : Text) : Text := dropControls p .shown false s

end PowerPrefs.Text
