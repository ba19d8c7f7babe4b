/-
What a backslash and the characters after it stand for:

    \d \s \w    a digit, a blank, a word character; with a capital letter all others
    \pL         a character of a general category of Unicode; with a capital letter before it all others
    \x61 \u0061 \U00000061    the character with this code point
    \n \r \t \f \v \a         control characters
    \A \z       the front and the end of the text
    \b \B \< \> an edge of a word, none, the front and the end of a word, for words of ASCII only

Before a sign of ASCII, a backslash makes the sign stand for itself. All else has no meaning, a backslash at the end
included.
-/
import PowerPrefs.Text.Alphanumeric
import PowerPrefs.Text.Pattern.Manner

namespace PowerPrefs.Text

namespace CharSet

/-- letters, marks and digits, with what joins words or their parts -/
def word : CharSet :=
  ofList [alphabetic, mark, digit, ⟨[(0x5F, 0x5F), (0x200C, 0x200D), (0x203F, 0x2040), (0x2054, 0x2054),
    (0xFE33, 0xFE34), (0xFE4D, 0xFE4F), (0xFF3F, 0xFF3F)]⟩]

def blank : CharSet := ⟨blankRanges⟩

def asciiDigit : CharSet := range '0' '9'

def asciiWord : CharSet := ofList [asciiDigit, range 'A' 'Z', single '_', range 'a' 'z']

def asciiBlank : CharSet := ofList [range '\t' '\r', single ' ']

end CharSet

namespace Pattern

/-- what a backslash begins -/
inductive Escape where
  | char (c : Char)
  | set (s : CharSet)
  | look (l : Look)
deriving DecidableEq, Repr

namespace Escape

/-! ## Code points -/

def digitValue? (c : Char) : Option Nat :=
  if c.isDigit then some (c.toNat - '0'.toNat)
  else if 'a' ≤ c.toLower ∧ c.toLower ≤ 'f' then some (c.toLower.toNat - 'a'.toNat + 10)
  else none

/-- reads so many hexadecimal digits, `value` being that of those before -/
def readDigits? (m : Manner) : Nat → Nat → Text → Option (Nat × Text)
  | 0, value, t => some (value, m.skip t)
  | n + 1, value, t =>
    match m.skip t with
    | [] => none
    | c :: r => (digitValue? c).bind fun d => readDigits? m n (16 * value + d) r

/-- how many digits there are after this letter -/
def digitCount? : Char → Option Nat
  | 'x' => some 2
  | 'u' => some 4
  | 'U' => some 8
  | _ => none

def charOf? (value : Nat) : Option Char :=
  let c := Char.ofNat value
  if c.toNat = value then some c else none

/-- reads a code point; two digits stand for a byte, and only those below 0x80 are characters of ASCII -/
def readCodePoint? (m : Manner) (count : Nat) (t : Text) : Option (Escape × Text) :=
  (readDigits? m count 0 t).bind fun (value, rest) =>
    if count = 2 ∧ !m.unicode ∧ 0x80 ≤ value then none
    else (charOf? value).map fun c => (char c, rest)

/-! ## Sets, looks and signs -/

/-- reads the letter of a general category -/
def readCategory? (m : Manner) (inverted : Bool) (t : Text) : Option (Escape × Text) :=
  match m.unicode, m.skip t with
  | true, c :: r => do
    let category ← CharSet.ofCategory? c
    let s ← m.invert? inverted (m.fold category)
    return (set s, m.skip r)
  | _, _ => none

/-- the digits, blanks or word characters -/
def setOfLetter? (m : Manner) : Char → Option CharSet
  | 'd' => some (if m.unicode then .digit else .asciiDigit)
  | 's' => some (if m.unicode then .blank else .asciiBlank)
  | 'w' => some (if m.unicode then .word else .asciiWord)
  | _ => none

def lookOf? (m : Manner) (c : Char) : Option Look :=
  match m.unicode, c with
  | _, 'A' => some .textFront
  | _, 'z' => some .textBack
  | false, 'b' => some .wordEdge
  | false, 'B' => some .noWordEdge
  | false, '<' => some .wordFront
  | false, '>' => some .wordBack
  | _, _ => none

def charOfSign? : Char → Option Char
  | 'a' => some '\x07'
  | 'f' => some '\x0c'
  | 'n' => some '\n'
  | 'r' => some '\r'
  | 't' => some '\t'
  | 'v' => some '\x0b'
  | c => if c.toNat < 0x80 ∧ !c.isAlphanum ∧ c ≠ '<' ∧ c ≠ '>' then some c else none

/-- what a single character after a backslash means -/
def ofChar? (m : Manner) (c : Char) : Option Escape :=
  match setOfLetter? m c, setOfLetter? m c.toLower, lookOf? m c with
  | some s, _, _ => some (set s)
  | none, some s, _ => (m.invert? true s).map set
  | none, none, some l => some (look l)
  | none, none, none => (charOfSign? c).map char

/-- reads what follows a backslash -/
def read? (m : Manner) : Text → Option (Escape × Text)
  | [] => none
  | c :: r =>
    match digitCount? c with
    | some count => readCodePoint? m count r
    | none =>
      if c = 'p' ∨ c = 'P' then readCategory? m (c = 'P') r
      else (ofChar? m c).map (·, r)

end Escape

end Pattern

end PowerPrefs.Text
