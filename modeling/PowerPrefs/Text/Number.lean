/-
Numbers in decimal notation: a sign or none, digits with a point among them or not, and an exponent or none. The words
for what is no finite number count as well.
-/
import PowerPrefs.Text

namespace PowerPrefs.Text

/-- without a plus or a minus at its front -/
def unsigned : Text → Text
  | '+' :: r => r
  | '-' :: r => r
  | t => t

def isExponent : Text → Bool
  | [] => true
  | c :: r => c.toLower = 'e' && unsigned r ≠ [] && (unsigned r).all Char.isDigit

/-- digits, a point and an exponent, of which only the digits must be there -/
def isDecimal (t : Text) : Bool :=
  let (whole, rest) := (t.takeWhile Char.isDigit, t.dropWhile Char.isDigit)
  match rest with
  | '.' :: r => (whole ≠ [] || r.head?.any Char.isDigit) && isExponent (r.dropWhile Char.isDigit)
  | rest => whole ≠ [] && isExponent rest

def isNumber (t : Text) : Bool :=
  isDecimal (unsigned t) || (unsigned t).map Char.toLower ∈ ["inf".toList, "infinity".toList, "nan".toList]

end PowerPrefs.Text
