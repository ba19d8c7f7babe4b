/-
Blank characters: the Unicode property White_Space, in full. `trim` takes them off both ends of a text.
- `trim_eq_self`: a text that neither starts nor ends with a blank stays as it is.
-/
import PowerPrefs.Text

namespace PowerPrefs.Text

/-- the property White_Space as closed ranges of code points -/
def blankRanges : List (Nat × Nat) :=
  [(0x09, 0x0D), (0x20, 0x20), (0x85, 0x85), (0xA0, 0xA0), (0x1680, 0x1680), (0x2000, 0x200A), (0x2028, 0x2029),
    (0x202F, 0x202F), (0x205F, 0x205F), (0x3000, 0x3000)]

def isBlank (c : Char) : Bool := blankRanges.any fun (low, high) => low ≤ c.toNat && c.toNat ≤ high

def trimStart (t : Text) : Text := t.dropWhile isBlank

def trimEnd (t : Text) : Text := (t.reverse.dropWhile isBlank).reverse

/-- without the blanks at either end -/
def trim (t : Text) : Text := trimEnd (trimStart t)

theorem trim_eq_self {t : Text} (hs : ∀ c ∈ t.head?, isBlank c = false)
    (he : ∀ c ∈ t.getLast?, isBlank c = false) : trim t = t := by
  have hstart : trimStart t = t := by
    cases t with
    | nil => rfl
    | cons c r => simp [trimStart, hs c (by simp)]
  have hend : trimEnd t = t := by
    cases hr : t.reverse with
    | nil => simp_all [trimEnd]
    | cons c r =>
      have hc : isBlank c = false := he c (by rw [← List.head?_reverse, hr]; rfl)
      rw [trimEnd, hr, List.dropWhile_cons, hc, ← hr]
      simp
  rw [trim, hstart, hend]

end PowerPrefs.Text
