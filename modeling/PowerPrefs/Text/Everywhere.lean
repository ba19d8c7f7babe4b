/-
What is found at every place of a text. `everywhere f` asks `f` about the text from each place on, its end included.

A reading may depend on another one further on. If it asked for that anew at every place, a long line would be read
over and over. So the other one is listed first, for all places, and `everywhereWith` looks up what the reading needs.
- `getElem?_everywhere`: the entry at a place is what is found there.
- `everywhereWith_everywhere`: looking up gives what asking would give.
-/
import PowerPrefs.Text

namespace PowerPrefs.Text

variable {α β : Type}

/-- what `f` finds at every place, from the front on -/
def everywhere (f : Text → α) : Text → List α
  | [] => [f []]
  | c :: r => f (c :: r) :: everywhere f r

/-- what `read` finds at every place, where its first argument looks up in `found` what is so many characters on -/
def everywhereWith (read : (Nat → Option β) → Text → α) : Text → List (Option β) → List α
  | [], found => [read (fun n => found[n]?.join) []]
  | c :: r, found => read (fun n => found[n]?.join) (c :: r) :: everywhereWith read r found.tail

theorem head?_everywhere (f : Text → α) (s : Text) : (everywhere f s).head? = some (f s) := by cases s <;> rfl

theorem getElem?_everywhere {f : Text → Option β} (hnil : f [] = none) (s : Text) (n : Nat) :
    (everywhere f s)[n]?.join = f (s.drop n) := by
  induction s generalizing n with
  | nil => cases n <;> simp [everywhere, hnil]
  | cons c r ih =>
    cases n with
    | zero => rfl
    | succ n => exact ih n

theorem everywhereWith_everywhere {f : Text → Option β} (hnil : f [] = none)
    (read : (Nat → Option β) → Text → α) (s : Text) :
    everywhereWith read s (everywhere f s) = everywhere (fun t => read (fun n => f (t.drop n)) t) s := by
  induction s with
  | nil => simp only [everywhereWith, everywhere, ← getElem?_everywhere hnil]
  | cons c r ih =>
    show read (fun n => (everywhere f (c :: r))[n]?.join) (c :: r) :: everywhereWith read r (everywhere f r) = _
    simp only [getElem?_everywhere hnil, ih]
    rfl

end PowerPrefs.Text
