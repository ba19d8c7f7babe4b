/-
Sets of texts, as lists in increasing order. Texts are ordered character by character by code point, which is also the
order of their bytes.
- `mem_sortedSet`: the set has the members of the list it is made from.
-/
import PowerPrefs.Text

namespace PowerPrefs.Text

/-- adds `t` in its place, unless it is there already -/
def insertSorted (t : Text) : List Text → List Text
  | [] => [t]
  | u :: r => if t < u then t :: u :: r else if t = u then u :: r else u :: insertSorted t r

/-- the distinct members of a list, in increasing order -/
def sortedSet (ts : List Text) : List Text := ts.foldr insertSorted []

theorem mem_insertSorted {t u : Text} {s : List Text} : u ∈ insertSorted t s ↔ u = t ∨ u ∈ s := by
  induction s with
  | nil => simp [insertSorted]
  | cons v r ih =>
    simp only [insertSorted]
    split
    · simp
    · split
      · rename_i h
        subst h
        simp
      · simp only [List.mem_cons, ih]
        constructor
        · rintro (h | h | h) <;> simp [h]
        · rintro (h | h | h) <;> simp [h]

theorem mem_sortedSet {u : Text} {ts : List Text} : u ∈ sortedSet ts ↔ u ∈ ts := by
  induction ts with
  | nil => simp [sortedSet]
  | cons t r ih =>
    have hs : sortedSet (t :: r) = insertSorted t (sortedSet r) := rfl
    rw [hs, mem_insertSorted, ih, List.mem_cons]

end PowerPrefs.Text
