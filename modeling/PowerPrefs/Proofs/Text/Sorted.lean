/-
Sets of texts. A set is a list that increases strictly, so nothing is in it twice, and what is in it tells the whole
list. Adding a text keeps the list increasing, whether the text was there or not.

- `increasing_insertSorted`, `increasing_sortedSet`: the lists that stand for sets increase.
- `Increasing.bytesLt`: they increase in the order of bytes too.
- `Increasing.one_lt_length_iff`: a set has two members or more exactly if two of its members differ.
-/
import Mathlib.Data.List.Sort
import PowerPrefs.Text.Sorted
import PowerPrefs.Proofs.Text.ByteOrder

namespace PowerPrefs.Text

/-- each text comes before all that follow it -/
def Increasing (s : List Text) : Prop := s.Pairwise (· < ·)

variable {s : List Text}

theorem increasing_insertSorted (t : Text) (h : Increasing s) : Increasing (insertSorted t s) := by
  induction s with
  | nil => exact List.pairwise_singleton _ t
  | cons u r ih =>
    obtain ⟨hu, hr⟩ := List.pairwise_cons.1 h
    simp only [insertSorted]
    split
    · rename_i hlt
      refine List.pairwise_cons.2 ⟨?_, h⟩
      intro v hv
      rcases List.mem_cons.1 hv with rfl | hv
      · exact hlt
      · exact lt_trans hlt (hu v hv)
    · rename_i hnlt
      split
      · exact h
      · rename_i hne
        refine List.pairwise_cons.2 ⟨?_, ih hr⟩
        intro v hv
        rcases mem_insertSorted.1 hv with rfl | hv
        · exact lt_of_le_of_ne (not_lt.1 hnlt) (Ne.symm hne)
        · exact hu v hv

theorem increasing_sortedSet (ts : List Text) : Increasing (sortedSet ts) := by
  induction ts with
  | nil => exact .nil
  | cons t r ih => exact increasing_insertSorted t ih

theorem Increasing.bytesLt (h : Increasing s) : s.Pairwise BytesLt := h.imp bytesLt_iff.2

theorem Increasing.one_lt_length_iff (h : Increasing s) : 1 < s.length ↔ ∃ t ∈ s, ∃ u ∈ s, t ≠ u := by
  cases s with
  | nil => simp
  | cons t r =>
    cases r with
    | nil => simp
    | cons u r =>
      have hne : t ≠ u := ne_of_lt ((List.pairwise_cons.1 h).1 u List.mem_cons_self)
      constructor
      · intro _
        exact ⟨t, List.mem_cons_self, u, List.mem_cons_of_mem _ List.mem_cons_self, hne⟩
      · intro _
        exact Nat.succ_lt_succ (Nat.succ_pos _)

end PowerPrefs.Text
