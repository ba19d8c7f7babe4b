/-
What a default value looks like, whatever its file holds. It stands on one line, in every style of line ending, and
neither its first nor its last character is a blank. Both are kept by folding the inner line feeds: they become spaces,
but none of them is at an end any more.

- `trimmed_trim`: a text that is trimmed starts and ends with a character that is no blank, if it has one at all.
- `unbroken_ofContent`, `trimmed_ofContent`: the two facts about a default value.
-/
import PowerPrefs.DefaultValue

namespace PowerPrefs

namespace Text

/-- on one line, in every style of line ending -/
def Unbroken (t : Text) : Prop := '\n' ∉ t ∧ '\r' ∉ t

/-- without a blank at either end -/
structure Trimmed (t : Text) : Prop where
  head : ∀ c ∈ t.head?, isBlank c = false
  last : ∀ c ∈ t.getLast?, isBlank c = false

theorem ne_of_isBlank {c d : Char} (hc : isBlank c = false) (hd : isBlank d = true) : c ≠ d := by
  rintro rfl
  rw [hc] at hd
  exact absurd hd (by decide)

/-! ## Trimming -/

theorem isBlank_head?_dropWhile {t : Text} : ∀ c ∈ (t.dropWhile isBlank).head?, isBlank c = false := by
  intro c hc
  have h := List.head?_dropWhile_not isBlank t
  rw [Option.mem_def.1 hc] at h
  simpa using h

theorem trimEnd_append (t : Text) : trimEnd t ++ (t.reverse.takeWhile isBlank).reverse = t := by
  rw [trimEnd, ← List.reverse_append, List.takeWhile_append_dropWhile, List.reverse_reverse]

/-- what is left of a text keeps its first character -/
theorem head?_trimEnd {t : Text} {c : Char} (h : c ∈ (trimEnd t).head?) : c ∈ t.head? := by
  have happend := trimEnd_append t
  cases hend : trimEnd t with
  | nil =>
    rw [hend] at h
    exact absurd h (by simp)
  | cons d r =>
    rw [hend] at h happend
    rw [← happend]
    exact h

theorem trimmed_trim (t : Text) : Trimmed (trim t) where
  head c hc := isBlank_head?_dropWhile c (head?_trimEnd hc)
  last c hc := by
    rw [trim, trimEnd, List.getLast?_reverse] at hc
    exact isBlank_head?_dropWhile c hc

theorem mem_of_mem_trim {t : Text} {c : Char} (h : c ∈ trim t) : c ∈ t := by
  have hend : c ∈ trimStart t := by
    rw [← trimEnd_append (trimStart t)]
    exact List.mem_append_left _ h
  exact (List.dropWhile_sublist isBlank).subset hend

end Text

namespace DefaultValue

open Text

/-! ## Folding -/

theorem mem_foldLines {t : Text} {c : Char} (h : c ∈ foldLines t) : c = ' ' ∨ c ∈ t := by
  obtain ⟨d, hd, hc⟩ := List.mem_map.1 h
  split at hc
  · exact Or.inl hc.symm
  · exact Or.inr (hc ▸ hd)

/-- a character that is no blank is no line feed, so it stays -/
theorem isBlank_of_mem_map {o : Option Char} (h : ∀ c ∈ o, isBlank c = false) :
    ∀ c ∈ o.map fun c => if c = '\n' then ' ' else c, isBlank c = false := by
  intro c hc
  obtain ⟨d, hd, rfl⟩ := Option.map_eq_some_iff.1 hc
  have hblank := h d hd
  rwa [if_neg (ne_of_isBlank hblank (by decide))]

theorem trimmed_foldLines {t : Text} (h : Trimmed t) : Trimmed (foldLines t) where
  head := by
    rw [foldLines, List.head?_map]
    exact isBlank_of_mem_map h.head
  last := by
    rw [foldLines, List.getLast?_map]
    exact isBlank_of_mem_map h.last

/-! ## The value -/

theorem return_notMem_ofContent (content : Text) : '\r' ∉ ofContent content := by
  intro h
  rcases mem_foldLines h with hspace | hmem
  · exact absurd hspace (by decide)
  · exact return_notMem_unifyNewlines content (mem_of_mem_trim hmem)

theorem unbroken_ofContent (content : Text) : Unbroken (ofContent content) :=
  ⟨newline_notMem_ofContent content, return_notMem_ofContent content⟩

theorem trimmed_ofContent (content : Text) : Trimmed (ofContent content) := trimmed_foldLines (trimmed_trim _)

end DefaultValue

end PowerPrefs
