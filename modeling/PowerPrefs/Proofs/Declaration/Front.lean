/-
The front of a declaration: its pieces from the opening words up to the equals sign. They stand on one line, whatever
comes after them, so a line in which no such pieces follow each other declares nothing.

- `text_append`: a declaration is its front, its spacing and its key between quotes.
- `eq_of_text_eq_append`: a line feed in a declaration stands between its front and its value.
- `read?_eq_none_of_not_opens`: nowhere on a line that opens nothing is a declaration read.
-/
import PowerPrefs.Proofs.Declaration.Greedy

namespace PowerPrefs.Declaration

open Text

/-- the pieces up to the equals sign -/
def front (d : Declaration) : Text :=
  opening ++ (d.ident ++ (Assignment.marker ++ d.first :: d.second :: Assignment.equals))

/-- the separator and the spaces after it -/
def spacing (d : Declaration) : Text := d.separator :: List.replicate d.gap ' '

theorem text_append (d : Declaration) (rest : Text) :
    d.text ++ rest = d.front ++ (d.spacing ++ '"' :: (d.key ++ (Assignment.closing ++ rest))) := by
  simp [text, front, spacing, Assignment.text, Assignment.beforeKey]

theorem newline_notMem_front {d : Declaration} (hd : d.WellFormed) : '\n' ∉ d.front := by
  have hopening : '\n' ∉ opening := by decide
  have hmarker : '\n' ∉ Assignment.marker := by decide
  have hequals : '\n' ∉ Assignment.equals := by decide
  simp [front, hopening, hmarker, hequals, hd.ident_oneLine, hd.first_ne.symm, hd.second_ne.symm]

theorem quote_notMem_spacing {d : Declaration} (hd : d.WellFormed) : '"' ∉ d.spacing := by
  intro h
  rcases List.mem_cons.1 h with hq | hq
  · exact absurd (hq ▸ hd.separator_mem) (by decide)
  · exact Assignment.quote_notMem_spaces _ hq

/-- the pieces after the separator -/
def value (d : Declaration) : Text := List.replicate d.gap ' ' ++ '"' :: (d.key ++ Assignment.closing)

theorem text_eq (d : Declaration) : d.text = d.front ++ d.separator :: d.value := by
  simp [text, front, value, Assignment.text, Assignment.beforeKey]

theorem newline_notMem_value {d : Declaration} (hd : d.WellFormed) : '\n' ∉ d.value := by
  have hspaces : '\n' ∉ List.replicate d.gap ' ' := fun h => absurd (List.eq_of_mem_replicate h) (by decide)
  have hclosing : '\n' ∉ Assignment.closing := by decide
  simp only [value, List.mem_append, List.mem_cons, not_or]
  exact ⟨hspaces, by decide, hd.key_oneLine, hclosing⟩

/-- a declaration that is not wrapped stands on one line -/
theorem newline_notMem_text {d : Declaration} (hd : d.WellFormed) (hs : d.separator ≠ '\n') : '\n' ∉ d.text := by
  rw [text_eq]
  simp [newline_notMem_front hd, newline_notMem_value hd, hs.symm]

/-- the one line feed that a declaration can have is its separator -/
theorem eq_of_text_eq_append {d : Declaration} (hd : d.WellFormed) {a b : Text} (h : d.text = a ++ '\n' :: b) :
    a = d.front ∧ b = d.value := by
  by_cases hs : d.separator = '\n'
  · rw [text_eq, hs] at h
    obtain ⟨ha, hb⟩ := append_mark_inj_of_single h (newline_notMem_front hd) (newline_notMem_value hd)
    exact ⟨ha.symm, hb.symm⟩
  · exact absurd (by simp [h]) (newline_notMem_text hd hs)

/-- some opening words on the line are followed by a marker, two characters and an equals sign -/
def Opens (line : Text) : Prop :=
  ∃ before ident first second after,
    line = before ++ (opening ++ (ident ++ (Assignment.marker ++ first :: second :: (Assignment.equals ++ after))))

theorem opens_of_front {d : Declaration} {before line rest : Text} (h : line = before ++ (d.front ++ rest)) :
    Opens line :=
  ⟨before, d.ident, d.first, d.second, rest, by simp [h, front]⟩

theorem not_opens_of_notMem {line : Text} (h : '=' ∉ line) : ¬Opens line := by
  intro ho
  obtain ⟨before, ident, first, second, after, rfl⟩ := ho
  have hequals : '=' ∈ Assignment.equals := by decide
  exact h (by simp [hequals])

theorem read?_eq_none_of_not_opens {before line tail : Text} (h : ¬Opens (before ++ line)) (ht : EndsLine tail) :
    read? (line ++ tail) = none := by
  rw [read?_eq_none_iff]
  intro d rest hd he
  rw [text_append] at he
  obtain ⟨after, rfl, -⟩ := exists_append_of_oneLine he ht (newline_notMem_front hd)
  exact h (opens_of_front rfl)

end PowerPrefs.Declaration
