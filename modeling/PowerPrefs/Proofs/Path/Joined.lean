/-
What stands in a joined path. Whether the second path replaces the first one or comes after it, and whether or not a
slash is put between them, it stands in the joined path as it is, with all of its pieces.
- `mem_text_join`, `mem_pieces_join`: its characters and its pieces are in the joined path.
- `name_mem_steps`: a piece that is longer than two dots is a name on the walk that a path describes.
-/
import PowerPrefs.Path
import PowerPrefs.Proofs.Text.Cut

namespace PowerPrefs.Path

open Text

/-- the second path alone, or after a slash -/
theorem text_join (p q : Path) : (p.join q).text = q.text ∨ ∃ a, (p.join q).text = a ++ '/' :: q.text := by
  unfold join
  split
  · exact Or.inl rfl
  · split
    · rename_i hend
      rcases hend with hnil | hslash
      · exact Or.inl (by simp [hnil])
      · obtain ⟨a, ha⟩ := List.getLast?_eq_some_iff.1 hslash
        exact Or.inr ⟨a, by simp [ha]⟩
    · exact Or.inr ⟨p.text, rfl⟩

theorem mem_text_join (p : Path) {q : Path} {c : Char} (h : c ∈ q.text) : c ∈ (p.join q).text := by
  rcases text_join p q with ht | ⟨a, ht⟩
  · rw [ht]
    exact h
  · rw [ht]
    exact List.mem_append_right _ (List.mem_cons_of_mem _ h)

theorem mem_pieces_join (p : Path) {q : Path} {piece : Text} (h : piece ∈ q.pieces) : piece ∈ (p.join q).pieces := by
  rcases text_join p q with ht | ⟨a, ht⟩
  · rw [pieces, ht]
    exact h
  · rw [pieces, ht, split_append]
    exact List.mem_append_right _ h

theorem name_mem_steps {p : Path} {piece : Text} (h : piece ∈ p.pieces) (hl : 2 < piece.byteLength) :
    .name piece ∈ p.steps := by
  have hstep : Step.ofPiece piece = .name piece := by
    unfold Step.ofPiece
    split
    · exact absurd hl (by decide)
    · exact absurd hl (by decide)
    · exact absurd hl (by decide)
    · rfl
  exact List.mem_map.2 ⟨piece, h, hstep⟩

end PowerPrefs.Path
