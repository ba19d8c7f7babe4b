/-
Cutting a text in two. A text may be cut at a byte, at the first of some mark or at the end of a line, and each of these
tells the two parts.

- `exists_append_of_byteLength_le`: a cut further on takes a longer front.
- `append_mark_inj`: two cuts at the first mark are the same cut.
- `append_mark_inj_of_single`: so are two cuts at the only mark.
- `split_append`: a text that is cut at any mark is split into the pieces of its parts.
- `join_split_eq_map`: pieces put together with another mark make the text with that mark for the first.
- `exists_append_of_oneLine`: a front without a line feed lies within the first line.
-/
import PowerPrefs.Text

namespace PowerPrefs.Text

/-! ## At a byte -/

theorem eq_nil_of_byteLength {t : Text} (h : t.byteLength = 0) : t = [] := by
  cases t with
  | nil => rfl
  | cons c r =>
    have := c.utf8Size_pos
    simp only [byteLength] at h
    omega

theorem exists_append_of_byteLength_le {a b x y : Text} (h : a ++ x = b ++ y) (hl : a.byteLength ≤ b.byteLength) :
    ∃ c, b = a ++ c ∧ x = c ++ y := by
  rcases List.append_eq_append_iff.1 h with ⟨c, hb, hx⟩ | ⟨c, ha, hy⟩
  · exact ⟨c, hb, hx⟩
  · have hc : c = [] := by
      apply eq_nil_of_byteLength
      rw [ha, byteLength_append] at hl
      omega
    subst hc
    exact ⟨[], by simpa using ha.symm, by simpa using hy.symm⟩

theorem append_inj_of_byteLength {a b x y : Text} (h : a ++ x = b ++ y) (hl : a.byteLength = b.byteLength) :
    a = b ∧ x = y := by
  obtain ⟨c, rfl, rfl⟩ := exists_append_of_byteLength_le h (Nat.le_of_eq hl)
  have hc : c = [] := eq_nil_of_byteLength (by rw [byteLength_append] at hl; omega)
  subst hc
  exact ⟨(List.append_nil a).symm, rfl⟩

/-! ## At a mark -/

theorem append_mark_inj {mark : Char} {a b x y : Text} (h : a ++ mark :: x = b ++ mark :: y) (ha : mark ∉ a)
    (hb : mark ∉ b) : a = b ∧ x = y := by
  induction a generalizing b with
  | nil =>
    cases b with
    | nil => exact ⟨rfl, List.tail_eq_of_cons_eq h⟩
    | cons d b =>
      have hd : mark = d := List.head_eq_of_cons_eq h
      exact absurd (hd ▸ List.mem_cons_self) hb
  | cons c a ih =>
    cases b with
    | nil =>
      have hc : c = mark := List.head_eq_of_cons_eq h
      exact absurd (hc ▸ List.mem_cons_self) ha
    | cons d b =>
      obtain ⟨rfl, ht⟩ := List.cons.inj h
      obtain ⟨rfl, hxy⟩ := ih ht (fun hm => ha (List.mem_cons_of_mem _ hm)) (fun hm => hb (List.mem_cons_of_mem _ hm))
      exact ⟨rfl, hxy⟩

/-- a mark that is neither before one place nor after it is the mark at that place -/
theorem append_mark_inj_of_single {mark : Char} {a b x y : Text} (h : a ++ mark :: x = b ++ mark :: y) (ha : mark ∉ a)
    (hx : mark ∉ x) : a = b ∧ x = y := by
  by_cases hb : mark ∈ b
  · obtain ⟨p, q, rfl, hp⟩ := List.eq_append_cons_of_mem hb
    rw [List.append_assoc, List.cons_append] at h
    obtain ⟨-, rfl⟩ := append_mark_inj h ha hp
    exact absurd (by simp) hx
  · exact append_mark_inj h ha hb

theorem split_cons_of_ne {mark c : Char} (h : c ≠ mark) (r : Text) :
    split mark (c :: r) = (split mark r).modifyHead (c :: ·) := by
  rw [split, if_neg h]
  cases hs : split mark r with
  | nil => exact absurd hs (split_ne_nil mark r)
  | cons p ps => rfl

theorem split_append (mark : Char) (a b : Text) : split mark (a ++ mark :: b) = split mark a ++ split mark b := by
  induction a with
  | nil => simp [split]
  | cons c a ih =>
    by_cases hc : c = mark
    · simp [split, hc, ih]
    · rw [List.cons_append, split_cons_of_ne hc, split_cons_of_ne hc, ih]
      cases ha : split mark a with
      | nil => exact absurd ha (split_ne_nil mark a)
      | cons p ps => rfl

theorem join_nil_cons (mark : Char) {ps : List Text} (h : ps ≠ []) : join mark ([] :: ps) = mark :: join mark ps := by
  cases ps with
  | nil => exact absurd rfl h
  | cons p ps => rfl

theorem join_modifyHead_cons (mark c : Char) {ps : List Text} (h : ps ≠ []) :
    join mark (ps.modifyHead (c :: ·)) = c :: join mark ps := by
  cases ps with
  | nil => exact absurd rfl h
  | cons p ps => cases ps <;> rfl

theorem join_split_eq_map (mark other : Char) (t : Text) :
    join other (split mark t) = t.map fun c => if c = mark then other else c := by
  induction t with
  | nil => rfl
  | cons c r ih =>
    rw [List.map_cons, ← ih]
    by_cases hc : c = mark
    · rw [if_pos hc, split, if_pos hc, join_nil_cons other (split_ne_nil mark r)]
    · rw [if_neg hc, split_cons_of_ne hc, join_modifyHead_cons other c (split_ne_nil mark r)]

/-! ## At the end of a line -/

/-- nothing, or a line feed and more -/
def EndsLine (s : Text) : Prop := ∀ c ∈ s.head?, c = '\n'

theorem endsLine_nil : EndsLine [] := by simp [EndsLine]

theorem endsLine_newline (s : Text) : EndsLine ('\n' :: s) := by simp [EndsLine]

theorem exists_append_of_oneLine {line s a x : Text} (h : line ++ s = a ++ x) (hs : EndsLine s) (ha : '\n' ∉ a) :
    ∃ b, line = a ++ b ∧ x = b ++ s := by
  rcases List.append_eq_append_iff.1 h with ⟨c, rfl, hc⟩ | ⟨c, hl, hx⟩
  · cases c with
    | nil => exact ⟨[], by simp, by simpa using hc.symm⟩
    | cons d c =>
      have hd : d = '\n' := hs d (by rw [hc]; rfl)
      exact absurd (by simp [hd]) ha
  · exact ⟨c, hl, hx⟩

end PowerPrefs.Text
