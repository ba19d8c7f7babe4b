/-
Lines and places. A place is a byte of a text, and it is on the line whose number, counted from 0, is the number of line
feeds before it.

What is written at two places can be compared: between them stands some part of the text, and it holds as many line
feeds as there are lines from one to the other.
- `WrittenAt.between`: the part between two places.
- `WrittenAt.exists_line`: what has no line feed in it stands on one of the lines, the one with the number of its place.
- `length_le_countP`: places on different lines are no more than the lines they are on.
-/
import Mathlib.Data.List.Infix
import Mathlib.Data.List.Perm.Subperm
import PowerPrefs.Proofs.Text.Cut

namespace PowerPrefs.Text

/-- `t` is written in `s` from byte `place` on -/
def WrittenAt (s : Text) (place : Nat) (t : Text) : Prop :=
  ∃ before after, s = before ++ (t ++ after) ∧ byteLength before = place

/-- the number of the line on which a byte is -/
def lineOf (s : Text) (place : Nat) : Nat := ((takeBytes? place s).getD s).count '\n'

theorem lineOf_append (a b : Text) : lineOf (a ++ b) (byteLength a) = a.count '\n' := by
  rw [lineOf, takeBytes?_append, Option.getD_some]

/-! ## Two places -/

variable {s t u : Text} {p q : Nat}

theorem WrittenAt.between (h : WrittenAt s p t) (h' : WrittenAt s q u) (hpq : p ≤ q) :
    ∃ before mid after after', s = before ++ (t ++ after) ∧ t ++ after = mid ++ (u ++ after') ∧
      byteLength before = p ∧ p + byteLength mid = q ∧ lineOf s q = lineOf s p + mid.count '\n' := by
  obtain ⟨before, after, rfl, rfl⟩ := h
  obtain ⟨before', after', he, rfl⟩ := h'
  obtain ⟨mid, rfl, hmid⟩ := exists_append_of_byteLength_le he hpq
  refine ⟨before, mid, after, after', rfl, hmid, rfl, (byteLength_append before mid).symm, ?_⟩
  rw [lineOf_append, he, lineOf_append, List.count_append]

theorem WrittenAt.lineOf_le (h : WrittenAt s p t) (h' : WrittenAt s q u) (hpq : p ≤ q) : lineOf s p ≤ lineOf s q := by
  obtain ⟨-, mid, -, -, -, -, -, -, hline⟩ := h.between h' hpq
  omega

/-! ## Lines -/

theorem lines_cons_of_ne {c : Char} (hc : c ≠ '\n') (t : Text) :
    ∃ line more, lines t = line :: more ∧ lines (c :: t) = (c :: line) :: more := by
  cases h : lines t with
  | nil => exact absurd h (split_ne_nil '\n' t)
  | cons line more =>
    refine ⟨line, more, rfl, ?_⟩
    rw [lines] at h
    rw [lines, split, if_neg hc, h]

/-- the first line of a text goes on from the last one before it -/
theorem getElem?_lines_append (a b : Text) :
    ∃ front, (lines (a ++ b))[a.count '\n']? = (lines b).head?.map (front ++ ·) := by
  induction a with
  | nil =>
    refine ⟨[], ?_⟩
    rw [List.nil_append, List.count_nil, ← List.head?_eq_getElem?]
    simp
  | cons c a ih =>
    obtain ⟨front, hfront⟩ := ih
    by_cases hc : c = '\n'
    · subst hc
      refine ⟨front, ?_⟩
      rw [List.cons_append, lines, split, if_pos rfl, List.count_cons_self, List.getElem?_cons_succ]
      exact hfront
    · obtain ⟨line, more, hlines, hcons⟩ := lines_cons_of_ne hc (a ++ b)
      rw [List.cons_append, hcons, List.count_cons_of_ne hc]
      rw [hlines] at hfront
      cases hcount : a.count '\n' with
      | zero =>
        rw [hcount, List.getElem?_cons_zero] at hfront
        obtain ⟨head, hhead, rfl⟩ := Option.map_eq_some_iff.1 hfront.symm
        exact ⟨c :: front, by rw [hhead]; rfl⟩
      | succ n =>
        rw [hcount, List.getElem?_cons_succ] at hfront
        exact ⟨front, by rw [List.getElem?_cons_succ, hfront]⟩

theorem head?_lines_append (ht : '\n' ∉ t) (u : Text) : ∃ back, (lines (t ++ u)).head? = some (t ++ back) := by
  induction t with
  | nil =>
    cases h : lines u with
    | nil => exact absurd h (split_ne_nil '\n' u)
    | cons line more => exact ⟨line, by rw [List.nil_append, h]; rfl⟩
  | cons c t ih =>
    obtain ⟨back, hback⟩ := ih (List.not_mem_of_not_mem_cons ht)
    obtain ⟨line, more, hlines, hcons⟩ := lines_cons_of_ne (Ne.symm (List.ne_of_not_mem_cons ht)) (t ++ u)
    rw [hlines, List.head?_cons, Option.some.injEq] at hback
    exact ⟨back, by rw [List.cons_append, hcons, hback]; rfl⟩

theorem WrittenAt.exists_line (h : WrittenAt s p t) (ht : '\n' ∉ t) :
    ∃ line, (lines s)[lineOf s p]? = some line ∧ t <:+: line := by
  obtain ⟨before, after, rfl, rfl⟩ := h
  obtain ⟨front, hfront⟩ := getElem?_lines_append before (t ++ after)
  obtain ⟨back, hback⟩ := head?_lines_append ht after
  refine ⟨front ++ (t ++ back), ?_, front, back, List.append_assoc _ _ _⟩
  rw [lineOf_append, hfront, hback, Option.map_some]

/-! ## How many lines -/

theorem length_le_countP {α : Type} {P : α → Bool} {l : List α} {places : List Nat} (hnodup : places.Nodup)
    (h : ∀ i ∈ places, ∃ a, l[i]? = some a ∧ P a = true) : places.length ≤ l.countP P := by
  have hsub : places ⊆ l.findIdxs P := by
    intro i hi
    obtain ⟨a, ha, hP⟩ := h i hi
    obtain ⟨hlt, rfl⟩ := List.getElem?_eq_some_iff.1 ha
    exact List.mem_findIdxs_iff_exists_getElem_pos.2 ⟨hlt, hP⟩
  rw [← List.length_findIdxs (s := 0)]
  exact (hnodup.subperm hsub).length_le

end PowerPrefs.Text
