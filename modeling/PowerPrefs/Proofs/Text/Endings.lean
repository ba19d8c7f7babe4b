/-
Line endings put in and taken out. A text whose lines end in line feeds may be written with another ending after each
line, and unifying the line endings gives the text back.

A carriage return in the text itself would be taken for an ending, so the text must have none.
- `unifyNewlines_eq`: unifying folds the pairs and then the carriage returns, whatever the text.
- `ending_induction`: a text from its end, one line ending or other character at a time.
- `unifyNewlines_append`: a text may be unified in parts, unless they part a carriage return from its line feed.
- `lines_unifyNewlines`: the lines left by unifying are those between line endings of every kind.
- `unifyNewlines_withEnding`: unifying takes out any line ending that was put in.
-/
import PowerPrefs.Text.Newline
import PowerPrefs.Proofs.Text.Cut

namespace PowerPrefs

/-- what a line may end in -/
inductive Ending where
  | feed
  | pair
  | lone
deriving DecidableEq, Repr

namespace Ending

def text : Ending → Text
  | feed => ['\n']
  | pair => ['\r', '\n']
  | lone => ['\r']

end Ending

namespace Text

variable {t r : Text} {c : Char}

/-! ## Folding, character by character -/

theorem foldPairs_pair (r : Text) : foldPairs ('\r' :: '\n' :: r) = '\n' :: foldPairs r := by
  simp [foldPairs]

theorem foldPairs_cons_of_ne (h : c ≠ '\r') (r : Text) : foldPairs (c :: r) = c :: foldPairs r := by
  cases r with
  | nil => rfl
  | cons d r => simp [foldPairs, h]

/-- a carriage return that no line feed follows -/
theorem foldPairs_lone (h : r.head? ≠ some '\n') : foldPairs ('\r' :: r) = '\r' :: foldPairs r := by
  cases r with
  | nil => rfl
  | cons d r =>
    have hd : d ≠ '\n' := by simpa using h
    simp [foldPairs, hd]

theorem foldPairs_of_noReturn (h : '\r' ∉ t) : foldPairs t = t := by
  induction t with
  | nil => rfl
  | cons c r ih =>
    have hc : c ≠ '\r' := Ne.symm (List.ne_of_not_mem_cons h)
    rw [foldPairs_cons_of_ne hc, ih (List.not_mem_of_not_mem_cons h)]

theorem foldReturns_return (r : Text) : foldReturns ('\r' :: r) = '\n' :: foldReturns r := rfl

theorem foldReturns_cons_of_ne (h : c ≠ '\r') (r : Text) : foldReturns (c :: r) = c :: foldReturns r := by
  simp [foldReturns, h]

theorem foldReturns_of_noReturn (h : '\r' ∉ t) : foldReturns t = t := by
  induction t with
  | nil => rfl
  | cons c r ih =>
    have hc : c ≠ '\r' := Ne.symm (List.ne_of_not_mem_cons h)
    rw [foldReturns_cons_of_ne hc, ih (List.not_mem_of_not_mem_cons h)]

/-- where there is no carriage return, folding has nothing to do -/
theorem unifyNewlines_eq (t : Text) : unifyNewlines t = foldReturns (foldPairs t) := by
  by_cases h : '\r' ∈ t
  · rw [unifyNewlines, if_pos h]
  · rw [unifyNewlines_of_noReturn h, foldPairs_of_noReturn h, foldReturns_of_noReturn h]

/-! ## Unifying, ending by ending -/

theorem unifyNewlines_pair (r : Text) : unifyNewlines ('\r' :: '\n' :: r) = '\n' :: unifyNewlines r := by
  rw [unifyNewlines_eq, foldPairs_pair, foldReturns_cons_of_ne (by decide), unifyNewlines_eq]

theorem unifyNewlines_lone (h : r.head? ≠ some '\n') : unifyNewlines ('\r' :: r) = '\n' :: unifyNewlines r := by
  rw [unifyNewlines_eq, foldPairs_lone h, foldReturns_return, unifyNewlines_eq]

theorem unifyNewlines_cons_of_ne (h : c ≠ '\r') (r : Text) : unifyNewlines (c :: r) = c :: unifyNewlines r := by
  rw [unifyNewlines_eq, foldPairs_cons_of_ne h, foldReturns_cons_of_ne h, unifyNewlines_eq]

/-- A text starts with a pair, with a carriage return that is in no pair, or with something else. -/
@[elab_as_elim]
theorem ending_induction {P : Text → Prop} (nil : P []) (pair : ∀ r, P r → P ('\r' :: '\n' :: r))
    (lone : ∀ r, r.head? ≠ some '\n' → P r → P ('\r' :: r)) (other : ∀ c r, c ≠ '\r' → P r → P (c :: r)) (t : Text) :
    P t := by
  induction t using foldPairs.induct with
  | case1 => exact nil
  | case2 c =>
    by_cases hc : c = '\r'
    · subst hc
      exact lone [] (by simp) nil
    · exact other c [] hc nil
  | case3 c d r h ih =>
    obtain ⟨rfl, rfl⟩ := h
    exact pair r ih
  | case4 c d r h ih =>
    by_cases hc : c = '\r'
    · subst hc
      have hd : d ≠ '\n' := fun hd => h ⟨rfl, hd⟩
      exact lone (d :: r) (by simpa using hd) ih
    · exact other c (d :: r) hc ih

theorem mem_of_mem_unifyNewlines (h : c ∈ unifyNewlines t) : c = '\n' ∨ c ∈ t := by
  induction t using ending_induction with
  | nil => exact Or.inr h
  | pair r ih =>
    rw [unifyNewlines_pair] at h
    grind
  | lone r hr ih =>
    rw [unifyNewlines_lone hr] at h
    grind
  | other d r hd ih =>
    rw [unifyNewlines_cons_of_ne hd] at h
    grind

/-! ## Unifying in parts -/

/-- no carriage return is parted from its line feed -/
def KeepsPairs (t r : Text) : Prop := ¬(t.getLast? = some '\r' ∧ r.head? = some '\n')

theorem keepsPairs_of_head? (h : r.head? ≠ some '\n') (t : Text) : KeepsPairs t r := fun hparted => h hparted.2

theorem KeepsPairs.of_cons (h : KeepsPairs (c :: t) r) : KeepsPairs t r := by
  rintro ⟨hlast, hhead⟩
  exact h ⟨by rw [List.getLast?_cons, hlast]; rfl, hhead⟩

theorem unifyNewlines_append (h : KeepsPairs t r) : unifyNewlines (t ++ r) = unifyNewlines t ++ unifyNewlines r := by
  induction t using ending_induction with
  | nil => rfl
  | pair s ih =>
    rw [List.cons_append, List.cons_append, unifyNewlines_pair, ih h.of_cons.of_cons, unifyNewlines_pair,
      List.cons_append]
  | lone s hlone ih =>
    have hnext : (s ++ r).head? ≠ some '\n' := by
      cases s with
      | nil => exact fun hhead => h ⟨rfl, hhead⟩
      | cons d s => exact hlone
    rw [List.cons_append, unifyNewlines_lone hnext, ih h.of_cons, unifyNewlines_lone hlone, List.cons_append]
  | other d s hd ih =>
    rw [List.cons_append, unifyNewlines_cons_of_ne hd, ih h.of_cons, unifyNewlines_cons_of_ne hd, List.cons_append]

/-- a pair that the parts would part -/
theorem unifyNewlines_append_pair (a b : Text) :
    unifyNewlines (a ++ '\r' :: '\n' :: b) = unifyNewlines a ++ '\n' :: unifyNewlines b := by
  rw [unifyNewlines_append (keepsPairs_of_head? (by simp) a), unifyNewlines_pair]

/-- where a pair is parted, the first part ends in its carriage return and the second starts with its line feed -/
theorem exists_of_not_keepsPairs (h : ¬KeepsPairs t r) : ∃ a b, t = a ++ ['\r'] ∧ r = '\n' :: b := by
  obtain ⟨hlast, hhead⟩ := Classical.not_not.1 h
  obtain ⟨a, rfl⟩ := List.getLast?_eq_some_iff.1 hlast
  obtain ⟨b, rfl⟩ := List.head?_eq_some_iff.1 hhead
  exact ⟨a, b, rfl, rfl⟩

/-- parts unify apart, or one ends in a carriage return and the next starts with its line feed -/
theorem unifyNewlines_append_or (t r : Text) :
    unifyNewlines (t ++ r) = unifyNewlines t ++ unifyNewlines r ∨ ∃ a b, t = a ++ ['\r'] ∧ r = '\n' :: b := by
  by_cases h : KeepsPairs t r
  · exact Or.inl (unifyNewlines_append h)
  · exact Or.inr (exists_of_not_keepsPairs h)

/-! ## Lines -/

/-- the pieces between line endings of every kind, a pair being one -/
def cutLines : Text → List Text
  | [] => [[]]
  | '\r' :: '\n' :: r => [] :: cutLines r
  | c :: r => if c = '\r' ∨ c = '\n' then [] :: cutLines r else (cutLines r).modifyHead (c :: ·)

theorem cutLines_lone (h : r.head? ≠ some '\n') : cutLines ('\r' :: r) = [] :: cutLines r := by
  cases r with
  | nil => rfl
  | cons d r =>
    have hd : d ≠ '\n' := by simpa using h
    simp [cutLines, hd]

theorem cutLines_cons_of_ne (h : c ≠ '\r') (r : Text) :
    cutLines (c :: r) = if c = '\n' then [] :: cutLines r else (cutLines r).modifyHead (c :: ·) := by
  simp [cutLines, h]

theorem lines_unifyNewlines (t : Text) : lines (unifyNewlines t) = cutLines t := by
  rw [lines]
  induction t using ending_induction with
  | nil => rfl
  | pair r ih => rw [unifyNewlines_pair, split, if_pos rfl, ih, cutLines]
  | lone r h ih => rw [unifyNewlines_lone h, split, if_pos rfl, ih, cutLines_lone h]
  | other c r h ih =>
    rw [unifyNewlines_cons_of_ne h, cutLines_cons_of_ne h]
    split
    · rename_i hc
      rw [hc, Text.split, if_pos rfl, ih]
    · rename_i hc
      rw [split_cons_of_ne hc, ih]

example : cutLines "a\r\n\rb\n".toList = ["a".toList, [], "b".toList, []] := by decide

/-! ## Other endings -/

/-- with this ending in place of each line feed -/
def withEnding (e : Ending) (t : Text) : Text := t.flatMap fun c => if c = '\n' then e.text else [c]

theorem withEnding_feed (e : Ending) (r : Text) : withEnding e ('\n' :: r) = e.text ++ withEnding e r := by
  simp [withEnding]

theorem withEnding_cons_of_ne (e : Ending) (h : c ≠ '\n') (r : Text) :
    withEnding e (c :: r) = c :: withEnding e r := by
  simp [withEnding, h]

theorem newline_notMem_withEnding_lone (t : Text) : '\n' ∉ withEnding .lone t := by
  induction t with
  | nil => exact List.not_mem_nil
  | cons c r ih =>
    by_cases hc : c = '\n'
    · subst hc
      rw [withEnding_feed]
      exact List.not_mem_cons_of_ne_of_not_mem (by decide) ih
    · rw [withEnding_cons_of_ne .lone hc]
      exact List.not_mem_cons_of_ne_of_not_mem (Ne.symm hc) ih

theorem head?_withEnding_lone (t : Text) : (withEnding .lone t).head? ≠ some '\n' := fun h =>
  newline_notMem_withEnding_lone t (List.mem_of_head? h)

theorem unifyNewlines_withEnding (e : Ending) (h : '\r' ∉ t) : unifyNewlines (withEnding e t) = t := by
  induction t with
  | nil => rfl
  | cons c r ih =>
    have hr := ih (List.not_mem_of_not_mem_cons h)
    by_cases hc : c = '\n'
    · subst hc
      rw [withEnding_feed]
      -- each ending is unified to one line feed
      cases e with
      | feed => exact (unifyNewlines_cons_of_ne (by decide) _).trans (congrArg _ hr)
      | pair => exact (unifyNewlines_pair _).trans (congrArg _ hr)
      | lone => exact (unifyNewlines_lone (head?_withEnding_lone r)).trans (congrArg _ hr)
    · have hreturn : c ≠ '\r' := Ne.symm (List.ne_of_not_mem_cons h)
      rw [withEnding_cons_of_ne e hc, unifyNewlines_cons_of_ne hreturn, hr]

end Text

end PowerPrefs
