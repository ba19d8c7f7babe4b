/-
Which declarations of a listing are found. A declaration may be written at many places of a text, and several at one
place. The search finds the leftmost ones, and at each place the greedy one:
- each is written in the text from its start up to its stop, with its key between its two places;
- none starts before the one before it stops;
- wherever a declaration is written, it starts within one that is found. So none starts before the first, between two of
  them or after the last;
- every declaration that is written at the start of one of them yields to it.

These four say all: `Leftmost.unique` shows that no other list meets them. The place from which they hold is a
parameter, so that they can be proved along the search and along the list.
- `occurrences_leftmost`: the occurrences are the leftmost, greedy and disjoint ones, and their places are exact.
-/
import PowerPrefs.Listing
import PowerPrefs.Proofs.Declaration.Greedy

namespace PowerPrefs.Listing

open Text

/-- declaration `d` is written in `s` from byte `place` on -/
def StandsAt (s : Text) (place : Nat) (d : Declaration) : Prop :=
  d.WellFormed ∧ ∃ before after, s = before ++ (d.text ++ after) ∧ before.byteLength = place

/-- the choice of `os` among the declarations in `s` from byte `place` on -/
structure Leftmost (s : Text) (place : Nat) (os : List Occurrence) : Prop where
  stands : ∀ o ∈ os, place ≤ o.start ∧ StandsAt s o.start o.declaration
  apart : os.Pairwise fun o later => o.stop ≤ later.start
  covers : ∀ p d, place ≤ p → StandsAt s p d → ∃ o ∈ os, o.start ≤ p ∧ p < o.stop
  greedy : ∀ o ∈ os, ∀ d, StandsAt s o.start d → d.Yields o.declaration

/-! ## Places -/

/-- what is written from a place on, when the text is cut there or before -/
theorem StandsAt.exists_append {before s : Text} {p : Nat} {d : Declaration} (h : StandsAt (before ++ s) p d)
    (hp : before.byteLength ≤ p) : ∃ c after, s = c ++ (d.text ++ after) ∧ before.byteLength + c.byteLength = p := by
  obtain ⟨-, front, after, he, rfl⟩ := h
  obtain ⟨c, rfl, rfl⟩ := exists_append_of_byteLength_le he hp
  exact ⟨c, after, rfl, (byteLength_append before c).symm⟩

theorem StandsAt.eq_append {before s : Text} {d : Declaration} (h : StandsAt (before ++ s) before.byteLength d) :
    ∃ after, s = d.text ++ after := by
  obtain ⟨c, after, rfl, hc⟩ := h.exists_append (Nat.le_refl _)
  have : c = [] := eq_nil_of_byteLength (by omega)
  subst this
  exact ⟨after, rfl⟩

/-- the places of an occurrence are the bytes around its text, around its key and around its end -/
theorem cut?_of_standsAt {s : Text} {o : Occurrence} (h : StandsAt s o.start o.declaration) :
    s.cut? o.start o.stop = some o.declaration.text ∧ s.cut? o.keyStart o.keyStop = some o.declaration.key ∧
      s.cut? o.keyStop o.stop = some Assignment.closing := by
  obtain ⟨-, before, after, rfl, hstart⟩ := h
  obtain ⟨start, d⟩ := o
  simp only at hstart
  subst hstart
  have htext : d.text = d.beforeKey ++ d.key ++ Assignment.closing := by
    simp [Declaration.text, Declaration.beforeKey, Assignment.text]
  refine ⟨?_, ?_, ?_⟩
  · have := cut?_append before d.text after
    rwa [List.append_assoc, byteLength_append] at this
  · have := cut?_append (before ++ d.beforeKey) d.key (Assignment.closing ++ after)
    simpa [htext, byteLength_append, Occurrence.keyStart, Occurrence.keyStop, Nat.add_assoc] using this
  · have := cut?_append (before ++ d.beforeKey ++ d.key) Assignment.closing after
    simpa [htext, byteLength_append, Occurrence.keyStart, Occurrence.keyStop, Occurrence.stop, Nat.add_assoc] using this

theorem start_lt_stop (o : Occurrence) : o.start < o.stop := by
  have hpos : 0 < o.declaration.text.byteLength := by
    rcases Nat.eq_zero_or_pos o.declaration.text.byteLength with h | h
    · have := o.declaration.length_text_pos
      rw [eq_nil_of_byteLength h] at this
      exact absurd this (by decide)
    · exact h
  simp only [Occurrence.stop]
  omega

/-! ## Along the search -/

theorem leftmost_nil (before : Text) : Leftmost before before.byteLength [] where
  stands := by simp
  apart := List.Pairwise.nil
  covers p d hp hd := by
    have hd' : StandsAt (before ++ []) p d := by rwa [List.append_nil]
    obtain ⟨c, after, he, -⟩ := hd'.exists_append hp
    have := d.length_text_pos
    simp_all
  greedy := by simp

theorem Leftmost.found {before s rest : Text} {d : Declaration} {os : List Occurrence}
    (hd : Declaration.read? s = some (d, rest))
    (h : Leftmost (before ++ s) (before.byteLength + d.text.byteLength) os) :
    Leftmost (before ++ s) before.byteLength (⟨before.byteLength, d⟩ :: os) := by
  obtain ⟨hs, hw, hbest⟩ := Declaration.read?_eq_some_iff.1 hd
  refine ⟨?_, ?_, ?_, ?_⟩
  · intro o ho
    rcases List.mem_cons.1 ho with rfl | ho
    · exact ⟨Nat.le_refl _, hw, before, rest, by rw [← hs], rfl⟩
    · obtain ⟨hp, ho⟩ := h.stands o ho
      exact ⟨by omega, ho⟩
  · refine List.Pairwise.cons ?_ h.apart
    intro o ho
    exact (h.stands o ho).1
  · intro p e hp he
    by_cases hlt : p < before.byteLength + d.text.byteLength
    · exact ⟨_, List.mem_cons_self, hp, hlt⟩
    · obtain ⟨o, ho, hin⟩ := h.covers p e (by omega) he
      exact ⟨o, List.mem_cons_of_mem _ ho, hin⟩
  · intro o ho e he
    rcases List.mem_cons.1 ho with rfl | ho
    · obtain ⟨after, ha⟩ := he.eq_append
      exact hbest e after he.1 ha
    · exact h.greedy o ho e he

theorem Leftmost.passed {before r : Text} {c : Char} {os : List Occurrence} (hd : Declaration.read? (c :: r) = none)
    (h : Leftmost (before ++ c :: r) (before.byteLength + c.utf8Size) os) :
    Leftmost (before ++ c :: r) before.byteLength os where
  stands o ho := ⟨Nat.le_trans (Nat.le_add_right _ _) (h.stands o ho).1, (h.stands o ho).2⟩
  apart := h.apart
  covers p d hp hs := by
    obtain ⟨front, after, he, hl⟩ := hs.exists_append hp
    cases front with
    | nil => exact absurd he (Declaration.read?_eq_none_iff.1 hd d after hs.1)
    | cons x front =>
      obtain ⟨rfl, -⟩ := List.cons.inj he
      refine h.covers p d ?_ hs
      rw [← hl, byteLength]
      omega
  greedy := h.greedy

theorem leftmost_search (before s : Text) : Leftmost (before ++ s) before.byteLength (search before.byteLength s) := by
  generalize hp : before.byteLength = place
  fun_induction search place s generalizing before with
  | case1 place s d rest hd ih =>
    have hs := (Declaration.read?_sound hd).1
    have hrest := ih (before ++ d.text) (by rw [byteLength_append, hp])
    rw [List.append_assoc, ← hs] at hrest
    subst hp
    exact hrest.found hd
  | case2 place hd =>
    rw [List.append_nil, ← hp]
    exact leftmost_nil before
  | case3 place c r hd ih =>
    have hrest := ih (before ++ [c]) (by simp [byteLength_append, byteLength, hp])
    rw [List.append_assoc, List.singleton_append] at hrest
    subst hp
    exact hrest.passed hd

/-! ## Along the list -/

theorem Leftmost.tail {s : Text} {place : Nat} {o : Occurrence} {os : List Occurrence}
    (h : Leftmost s place (o :: os)) : Leftmost s o.stop os where
  stands x hx := ⟨List.rel_of_pairwise_cons h.apart hx, (h.stands x (List.mem_cons_of_mem _ hx)).2⟩
  apart := h.apart.of_cons
  covers p d hp hd := by
    have hstop := start_lt_stop o
    obtain ⟨x, hx, hin⟩ := h.covers p d (by have := (h.stands o List.mem_cons_self).1; omega) hd
    rcases List.mem_cons.1 hx with rfl | hx
    · omega
    · exact ⟨x, hx, hin⟩
  greedy x hx := h.greedy x (List.mem_cons_of_mem _ hx)

/-- the first of one list starts no later than the first of another -/
theorem Leftmost.start_le {s : Text} {place : Nat} {o x : Occurrence} {os xs : List Occurrence}
    (h : Leftmost s place (o :: os)) (hx : Leftmost s place (x :: xs)) : o.start ≤ x.start := by
  obtain ⟨hp, hstands⟩ := hx.stands x List.mem_cons_self
  obtain ⟨y, hy, hle, -⟩ := h.covers x.start x.declaration hp hstands
  rcases List.mem_cons.1 hy with rfl | hy
  · exact hle
  · have := List.rel_of_pairwise_cons h.apart hy
    have := start_lt_stop o
    omega

theorem Leftmost.unique {s : Text} {place : Nat} {os xs : List Occurrence} (h : Leftmost s place os)
    (hx : Leftmost s place xs) : os = xs := by
  induction os generalizing place xs with
  | nil =>
    cases xs with
    | nil => rfl
    | cons x xs =>
      obtain ⟨hp, hstands⟩ := hx.stands x List.mem_cons_self
      obtain ⟨o, ho, -⟩ := h.covers x.start x.declaration hp hstands
      exact absurd ho List.not_mem_nil
  | cons o os ih =>
    cases xs with
    | nil =>
      obtain ⟨hp, hstands⟩ := h.stands o List.mem_cons_self
      obtain ⟨x, hm, -⟩ := hx.covers o.start o.declaration hp hstands
      exact absurd hm List.not_mem_nil
    | cons x xs =>
      have hstart : o.start = x.start := Nat.le_antisymm (h.start_le hx) (hx.start_le h)
      have ho := (h.stands o List.mem_cons_self).2
      have hx' := (hx.stands x List.mem_cons_self).2
      have hdecl : o.declaration = x.declaration := by
        have hyo := hx.greedy x List.mem_cons_self o.declaration (hstart ▸ ho)
        have hyx := h.greedy o List.mem_cons_self x.declaration (hstart ▸ hx')
        obtain ⟨-, before, after, rfl, hb⟩ := ho
        obtain ⟨after', ha⟩ := StandsAt.eq_append (by rw [hb, hstart]; exact hx')
        exact (Declaration.eq_of_yields ha hyo hyx).1
      have hox : o = x := by
        cases o
        cases x
        simp_all
      subst hox
      rw [ih h.tail hx.tail]

/-! ## The occurrences -/

theorem leftmost_occurrences (s : Text) : Leftmost s 0 (occurrences s) := by
  rw [occurrences_eq_search]
  exact leftmost_search [] s

/-- **The occurrences are the leftmost, greedy, disjoint declarations**, and no other list is. Each is written from its
start up to its stop, with its key from `keyStart` up to `keyStop` and the closing quote and semicolon right after. -/
theorem occurrences_leftmost (s : Text) :
    (∀ os, Leftmost s 0 os ↔ os = occurrences s) ∧
      ∀ o ∈ occurrences s, s.cut? o.start o.stop = some o.declaration.text ∧
        s.cut? o.keyStart o.keyStop = some o.declaration.key ∧ s.cut? o.keyStop o.stop = some Assignment.closing := by
  have h := leftmost_occurrences s
  refine ⟨fun os => ⟨fun hos => hos.unique h, ?_⟩, fun o ho => cut?_of_standsAt (h.stands o ho).2⟩
  rintro rfl
  exact h

/-- of two markers the later one ends the identifier, and of two closing quotes the later one the key -/
theorem occurrences_leftmost_latest :
    Leftmost "const char aPref[] = \"b\"; Pref[] = \"c\"; d\";".toList 0
      [⟨0, ⟨⟨'[', ']', ' ', 0, "c\"; d".toList⟩, "aPref[] = \"b\"; ".toList⟩⟩] :=
  ((occurrences_leftmost _).1 _).2 (by decide)

end PowerPrefs.Listing
