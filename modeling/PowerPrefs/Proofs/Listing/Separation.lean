/-
Listings cut at a line feed. A declaration crosses a line feed only as its separator, so a listing may be searched on
either side of one alone, unless a declaration could be wrapped right there: the equals sign before the line feed, and
spaces and a quote after it. Whether there is a declaration does not matter, and neither does what the search passed
over before.

The search itself is not followed. The occurrences on both sides, put together, are leftmost, greedy and disjoint in the
whole listing, and no other list is.
- `StandsAt.of_append_newline`: a declaration in the whole listing stands on one of the two sides.
- `Leftmost.append_newline`: the choices on both sides make the choice in the whole.
- `occurrences_separated`: the occurrences of the whole, and the case of a blank line, which always separates.
-/
import PowerPrefs.Proofs.Declaration.Front
import PowerPrefs.Proofs.Listing.Leftmost

namespace PowerPrefs

open Text

/-! ## Occurrences further on -/

namespace Occurrence

/-- the same declaration, so many bytes further on -/
def shift (n : Nat) (o : Occurrence) : Occurrence := ⟨o.start + n, o.declaration⟩

variable (n : Nat) (o : Occurrence)

@[simp]
theorem start_shift : (o.shift n).start = o.start + n := rfl

@[simp]
theorem declaration_shift : (o.shift n).declaration = o.declaration := rfl

@[simp]
theorem stop_shift : (o.shift n).stop = o.stop + n := Nat.add_right_comm _ _ _

@[simp]
theorem keyStart_shift : (o.shift n).keyStart = o.keyStart + n := Nat.add_right_comm _ _ _

@[simp]
theorem keyStop_shift : (o.shift n).keyStop = o.keyStop + n := by
  rw [keyStop, keyStart_shift, keyStop, declaration_shift, Nat.add_right_comm]

end Occurrence

namespace Listing

/-- a declaration could be wrapped between the two texts -/
def Wraps (a b : Text) : Prop := Assignment.equals <:+ a ∧ ∃ n, List.replicate n ' ' ++ ['"'] <+: b

variable {a b s : Text} {p q : Nat} {d : Declaration}

/-! ## Places in a part and in the whole -/

theorem StandsAt.stop_le (h : StandsAt s p d) : p + d.text.byteLength ≤ s.byteLength := by
  obtain ⟨-, before, after, rfl, rfl⟩ := h
  simp only [byteLength_append]
  omega

theorem StandsAt.lt_byteLength (h : StandsAt s p d) : p < s.byteLength := by
  have hpos := start_lt_stop ⟨p, d⟩
  exact Nat.lt_of_lt_of_le hpos h.stop_le

theorem StandsAt.append_right (h : StandsAt a p d) (b : Text) : StandsAt (a ++ b) p d := by
  obtain ⟨hd, before, after, rfl, hp⟩ := h
  exact ⟨hd, before, after ++ b, by simp, hp⟩

theorem StandsAt.append_left (h : StandsAt b q d) (a : Text) : StandsAt (a ++ b) (q + a.byteLength) d := by
  obtain ⟨hd, before, after, rfl, rfl⟩ := h
  exact ⟨hd, a ++ before, after, by simp, by rw [byteLength_append, Nat.add_comm]⟩

theorem byteLength_append_newline (a : Text) : (a ++ ['\n']).byteLength = a.byteLength + 1 := by
  rw [byteLength_append]
  rfl

theorem StandsAt.after_newline (h : StandsAt b q d) (a : Text) :
    StandsAt (a ++ '\n' :: b) (q + (a.byteLength + 1)) d := by
  have hb := h.append_left (a ++ ['\n'])
  rwa [byteLength_append_newline, List.append_assoc, List.singleton_append] at hb

theorem wraps_of_text {before after : Text} (hd : d.WellFormed) {e : Text} (htext : d.text = a ++ '\n' :: e)
    (hb : b = e ++ after) : Wraps (before ++ a) b := by
  obtain ⟨rfl, rfl⟩ := Declaration.eq_of_text_eq_append hd htext
  refine ⟨⟨before ++ (Declaration.opening ++ (d.ident ++ (Assignment.marker ++ [d.first, d.second]))), ?_⟩,
    d.gap, d.key ++ (Assignment.closing ++ after), ?_⟩
  · simp [Declaration.front]
  · simp [hb, Declaration.value]

theorem StandsAt.of_append_newline (hw : ¬Wraps a b) (h : StandsAt (a ++ '\n' :: b) p d) :
    StandsAt a p d ∨ ∃ q, StandsAt b q d ∧ p = q + (a.byteLength + 1) := by
  obtain ⟨hd, before, after, he, rfl⟩ := h
  rcases List.append_eq_append_iff.1 he with ⟨c, rfl, hc⟩ | ⟨c, rfl, hc⟩
  · -- it starts at the line feed or after it
    right
    cases c with
    | nil =>
      have : '\n' = 'c' := (List.cons.inj hc).1
      exact absurd this (by decide)
    | cons x c =>
      obtain ⟨rfl, hb⟩ := List.cons.inj hc
      refine ⟨byteLength c, ⟨hd, c, after, hb, rfl⟩, ?_⟩
      rw [byteLength_append, byteLength, show '\n'.utf8Size = 1 from rfl]
      omega
  · -- it starts before the line feed, so it ends there, or the line feed is its separator
    left
    rcases List.append_eq_append_iff.1 hc with ⟨e, rfl, -⟩ | ⟨e, htext, hrest⟩
    · exact ⟨hd, before, e, rfl, rfl⟩
    · cases e with
      | nil =>
        rw [List.append_nil] at htext
        exact ⟨hd, before, [], by rw [htext, List.append_nil], rfl⟩
      | cons x e =>
        obtain ⟨rfl, hb⟩ := List.cons.inj hrest
        exact absurd (wraps_of_text hd htext hb) hw

/-! ## The choice in the whole -/

theorem Leftmost.append_newline {os xs : List Occurrence} (hw : ¬Wraps a b) (ha : Leftmost a 0 os)
    (hb : Leftmost b 0 xs) : Leftmost (a ++ '\n' :: b) 0 (os ++ xs.map (Occurrence.shift (a.byteLength + 1))) where
  stands o ho := by
    rcases List.mem_append.1 ho with ho | ho
    · exact ⟨Nat.zero_le _, (ha.stands o ho).2.append_right _⟩
    · obtain ⟨x, hx, rfl⟩ := List.mem_map.1 ho
      exact ⟨Nat.zero_le _, (hb.stands x hx).2.after_newline a⟩
  apart := by
    refine List.pairwise_append.2 ⟨ha.apart, List.pairwise_map.2 (hb.apart.imp ?_), ?_⟩
    · intro x later hle
      simp only [Occurrence.stop_shift, Occurrence.start_shift]
      omega
    · intro o ho later hlater
      obtain ⟨x, -, rfl⟩ := List.mem_map.1 hlater
      have hstop : o.stop ≤ a.byteLength := (ha.stands o ho).2.stop_le
      rw [Occurrence.start_shift]
      omega
  covers p d _ hd := by
    rcases hd.of_append_newline hw with hda | ⟨q, hdb, rfl⟩
    · obtain ⟨o, ho, hin⟩ := ha.covers p d (Nat.zero_le _) hda
      exact ⟨o, List.mem_append_left _ ho, hin⟩
    · obtain ⟨x, hx, hin⟩ := hb.covers q d (Nat.zero_le _) hdb
      refine ⟨_, List.mem_append_right _ (List.mem_map_of_mem hx), ?_⟩
      rw [Occurrence.start_shift, Occurrence.stop_shift]
      omega
  greedy o ho d hd := by
    rcases List.mem_append.1 ho with ho | ho
    · rcases hd.of_append_newline hw with hda | ⟨q, -, hq⟩
      · exact ha.greedy o ho d hda
      · have := (ha.stands o ho).2.lt_byteLength
        omega
    · obtain ⟨x, hx, rfl⟩ := List.mem_map.1 ho
      rw [Occurrence.start_shift] at hd
      rcases hd.of_append_newline hw with hda | ⟨q, hdb, hq⟩
      · have := hda.lt_byteLength
        omega
      · obtain rfl : q = x.start := by omega
        exact hb.greedy x hx d hdb

theorem occurrences_append_newline (hw : ¬Wraps a b) :
    occurrences (a ++ '\n' :: b) = occurrences a ++ (occurrences b).map (Occurrence.shift (a.byteLength + 1)) :=
  (leftmost_occurrences _).unique ((leftmost_occurrences a).append_newline hw (leftmost_occurrences b))

/-! ## Blank lines -/

theorem not_wraps_nil (a : Text) : ¬Wraps a [] := by
  rintro ⟨-, n, hn⟩
  simp at hn

theorem not_wraps_newline (a b : Text) : ¬Wraps (a ++ ['\n']) b := by
  rintro ⟨⟨before, hbefore⟩, -⟩
  have hlast := congrArg List.getLast? hbefore
  rw [List.getLast?_append, List.getLast?_concat, show Assignment.equals.getLast? = some '=' from by decide] at hlast
  have : '=' = '\n' := Option.some.inj hlast
  exact absurd this (by decide)

theorem occurrences_nil : occurrences [] = [] := by
  rw [occurrences_eq_search, search_nil]

theorem occurrences_append_blank (a b : Text) :
    occurrences (a ++ '\n' :: '\n' :: b) =
      occurrences a ++ (occurrences b).map (Occurrence.shift (a.byteLength + 2)) := by
  have hfirst : occurrences (a ++ ['\n']) = occurrences a := by
    rw [occurrences_append_newline (not_wraps_nil a), occurrences_nil, List.map_nil, List.append_nil]
  calc occurrences (a ++ '\n' :: '\n' :: b)
      = occurrences ((a ++ ['\n']) ++ '\n' :: b) := by rw [List.append_assoc, List.singleton_append]
    _ = occurrences (a ++ ['\n']) ++ (occurrences b).map (Occurrence.shift ((a ++ ['\n']).byteLength + 1)) :=
        occurrences_append_newline (not_wraps_newline a b)
    _ = occurrences a ++ (occurrences b).map (Occurrence.shift (a.byteLength + 2)) := by
        rw [hfirst, byteLength_append_newline]

/-- **A line feed separates a listing**, unless a declaration could be wrapped there: the occurrences are those before
it and then those after it, with each of their four places moved on. A blank line separates always. -/
theorem occurrences_separated :
    (∀ a b, ¬Wraps a b →
      occurrences (a ++ '\n' :: b) = occurrences a ++ (occurrences b).map (Occurrence.shift (a.byteLength + 1))) ∧
    (∀ a b, occurrences (a ++ '\n' :: '\n' :: b) =
      occurrences a ++ (occurrences b).map (Occurrence.shift (a.byteLength + 2))) ∧
    ∀ n o, (Occurrence.shift n o).start = o.start + n ∧ (Occurrence.shift n o).stop = o.stop + n ∧
      (Occurrence.shift n o).keyStart = o.keyStart + n ∧ (Occurrence.shift n o).keyStop = o.keyStop + n ∧
        (Occurrence.shift n o).declaration = o.declaration := by
  refine ⟨fun a b => occurrences_append_newline, occurrences_append_blank, fun n o => ?_⟩
  exact ⟨o.start_shift n, o.stop_shift n, o.keyStart_shift n, o.keyStop_shift n, o.declaration_shift n⟩

/-- the first line ends where a separator may follow, but no quote does -/
theorem occurrences_separated_open :
    let a : Text := "const char kÄPref[] = \"ä\"; const char kBPref[] =".toList
    let b : Text := "+ \"b\"; const char kCPref[] = \"c\";".toList
    let o : Occurrence := ⟨0, ⟨⟨'[', ']', ' ', 0, ['ä']⟩, ['k', 'Ä']⟩⟩
    let x : Occurrence := ⟨7, ⟨⟨'[', ']', ' ', 0, ['c']⟩, ['k', 'C']⟩⟩
    ¬Wraps a b ∧ occurrences (a ++ '\n' :: b) = [o, x.shift 51] := by
  intro a b o x
  have hw : ¬Wraps a b := by
    rintro ⟨-, n, hn⟩
    cases n with
    | zero => exact absurd hn (by decide)
    | succ n =>
      obtain ⟨after, h⟩ := hn
      exact absurd (List.cons.inj h).1 (by decide)
  have ha : occurrences a = [o] := by decide +kernel
  have hb : occurrences b = [x] := by decide +kernel
  have hlength : a.byteLength + 1 = 51 := by decide
  refine ⟨hw, ?_⟩
  rw [occurrences_separated.1 a b hw, ha, hb, hlength]
  rfl

end Listing

end PowerPrefs
