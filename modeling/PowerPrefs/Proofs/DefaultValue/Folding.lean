/-
The value of a default file, by the lines of the file. It is the lines joined with spaces and trimmed, whatever they end
in, so it makes no difference whether the blanks at the ends go before the folding or after it, and blanks added at
either end have no say.

Blanks may be added where a line ending is: a carriage return before a line feed, or a line feed after a carriage return,
makes two endings one. The ending that is left is a blank at that end all the same.
- `trim_append_blanks`: trimming takes off blanks that were added.
- `unifyNewlines_blanks_append`, `unifyNewlines_append_blanks`: blanks added to a text are blanks added to its unified
  form.
- `ofContent_folds_lines`: the value by its lines.
-/
import Mathlib.Data.List.Basic
import Mathlib.Data.List.TakeWhile
import PowerPrefs.Proofs.DefaultValue.Tidy
import PowerPrefs.Proofs.Text.Endings

namespace PowerPrefs

namespace Text

variable {t u v : Text}

/-- nothing but blanks -/
def AllBlank (t : Text) : Prop := ∀ c ∈ t, isBlank c = true

instance (t : Text) : Decidable (AllBlank t) := decidable_of_iff (t.all isBlank = true) List.all_eq_true

/-! ## Trimming off what was added -/

theorem trimStart_blanks_append (hu : AllBlank u) (t : Text) : trimStart (u ++ t) = trimStart t :=
  List.dropWhile_append_of_pos hu

theorem trimEnd_append_blanks (hv : AllBlank v) (t : Text) : trimEnd (t ++ v) = trimEnd t := by
  have hreverse : ∀ c ∈ v.reverse, isBlank c = true := fun c hc => hv c (List.mem_reverse.1 hc)
  rw [trimEnd, List.reverse_append, List.dropWhile_append_of_pos hreverse, trimEnd]

theorem trim_append_blanks (hu : AllBlank u) (hv : AllBlank v) (t : Text) : trim (u ++ (t ++ v)) = trim t := by
  rw [trim, trimStart_blanks_append hu, trimStart, List.dropWhile_append]
  split
  · rename_i hnone
    have hstart : trimStart t = [] := List.isEmpty_iff.1 hnone
    have hblank : v.dropWhile isBlank = [] := List.dropWhile_eq_nil_iff.2 hv
    rw [hblank, trim, hstart]
  · exact trimEnd_append_blanks hv _

theorem exists_append_trim (t : Text) : ∃ u v, AllBlank u ∧ AllBlank v ∧ t = u ++ (trim t ++ v) := by
  refine ⟨t.takeWhile isBlank, ((trimStart t).reverse.takeWhile isBlank).reverse, fun c hc => List.mem_takeWhile_imp hc,
    fun c hc => List.mem_takeWhile_imp (List.mem_reverse.1 hc), ?_⟩
  rw [trim, trimEnd_append, trimStart, List.takeWhile_append_dropWhile]

/-! ## Unifying what was added -/

theorem AllBlank.unifyNewlines (h : AllBlank t) : AllBlank t.unifyNewlines := by
  intro c hc
  rcases mem_of_mem_unifyNewlines hc with rfl | hmem
  · decide
  · exact h c hmem

theorem unifyNewlines_blanks_append (hu : AllBlank u) (t : Text) :
    ∃ u', AllBlank u' ∧ unifyNewlines (u ++ t) = u' ++ unifyNewlines t := by
  rcases unifyNewlines_append_or u t with happend | ⟨a, b, rfl, rfl⟩
  · exact ⟨unifyNewlines u, hu.unifyNewlines, happend⟩
  · -- the added carriage return joins the line feed that the text starts with
    have ha : AllBlank a := fun c hc => hu c (List.mem_append_left _ hc)
    refine ⟨unifyNewlines a, ha.unifyNewlines, ?_⟩
    rw [List.append_assoc, List.singleton_append, unifyNewlines_append_pair, unifyNewlines_cons_of_ne (by decide)]

theorem unifyNewlines_append_blanks (hv : AllBlank v) (t : Text) :
    ∃ v', AllBlank v' ∧ unifyNewlines (t ++ v) = unifyNewlines t ++ v' := by
  rcases unifyNewlines_append_or t v with happend | ⟨a, b, rfl, rfl⟩
  · exact ⟨unifyNewlines v, hv.unifyNewlines, happend⟩
  · -- the added line feed joins the carriage return that the text ends in
    have hb : AllBlank b := fun c hc => hv c (List.mem_cons_of_mem _ hc)
    refine ⟨unifyNewlines b, hb.unifyNewlines, ?_⟩
    have hreturn : unifyNewlines (a ++ ['\r']) = unifyNewlines a ++ ['\n'] :=
      unifyNewlines_append (keepsPairs_of_head? (by decide) a)
    rw [List.append_assoc, List.singleton_append, unifyNewlines_append_pair, hreturn, List.append_assoc,
      List.singleton_append]

theorem Trimmed.unifyNewlines (h : Trimmed t) : Trimmed t.unifyNewlines where
  head c hc := by
    cases t with
    | nil => exact absurd hc (by simp [Text.unifyNewlines])
    | cons d r =>
      have hd : isBlank d = false := h.head d (by simp)
      rw [unifyNewlines_cons_of_ne (ne_of_isBlank hd (by decide))] at hc
      exact h.head c hc
  last c hc := by
    rcases List.eq_nil_or_concat' t with rfl | ⟨r, d, rfl⟩
    · exact absurd hc (by simp [Text.unifyNewlines])
    · have hd : isBlank d = false := h.last d (by simp)
      have hreturn : d ≠ '\r' := ne_of_isBlank hd (by decide)
      have hfeed : d ≠ '\n' := ne_of_isBlank hd (by decide)
      have hlast : Text.unifyNewlines (r ++ [d]) = Text.unifyNewlines r ++ [d] := by
        rw [unifyNewlines_append (keepsPairs_of_head? (by simpa using hfeed) r), unifyNewlines_cons_of_ne hreturn]
        rfl
      rw [hlast, List.getLast?_concat] at hc
      exact h.last c (by simpa using hc)

end Text

namespace DefaultValue

open Text

/-! ## Folding -/

theorem join_lines (t : Text) : join ' ' (lines t) = foldLines t := join_split_eq_map '\n' ' ' t

theorem isBlank_fold (c : Char) : isBlank (if c = '\n' then ' ' else c) = isBlank c := by
  split
  · rename_i hc
    rw [hc]
    decide
  · rfl

theorem dropWhile_foldLines (t : Text) : (foldLines t).dropWhile isBlank = foldLines (t.dropWhile isBlank) := by
  rw [foldLines, List.dropWhile_map, foldLines]
  congr 2
  funext c
  exact isBlank_fold c

theorem trim_foldLines (t : Text) : trim (foldLines t) = foldLines (trim t) := by
  have hreverse (s : Text) : (foldLines s).reverse = foldLines s.reverse := List.map_reverse.symm
  rw [trim, trimStart, dropWhile_foldLines, trimEnd, hreverse, dropWhile_foldLines, hreverse, trim, trimEnd, trimStart]

theorem foldLines_eq_self {t : Text} (h : '\n' ∉ t) : foldLines t = t := by
  have hid : ∀ c ∈ t, (if c = '\n' then ' ' else c) = c := fun c hc => if_neg (by rintro rfl; exact h hc)
  rw [foldLines, List.map_congr_left hid, List.map_id']

/-! ## The value -/

theorem ofContent_eq_self {t : Text} (hu : Unbroken t) (ht : Trimmed t) : ofContent t = t := by
  rw [ofContent, unifyNewlines_of_noReturn hu.2, trim_eq_self ht.head ht.last, foldLines_eq_self hu.1]

theorem ofContent_append_blanks {u v : Text} (hu : AllBlank u) (hv : AllBlank v) (t : Text) :
    ofContent (u ++ (t ++ v)) = ofContent t := by
  obtain ⟨u', hu', hfront⟩ := unifyNewlines_blanks_append hu (t ++ v)
  obtain ⟨v', hv', hback⟩ := unifyNewlines_append_blanks hv t
  rw [ofContent, hfront, hback, trim_append_blanks hu' hv', ofContent]

theorem ofContent_eq_trim_join (t : Text) : ofContent t = trim (join ' ' (cutLines t)) := by
  rw [← lines_unifyNewlines, join_lines, trim_foldLines, ofContent]

theorem ofContent_eq_join_trim (t : Text) : ofContent t = join ' ' (cutLines (trim t)) := by
  obtain ⟨u, v, hu, hv, ht⟩ := exists_append_trim t
  have htrimmed := (trimmed_trim t).unifyNewlines
  calc ofContent t
    _ = ofContent (trim t) := by rw [ht, ofContent_append_blanks hu hv, ← ht]
    _ = foldLines (trim t).unifyNewlines := by rw [ofContent, trim_eq_self htrimmed.head htrimmed.last]
    _ = join ' ' (cutLines (trim t)) := by rw [← join_lines, lines_unifyNewlines]

/-- **The value of a default file.** It is the lines of the file, whatever they end in, joined with single spaces and
then trimmed; trimming the file first gives the same. A value is its own value, and blanks added at either end of a file
change nothing. -/
theorem ofContent_folds_lines (content : Text) :
    ofContent content = trim (join ' ' (cutLines content)) ∧
      ofContent content = join ' ' (cutLines (trim content)) ∧
      ofContent (ofContent content) = ofContent content ∧
      ∀ u v, AllBlank u → AllBlank v → ofContent (u ++ content ++ v) = ofContent content := by
  refine ⟨ofContent_eq_trim_join content, ofContent_eq_join_trim content,
    ofContent_eq_self (unbroken_ofContent content) (trimmed_ofContent content), ?_⟩
  intro u v hu hv
  rw [List.append_assoc]
  exact ofContent_append_blanks hu hv content

/-- a pair completed at either end -/
theorem ofContent_folds_lines_pairs :
    let u := "\u00a0\r".toList
    let content := "\n a\r\nb\rc \r".toList
    let v := "\n\u2028".toList
    AllBlank u ∧ AllBlank v ∧ ofContent (u ++ content ++ v) = ofContent content ∧
      ofContent content = "a b c".toList := by
  intro u content v
  have hu : AllBlank u := by decide
  have hv : AllBlank v := by decide
  obtain ⟨-, hvalue, -, hadded⟩ := ofContent_folds_lines content
  exact ⟨hu, hv, hadded u v hu hv, hvalue.trans (by decide)⟩

end DefaultValue

end PowerPrefs
