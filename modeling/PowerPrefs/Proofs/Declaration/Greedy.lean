/-
The greedy choice. Several declarations may be written at the front of one text: any marker on the line may end the
identifier, and any closing quote the key. `Declaration.read?` picks one of them, so two things are to be said of it:
that it picks one whenever there is one, and which.

- `read?_eq_some_iff`: it picks the declaration to which every other at the front of the text yields, in the length of
  the identifier first and in the length of the key for the same identifier.
- `read?_eq_none_iff`: it picks none only where none is written.
- `eq_of_yields`: no two declarations at the front of a text yield to each other.
-/
import PowerPrefs.Declaration
import PowerPrefs.Proofs.Text.Cut

namespace PowerPrefs

open Text

/-! ## Assignments -/

namespace Assignment

theorem quote_notMem_spaces (n : Nat) : '"' ∉ List.replicate n ' ' := by
  intro h
  exact absurd (List.eq_of_mem_replicate h) (by decide)

/-- the pieces one by one, with what follows the assignment -/
theorem text_append (a : Assignment) (rest : Text) :
    a.text ++ rest = marker ++ a.first :: a.second :: (equals ++ a.separator ::
      (List.replicate a.gap ' ' ++ '"' :: (a.key ++ (closing ++ rest)))) := by
  simp [text, beforeKey]

/-- an assignment is read back with its own layout, and with the longest key that can be read where its key starts -/
theorem read?_text {a : Assignment} (ha : a.WellFormed) (rest : Text) :
    read? (a.text ++ rest) =
      (readKey? (a.key ++ (closing ++ rest))).map fun (key, rest) => ({ a with key := key }, rest) := by
  have hdrop : (List.replicate a.gap ' ' ++ '"' :: (a.key ++ (closing ++ rest))).dropWhile (· = ' ') =
      '"' :: (a.key ++ (closing ++ rest)) := by
    rw [List.dropWhile_append_of_pos (by simp)]
    simp
  have htake : ((List.replicate a.gap ' ' ++ '"' :: (a.key ++ (closing ++ rest))).takeWhile (· = ' ')).length =
      a.gap := by
    rw [List.takeWhile_append_of_pos (by simp)]
    simp
  have hkey : (a.text ++ rest).drop a.beforeKey.length = a.key ++ (closing ++ rest) := by
    rw [text, List.append_assoc, List.append_assoc, List.drop_left]
  rw [read?, readWith?]
  conv => lhs; rw [text_append]
  simp only [isPrefixOf?_append, ha.first_ne, ha.second_ne, ha.separator_mem, or_self, if_false, if_true, hdrop, htake]
  rw [← text_append, show beforeKey { a with key := [] } = a.beforeKey from rfl, hkey]

/-- where one assignment ends another of the same key length ends too, and they are one -/
theorem eq_of_text_append {a b : Assignment} {r r' : Text} (h : a.text ++ r = b.text ++ r')
    (hk : a.key.length = b.key.length) : a = b ∧ r = r' := by
  rw [text_append, text_append] at h
  obtain ⟨hfirst, h⟩ := List.cons.inj (List.append_cancel_left h)
  obtain ⟨hsecond, h⟩ := List.cons.inj h
  obtain ⟨hseparator, h⟩ := List.cons.inj (List.append_cancel_left h)
  obtain ⟨hspaces, h⟩ := append_mark_inj h (quote_notMem_spaces _) (quote_notMem_spaces _)
  obtain ⟨hkey, h⟩ := List.append_inj h hk
  have hgap : a.gap = b.gap := by simpa using congrArg List.length hspaces
  refine ⟨?_, List.append_cancel_left h⟩
  cases a
  cases b
  simp_all

/-- whatever assignment is written at the front, one is read, with the same layout and no shorter key -/
theorem read?_greedy {a : Assignment} (ha : a.WellFormed) (rest : Text) :
    ∃ key after, read? (a.text ++ rest) = some ({ a with key := key }, after) ∧ a.key.length ≤ key.length := by
  obtain ⟨key, after, hr, hl⟩ := longestRun_maximal ha.key_oneLine (isPrefixOf?_append closing rest)
  exact ⟨key, after, by rw [read?_text ha, readKey?, hr]; rfl, hl⟩

end Assignment

/-! ## Declarations -/

namespace Declaration

/-- the other identifier is no shorter, and if it is the same, the other key is no shorter -/
def Yields (d e : Declaration) : Prop :=
  d.ident.length ≤ e.ident.length ∧ (d.ident = e.ident → d.key.length ≤ e.key.length)

theorem read?_text (d : Declaration) (rest : Text) :
    read? (d.text ++ rest) =
      (longestRun Assignment.read? (d.ident ++ (d.toAssignment.text ++ rest))).map
        fun (ident, a, rest) => (⟨a, ident⟩, rest) := by
  have htext : d.text ++ rest = opening ++ (d.ident ++ (d.toAssignment.text ++ rest)) := by simp [text]
  rw [read?, readWith?, htext, isPrefixOf?_append, List.drop_left]

/-- whatever declaration is written at the front, one is read to which it yields -/
theorem read?_greedy {d : Declaration} (hd : d.WellFormed) (rest : Text) :
    ∃ e after, read? (d.text ++ rest) = some (e, after) ∧ d.Yields e := by
  obtain ⟨key, after, ha, hkey⟩ := Assignment.read?_greedy hd.toWellFormed rest
  obtain ⟨ident, ⟨a, after'⟩, hr, hident⟩ := longestRun_maximal hd.ident_oneLine ha
  refine ⟨⟨a, ident⟩, after', by rw [read?_text, hr]; rfl, hident, ?_⟩
  rintro rfl
  -- the run stops where the identifier does, so the assignment read there is the one above
  obtain ⟨s, hs, -, hnext⟩ := longestRun_sound hr
  rw [← List.append_cancel_left hs, ha] at hnext
  obtain ⟨rfl, -⟩ := Prod.mk.inj (Option.some.inj hnext)
  exact hkey

theorem read?_eq_none_iff {s : Text} :
    read? s = none ↔ ∀ (d : Declaration) rest, d.WellFormed → s ≠ d.text ++ rest := by
  constructor
  · rintro h d rest hd rfl
    obtain ⟨e, after, he, -⟩ := read?_greedy hd rest
    rw [h] at he
    exact absurd he (by simp)
  · intro h
    cases hs : read? s with
    | none => rfl
    | some p =>
      obtain ⟨ht, hw⟩ := read?_sound hs
      exact absurd ht (h _ _ hw)

theorem eq_of_yields {d e : Declaration} {r r' : Text} (h : d.text ++ r = e.text ++ r') (hde : d.Yields e)
    (hed : e.Yields d) : d = e ∧ r = r' := by
  have hl : d.ident.length = e.ident.length := Nat.le_antisymm hde.1 hed.1
  have ht : opening ++ (d.ident ++ (d.toAssignment.text ++ r)) =
      opening ++ (e.ident ++ (e.toAssignment.text ++ r')) := by
    simpa [text] using h
  obtain ⟨hi, ht⟩ := List.append_inj (List.append_cancel_left ht) hl
  have hk : d.key.length = e.key.length := Nat.le_antisymm (hde.2 hi) (hed.2 hi.symm)
  obtain ⟨ha, hr⟩ := Assignment.eq_of_text_append ht hk
  refine ⟨?_, hr⟩
  cases d
  cases e
  simp_all

theorem read?_eq_some_iff {s rest : Text} {d : Declaration} :
    read? s = some (d, rest) ↔
      s = d.text ++ rest ∧ d.WellFormed ∧
        ∀ (e : Declaration) after, e.WellFormed → s = e.text ++ after → e.Yields d := by
  constructor
  · intro h
    obtain ⟨hs, hd⟩ := read?_sound h
    refine ⟨hs, hd, ?_⟩
    rintro e after he rfl
    obtain ⟨d', after', hd', hy⟩ := read?_greedy he after
    rw [h] at hd'
    obtain ⟨rfl, -⟩ := Prod.mk.inj (Option.some.inj hd')
    exact hy
  · rintro ⟨rfl, hd, hbest⟩
    obtain ⟨e, after, he, hy⟩ := read?_greedy hd rest
    obtain ⟨ht, hw⟩ := read?_sound he
    obtain ⟨rfl, rfl⟩ := eq_of_yields ht hy (hbest e after hw ht)
    exact he

end Declaration

end PowerPrefs
