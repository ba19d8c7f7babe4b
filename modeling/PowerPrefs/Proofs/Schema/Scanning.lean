/-
Where an escaped value ends. A value stands in the schema with a quote after it, and more text after that. A scan from
the left takes a backslash together with the character after it, and the first quote that is not so taken ends it.

A scan that has ended is not undone by what comes later (`scan_append`). The scan of an escaped value ends at the quote
put after it (`scan_escape`); had it ended before, at a quote of the value or in a row of backslashes at its end, it
would have ended there for good.
- `scan_take_escape`: the scan does not end within an escaped value.
- `isSome_scan_take_iff`: it ends with the quote put after the value, and not before.
- `escape_ends_at_quote`: this, the value that is found, and the text that is left; which values are written as they
  are, and how long the others become.
-/
import PowerPrefs.Proofs.Schema.Quoting

namespace PowerPrefs.Schema.Scalar

variable {t v r : Text} {c : Char}

theorem scan_mark (c : Char) (t : Text) :
    scan ('\\' :: c :: t) = (scan t).map fun (value, rest) => (c :: value, rest) := rfl

theorem scan_quote (t : Text) : scan ('"' :: t) = some ([], t) := by
  simp [scan]

theorem scan_cons_of_ne (hbackslash : c ≠ '\\') (hquote : c ≠ '"') (t : Text) :
    scan (c :: t) = (scan t).map fun (value, rest) => (c :: value, rest) := by
  simp [scan, hbackslash, hquote]

/-- a character that is taken stands before what is found after it -/
theorem exists_of_taken (h : ((scan t).map fun (value, rest) => (c :: value, rest)) = some (v, r)) :
    ∃ w, scan t = some (w, r) ∧ v = c :: w := by
  obtain ⟨⟨w, s⟩, hscan, htaken⟩ := Option.map_eq_some_iff.1 h
  obtain ⟨rfl, rfl⟩ := Prod.mk.inj htaken
  exact ⟨w, hscan, rfl⟩

/-- a scan ends for good: what comes later is left with the rest -/
theorem scan_append (h : scan t = some (v, r)) (u : Text) : scan (t ++ u) = some (v, r ++ u) := by
  induction t using scan.induct generalizing v with
  | case1 => exact absurd h (by simp [scan])
  | case2 c t ih =>
    obtain ⟨w, hscan, rfl⟩ := exists_of_taken h
    rw [List.cons_append, List.cons_append, scan_mark, ih hscan, Option.map_some]
  | case3 t =>
    rw [scan_quote] at h
    obtain ⟨rfl, rfl⟩ := Prod.mk.inj (Option.some.inj h)
    exact scan_quote (t ++ u)
  | case4 c t hlast hquote ih =>
    by_cases hbackslash : c = '\\'
    · -- a backslash that nothing follows takes nothing, and the scan has not ended
      cases t with
      | nil => exact absurd h (by simp [scan, hbackslash])
      | cons d t => exact absurd rfl (hlast d t hbackslash)
    · rw [scan_cons_of_ne hbackslash hquote] at h
      obtain ⟨w, hscan, rfl⟩ := exists_of_taken h
      rw [List.cons_append, scan_cons_of_ne hbackslash hquote, ih hscan, Option.map_some]

/-! ## Escaped values -/

/-- Had the scan ended in a front of the value, what it left would hold the rest of the value and the quote after it,
and not nothing. -/
theorem scan_take_escape (value : Text) (n : Nat) : scan ((escape value).take n) = none := by
  cases h : scan ((escape value).take n) with
  | none => rfl
  | some found =>
    obtain ⟨v, r⟩ := found
    have hwhole : some (value, []) = some (v, r ++ ((escape value).drop n ++ ['"'])) :=
      calc some (value, [])
          = scan (escape value ++ ['"']) := (scan_escape value []).symm
        _ = scan ((escape value).take n ++ ((escape value).drop n ++ ['"'])) := by
          rw [← List.append_assoc, List.take_append_drop]
        _ = some (v, r ++ ((escape value).drop n ++ ['"'])) := scan_append h _
    have hrest := (Prod.mk.inj (Option.some.inj hwhole)).2
    simp at hrest

/-- the front of a value with its quote ends a scan exactly if the quote is in it -/
theorem isSome_scan_take_iff (value rest : Text) (n : Nat) :
    (scan ((escape value ++ '"' :: rest).take n)).isSome ↔ (escape value).length < n := by
  constructor
  · intro hended
    by_contra hshort
    rw [List.take_append_of_le_length (Nat.le_of_not_lt hshort), scan_take_escape] at hended
    exact absurd hended (by decide)
  · intro hlong
    obtain ⟨k, rfl⟩ := Nat.exists_eq_add_of_lt hlong
    rw [Nat.add_assoc, List.take_length_add_append, List.take_succ_cons, scan_escape]
    rfl

example :
    let shown := escape ['"', '\\'] ++ ['"', 'x']
    (scan (shown.take 4), scan (shown.take 5)) = (none, some (['"', '\\'], [])) := by decide

/-- **An escaped value ends at the quote put after it.** Whatever the value and whatever comes after the quote, the scan
finds the value and leaves what comes after; and it ends with that quote and no sooner, however much of the text it is
given. The value is written as it is exactly if it has no quote and no backslash, and each of those makes it longer by
one character. -/
theorem escape_ends_at_quote (value rest : Text) :
    scan (escape value ++ '"' :: rest) = some (value, rest) ∧
      (∀ n, (scan ((escape value ++ '"' :: rest).take n)).isSome ↔ (escape value).length < n) ∧
      (escape value = value ↔ ¬('"' ∈ value ∨ '\\' ∈ value)) ∧
      (escape value).length = value.length + value.countP fun c => c = '\\' ∨ c = '"' :=
  ⟨scan_escape value rest, isSome_scan_take_iff value rest, escape_eq_self_iff, length_escape value⟩

end PowerPrefs.Schema.Scalar
