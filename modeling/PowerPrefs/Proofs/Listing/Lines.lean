/-
Occurrences line by line. Opening words may be followed on their line by any identifier, and the greedy choice takes the
longest identifier and the longest key that can be read. So whatever else could be read on the line of an occurrence
has become a part of it: opening words before it that are free, a second declaration after it, a later closing quote.

Each of the three is excluded by another declaration that would have been written, not by following the search:
- `StandsAt.widen`: a declaration can also be read from any opening words before it on its line.
- `StandsAt.lengthen`: a declaration goes on to any closing quote after it on the line on which it stops.
- `lineOf_start_lt`, `isLeast_start`, `lineOf_closing_ne`: what the greedy choice makes of these.

Hence the counts: no more occurrences than lines with opening words, and so no more keys, where the lines are those that
the keys are read from, with every line ending made a line feed. Counted by line feeds alone a listing may have fewer
lines than keys.
- `occurrences_line_by_line`: all of this.
-/
import Mathlib.Data.List.Nodup
import Mathlib.Order.Bounds.Basic
import PowerPrefs.Proofs.Listing.Separation
import PowerPrefs.Proofs.Text.Lines

namespace PowerPrefs.Listing

open Text

variable {s : Text} {p q : Nat} {d e : Declaration}

/-! ## What else is written -/

theorem StandsAt.writtenAt (h : StandsAt s p d) : WrittenAt s p d.text := h.2

theorem StandsAt.opening_writtenAt (h : StandsAt s p d) : WrittenAt s p Declaration.opening := by
  obtain ⟨-, before, after, rfl, hp⟩ := h
  exact ⟨before, d.ident ++ (d.toAssignment.text ++ after), by simp [Declaration.text], hp⟩

theorem StandsAt.widen (hopening : WrittenAt s p Declaration.opening) (h : StandsAt s q d) (hpq : p ≤ q)
    (hline : lineOf s p = lineOf s q) :
    ∃ ident, StandsAt s p { d with ident := ident } ∧ p + ident.byteLength = q + d.ident.byteLength := by
  have hd := h.1
  obtain ⟨before, mid, after, after', rfl, hmid, rfl, rfl, hcount⟩ := hopening.between h.writtenAt hpq
  have hmid' : '\n' ∉ mid := List.count_eq_zero.1 (by omega)
  -- the longer identifier is all that stands between the two opening words, and those of the declaration
  have hread : Declaration.opening ++ after =
      (mid ++ (Declaration.opening ++ d.ident)) ++ (d.toAssignment.text ++ after') := by
    rw [hmid]
    simp [Declaration.text]
  obtain ⟨ident, hident, rfl⟩ := exists_append_of_byteLength_le hread (by simp only [byteLength_append]; omega)
  have honeLine : '\n' ∉ ident := by
    have hall : '\n' ∉ mid ++ (Declaration.opening ++ d.ident) := by
      have hopens : '\n' ∉ Declaration.opening := by decide
      simp [hmid', hopens, hd.ident_oneLine]
    rw [hident] at hall
    exact fun hm => hall (List.mem_append_right _ hm)
  refine ⟨ident, ⟨⟨hd.toWellFormed, honeLine⟩, before, after', by simp [Declaration.text], rfl⟩, ?_⟩
  have hlength := congrArg byteLength hident
  simp only [byteLength_append] at hlength
  omega

theorem StandsAt.lengthen (h : StandsAt s p d) (hq : p + d.text.byteLength ≤ q)
    (hclosing : WrittenAt s q Assignment.closing) (hline : lineOf s q = lineOf s (p + d.text.byteLength)) :
    ∃ key, d.key.length < key.length ∧ StandsAt s p { d with key := key } := by
  obtain ⟨hd, before, after, rfl, rfl⟩ := h
  obtain ⟨before', after', he, rfl⟩ := hclosing
  rw [← byteLength_append] at hq hline
  obtain ⟨mid, rfl, rfl⟩ := exists_append_of_byteLength_le ((List.append_assoc _ _ _).trans he) hq
  rw [he, lineOf_append, ← he, ← List.append_assoc before, lineOf_append, List.count_append] at hline
  have hmid : '\n' ∉ mid := List.count_eq_zero.1 (by omega)
  have hclose : '\n' ∉ Assignment.closing := by decide
  refine ⟨d.key ++ (Assignment.closing ++ mid), ?_, ?_, before, after', ?_, rfl⟩
  · have hpos : 0 < Assignment.closing.length := by decide
    simp only [List.length_append]
    omega
  · exact ⟨⟨hd.first_ne, hd.second_ne, hd.separator_mem, by simp [hd.key_oneLine, hclose, hmid]⟩, hd.ident_oneLine⟩
  · simp [Declaration.text, Assignment.text, Assignment.beforeKey]

/-- of two declarations at one place, the one that yields has the identifier with no more bytes -/
theorem StandsAt.byteLength_ident_le (h : StandsAt s p d) (h' : StandsAt s p e) (hyields : d.Yields e) :
    d.ident.byteLength ≤ e.ident.byteLength := by
  obtain ⟨-, before, after, rfl, rfl⟩ := h
  obtain ⟨after', ha⟩ := StandsAt.eq_append h'
  have hidents : d.ident ++ (d.toAssignment.text ++ after) = e.ident ++ (e.toAssignment.text ++ after') := by
    simpa [Declaration.text] using ha
  obtain ⟨more, hmore⟩ := List.prefix_of_prefix_length_le ⟨_, hidents⟩ ⟨_, rfl⟩ hyields.1
  rw [← hmore, byteLength_append]
  omega

/-! ## On the line of an occurrence -/

variable {o x : Occurrence}

theorem lineOf_start_lt (ho : o ∈ occurrences s) (hx : x ∈ occurrences s) (hlater : o.stop ≤ x.start) :
    lineOf s o.start < lineOf s x.start := by
  have h := leftmost_occurrences s
  have hstands := (h.stands o ho).2
  have hlt := start_lt_stop o
  have hle : lineOf s o.start ≤ lineOf s x.start :=
    hstands.writtenAt.lineOf_le (h.stands x hx).2.writtenAt (by omega)
  refine Nat.lt_of_le_of_ne hle fun hline => ?_
  -- the marker of the later one could have ended the identifier of the earlier one
  obtain ⟨ident, hwide, hident⟩ := StandsAt.widen hstands.opening_writtenAt (h.stands x hx).2 (by omega) hline
  have hbytes := hwide.byteLength_ident_le hstands (h.greedy o ho _ hwide)
  have hstop : o.stop = o.start + o.declaration.text.byteLength := rfl
  simp only [Declaration.text, byteLength_append] at hstop
  have hpos : 0 < Declaration.opening.byteLength := by decide
  simp only at hbytes
  omega

theorem pairwise_lineOf (s : Text) : (occurrences s).Pairwise fun o later => lineOf s o.start < lineOf s later.start :=
  (leftmost_occurrences s).apart.imp_of_mem fun ho hlater hle => lineOf_start_lt ho hlater hle

theorem nodup_lineOf (s : Text) : ((occurrences s).map fun o => lineOf s o.start).Nodup :=
  List.pairwise_map.2 ((pairwise_lineOf s).imp Nat.ne_of_lt)

theorem eq_of_lineOf_eq (ho : o ∈ occurrences s) (hx : x ∈ occurrences s) (h : lineOf s o.start = lineOf s x.start) :
    o = x :=
  List.inj_on_of_nodup_map (nodup_lineOf s) ho hx h

/-- the byte from which the search goes on after these -/
def passed (front : List Occurrence) : Nat := (front.getLast?.map Occurrence.stop).getD 0

theorem stop_le_passed {front : List Occurrence} (hapart : front.Pairwise fun o later => o.stop ≤ later.start)
    (ho : o ∈ front) : o.stop ≤ passed front := by
  obtain ⟨init, last, rfl⟩ := (List.eq_nil_or_concat' front).resolve_left (List.ne_nil_of_mem ho)
  rw [passed, List.getLast?_concat, Option.map_some, Option.getD_some]
  rcases List.mem_append.1 ho with ho | ho
  · have hle := (List.pairwise_append.1 hapart).2.2 o ho last List.mem_cons_self
    have hlt := start_lt_stop last
    omega
  · obtain rfl := List.mem_singleton.1 ho
    exact Nat.le_refl _

theorem passed_le {front : List Occurrence} {n : Nat} (h : ∀ o ∈ front, o.stop ≤ n) : passed front ≤ n := by
  rw [passed]
  cases hlast : front.getLast? with
  | none => exact Nat.zero_le n
  | some o => exact h o (List.mem_of_getLast? hlast)

theorem isLeast_start {front back : List Occurrence} (hs : occurrences s = front ++ o :: back) :
    IsLeast {p | passed front ≤ p ∧ WrittenAt s p Declaration.opening ∧ lineOf s p = lineOf s o.start} o.start := by
  have h := leftmost_occurrences s
  rw [hs] at h
  obtain ⟨hfront, hback, hacross⟩ := List.pairwise_append.1 h.apart
  have hstands := (h.stands o (by simp)).2
  refine ⟨⟨passed_le fun x hx => hacross x hx o List.mem_cons_self, hstands.opening_writtenAt, rfl⟩, ?_⟩
  rintro p ⟨hpassed, hopening, hline⟩
  by_contra hlt
  rw [Nat.not_le] at hlt
  -- from the opening words at `p` on, the declaration can be read too, and some occurrence holds that place
  obtain ⟨ident, hwide, -⟩ := StandsAt.widen hopening hstands (Nat.le_of_lt hlt) hline
  obtain ⟨x, hx, hle, hstop⟩ := h.covers p _ (Nat.zero_le p) hwide
  rcases List.mem_append.1 hx with hx | hx
  · have := stop_le_passed hfront hx
    omega
  · rcases List.mem_cons.1 hx with rfl | hx
    · omega
    · have hafter := List.rel_of_pairwise_cons hback hx
      have := start_lt_stop o
      omega

theorem lineOf_closing_ne (ho : o ∈ occurrences s) (hp : o.stop ≤ p) (hclosing : WrittenAt s p Assignment.closing) :
    lineOf s p ≠ lineOf s o.stop := by
  intro hline
  have h := leftmost_occurrences s
  obtain ⟨key, hlonger, hlong⟩ := (h.stands o ho).2.lengthen hp hclosing hline
  have hle := (h.greedy o ho _ hlong).2 rfl
  simp only at hle
  omega

/-! ## Declarations on one line -/

/-- the key of some occurrence is where the key of `d` is, which is written at `place` -/
def YieldsKey (s : Text) (place : Nat) (d : Declaration) : Prop :=
  ∃ o ∈ occurrences s, o.keyStart = place + d.beforeKey.byteLength

theorem text_eq_beforeKey (d : Declaration) : d.text = d.beforeKey ++ (d.key ++ Assignment.closing) := by
  simp [Declaration.text, Declaration.beforeKey, Assignment.text]

theorem newline_notMem_beforeKey (hd : d.WellFormed) (hs : d.separator ≠ '\n') : '\n' ∉ d.beforeKey := by
  have htext := Declaration.newline_notMem_text hd hs
  rw [text_eq_beforeKey] at htext
  intro hm
  exact htext (List.mem_append_left _ hm)

/-- opening words cannot stand between the line feed of a wrapped declaration and its key -/
theorem separator_ne_of_append_eq {a b : Text} (hd : '\n' ∉ d.beforeKey)
    (h : a ++ e.beforeKey = b ++ d.beforeKey) : e.separator ≠ '\n' := by
  intro hs
  have hbefore : e.beforeKey = e.front ++ '\n' :: (List.replicate e.gap ' ' ++ ['"']) := by
    simp [Declaration.beforeKey, Declaration.front, Assignment.beforeKey, hs]
  rw [hbefore, ← List.append_assoc] at h
  rcases List.append_eq_append_iff.1 h with ⟨c, -, hc⟩ | ⟨c, -, hc⟩
  · cases c with
    | nil =>
      rw [List.nil_append] at hc
      exact hd (hc ▸ List.mem_cons_self)
    | cons y c =>
      obtain ⟨-, hc⟩ := List.cons.inj hc
      have hopening : 'c' ∈ List.replicate e.gap ' ' ++ ['"'] := by
        rw [hc]
        exact List.mem_append_right c List.mem_cons_self
      rcases List.mem_append.1 hopening with hm | hm
      · exact absurd (List.eq_of_mem_replicate hm) (by decide)
      · exact absurd (List.mem_singleton.1 hm) (by decide)
  · exact hd (by simp [hc])

/-- the occurrence that has the key of a declaration on one line starts on that line -/
theorem lineOf_start_eq (ho : o ∈ occurrences s) (hd : StandsAt s p d) (hs : d.separator ≠ '\n')
    (hkey : o.keyStart = p + d.beforeKey.byteLength) : lineOf s o.start = lineOf s p := by
  obtain ⟨he, before, after, hstext, hstart⟩ := ((leftmost_occurrences s).stands o ho).2
  obtain ⟨hd, before', after', hstext', rfl⟩ := hd
  have hcut : (before ++ o.declaration.beforeKey) ++ (o.declaration.key ++ (Assignment.closing ++ after)) =
      (before' ++ d.beforeKey) ++ (d.key ++ (Assignment.closing ++ after')) := by
    have := hstext.symm.trans hstext'
    simpa [text_eq_beforeKey] using this
  have hlength : (before ++ o.declaration.beforeKey).byteLength = (before' ++ d.beforeKey).byteLength := by
    rw [byteLength_append, byteLength_append, hstart, ← hkey, Occurrence.keyStart]
  obtain ⟨hc, -⟩ := append_inj_of_byteLength hcut hlength
  have hline' := newline_notMem_beforeKey hd hs
  have hline := newline_notMem_beforeKey he (separator_ne_of_append_eq hline' hc)
  have hcount := congrArg (List.count '\n') hc
  rw [List.count_append, List.count_append, List.count_eq_zero.2 hline, List.count_eq_zero.2 hline'] at hcount
  rw [← hstart, hstext, lineOf_append, ← hstext, hstext', lineOf_append]
  omega

theorem keyStart_unique (hd : StandsAt s p d) (hs : d.separator ≠ '\n') (he : StandsAt s q e)
    (hs' : e.separator ≠ '\n') (hline : lineOf s p = lineOf s q) (h : YieldsKey s p d) (h' : YieldsKey s q e) :
    p + d.beforeKey.byteLength = q + e.beforeKey.byteLength := by
  obtain ⟨o, ho, hkey⟩ := h
  obtain ⟨x, hx, hkey'⟩ := h'
  have hstart : lineOf s o.start = lineOf s x.start := by
    rw [lineOf_start_eq ho hd hs hkey, lineOf_start_eq hx he hs' hkey', hline]
  obtain rfl := eq_of_lineOf_eq ho hx hstart
  rw [← hkey, ← hkey']

/-! ## How many -/

/-- how many lines of a text hold opening words -/
def openedLines (s : Text) : Nat := (lines s).countP fun line => Declaration.opening <:+: line

theorem length_occurrences_le (s : Text) : (occurrences s).length ≤ openedLines s := by
  rw [← List.length_map fun o : Occurrence => lineOf s o.start]
  apply length_le_countP (nodup_lineOf s)
  intro i hi
  obtain ⟨o, ho, rfl⟩ := List.mem_map.1 hi
  obtain ⟨line, hline, hopening⟩ :=
    ((leftmost_occurrences s).stands o ho).2.opening_writtenAt.exists_line (by decide)
  exact ⟨line, hline, decide_eq_true hopening⟩

theorem length_keys_le (s : Text) : (keys s).length ≤ openedLines s.unifyNewlines :=
  calc (keys s).length = (occurrences s.unifyNewlines).length := by rw [keys, List.length_map]
    _ ≤ openedLines s.unifyNewlines := length_occurrences_le _

theorem length_keys_le_of_noReturn (h : '\r' ∉ s) : (keys s).length ≤ openedLines s := by
  have hle := length_keys_le s
  rwa [unifyNewlines_of_noReturn h] at hle

/-- **No two occurrences start on one line.** Each starts at the first opening words on its line that the search has not
passed, and no closing quote is left on the line on which it stops. So there are no more occurrences than lines with
opening words, and no more keys than such lines once each line ending is a line feed; and where several declarations
stand on one line, those that yield a key yield the same one. -/
theorem occurrences_line_by_line (s : Text) :
    ((occurrences s).Pairwise fun o later => lineOf s o.start < lineOf s later.start) ∧
    (∀ front o back, occurrences s = front ++ o :: back →
      IsLeast {p | passed front ≤ p ∧ WrittenAt s p Declaration.opening ∧ lineOf s p = lineOf s o.start} o.start) ∧
    (∀ o ∈ occurrences s, ∀ p, o.stop ≤ p → WrittenAt s p Assignment.closing → lineOf s p ≠ lineOf s o.stop) ∧
    (occurrences s).length ≤ openedLines s ∧
    (keys s).length ≤ openedLines s.unifyNewlines ∧
    ('\r' ∉ s → (keys s).length ≤ openedLines s) ∧
    ∀ p d q e, StandsAt s p d → d.separator ≠ '\n' → StandsAt s q e → e.separator ≠ '\n' → lineOf s p = lineOf s q →
      YieldsKey s p d → YieldsKey s q e → p + d.beforeKey.byteLength = q + e.beforeKey.byteLength := by
  refine ⟨pairwise_lineOf s, fun front o back => isLeast_start, ?_, length_occurrences_le s, length_keys_le s,
    length_keys_le_of_noReturn, ?_⟩
  · intro o ho p hp hclosing
    exact lineOf_closing_ne ho hp hclosing
  · intro p d q e hd hs he hs' hline h h'
    exact keyStart_unique hd hs he hs' hline h h'

/-- two declarations and a third closing quote on one line, and a wrapped declaration on the next two -/
theorem occurrences_line_by_line_crowded :
    let s : Text :=
      "const char aPref[] = \"x\"; const char bPref[] = \"y\"; z\";\nconst char cPref[] =\n \"c\";".toList
    let inner : Declaration := ⟨⟨'[', ']', ' ', 0, "y\"; z".toList⟩, ['b']⟩
    let o : Occurrence := ⟨0, { inner with ident := "aPref[] = \"x\"; const char b".toList }⟩
    let x : Occurrence := ⟨56, ⟨⟨'[', ']', '\n', 1, ['c']⟩, ['c']⟩⟩
    occurrences s = [o, x] ∧
      IsLeast {p | o.stop ≤ p ∧ WrittenAt s p Declaration.opening ∧ lineOf s p = lineOf s x.start} x.start ∧
      lineOf s x.keyStop ≠ lineOf s o.stop ∧ (keys s).length ≤ openedLines s ∧
      0 + o.declaration.beforeKey.byteLength = 26 + inner.beforeKey.byteLength := by
  intro s inner o x
  have hs : occurrences s = [o, x] := by decide +kernel
  have hstands := (leftmost_occurrences s).stands
  have ho : o ∈ occurrences s := by rw [hs]; exact List.mem_cons_self
  have hinner : StandsAt s 26 inner :=
    ⟨⟨⟨by decide, by decide, by decide, by decide⟩, by decide⟩, s.take 26, s.drop 55, by decide, by decide⟩
  have hclosing : WrittenAt s x.keyStop Assignment.closing := ⟨s.take 80, [], by decide, by decide⟩
  obtain ⟨-, hfirst, hlast, -, -, hcount, hone⟩ := occurrences_line_by_line s
  refine ⟨hs, hfirst [o] x [] hs, hlast o ho x.keyStop (by decide) hclosing, hcount (by decide), ?_⟩
  exact hone 0 o.declaration 26 inner (hstands o ho).2 (by decide) hinner (by decide) (by decide) ⟨o, ho, by decide⟩
    ⟨o, ho, by decide⟩

/-- a lone carriage return ends a line for the keys, but not for a count by line feeds -/
theorem keys_outnumber_lines :
    let s : Text := "const char aPref[] = \"a\";\rconst char bPref[] = \"b\";".toList
    keys s = [['a'], ['b']] ∧ openedLines s = 1 ∧ ¬(keys s).length ≤ openedLines s := by
  decide +kernel

end PowerPrefs.Listing
