/-
Reading the default files, key by key. What a default file gives is said by where its path leads: `EntryOf` for the
entry of a key, and `Spoilt` for a key that has none because its file holds no text.

- `readDefault_cases`: a default path leads to a text, to bytes that are no text, or to no regular file.
- `readEntries_eq_ok_iff`: reading succeeds with one entry for each key, in order.
- `readEntries_eq_error_iff`: it fails for the first key that is spoilt, and for no other reason.
-/
import Mathlib.Data.List.Forall2
import PowerPrefs.Generation
import PowerPrefs.Proofs.FileSystem.Leads

namespace PowerPrefs.Generation

/-- the default file of the key holds bytes that are the form of no text -/
def Spoilt (fs : FileSystem) (inputs : Inputs) (key : Text) : Prop :=
  ∃ content, fs.LeadsToFile (inputs.defaultPath key) content ∧ Text.ofBytes? content = none

/-- the entry that a key gives: its default is the value in its default file, if its path leads to a regular file -/
structure EntryOf (fs : FileSystem) (inputs : Inputs) (key : Text) (e : Entry) : Prop where
  key_eq : e.key = key
  name_eq : e.name = hyphenate key
  given : ∀ content, fs.LeadsToFile (inputs.defaultPath key) content →
    ∃ t, Text.ofBytes? content = some t ∧ e.default = some (DefaultValue.ofContent t)
  absent : (∀ content, ¬fs.LeadsToFile (inputs.defaultPath key) content) → e.default = none

variable {fs : FileSystem} {inputs : Inputs}

/-! ## One default -/

theorem readDefault_cases (fs : FileSystem) (p : Path) :
    (∃ content t, fs.LeadsToFile p content ∧ Text.ofBytes? content = some t ∧
        readDefault fs p = .ok (some (DefaultValue.ofContent t))) ∨
      (∃ content, fs.LeadsToFile p content ∧ Text.ofBytes? content = none ∧
        readDefault fs p = .error (.defaultUnreadable p .notText)) ∨
      (∀ content, ¬fs.LeadsToFile p content) ∧ readDefault fs p = .ok none := by
  by_cases hr : fs.isRegularFile p = true
  · obtain ⟨content, hc⟩ := FileSystem.isRegularFile_iff.1 hr
    cases ht : Text.ofBytes? content with
    | some t =>
      have hread := FileSystem.readText_of_leadsToFile hc ht
      exact Or.inl ⟨content, t, hc, ht, by rw [readDefault, if_pos hr, hread]⟩
    | none =>
      have hread := FileSystem.readText_of_notText hc ht
      exact Or.inr (Or.inl ⟨content, hc, ht, by rw [readDefault, if_pos hr, hread]⟩)
  · refine Or.inr (Or.inr ⟨fun content hc => ?_, by rw [readDefault, if_neg hr]⟩)
    exact hr (FileSystem.isRegularFile_iff.2 ⟨content, hc⟩)

theorem spoilt_of_readDefault {key : Text} {f : Failure} (h : readDefault fs (inputs.defaultPath key) = .error f) :
    Spoilt fs inputs key ∧ f = .defaultUnreadable (inputs.defaultPath key) .notText := by
  rcases readDefault_cases fs (inputs.defaultPath key) with ⟨_, _, _, _, hd⟩ | ⟨content, hc, ht, hd⟩ | ⟨_, hd⟩
  · rw [hd] at h
    exact absurd h (by simp)
  · rw [hd] at h
    exact ⟨⟨content, hc, ht⟩, (Except.error.inj h).symm⟩
  · rw [hd] at h
    exact absurd h (by simp)

theorem Spoilt.readDefault_eq {key : Text} (h : Spoilt fs inputs key) :
    readDefault fs (inputs.defaultPath key) = .error (.defaultUnreadable (inputs.defaultPath key) .notText) := by
  obtain ⟨content, hc, ht⟩ := h
  rcases readDefault_cases fs (inputs.defaultPath key) with ⟨other, t, ho, hto, _⟩ | ⟨_, _, _, hd⟩ | ⟨hn, _⟩
  · rw [hc.unique ho, hto] at ht
    exact absurd ht (by simp)
  · exact hd
  · exact absurd hc (hn content)

theorem entryOf_of_readDefault {key : Text} {default : Option Text}
    (h : readDefault fs (inputs.defaultPath key) = .ok default) : EntryOf fs inputs key (Entry.new key default) := by
  rcases readDefault_cases fs (inputs.defaultPath key) with ⟨content, t, hc, ht, hd⟩ | ⟨_, _, _, hd⟩ | ⟨hn, hd⟩
  · rw [hd] at h
    obtain rfl := Except.ok.inj h
    refine ⟨rfl, rfl, fun other ho => ⟨t, ?_, rfl⟩, fun hn => absurd hc (hn content)⟩
    rw [ho.unique hc, ht]
  · rw [hd] at h
    exact absurd h (by simp)
  · rw [hd] at h
    obtain rfl := Except.ok.inj h
    exact ⟨rfl, rfl, fun content hc => absurd hc (hn content), fun _ => rfl⟩

theorem EntryOf.readDefault_eq {key : Text} {e : Entry} (h : EntryOf fs inputs key e) :
    readDefault fs (inputs.defaultPath key) = .ok e.default ∧ e = Entry.new key e.default := by
  have he : e = Entry.new key e.default := by
    obtain ⟨rfl, hname, -, -⟩ := h
    rw [Entry.new, ← hname]
  refine ⟨?_, he⟩
  rcases readDefault_cases fs (inputs.defaultPath key) with ⟨content, t, hc, ht, hd⟩ | ⟨content, hc, ht, _⟩ | ⟨hn, hd⟩
  · obtain ⟨t', ht', hdef⟩ := h.given content hc
    obtain rfl := Option.some.inj (ht.symm.trans ht')
    rw [hd, hdef]
  · obtain ⟨t', ht', -⟩ := h.given content hc
    rw [ht] at ht'
    exact absurd ht' (by simp)
  · rw [hd, h.absent hn]

/-- a default that is given is the value of some file -/
theorem EntryOf.exists_content {key value : Text} {e : Entry} (h : EntryOf fs inputs key e)
    (hvalue : e.default = some value) : ∃ content, value = DefaultValue.ofContent content := by
  by_cases hfile : ∃ content, fs.LeadsToFile (inputs.defaultPath key) content
  · obtain ⟨content, hc⟩ := hfile
    obtain ⟨t, -, ht⟩ := h.given content hc
    exact ⟨t, Option.some.inj (hvalue.symm.trans ht)⟩
  · have hnone := h.absent fun content hc => hfile ⟨content, hc⟩
    rw [hvalue] at hnone
    exact absurd hnone (by simp)

theorem EntryOf.hasDefault_eq {key : Text} {e : Entry} (h : EntryOf fs inputs key e) :
    e.hasDefault = fs.isRegularFile (inputs.defaultPath key) := by
  cases hfile : fs.isRegularFile (inputs.defaultPath key) with
  | true =>
    obtain ⟨content, hc⟩ := FileSystem.isRegularFile_iff.1 hfile
    obtain ⟨t, -, ht⟩ := h.given content hc
    rw [Entry.hasDefault, ht]
    rfl
  | false =>
    have hnone : ∀ content, ¬fs.LeadsToFile (inputs.defaultPath key) content := by
      intro content hc
      exact absurd (FileSystem.isRegularFile_iff.2 ⟨content, hc⟩) (by simp [hfile])
    rw [Entry.hasDefault, h.absent hnone]
    rfl

theorem EntryOf.not_spoilt {key : Text} {e : Entry} (h : EntryOf fs inputs key e) : ¬Spoilt fs inputs key := by
  intro hs
  have hd := h.readDefault_eq.1
  rw [hs.readDefault_eq] at hd
  exact absurd hd (by simp)

/-! ## All defaults -/

theorem exists_key_of_mem {keys : List Text} {es : List Entry} {e : Entry}
    (h : List.Forall₂ (EntryOf fs inputs) keys es) (he : e ∈ es) : ∃ key ∈ keys, EntryOf fs inputs key e := by
  obtain ⟨i, hi, rfl⟩ := List.getElem_of_mem he
  have hlen : i < keys.length := h.length_eq ▸ hi
  exact ⟨keys[i], List.getElem_mem hlen, h.get hlen hi⟩

theorem not_spoilt_of_mem {keys : List Text} {es : List Entry} {key : Text}
    (h : List.Forall₂ (EntryOf fs inputs) keys es) (hkey : key ∈ keys) : ¬Spoilt fs inputs key := by
  obtain ⟨i, hi, rfl⟩ := List.getElem_of_mem hkey
  have hlen : i < es.length := h.length_eq ▸ hi
  have hentry := h.get hi hlen
  exact hentry.not_spoilt

theorem readEntries_cons_error {key : Text} (h : Spoilt fs inputs key) (rest : List Text) :
    (readEntries fs inputs (key :: rest)).result =
      .error (.defaultUnreadable (inputs.defaultPath key) .notText) := by
  rw [readEntries, h.readDefault_eq]

theorem readEntries_cons_ok {key : Text} {default : Option Text}
    (h : readDefault fs (inputs.defaultPath key) = .ok default) (rest : List Text) :
    (readEntries fs inputs (key :: rest)).result =
      (readEntries fs inputs rest).result.map (Entry.new key default :: ·) := by
  rw [readEntries, h]

theorem readEntries_eq_ok_iff {keys : List Text} {es : List Entry} :
    (readEntries fs inputs keys).result = .ok es ↔ List.Forall₂ (EntryOf fs inputs) keys es := by
  induction keys generalizing es with
  | nil =>
    rw [List.forall₂_nil_left_iff]
    constructor
    · intro h
      exact (Except.ok.inj h).symm
    · rintro rfl
      rfl
  | cons key keys ih =>
    constructor
    · intro h
      cases hd : readDefault fs (inputs.defaultPath key) with
      | error f =>
        rw [readEntries_cons_error (spoilt_of_readDefault hd).1] at h
        exact absurd h (by simp)
      | ok default =>
        rw [readEntries_cons_ok hd] at h
        cases hr : (readEntries fs inputs keys).result with
        | error f =>
          rw [hr] at h
          exact absurd h (by simp [Except.map])
        | ok later =>
          rw [hr] at h
          obtain rfl := Except.ok.inj h
          exact .cons (entryOf_of_readDefault hd) (ih.1 hr)
    · intro h
      obtain ⟨e, later, he, hlater, rfl⟩ := List.forall₂_cons_left_iff.1 h
      obtain ⟨hd, hnew⟩ := he.readDefault_eq
      rw [readEntries_cons_ok hd, ih.2 hlater, hnew]
      rfl

theorem readEntries_eq_error_iff {keys : List Text} {f : Failure} :
    (readEntries fs inputs keys).result = .error f ↔
      ∃ before key after, keys = before ++ key :: after ∧ (∀ k ∈ before, ¬Spoilt fs inputs k) ∧
        Spoilt fs inputs key ∧ f = .defaultUnreadable (inputs.defaultPath key) .notText := by
  induction keys with
  | nil =>
    constructor
    · intro h
      exact absurd h (by simp [readEntries])
    · rintro ⟨before, key, after, h, -⟩
      exact absurd h (by simp)
  | cons key keys ih =>
    cases hd : readDefault fs (inputs.defaultPath key) with
    | error g =>
      have hs := (spoilt_of_readDefault hd).1
      rw [readEntries_cons_error hs]
      constructor
      · intro h
        exact ⟨[], key, keys, rfl, by simp, hs, (Except.error.inj h).symm⟩
      · intro h
        obtain ⟨before, key', after, h, hbefore, -, rfl⟩ := h
        -- a spoilt first key is before no other
        cases before with
        | nil => rw [(List.cons.inj h).1]
        | cons k before =>
          obtain rfl := (List.cons.inj h).1
          exact absurd hs (hbefore key List.mem_cons_self)
    | ok default =>
      have hns := (entryOf_of_readDefault hd).not_spoilt
      have hmap : ((readEntries fs inputs keys).result.map (Entry.new key default :: ·) = .error f) ↔
          (readEntries fs inputs keys).result = .error f := by
        cases (readEntries fs inputs keys).result <;> simp [Except.map]
      rw [readEntries_cons_ok hd, hmap, ih]
      constructor
      · intro h
        obtain ⟨before, key', after, rfl, hbefore, hrest⟩ := h
        refine ⟨key :: before, key', after, rfl, ?_, hrest⟩
        intro k hk
        rcases List.mem_cons.1 hk with rfl | hk
        · exact hns
        · exact hbefore k hk
      · intro h
        obtain ⟨before, key', after, h, hbefore, hs, rfl⟩ := h
        cases before with
        | nil =>
          obtain rfl := (List.cons.inj h).1
          exact absurd hs hns
        | cons k before =>
          exact ⟨before, key', after, (List.cons.inj h).2, fun x hx => hbefore x (List.mem_cons_of_mem _ hx), hs, rfl⟩

end PowerPrefs.Generation
