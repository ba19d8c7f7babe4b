/-
Names made from keys. A name is its key with hyphens for underscores, so two keys have one name if and only if they
differ in nothing but these two marks, place by place. In a document whose names are all made in this way that tells
which keys are reported together.

It also tells when the schema maps one name twice: two keys collide, or one key is declared twice. The second is no
collision, since collisions are told by the set of keys.

- `hyphenate_eq_iff`: the keys of one name.
- `Hyphenated.reportsTogether_iff`: keys that are reported together are keys of one name.
- `Hyphenated.nodup_names_iff`: when all names are distinct.
- `mappedNames?_lines`: the lines of a schema map the names of the entries, in order.
- `names_distinct_iff`: all of it, also for every document that is generated.
-/
import Mathlib.Data.List.Nodup
import PowerPrefs.Proofs.Document.Collisions
import PowerPrefs.Proofs.Generation.Agreement
import PowerPrefs.Proofs.Schema.Reading

namespace PowerPrefs

/-! ## Keys of one name -/

/-- the same character, or one of them an underscore and the other a hyphen -/
def SameOrMarks (c c' : Char) : Prop := c = c' ∨ c = '_' ∧ c' = '-' ∨ c = '-' ∧ c' = '_'

/-- as many characters, and at every place the same or the two marks -/
structure SameButMarks (k k' : Text) : Prop where
  length_eq : k.length = k'.length
  sameOrMarks : ∀ i (h : i < k.length) (h' : i < k'.length), SameOrMarks k[i] k'[i]

theorem sameButMarks_iff {k k' : Text} : SameButMarks k k' ↔ List.Forall₂ SameOrMarks k k' := by
  rw [List.forall₂_iff_get]
  constructor
  · intro h
    exact ⟨h.length_eq, h.sameOrMarks⟩
  · intro h
    exact ⟨h.1, h.2⟩

theorem hyphen_eq_iff (c c' : Char) :
    ((if c = '_' then '-' else c) = if c' = '_' then '-' else c') ↔ SameOrMarks c c' := by
  unfold SameOrMarks
  by_cases hc : c = '_'
  · by_cases hc' : c' = '_'
    · simp [hc, hc']
    · simp [hc, hc', eq_comm]
  · by_cases hc' : c' = '_'
    · simp [hc, hc']
    · simp [hc, hc']

theorem hyphenate_eq_iff (k k' : Text) : hyphenate k = hyphenate k' ↔ SameButMarks k k' := by
  let hyphen : Char → Char := fun c => if c = '_' then '-' else c
  calc hyphenate k = hyphenate k' ↔ List.Forall₂ (· = ·) (k.map hyphen) (k'.map hyphen) := by
        rw [List.forall₂_eq_eq_eq]
        rfl
    _ ↔ List.Forall₂ (fun c c' => hyphen c = hyphen c') k k' := by
        rw [List.forall₂_map_left_iff, List.forall₂_map_right_iff]
    _ ↔ List.Forall₂ SameOrMarks k k' := by simp only [hyphen, hyphen_eq_iff]
    _ ↔ SameButMarks k k' := sameButMarks_iff.symm

namespace Document

/-! ## Hyphenated documents -/

/-- every entry is the one that is made for its key -/
def Hyphenated (d : Document) : Prop := ∀ e ∈ d.entries, ∃ key default, e = Entry.new key default

/-- the keys of the entries, in order -/
def keys (d : Document) : List Text := d.entries.map Entry.key

/-- some collision has both keys -/
def ReportsTogether (d : Document) (k k' : Text) : Prop := ∃ n keys, (n, keys) ∈ d.collisions ∧ k ∈ keys ∧ k' ∈ keys

variable {d : Document}

theorem Hyphenated.name_eq {e : Entry} (h : d.Hyphenated) (he : e ∈ d.entries) : e.name = hyphenate e.key := by
  obtain ⟨key, default, rfl⟩ := h e he
  rfl

theorem Hyphenated.map_name (h : d.Hyphenated) : d.entries.map Entry.name = d.keys.map hyphenate := by
  rw [keys, List.map_map]
  exact List.map_congr_left fun e he => h.name_eq he

theorem Hyphenated.reportsTogether_iff {k k' : Text} (h : d.Hyphenated) (hk : k ∈ d.keys) (hk' : k' ∈ d.keys)
    (hne : k ≠ k') : d.ReportsTogether k k' ↔ hyphenate k = hyphenate k' := by
  have hlists := listsCollisions d
  constructor
  · intro htogether
    obtain ⟨n, keys, hp, hk, hk'⟩ := htogether
    obtain ⟨e, he, hn, rfl⟩ := (hlists.mem_keys_iff n keys hp k).1 hk
    obtain ⟨e', he', hn', rfl⟩ := (hlists.mem_keys_iff n keys hp k').1 hk'
    rw [← h.name_eq he, ← h.name_eq he', hn, hn']
  · intro hname
    obtain ⟨e, he, rfl⟩ := List.mem_map.1 hk
    obtain ⟨e', he', rfl⟩ := List.mem_map.1 hk'
    rw [← h.name_eq he, ← h.name_eq he'] at hname
    have hmem := (hlists.mem_names_iff e.name).2 ⟨e, he, e', he', rfl, hname.symm, hne⟩
    obtain ⟨⟨n, keys⟩, hp, hn⟩ := List.mem_map.1 hmem
    exact ⟨n, keys, hp, (hlists.mem_keys_iff n keys hp _).2 ⟨e, he, hn.symm, rfl⟩,
      (hlists.mem_keys_iff n keys hp _).2 ⟨e', he', (hn.trans hname).symm, rfl⟩⟩

/-- without collisions, the name of a key is the name of no other -/
theorem Hyphenated.collisions_eq_nil_iff (h : d.Hyphenated) :
    d.collisions = [] ↔ ∀ k ∈ d.keys, ∀ k' ∈ d.keys, hyphenate k = hyphenate k' → k = k' := by
  constructor
  · intro hnone k hk k' hk' hname
    by_contra hne
    obtain ⟨n, keys, hp, -⟩ := (h.reportsTogether_iff hk hk' hne).2 hname
    rw [hnone] at hp
    exact List.not_mem_nil hp
  · intro hinj
    refine List.eq_nil_iff_forall_not_mem.2 fun p hp => ?_
    obtain ⟨e, he, e', he', hn, hn', hne⟩ := ((listsCollisions d).mem_names_iff p.1).1 (List.mem_map_of_mem hp)
    rw [h.name_eq he] at hn
    rw [h.name_eq he'] at hn'
    exact hne (hinj e.key (List.mem_map_of_mem he) e'.key (List.mem_map_of_mem he') (hn.trans hn'.symm))

theorem Hyphenated.nodup_names_iff (h : d.Hyphenated) :
    (d.entries.map Entry.name).Nodup ↔ d.collisions = [] ∧ d.keys.Nodup := by
  rw [h.map_name, h.collisions_eq_nil_iff]
  constructor
  · intro hnames
    have hkeys := hnames.of_map hyphenate
    exact ⟨fun k hk k' hk' => (List.nodup_map_iff_inj_on hkeys).1 hnames k hk k' hk', hkeys⟩
  · intro h
    obtain ⟨hinj, hkeys⟩ := h
    exact (List.nodup_map_iff_inj_on hkeys).2 hinj

theorem hyphenated_of_generate {fs : FileSystem} {inputs : Inputs} (h : (generate fs inputs).result = .ok d) :
    d.Hyphenated := by
  have hends := Generation.ends_generate fs inputs
  rw [h] at hends
  cases hends with
  | document hread hkeys hentries =>
    intro e he
    obtain ⟨key, -, hentry⟩ := Generation.exists_key_of_mem hentries he
    exact ⟨key, e.default, hentry.readDefault_eq.2⟩

end Document

/-! ## The names of a schema -/

namespace Schema

/-- the names that the lines of a schema map, in order -/
def mappedNames? (lines : List Text) : Option (List Text) :=
  (readLines? (lines.drop heading.length)).map fun pairs => pairs.map Prod.fst

theorem mappedNames?_lines (d : Document) : mappedNames? (lines d) = some (d.entries.map Entry.name) := by
  rw [mappedNames?, lines, List.drop_left, readLines?_flatMap, Option.map_some, List.map_map]
  rfl

end Schema

open Schema

/-- **Collisions by the keys alone.** In a document whose names are all made from the keys, two keys are reported together
exactly if they differ in nothing but underscores and hyphens, and the names that its schema maps are distinct exactly if
there are no collisions and no key is declared twice. Every document that is generated is of that kind, and the lines of
its schema are the lines of the text. -/
theorem names_distinct_iff :
    (∀ d : Document, d.Hyphenated →
      (∀ k ∈ d.keys, ∀ k' ∈ d.keys, k ≠ k' → (d.ReportsTogether k k' ↔ SameButMarks k k')) ∧
        ∃ names, mappedNames? (lines d) = some names ∧ (names.Nodup ↔ d.collisions = [] ∧ d.keys.Nodup)) ∧
      ∀ fs inputs d, (generate fs inputs).result = .ok d → d.Hyphenated ∧ Text.lines (render d) = lines d := by
  refine ⟨fun d h => ⟨fun k hk k' hk' hne => ?_, ?_⟩, fun fs inputs d h => ?_⟩
  · rw [h.reportsTogether_iff hk hk' hne, hyphenate_eq_iff]
  · exact ⟨_, mappedNames?_lines d, h.nodup_names_iff⟩
  · exact ⟨Document.hyphenated_of_generate h, lines_render (oneLine_of_generate h)⟩

/-- a key that is declared twice, in a document that is generated, and two keys of one name -/
theorem names_distinct_iff_twice :
    let fs := Generation.checkout "const char kAPref[] = \"a_b\";\nconst char kBPref[] = \"a_b\";\n".toList []
    let inputs := Inputs.ofRoot ⟨"/".toList⟩
    let a_b := Entry.new "a_b".toList none
    let twice : Document := ⟨[a_b, a_b]⟩
    let both : Document := ⟨[a_b, Entry.new "a-b".toList (some "x".toList)]⟩
    (generate fs inputs).result = .ok twice ∧ twice.collisions = [] ∧
      (∃ names, mappedNames? (Text.lines (render twice)) = some names ∧ ¬names.Nodup) ∧
      both.Hyphenated ∧ both.ReportsTogether "a_b".toList "a-b".toList := by
  intro fs inputs a_b twice both
  have hgen : (generate fs inputs).result = .ok twice := by decide +kernel
  obtain ⟨hkind, hgenerated⟩ := names_distinct_iff
  obtain ⟨htwice, hlines⟩ := hgenerated fs inputs twice hgen
  obtain ⟨-, names, hnames, hdistinct⟩ := hkind twice htwice
  have hboth : both.Hyphenated := by
    intro e he
    rcases List.mem_pair.1 he with rfl | rfl
    · exact ⟨_, _, rfl⟩
    · exact ⟨_, _, rfl⟩
  have hsame : SameButMarks "a_b".toList "a-b".toList := (hyphenate_eq_iff _ _).1 (by decide)
  refine ⟨hgen, by decide, ⟨names, hlines ▸ hnames, ?_⟩, hboth, ?_⟩
  · intro hnodup
    exact absurd (hdistinct.1 hnodup).2 (by decide)
  · exact ((hkind both hboth).1 _ (by decide) _ (by decide) (by decide)).2 hsame

end PowerPrefs
