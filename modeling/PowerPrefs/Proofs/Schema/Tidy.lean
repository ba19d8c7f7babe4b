/-
What holds of every document that is generated, and what its schema looks like as a text. Keys stand on one line, since
they are read from a listing whose line endings are line feeds and no key crosses one; names are keys but for hyphens;
values are folded and trimmed. So no piece of a schema hides the end of a line, and the lines of its text are as many as
its entries ask for.

- `tidy_of_entryOf`: an entry is tidy by what is read for its key.
- `default_eq_of_entryOf`: what is read for a key does not depend on where in the listing it is declared.
- `getLast?_lines`: the last line of a schema is never empty, so its text ends in no line feed.
- `generate_tidy`: all of this, for every file system and all inputs.
-/
import PowerPrefs.Proofs.DefaultValue.Tidy
import PowerPrefs.Proofs.Listing.Items
import PowerPrefs.Proofs.Schema.Reading
import PowerPrefs.Proofs.Generation.Agreement

namespace PowerPrefs

open Text

/-! ## Tidy documents -/

structure Entry.Tidy (e : Entry) : Prop where
  name_eq : e.name = hyphenate e.key
  key_unbroken : Unbroken e.key
  name_unbroken : Unbroken e.name
  default_tidy : ∀ value, e.default = some value → Unbroken value ∧ Trimmed value

structure Document.Tidy (d : Document) : Prop where
  entry : ∀ e ∈ d.entries, e.Tidy
  /-- a key that is declared twice has one default -/
  default_eq : ∀ e ∈ d.entries, ∀ e' ∈ d.entries, e.key = e'.key → e.default = e'.default

theorem unbroken_hyphenate {key : Text} (h : Unbroken key) : Unbroken (hyphenate key) :=
  ⟨Schema.notMem_hyphenate (by decide) h.1, Schema.notMem_hyphenate (by decide) h.2⟩

theorem return_notMem_of_mem_keys {listing key : Text} (h : key ∈ Listing.keys listing) : '\r' ∉ key := by
  obtain ⟨o, ho, rfl⟩ := List.mem_map.1 h
  obtain ⟨-, before, after, he, -⟩ := ((Listing.leftmost_occurrences _).stands o ho).2
  intro hreturn
  apply return_notMem_unifyNewlines listing
  rw [he]
  simp [Declaration.text, Assignment.text, hreturn]

theorem unbroken_of_mem_keys {listing key : Text} (h : key ∈ Listing.keys listing) : Unbroken key :=
  ⟨Schema.newline_notMem_of_mem_keys h, return_notMem_of_mem_keys h⟩

namespace Generation

variable {fs : FileSystem} {inputs : Inputs}

theorem tidy_of_entryOf {listing key : Text} {e : Entry} (hkey : key ∈ Listing.keys listing)
    (h : EntryOf fs inputs key e) : e.Tidy where
  name_eq := by rw [h.name_eq, h.key_eq]
  key_unbroken := by
    rw [h.key_eq]
    exact unbroken_of_mem_keys hkey
  name_unbroken := by
    rw [h.name_eq]
    exact unbroken_hyphenate (unbroken_of_mem_keys hkey)
  default_tidy value hvalue := by
    obtain ⟨content, rfl⟩ := h.exists_content hvalue
    exact ⟨DefaultValue.unbroken_ofContent content, DefaultValue.trimmed_ofContent content⟩

theorem default_eq_of_entryOf {key : Text} {e e' : Entry} (h : EntryOf fs inputs key e)
    (h' : EntryOf fs inputs key e') : e.default = e'.default := by
  have hread := h.readDefault_eq.1
  rw [h'.readDefault_eq.1] at hread
  exact (Except.ok.inj hread).symm

theorem tidy_of_generate {d : Document} (h : (generate fs inputs).result = .ok d) : d.Tidy := by
  have hends := ends_generate fs inputs
  rw [h] at hends
  cases hends with
  | document hread hkeys hentries =>
    constructor
    · intro e he
      obtain ⟨key, hmem, hentry⟩ := exists_key_of_mem hentries he
      exact tidy_of_entryOf hmem hentry
    · intro e he e' he' hkey
      obtain ⟨key, -, hentry⟩ := exists_key_of_mem hentries he
      obtain ⟨key', -, hentry'⟩ := exists_key_of_mem hentries he'
      have hsame : key' = key := by rw [← hentry'.key_eq, ← hkey, hentry.key_eq]
      exact default_eq_of_entryOf hentry (hsame ▸ hentry')

end Generation

/-! ## The text of a schema -/

namespace Schema

theorem return_notMem_render {d : Document} (h : d.Tidy) : '\r' ∉ render d := by
  apply Listing.return_notMem_joinLines
  apply notMem_lines (by decide)
  intro e he
  have htidy := h.entry e he
  exact ⟨htidy.name_unbroken.2, fun value hvalue => (htidy.default_tidy value hvalue).1.2⟩

theorem ne_nil_of_mem_entryLines {e : Entry} : ∀ l ∈ entryLines e, l ≠ [] := by
  obtain ⟨key, name, default⟩ := e
  cases default <;> simp [entryLines]

/-- the blank line of the heading is not its last one, and every other line holds something -/
theorem getLast?_lines (d : Document) : (lines d).getLast? ≠ some [] := by
  intro h
  obtain ⟨above, hheading⟩ : ∃ above, heading = above ++ [anchoredKey prefsAnchor] := ⟨heading.take 4, rfl⟩
  rw [lines, hheading, List.append_assoc, List.singleton_append, List.getLast?_append_cons] at h
  rcases List.mem_cons.1 (List.mem_of_getLast? h) with hnil | hmem
  · exact absurd hnil (by decide)
  · obtain ⟨e, -, hl⟩ := List.mem_flatMap.1 hmem
    exact ne_nil_of_mem_entryLines _ hl rfl

theorem getLast?_render {d : Document} (h : OneLine d) : (render d).getLast? ≠ some '\n' := by
  intro hlast
  obtain ⟨t, ht⟩ := List.getLast?_eq_some_iff.1 hlast
  have hlines : lines d = Text.lines t ++ [[]] :=
    calc lines d = Text.lines (t ++ ['\n']) := by rw [← lines_render h, ht]
      _ = Text.lines t ++ [[]] := split_append '\n' t []
  apply getLast?_lines d
  rw [hlines, List.getLast?_append]
  rfl

end Schema

open Generation

/-- **Every document that is generated is tidy**, and so is the text of its schema: no carriage return, no line feed at
the end, and as many lines as the heading and the entries take. -/
theorem generate_tidy (fs : FileSystem) (inputs : Inputs) :
    (∀ d, (generate fs inputs).result = .ok d → d.Tidy) ∧
      ∀ schema, (generateSchema fs inputs).result = .ok schema →
        ∃ d, (generate fs inputs).result = .ok d ∧ '\r' ∉ schema ∧ schema.getLast? ≠ some '\n' ∧
          (Text.lines schema).length =
            5 + (d.entries.filter fun e => !e.hasDefault).length + 3 * (d.entries.filter Entry.hasDefault).length := by
  refine ⟨fun d h => tidy_of_generate h, fun schema h => ?_⟩
  obtain ⟨d, hd, rfl⟩ := generateSchema_eq_ok_iff.1 h
  have honeLine := Schema.oneLine_of_generate hd
  refine ⟨d, hd, Schema.return_notMem_render (tidy_of_generate hd), Schema.getLast?_render honeLine, ?_⟩
  rw [Schema.lines_render honeLine, Schema.length_lines]

/-- a key that is declared twice, with a default of two lines among blanks, and a key without one -/
theorem generate_tidy_twice :
    let listing : Text :=
      "const char kAPref[] =\r\n  \"a_b\";\rconst char kBPref[] = \"a_b\";\nconst char kCPref[] = \"c\";".toList
    let fs := checkout listing [("a_b".toList, "\t x\r\ny\u00a0\r".toList)]
    let inputs := Inputs.ofRoot ⟨"/".toList⟩
    let twice := Entry.new "a_b".toList (some "x y".toList)
    let d : Document := ⟨[twice, twice, Entry.new "c".toList none]⟩
    (generate fs inputs).result = .ok d ∧ d.Tidy ∧
      ∃ schema, (generateSchema fs inputs).result = .ok schema ∧ '\r' ∉ schema ∧ schema.getLast? ≠ some '\n' ∧
        (Text.lines schema).length = 12 := by
  intro listing fs inputs twice d
  have hd : (generate fs inputs).result = .ok d := by decide +kernel
  have hschema := generateSchema_eq_ok_iff.2 ⟨d, hd, rfl⟩
  obtain ⟨htidy, htext⟩ := generate_tidy fs inputs
  obtain ⟨d', hd', hreturn, hlast, hlength⟩ := htext _ hschema
  obtain rfl := Except.ok.inj (hd.symm.trans hd')
  exact ⟨hd, htidy d hd, _, hschema, hreturn, hlast, hlength⟩

end PowerPrefs
