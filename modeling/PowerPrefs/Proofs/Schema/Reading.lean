/-
Reading a schema back. A schema gives away the name and the default of each of its entries, in order, whatever they
hold: names stand in it as they are, and may look like any line of it, but the last character of an entry's first line
tells whether two more lines belong to it, and no name has a say in that.

`read?` is the reader. It drops the heading and takes the lines of one entry after the other: a line that ends in the
alias is an entry without a default, any other is the first of three.
- `read?_render`: the reader finds the pairs of a document on whose lines no name or default breaks in.
- `render_eq_iff`: two such documents have one schema if and only if they have the same pairs.
- `oneLine_of_generate`: every document that is generated is such a document.
- `render_reads_back`: all of this.
-/
import PowerPrefs.Schema
import PowerPrefs.Proofs.Generation.Outcome
import PowerPrefs.Proofs.Listing.Leftmost

namespace PowerPrefs.Schema

open Text

/-! ## The reader -/

/-- what stands between the two on a line -/
def between? (front back line : Text) : Option Text := (front.isPrefixOf? line).bind back.isSuffixOf?

def indent : Text := "  ".toList

/-- what comes after the name of an entry without a default -/
def aliasing : Text := ": *".toList ++ descriptionAnchor

/-- what comes before a default -/
def beforeValue : Text := "    default: ".toList ++ ['"']

/-- the default on a line that gives one -/
def readValue? (line : Text) : Option Text :=
  match (beforeValue.isPrefixOf? line).bind Scalar.scan with
  | some (value, []) => some value
  | _ => none

/-- the name and the default of each entry, from the lines of the entries -/
def readLines? : List Text → Option (List (Text × Option Text))
  | [] => some []
  | line :: more =>
    match between? indent aliasing line, more with
    | some name, more => (readLines? more).map ((name, none) :: ·)
    | none, _ :: value :: more =>
      match between? indent ":".toList line, readValue? value with
      | some name, some value => (readLines? more).map ((name, some value) :: ·)
      | _, _ => none
    | none, _ => none

/-- the name and the default of each entry, from the schema -/
def read? (schema : Text) : Option (List (Text × Option Text)) := readLines? ((Text.lines schema).drop heading.length)

/-! ## One line -/

theorem between?_append (front t back : Text) : between? front back (front ++ (t ++ back)) = some t := by
  rw [between?, isPrefixOf?_append, Option.bind_some, List.isSuffixOf?, List.reverse_append, isPrefixOf?_append]
  simp

theorem eq_append_of_between? {front back line t : Text} (h : between? front back line = some t) :
    line = front ++ (t ++ back) := by
  obtain ⟨r, hr, hs⟩ := Option.bind_eq_some_iff.1 h
  obtain ⟨t', ht, rfl⟩ := Option.map_eq_some_iff.1 hs
  have := congrArg List.reverse (eq_append_of_isPrefixOf? ht)
  simp only [List.reverse_reverse, List.reverse_append] at this
  rw [eq_append_of_isPrefixOf? hr, this]

/-- the last character decides: no line that ends in a colon ends in the alias -/
theorem between?_aliasing_of_colon (name : Text) :
    between? indent aliasing (indent ++ (name ++ ":".toList)) = none := by
  cases h : between? indent aliasing (indent ++ (name ++ ":".toList)) with
  | none => rfl
  | some t =>
    have hlast := congrArg List.getLast? (eq_append_of_between? h)
    have hcolon : (indent ++ (name ++ ":".toList)).getLast? = some ':' := by simp
    have halias : (indent ++ (t ++ aliasing)).getLast? = some 't' := by
      rw [← List.append_assoc, List.getLast?_append, show aliasing.getLast? = some 't' from by decide]
      rfl
    rw [hcolon, halias] at hlast
    exact absurd hlast (by decide)

theorem valueLine_eq (value : Text) :
    "    default: ".toList ++ Scalar.quoted value = beforeValue ++ (Scalar.escape value ++ ['"']) := by
  unfold beforeValue Scalar.quoted
  rw [List.append_assoc, List.singleton_append, List.cons_append]

theorem readValue?_quoted (value : Text) :
    readValue? ("    default: ".toList ++ Scalar.quoted value) = some value := by
  rw [readValue?, valueLine_eq, isPrefixOf?_append, Option.bind_some, Scalar.scan_escape]

/-! ## The lines of entries -/

/-- name and default, which are all of an entry that a schema shows -/
def pairOf (e : Entry) : Text × Option Text := (e.name, e.default)

theorem readLines?_of_alias {line name : Text} (h : between? indent aliasing line = some name) (more : List Text) :
    readLines? (line :: more) = (readLines? more).map ((name, none) :: ·) := by
  simp [readLines?, h]

theorem readLines?_of_block {line name value shown : Text} (halias : between? indent aliasing line = none)
    (hname : between? indent ":".toList line = some name) (hvalue : readValue? shown = some value)
    (anchored : Text) (more : List Text) :
    readLines? (line :: anchored :: shown :: more) = (readLines? more).map ((name, some value) :: ·) := by
  simp only [readLines?, halias, hname, hvalue]

theorem readLines?_entryLines (e : Entry) (more : List Text) :
    readLines? (entryLines e ++ more) = (readLines? more).map (pairOf e :: ·) := by
  obtain ⟨key, name, default⟩ := e
  cases default with
  | none =>
    have hline : "  ".toList ++ name ++ ": *".toList ++ descriptionAnchor = indent ++ (name ++ aliasing) := by
      simp [indent, aliasing]
    simp only [entryLines, hline, List.singleton_append]
    exact readLines?_of_alias (between?_append indent name aliasing) more
  | some value =>
    have hline : "  ".toList ++ name ++ ":".toList = indent ++ (name ++ ":".toList) := by simp [indent]
    simp only [entryLines, hline, List.cons_append, List.nil_append]
    exact readLines?_of_block (between?_aliasing_of_colon name) (between?_append indent name ":".toList)
      (readValue?_quoted value) _ more

theorem readLines?_flatMap (es : List Entry) : readLines? (es.flatMap entryLines) = some (es.map pairOf) := by
  induction es with
  | nil => rfl
  | cons e es ih => rw [List.flatMap_cons, readLines?_entryLines, ih, Option.map_some, List.map_cons]

/-! ## The whole schema -/

/-- the names and defaults of a document, in order -/
def pairs (d : Document) : List (Text × Option Text) := d.entries.map pairOf

/-- no name and no default breaks a line -/
def OneLine (d : Document) : Prop := ∀ e ∈ d.entries, '\n' ∉ e.name ∧ ∀ value, e.default = some value → '\n' ∉ value

section

variable {c : Char}

theorem notMem_escape (hc : c ≠ '\\') {value : Text} (h : c ∉ value) : c ∉ Scalar.escape value := by
  induction value with
  | nil => exact h
  | cons d r ih =>
    simp only [List.mem_cons, not_or] at h
    rw [Scalar.escape]
    split
    · simp [hc, h.1, ih h.2]
    · simp [h.1, ih h.2]

variable (hc : c.toNat < 0x20)

include hc

/-- all that a schema has besides names and values is printed -/
theorem notMem_of_printed {t : Text} (ht : t.all (fun x => 0x20 ≤ x.toNat) = true) : c ∉ t := by
  intro h
  have := of_decide_eq_true (List.all_eq_true.1 ht c h)
  omega

theorem notMem_entryLines {e : Entry} (hname : c ∉ e.name) (hdefault : ∀ value, e.default = some value → c ∉ value) :
    ∀ l ∈ entryLines e, c ∉ l := by
  obtain ⟨key, name, default⟩ := e
  have hanchor : c ∉ descriptionAnchor := notMem_of_printed hc (by decide)
  have hmerge : c ∉ "    <<: *".toList := notMem_of_printed hc (by decide)
  have hquoted : c ∉ "    default: \"\\".toList := notMem_of_printed hc (by decide)
  cases default with
  | none => simp_all [entryLines]
  | some value =>
    have hvalue := notMem_escape (by simp_all) (hdefault value rfl)
    simp_all [entryLines, Scalar.quoted]

theorem notMem_heading : ∀ l ∈ heading, c ∉ l := by
  have hprinted : heading.all (fun l => l.all fun x => 0x20 ≤ x.toNat) = true := by decide +kernel
  intro l hl
  exact notMem_of_printed hc (List.all_eq_true.1 hprinted l hl)

/-- a control character that is in no name and no value is nowhere in the schema -/
theorem notMem_lines {d : Document}
    (h : ∀ e ∈ d.entries, c ∉ e.name ∧ ∀ value, e.default = some value → c ∉ value) : ∀ l ∈ lines d, c ∉ l := by
  intro l hl
  rcases List.mem_append.1 hl with hl | hl
  · exact notMem_heading hc l hl
  · obtain ⟨e, he, hl⟩ := List.mem_flatMap.1 hl
    exact notMem_entryLines hc (h e he).1 (h e he).2 l hl

end

theorem lines_render {d : Document} (h : OneLine d) : Text.lines (render d) = lines d := by
  apply lines_joinLines
  · simp [lines, heading]
  · exact notMem_lines (by decide) h

theorem read?_render {d : Document} (h : OneLine d) : read? (render d) = some (pairs d) := by
  rw [read?, lines_render h, lines, List.drop_left, readLines?_flatMap, pairs]

/-- a schema shows nothing but the pairs -/
theorem render_eq_of_pairs {d e : Document} (h : pairs d = pairs e) : render d = render e := by
  have hlines : ∀ x : Document, x.entries.flatMap entryLines =
      (pairs x).flatMap fun p => entryLines ⟨[], p.1, p.2⟩ := by
    intro x
    rw [pairs, List.flatMap_map]
    rfl
  rw [render, render, lines, lines, hlines, hlines, h]

theorem render_eq_iff {d e : Document} (hd : OneLine d) (he : OneLine e) : render d = render e ↔ pairs d = pairs e := by
  constructor
  · intro h
    have hread := read?_render hd
    rw [h, read?_render he] at hread
    exact (Option.some.inj hread).symm
  · exact render_eq_of_pairs

/-! ## Documents that are generated -/

theorem notMem_hyphenate {c : Char} (hc : c ≠ '-') {key : Text} (h : c ∉ key) : c ∉ hyphenate key := by
  intro hmem
  obtain ⟨d, hd, he⟩ := List.mem_map.1 hmem
  split at he
  · exact hc he.symm
  · exact h (he ▸ hd)

/-- a declared key is on one line -/
theorem newline_notMem_of_mem_keys {listing key : Text} (h : key ∈ Listing.keys listing) : '\n' ∉ key := by
  obtain ⟨o, ho, rfl⟩ := List.mem_map.1 h
  have hstands := (Listing.leftmost_occurrences _).stands o ho
  exact hstands.2.1.key_oneLine

theorem oneLine_of_generate {fs : FileSystem} {inputs : Inputs} {d : Document}
    (h : (generate fs inputs).result = .ok d) : OneLine d := by
  have hends := Generation.ends_generate fs inputs
  rw [h] at hends
  cases hends with
  | document hread hkeys hentries =>
    intro e he
    obtain ⟨key, hkey, hentry⟩ := Generation.exists_key_of_mem hentries he
    refine ⟨?_, fun value hvalue => ?_⟩
    · rw [hentry.name_eq]
      exact notMem_hyphenate (by decide) (newline_notMem_of_mem_keys hkey)
    · obtain ⟨content, rfl⟩ := hentry.exists_content hvalue
      exact DefaultValue.newline_notMem_ofContent content

/-! ## All of it -/

/-- **Reading a schema back loses nothing.** The reader finds the names and defaults of every document on whose lines
none of them breaks in, and so of every document that is generated; and two documents of that kind have one schema if
and only if they have the same names and defaults in the same order. -/
theorem render_reads_back :
    (∀ d, OneLine d → read? (render d) = some (pairs d)) ∧
      (∀ fs inputs d, (generate fs inputs).result = .ok d → OneLine d ∧ read? (render d) = some (pairs d)) ∧
      ∀ d e, OneLine d → OneLine e → (render d = render e ↔ pairs d = pairs e) := by
  refine ⟨fun d h => read?_render h, fun fs inputs d h => ?_, fun d e hd he => render_eq_iff hd he⟩
  have hd := oneLine_of_generate h
  exact ⟨hd, read?_render hd⟩

/-- a name that looks like an alias, and one that ends in a colon before a default of a quote and a backslash -/
theorem render_reads_back_aliasing :
    read? (render ⟨[⟨[], aliasing, none⟩, ⟨[], ['a', ':'], some ['"', '\\']⟩]⟩) =
      some [(aliasing, none), (['a', ':'], some ['"', '\\'])] := by
  have haliasing : '\n' ∉ aliasing := by decide
  exact render_reads_back.1 _ (by simp [OneLine, haliasing])

end PowerPrefs.Schema
