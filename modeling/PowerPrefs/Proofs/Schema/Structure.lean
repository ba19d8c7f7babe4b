/-
The structure of a schema. What the default files hold shows on lines of its own, one for each default, and nowhere
else: whatever line breaks, quotes, backslashes or looks of YAML are in a default, all other lines stay, and there are
as many of them.

The lines of a schema follow from the names of its entries and from which of them have a default, up to the values that
are shown. Both come from the listing and from which default paths lead to a regular file.
- `lines_rel`: documents of one shape have the same lines but for the values.
- `sameShape_of_generate`: one listing and the same default files give documents of one shape.
- `default_contents_change_values_only`: both together, for the schemas.
-/
import PowerPrefs.Proofs.Schema.Reading
import PowerPrefs.Proofs.Generation.Agreement

namespace PowerPrefs.Schema

open Generation

/-! ## Lines that show a value -/

/-- the line shows a default: a value, escaped, is all that stands between its opening and its closing quote -/
def ShowsValue (line : Text) : Prop := ∃ value, line = beforeValue ++ (Scalar.escape value ++ ['"'])

/-- the two lines are the same, or both show a default -/
def SameOrValues (line line' : Text) : Prop := line = line' ∨ ShowsValue line ∧ ShowsValue line'

theorem SameOrValues.refl (line : Text) : SameOrValues line line := Or.inl rfl

theorem showsValue_quoted (value : Text) : ShowsValue ("    default: ".toList ++ Scalar.quoted value) :=
  ⟨value, valueLine_eq value⟩

/-! ## Documents of one shape -/

/-- all that an entry tells about the structure of a schema -/
structure SameShape (e e' : Entry) : Prop where
  name_eq : e.name = e'.name
  hasDefault_eq : e.hasDefault = e'.hasDefault

variable {fs fs' : FileSystem} {inputs : Inputs}

theorem SameShape.entryLines_rel {e e' : Entry} (h : SameShape e e') :
    List.Forall₂ SameOrValues (entryLines e) (entryLines e') := by
  obtain ⟨key, name, default⟩ := e
  obtain ⟨key', name', default'⟩ := e'
  obtain ⟨rfl, hdefault⟩ := h
  cases default with
  | none =>
    cases default' with
    | none => exact List.forall₂_same.2 fun line _ => .refl line
    | some value' => exact absurd hdefault (by simp [Entry.hasDefault])
  | some value =>
    cases default' with
    | none => exact absurd hdefault (by simp [Entry.hasDefault])
    | some value' =>
      exact .cons (.refl _) (.cons (.refl _) (.cons (Or.inr ⟨showsValue_quoted value, showsValue_quoted value'⟩) .nil))

theorem lines_rel {d d' : Document} (h : List.Forall₂ SameShape d.entries d'.entries) :
    List.Forall₂ SameOrValues (lines d) (lines d') := by
  have hheading : List.Forall₂ SameOrValues heading heading := List.forall₂_same.2 fun line _ => .refl line
  exact List.rel_append hheading (List.rel_flatMap h fun _ _ he => he.entryLines_rel)

/-! ## Documents that are generated -/

theorem sameShape_of_entryOf {key : Text} {e e' : Entry} (h : EntryOf fs inputs key e) (h' : EntryOf fs' inputs key e')
    (hfile : fs.isRegularFile (inputs.defaultPath key) = fs'.isRegularFile (inputs.defaultPath key)) :
    SameShape e e' :=
  ⟨by rw [h.name_eq, h'.name_eq], by rw [h.hasDefault_eq, h'.hasDefault_eq, hfile]⟩

theorem sameShape_of_entries {keys : List Text} {es es' : List Entry} (h : List.Forall₂ (EntryOf fs inputs) keys es)
    (h' : List.Forall₂ (EntryOf fs' inputs) keys es')
    (hfile : ∀ key ∈ keys, fs.isRegularFile (inputs.defaultPath key) = fs'.isRegularFile (inputs.defaultPath key)) :
    List.Forall₂ SameShape es es' := by
  induction h generalizing es' with
  | nil =>
    cases h' with
    | nil => exact .nil
  | cons he _ ih =>
    cases h' with
    | cons he' hes' =>
      refine .cons (sameShape_of_entryOf he he' (hfile _ List.mem_cons_self)) ?_
      exact ih hes' fun key hkey => hfile key (List.mem_cons_of_mem _ hkey)

theorem sameShape_of_generate {listing : Text} {d d' : Document}
    (hread : fs.readText inputs.constantsFile = .ok listing)
    (hread' : fs'.readText inputs.constantsFile = .ok listing)
    (hfile : ∀ key ∈ Listing.keys listing,
      fs.isRegularFile (inputs.defaultPath key) = fs'.isRegularFile (inputs.defaultPath key))
    (hd : (generate fs inputs).result = .ok d) (hd' : (generate fs' inputs).result = .ok d') :
    List.Forall₂ SameShape d.entries d'.entries := by
  have hentries := entries_of_generate hread hd
  have hentries' := entries_of_generate hread' hd'
  exact sameShape_of_entries hentries hentries' hfile

/-- **Default files cannot change the structure of a schema.** Where two file systems have the same constants listing,
and for each of its keys a regular default file in both or in neither, the two schemas have as many lines, and any two
lines at one place are the same or show a default each. -/
theorem default_contents_change_values_only {listing schema schema' : Text}
    (hread : fs.readText inputs.constantsFile = .ok listing)
    (hread' : fs'.readText inputs.constantsFile = .ok listing)
    (hfile : ∀ key ∈ Listing.keys listing,
      fs.isRegularFile (inputs.defaultPath key) = fs'.isRegularFile (inputs.defaultPath key))
    (hschema : (generateSchema fs inputs).result = .ok schema)
    (hschema' : (generateSchema fs' inputs).result = .ok schema') :
    List.Forall₂ SameOrValues (Text.lines schema) (Text.lines schema') := by
  obtain ⟨d, hd, rfl⟩ := generateSchema_eq_ok_iff.1 hschema
  obtain ⟨d', hd', rfl⟩ := generateSchema_eq_ok_iff.1 hschema'
  rw [lines_render (oneLine_of_generate hd), lines_render (oneLine_of_generate hd')]
  exact lines_rel (sameShape_of_generate hread hread' hfile hd hd')

/-- a default that looks like more of the schema, with a quote to end it early -/
theorem default_contents_change_values_only_quote :
    let listing : Text := "const char kAPref[] = \"a\";".toList
    let fs := checkout listing [("a".toList, "x".toList)]
    let fs' := checkout listing [("a".toList, "\"\n  b: *powerd_prefs_default\n\\".toList)]
    let inputs := Inputs.ofRoot ⟨"/".toList⟩
    ∃ schema schema', (generateSchema fs inputs).result = .ok schema ∧
      (generateSchema fs' inputs).result = .ok schema' ∧ schema ≠ schema' ∧
        List.Forall₂ SameOrValues (Text.lines schema) (Text.lines schema') := by
  intro listing fs fs' inputs
  have hd : (generate fs inputs).result = .ok ⟨[Entry.new "a".toList (some "x".toList)]⟩ := by decide +kernel
  have hd' : (generate fs' inputs).result =
      .ok ⟨[Entry.new "a".toList (some "\"   b: *powerd_prefs_default \\".toList)]⟩ := by
    decide +kernel
  have hschema := generateSchema_eq_ok_iff.2 ⟨_, hd, rfl⟩
  have hschema' := generateSchema_eq_ok_iff.2 ⟨_, hd', rfl⟩
  have hread : fs.readText inputs.constantsFile = .ok listing := by decide +kernel
  have hread' : fs'.readText inputs.constantsFile = .ok listing := by decide +kernel
  have hfile : ∀ key ∈ Listing.keys listing,
      fs.isRegularFile (inputs.defaultPath key) = fs'.isRegularFile (inputs.defaultPath key) := by
    decide +kernel
  refine ⟨_, _, hschema, hschema', by decide +kernel, ?_⟩
  exact default_contents_change_values_only hread hread' hfile hschema hschema'

end PowerPrefs.Schema
