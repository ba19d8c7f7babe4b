/-
What is reported while a schema is generated. The events tell how far the generation came: nothing is reported where the
constants listing cannot be read; each entry is reported once its default was read, so a spoilt default file is preceded
by the entries of the keys before it, and by nothing else; and where there is a schema, collisions follow the entries,
and the defaults that are not written as they are come last.

`Record` is an event as a log has it, and `Reports` has one rule for each way in which a generation ends.
- `readEntries_events_append`: keys that are not spoilt report their entries, whatever keys come after them.
- `escapedEntries_eq_filter`: the defaults that are not written as they are have a quote or a backslash.
- `Reports.eq`: the generation reports as each rule says.
- `generateSchema_reports`: it does nothing else.
-/
import PowerPrefs.Proofs.Document.Collisions
import PowerPrefs.Proofs.Generation.Agreement
import PowerPrefs.Proofs.Generation.Outcome
import PowerPrefs.Proofs.Schema.Quoting

namespace PowerPrefs

/-! ## Records -/

/-- an event as a log has it -/
structure Record where
  level : Level
  message : Text
  fields : List (Text × FieldValue)
deriving DecidableEq, Repr

def Event.record (e : Event) : Record := ⟨e.level, e.message, e.fields⟩

/-- there is a quote or a backslash in the default -/
def Entry.hasMarks (e : Entry) : Bool := e.default.any fun value => value.contains '"' || value.contains '\\'

namespace Record

def nothingDeclared : Record := ⟨.warn, "no pref declarations found, the schema will have no prefs".toList, []⟩

def extracted (e : Entry) : Record :=
  ⟨.debug, "extracted pref".toList, [("key".toList, .plain e.key), ("has_default".toList, .flag e.default.isSome)]⟩

def shared (name : Text) (keys : List Text) : Record :=
  ⟨.warn, "multiple prefs map to the same schema name".toList,
    [("name".toList, .quoted name), ("keys".toList, .plain (Text.quotedSet keys))]⟩

def escaped (e : Entry) : Record :=
  ⟨.debug, "escaped quotes or backslashes in default".toList, [("name".toList, .plain e.name)]⟩

/-- all that is reported of a document and of its schema, in order -/
def ofDocument (d : Document) : List Record :=
  (if d.entries = [] then [nothingDeclared] else []) ++ d.entries.map extracted ++
    d.collisions.map (fun (name, keys) => shared name keys) ++ (d.entries.filter Entry.hasMarks).map escaped

end Record

namespace Generation

/-- how the generation of a schema ends, and what was reported until then -/
inductive Reports (fs : FileSystem) (inputs : Inputs) : List Record → Except Failure Text → Prop where
  | unreadable {e : FileError} (h : fs.readText inputs.constantsFile = .error e) :
      Reports fs inputs [] (.error (.constantsUnreadable inputs.constantsFile e))
  /-- the key is the first one that is spoilt, and the entries are those of the keys before it -/
  | spoilt {listing key : Text} {before after : List Text} {es : List Entry}
      (h : fs.readText inputs.constantsFile = .ok listing) (hkeys : Listing.keys listing = before ++ key :: after)
      (hentries : List.Forall₂ (EntryOf fs inputs) before es) (hkey : Spoilt fs inputs key) :
      Reports fs inputs (es.map Record.extracted) (.error (.defaultUnreadable (inputs.defaultPath key) .notText))
  | schema {listing : Text} {d : Document} (h : fs.readText inputs.constantsFile = .ok listing)
      (hentries : List.Forall₂ (EntryOf fs inputs) (Listing.keys listing) d.entries) :
      Reports fs inputs (Record.ofDocument d) (.ok (Schema.render d))

variable {fs : FileSystem} {inputs : Inputs}

/-! ## The entries -/

def extractedEvent (e : Entry) : Event := .extracted e.key e.hasDefault

theorem readEntries_events_append {before : List Text} {es : List Entry}
    (h : List.Forall₂ (EntryOf fs inputs) before es) (rest : List Text) :
    (readEntries fs inputs (before ++ rest)).events =
      es.map extractedEvent ++ (readEntries fs inputs rest).events := by
  induction h with
  | nil => rfl
  | cons he _ ih =>
    rw [List.cons_append, readEntries, he.readDefault_eq.1, List.map_cons, List.cons_append, ← ih]
    simp only [extractedEvent, Entry.hasDefault, he.key_eq]

theorem readEntries_events_of_spoilt {key : Text} (h : Spoilt fs inputs key) (rest : List Text) :
    (readEntries fs inputs (key :: rest)).events = [] := by
  rw [readEntries, h.readDefault_eq]

/-- keys of which none is spoilt have entries -/
theorem exists_entries {keys : List Text} (h : ∀ key ∈ keys, ¬Spoilt fs inputs key) :
    ∃ es, List.Forall₂ (EntryOf fs inputs) keys es := by
  cases hread : (readEntries fs inputs keys).result with
  | ok es => exact ⟨es, readEntries_eq_ok_iff.1 hread⟩
  | error f =>
    obtain ⟨before, key, after, rfl, -, hkey, -⟩ := readEntries_eq_error_iff.1 hread
    exact absurd hkey (h key (by simp))

/-! ## The generation of the document -/

theorem generate_of_unreadable {e : FileError} (h : fs.readText inputs.constantsFile = .error e) :
    generate fs inputs = ⟨[], .error (.constantsUnreadable inputs.constantsFile e)⟩ := by
  rw [generate, h]

theorem generate_of_spoilt {listing key : Text} {before after : List Text} {es : List Entry}
    (h : fs.readText inputs.constantsFile = .ok listing) (hkeys : Listing.keys listing = before ++ key :: after)
    (hentries : List.Forall₂ (EntryOf fs inputs) before es) (hkey : Spoilt fs inputs key) :
    generate fs inputs =
      ⟨es.map extractedEvent, .error (.defaultUnreadable (inputs.defaultPath key) .notText)⟩ := by
  have hbefore : ∀ k ∈ before, ¬Spoilt fs inputs k := fun k hk => not_spoilt_of_mem hentries hk
  have hresult := readEntries_eq_error_iff.2 ⟨before, key, after, hkeys, hbefore, hkey, rfl⟩
  have hevents : (readEntries fs inputs (Listing.keys listing)).events = es.map extractedEvent := by
    rw [hkeys, readEntries_events_append hentries, readEntries_events_of_spoilt hkey, List.append_nil]
  -- a listing with a spoilt key declares something
  have hsome : emptinessEvents (Listing.keys listing) = [] := by
    rw [emptinessEvents, if_neg (by simp [hkeys])]
  simp only [generate, h, hresult, hevents, hsome, List.nil_append]

theorem generate_of_entries {listing : Text} {d : Document} (h : fs.readText inputs.constantsFile = .ok listing)
    (hentries : List.Forall₂ (EntryOf fs inputs) (Listing.keys listing) d.entries) :
    generate fs inputs =
      ⟨emptinessEvents (Listing.keys listing) ++ d.entries.map extractedEvent ++ collisionEvents d, .ok d⟩ := by
  have hresult := readEntries_eq_ok_iff.2 hentries
  have hevents : (readEntries fs inputs (Listing.keys listing)).events = d.entries.map extractedEvent := by
    have happend := readEntries_events_append hentries []
    rwa [List.append_nil, readEntries, List.append_nil] at happend
  simp only [generate, h, hresult, hevents]

/-! ## The schema -/

/-- no default is written otherwise unless it has a quote or a backslash -/
theorem escapedEntries_eq_filter (d : Document) : Schema.escapedEntries d = d.entries.filter Entry.hasMarks := by
  apply List.filter_congr
  intro e _
  cases h : e.default with
  | none => simp [Entry.hasMarks, h]
  | some value => simp [Entry.hasMarks, h, Schema.Scalar.escape_eq_self_iff]

theorem map_record_of_document {keys : List Text} {d : Document}
    (hentries : List.Forall₂ (EntryOf fs inputs) keys d.entries) :
    (emptinessEvents keys ++ d.entries.map extractedEvent ++ collisionEvents d ++ Schema.renderEvents d).map
      Event.record = Record.ofDocument d := by
  have hempty : keys = [] ↔ d.entries = [] := by
    rw [← List.length_eq_zero_iff, ← List.length_eq_zero_iff, hentries.length_eq]
  have hnothing : (emptinessEvents keys).map Event.record =
      if d.entries = [] then [Record.nothingDeclared] else [] := by
    rw [emptinessEvents]
    simp only [hempty]
    split <;> rfl
  rw [Record.ofDocument, List.map_append, List.map_append, List.map_append, hnothing, collisionEvents,
    Schema.renderEvents, escapedEntries_eq_filter, List.map_map, List.map_map, List.map_map]
  rfl

theorem Reports.eq {records : List Record} {outcome : Except Failure Text} (h : Reports fs inputs records outcome) :
    (generateSchema fs inputs).events.map Event.record = records ∧ (generateSchema fs inputs).result = outcome := by
  cases h with
  | unreadable h =>
    rw [generateSchema, generate_of_unreadable h]
    exact ⟨rfl, rfl⟩
  | spoilt h hkeys hentries hkey =>
    rw [generateSchema, generate_of_spoilt h hkeys hentries hkey]
    refine ⟨?_, rfl⟩
    rw [List.map_map]
    rfl
  | schema h hentries =>
    rw [generateSchema, generate_of_entries h hentries]
    exact ⟨map_record_of_document hentries, rfl⟩

theorem exists_reports (fs : FileSystem) (inputs : Inputs) : ∃ records outcome, Reports fs inputs records outcome := by
  have hends := ends_generate fs inputs
  generalize (generate fs inputs).result = outcome at hends
  cases hends with
  | unreadable h => exact ⟨_, _, .unreadable h⟩
  | spoilt h hkeys hbefore hkey =>
    obtain ⟨es, hentries⟩ := exists_entries hbefore
    exact ⟨_, _, .spoilt h hkeys hentries hkey⟩
  | document h _ hentries => exact ⟨_, _, .schema h hentries⟩

example :
    let fs := checkout "const char kAPref[] = \"a_b\";\nconst char kBPref[] = \"a-b\";".toList
      [("a_b".toList, "\"x\"".toList)]
    let quoted := Entry.new "a_b".toList (some "\"x\"".toList)
    (generateSchema fs (Inputs.ofRoot ⟨"/".toList⟩)).events.map Event.record =
      [.extracted quoted, .extracted (Entry.new "a-b".toList none), .shared "a-b".toList ["a-b".toList, "a_b".toList],
        .escaped quoted] := by
  decide +kernel

end Generation

end PowerPrefs
