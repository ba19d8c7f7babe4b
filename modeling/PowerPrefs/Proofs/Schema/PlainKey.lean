/-
Names as YAML reads them. The first line of an entry maps its name, which stands there without quotes: a plain key ends
at the first colon that a space or the end of the line follows, and a quote at its front or a hash after a space make the
line something else. A name is written as it is, and a declared key may hold any of these, so not every name is read as
itself: the line reads back as the name exactly if the name is plain, and as another key or as none if it is not.

- `beforeColon?_append_iff`: what stands before a colon is found unless a colon in it is followed by a space.
- `getElem?_lines`: on which line the name of an entry stands.
- `name_read_back_iff`: the names of a generated document that their lines map.
- `name_read_short_of_colon`: a key with a colon and a space in it is mapped by its front only.
-/
import PowerPrefs.Proofs.Generation.Agreement
import PowerPrefs.Proofs.Schema.Reading

namespace PowerPrefs.Schema

open Text

/-! ## Plain keys -/

/-- nothing, or a space and more: where a colon is before it, a plain key ends -/
inductive EndsKey : Text → Prop where
  | nil : EndsKey []
  | space (r : Text) : EndsKey (' ' :: r)

/-- what stands before the first colon that a space or the end of the line follows -/
def beforeColon? : Text → Option Text
  | [] => none
  | [':'] => some []
  | ':' :: ' ' :: _ => some []
  | c :: r => (beforeColon? r).map (c :: ·)

/-- a hash that a space stands before; the indent stands before the text -/
def HasComment (t : Text) : Prop := " #".toList <:+: ' ' :: t

/-- after its indent, the line has this text as a plain key -/
structure HasPlainKey (line key : Text) : Prop where
  read : (indent.isPrefixOf? line).bind beforeColon? = some key
  ne_nil : key ≠ []
  no_comment : ¬HasComment key
  unquoted : key.head? ≠ some '"'

/-- the name can stand as a plain key -/
structure Plain (name : Text) : Prop where
  ne_nil : name ≠ []
  no_colon : ¬": ".toList <:+: name
  no_comment : ¬HasComment name
  unquoted : name.head? ≠ some '"'

variable {name rest : Text}

theorem beforeColon?_of_endsKey (h : EndsKey rest) : beforeColon? (':' :: rest) = some [] := by
  cases h with
  | nil => rfl
  | space r => rfl

theorem beforeColon?_cons_of_not {c : Char} (h : ¬(c = ':' ∧ EndsKey rest)) :
    beforeColon? (c :: rest) = (beforeColon? rest).map (c :: ·) := by
  rw [beforeColon?]
  · rintro rfl rfl
    exact h ⟨rfl, .nil⟩
  · rintro r rfl rfl
    exact h ⟨rfl, .space r⟩

theorem endsKey_append_colon (r rest : Text) : EndsKey (r ++ ':' :: rest) ↔ r.head? = some ' ' := by
  cases r with
  | nil =>
    constructor
    · intro h
      nomatch h
    · intro h
      nomatch h
  | cons c r =>
    constructor
    · intro h
      cases h with
      | space => rfl
    · intro h
      obtain rfl := Option.some.inj h
      exact .space _

theorem colon_infix_cons_iff (c : Char) (r : Text) :
    ": ".toList <:+: c :: r ↔ (c = ':' ∧ r.head? = some ' ') ∨ ": ".toList <:+: r := by
  have hprefix : ": ".toList <+: c :: r ↔ c = ':' ∧ r.head? = some ' ' := by
    cases r <;> simp [List.cons_prefix_cons, eq_comm]
  rw [List.infix_cons_iff, hprefix]

/-- a colon that ends a key ends the text before it, if none in that text does -/
theorem beforeColon?_append_iff (hrest : EndsKey rest) :
    beforeColon? (name ++ ':' :: rest) = some name ↔ ¬": ".toList <:+: name := by
  induction name with
  | nil => simp [beforeColon?_of_endsKey hrest]
  | cons c r ih =>
    rw [List.cons_append, colon_infix_cons_iff, ← endsKey_append_colon r rest]
    by_cases hend : c = ':' ∧ EndsKey (r ++ ':' :: rest)
    · obtain ⟨rfl, hends⟩ := hend
      simp [beforeColon?_of_endsKey hends, hends]
    · rw [beforeColon?_cons_of_not hend, or_iff_right hend, ← ih]
      simp

theorem hasPlainKey_iff (hrest : EndsKey rest) : HasPlainKey (indent ++ (name ++ ':' :: rest)) name ↔ Plain name := by
  have hread : (indent.isPrefixOf? (indent ++ (name ++ ':' :: rest))).bind beforeColon? = some name ↔
      ¬": ".toList <:+: name := by
    rw [isPrefixOf?_append, Option.bind_some, beforeColon?_append_iff hrest]
  constructor
  · intro h
    exact ⟨h.ne_nil, hread.1 h.read, h.no_comment, h.unquoted⟩
  · intro h
    exact ⟨hread.2 h.no_colon, h.ne_nil, h.no_comment, h.unquoted⟩

/-! ## The lines of names -/

/-- the first line of an entry maps its name -/
theorem head?_entryLines (e : Entry) :
    ∃ rest, EndsKey rest ∧ (entryLines e).head? = some (indent ++ (e.name ++ ':' :: rest)) := by
  obtain ⟨key, name, default⟩ := e
  cases default with
  | none => exact ⟨" *".toList ++ descriptionAnchor, .space _, by simp [entryLines, indent]⟩
  | some value => exact ⟨[], .nil, by simp [entryLines, indent]⟩

/-- below the lines of the entries before it, counted by `length_lines` -/
theorem getElem?_lines {d : Document} {before after : List Entry} {e : Entry} (h : d.entries = before ++ e :: after) :
    (lines d)[(lines ⟨before⟩).length]? = (entryLines e).head? := by
  have hlines : lines d = lines ⟨before⟩ ++ (entryLines e ++ after.flatMap entryLines) := by
    simp only [lines, h, List.flatMap_append, List.flatMap_cons, List.append_assoc]
  rw [hlines, List.getElem?_append_right (Nat.le_refl _), Nat.sub_self, ← List.head?_eq_getElem?]
  obtain ⟨rest, -, hhead⟩ := head?_entryLines e
  rw [List.head?_append, hhead]
  rfl

/-- **A generated name is the key of its line exactly if it is plain.** The name of every entry stands on a line of its
own, below the lines of a schema that has only the entries before. That line has the name as its plain key if and only
if the name is not empty, has no colon before a space and no hash after one, and does not start with a quote. -/
theorem name_read_back_iff {fs : FileSystem} {inputs : Inputs} {d : Document} {before after : List Entry} {e : Entry}
    (hd : (generate fs inputs).result = .ok d) (he : d.entries = before ++ e :: after) :
    ∃ line, (Text.lines (render d))[(lines ⟨before⟩).length]? = some line ∧
      (HasPlainKey line e.name ↔ Plain e.name) := by
  obtain ⟨rest, hrest, hhead⟩ := head?_entryLines e
  refine ⟨_, ?_, hasPlainKey_iff hrest⟩
  rw [lines_render (oneLine_of_generate hd), getElem?_lines he, hhead]

/-- a listing with a key that is no plain name before one that is -/
theorem name_read_back_iff_mixed :
    let fs := Generation.checkout "const char kAPref[] = \"a #:\";\nconst char kBPref[] = \"b_c\";".toList
      [("a #:".toList, "x".toList)]
    let inputs := Inputs.ofRoot ⟨"/".toList⟩
    let e := Entry.new "a #:".toList (some "x".toList)
    let e' := Entry.new "b_c".toList none
    (generate fs inputs).result = .ok ⟨[e, e']⟩ ∧
      (∃ line, (Text.lines (render ⟨[e, e']⟩))[5]? = some line ∧ ¬HasPlainKey line e.name) ∧
      ∃ line, (Text.lines (render ⟨[e, e']⟩))[8]? = some line ∧ HasPlainKey line e'.name := by
  intro fs inputs e e'
  have hd : (generate fs inputs).result = .ok ⟨[e, e']⟩ := by decide +kernel
  obtain ⟨line, hline, hiff⟩ := @name_read_back_iff fs inputs _ [] [e'] e hd rfl
  obtain ⟨line', hline', hiff'⟩ := @name_read_back_iff fs inputs _ [e] [] e' hd rfl
  have hcomment : HasComment e.name := ⟨" a".toList, [':'], rfl⟩
  have hplain : Plain e'.name := ⟨by decide, by decide, by unfold HasComment; decide, by decide⟩
  exact ⟨hd, ⟨line, hline, fun h => (hiff.1 h).no_comment hcomment⟩, line', hline', hiff'.2 hplain⟩

/-- a declared key with a colon before a space: its line maps the text before the colon -/
theorem name_read_short_of_colon :
    let fs := Generation.checkout "const char kAPref[] = \"a: b\";".toList []
    let e := Entry.new "a: b".toList none
    (generate fs (Inputs.ofRoot ⟨"/".toList⟩)).result = .ok ⟨[e]⟩ ∧
      ∃ line, (Text.lines (render ⟨[e]⟩))[5]? = some line ∧ HasPlainKey line "a".toList ∧ ¬HasPlainKey line e.name := by
  intro fs e
  refine ⟨by decide +kernel, "  a: b: *powerd_prefs_default".toList, by decide +kernel, ?_, ?_⟩
  · exact ⟨by decide, by decide, by unfold HasComment; decide, by decide⟩
  · intro h
    exact absurd h.read (by decide)

end PowerPrefs.Schema
