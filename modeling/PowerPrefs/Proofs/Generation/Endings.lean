/-
Line endings have no say in a generation. Each file may be written with line feeds, with pairs or with lone carriage
returns: the keys of the constants listing and the values of the default files stay the same, and with them all that a
generation reports.

- `Restyled.text_rel`: a file that is written with other line endings reads as the same lines.
- `readDefault_of_restyled`: a default path gives the same value in both file systems, or fails in the same way.
- `generate_restyled`: the same entries, failure and events, and the same schema.
-/
import PowerPrefs.Proofs.FileSystem.Alike
import PowerPrefs.Proofs.Generation.Agreement
import PowerPrefs.Proofs.Text.Endings

namespace PowerPrefs

/-- the same content, or a text without carriage returns and that text with some ending in place of each line feed -/
inductive Restyled (content : ByteArray) : ByteArray → Prop where
  | kept : Restyled content content
  | ending {content' : ByteArray} {t : Text} (e : Ending) (hreturn : '\r' ∉ t) (h : Text.ofBytes? content = some t)
      (h' : Text.ofBytes? content' = some (t.withEnding e)) : Restyled content content'

theorem restyled_toBytes {t : Text} (e : Ending) (h : '\r' ∉ t) : Restyled t.toBytes (t.withEnding e).toBytes :=
  .ending e h (Text.ofBytes?_toBytes _) (Text.ofBytes?_toBytes _)

/-- texts that are the same when their line endings are unified -/
def SameLines (t t' : Text) : Prop := t.unifyNewlines = t'.unifyNewlines

theorem Restyled.text_rel {content content' : ByteArray} (h : Restyled content content') :
    Option.Rel SameLines (Text.ofBytes? content) (Text.ofBytes? content') := by
  cases h with
  | kept =>
    cases Text.ofBytes? content with
    | none => exact .none
    | some t => exact .some rfl
  | ending e hreturn h h' =>
    rw [h, h']
    refine .some ?_
    rw [SameLines, Text.unifyNewlines_of_noReturn hreturn, Text.unifyNewlines_withEnding e hreturn]

theorem SameLines.keys_eq {t t' : Text} (h : SameLines t t') : Listing.keys t = Listing.keys t' := by
  rw [Listing.keys, Listing.keys, h]

theorem SameLines.ofContent_eq {t t' : Text} (h : SameLines t t') :
    DefaultValue.ofContent t = DefaultValue.ofContent t' := by
  rw [DefaultValue.ofContent, DefaultValue.ofContent, h]

namespace Generation

variable {fs fs' : FileSystem}

theorem readText_of_restyled (h : fs.Alike Restyled fs') (p : Path) :
    Agree SameLines (fs.readText p) (fs'.readText p) :=
  h.readText_agrees .kept Restyled.text_rel p

theorem readDefault_of_restyled (h : fs.Alike Restyled fs') (p : Path) : readDefault fs p = readDefault fs' p := by
  rw [readDefault, readDefault, ← h.isRegularFile_eq p]
  rcases (readText_of_restyled h p).cases with ⟨e, hr, hr'⟩ | ⟨t, t', hr, hr', hlines⟩
  · rw [hr, hr']
  · simp only [hr, hr', hlines.ofContent_eq]

/-- **Line endings have no say.** In two file systems that are the same but for the line endings of their files, each
file in a style of its own, a generation gives the same entries, fails for the same cause at the same path and reports
the same events, and the schema is the same to the byte. -/
theorem generate_restyled (h : fs.Alike Restyled fs') (inputs : Inputs) :
    generate fs inputs = generate fs' inputs ∧ generateSchema fs inputs = generateSchema fs' inputs := by
  have hgen : generate fs inputs = generate fs' inputs := by
    rcases (readText_of_restyled h inputs.constantsFile).cases with ⟨e, hr, hr'⟩ | ⟨t, t', hr, hr', hlines⟩
    · exact generate_congr_of_unreadable hr hr'
    · exact generate_congr hr hr' hlines.keys_eq fun key _ => readDefault_of_restyled h (inputs.defaultPath key)
  exact ⟨hgen, generateSchema_congr hgen⟩

/-- the listing in pairs, one default file with lone carriage returns and one as it was -/
theorem generate_restyled_mixed :
    let listing : Text := "const char kAPref[] =\n    \"a\";\nconst char kBPref[] = \"b\";\n".toList
    let value : Text := "x\ny\n".toList
    let other := ("b".toList, "z".toList)
    let fs := checkout listing [("a".toList, value), other]
    let fs' := checkout (listing.withEnding .pair) [("a".toList, value.withEnding .lone), other]
    let inputs := Inputs.ofRoot ⟨"/".toList⟩
    fs.Alike Restyled fs' ∧ generate fs inputs = generate fs' inputs ∧
      generateSchema fs inputs = generateSchema fs' inputs := by
  intro listing value other fs fs' inputs
  have halike : fs.Alike Restyled fs' :=
    (((FileSystem.Alike.refl (fun _ => .kept) _).put (List.cons_ne_nil _ _)
      (.file (restyled_toBytes .pair (by decide)))).put (List.cons_ne_nil _ _)
      (.file (restyled_toBytes .lone (by decide)))).put (List.cons_ne_nil _ _) (.file .kept)
  exact ⟨halike, generate_restyled halike inputs⟩

end Generation

end PowerPrefs
