/-
Running twice. The schema that a run writes is part of what the next run finds. As long as no input is in the file that
was written, the next run generates the same schema and writes it to the same place, where it stands already.

- `schema_put`: a schema that goes to no input is generated again.
- `run_again`: the second run succeeds and changes nothing.
-/
import PowerPrefs.Proofs.Command.Delivery
import PowerPrefs.Proofs.Generation.Agreement
import PowerPrefs.Proofs.Generation.Outcome

namespace PowerPrefs.Command

open Generation (Reads)

variable {s : Surroundings} {path : Text}

/-- the surroundings of the next run -/
def Surroundings.after (s : Surroundings) (fs : FileSystem) : Surroundings := { s with fileSystem := fs }

theorem exists_listing_of_schema {schema : Text} (h : s.schema = .ok schema) :
    ∃ listing, s.fileSystem.readText s.inputs.constantsFile = .ok listing := by
  obtain ⟨d, hd, -⟩ := Generation.generateSchema_eq_ok_iff.1 h
  have hends := Generation.ends_generate s.fileSystem s.inputs
  rw [hd] at hends
  cases hends with
  | document hread _ _ => exact ⟨_, hread⟩

theorem schema_put {loc : Location} {schema : Text} {content : ByteArray} (hschema : s.schema = .ok schema)
    (hloc : s.fileSystem.WritesTo ⟨path⟩ loc)
    (hapart : ∀ q, Reads s.fileSystem s.inputs q →
      ¬(s.fileSystem.put loc (.file content)).SameFile q ⟨path⟩) :
    (s.after (s.fileSystem.put loc (.file content))).schema = .ok schema := by
  have hsame := hloc.sameBut content
  have hwritten := hloc.locate_reading_put content
  -- an input that leads to the file now leads to it after the write, and there the two paths are apart
  have hne' : ∀ q, Reads s.fileSystem s.inputs q → ∀ old,
      (s.fileSystem.put loc (.file content)).locate .reading q ≠ .ok (.occupied loc (.file old)) := by
    intro q hq old hl
    have hold := (FileSystem.node?_of_locate hl (by simp)).2
    have hnew := (FileSystem.node?_of_locate hwritten (by simp)).2
    obtain rfl : old = content := by
      have hnode := hold.symm.trans hnew
      exact Node.file.inj (Option.some.inj hnode)
    exact hapart q hq ⟨loc, old, hl, hwritten⟩
  have hne : ∀ q, Reads s.fileSystem s.inputs q → ∀ old,
      s.fileSystem.locate .reading q ≠ .ok (.occupied loc (.file old)) := by
    intro q hq old hl
    have hnew := (FileSystem.node?_of_locate hwritten (by simp)).2
    exact hne' q hq content (hsame.locate_eq hl (.replaced hnew))
  obtain ⟨listing, hread⟩ := exists_listing_of_schema hschema
  have hgen := Generation.generateSchema_congr (Generation.generate_of_sameBut hsame hread hne hne')
  rw [← hschema, Surroundings.schema, Surroundings.schema, hgen]
  rfl

/-- **A second run changes nothing.** If a run has written the schema to a file, and after it no input of the run is in
that file, then the same run once more succeeds and leaves the whole file system as it is, whatever the file held before
the first run. -/
theorem run_again (hargs : CommandLine.parse s.args = .ok (.schema (some path))) (hexit : (run s).exitCode = 0)
    (hapart : ∀ q, Reads s.fileSystem s.inputs q → ¬(run s).fileSystem.SameFile q ⟨path⟩) :
    (run (s.after (run s).fileSystem)).effect = ⟨0, [], (run s).fileSystem⟩ := by
  obtain ⟨schema, hschema, -, hwrite⟩ := (run_does s).written hargs hexit
  have hfs : (run s).effect.fileSystem = (run s).fileSystem := rfl
  rw [hfs] at hwrite
  rcases FileSystem.writeBytes_cases hwrite with ⟨loc, hloc, hafter⟩ | ⟨loc, d, -, -, hafter⟩
  · rw [hafter] at hapart ⊢
    exact effect_run_of_written (s := s.after _) hargs (schema_put hschema hloc hapart) (hloc.writeBytes_put_self _)
  · -- a device keeps nothing, so the second run finds what the first one found
    rw [hafter] at hwrite ⊢
    exact effect_run_of_written hargs hschema hwrite

/-- the schema goes to a file beside the inputs, which is made -/
theorem run_again_beside :
    let listing : Text := "const char kAPref[] = \"a\";".toList
    let output : Text := "schema.yaml".toList
    let fs := Generation.checkout listing [("a".toList, "x".toList)]
    let s : Surroundings := ⟨fs, "prefs".toList, ["--output".toList, output], none, .taking⟩
    (run s).exitCode = 0 ∧ (∀ q, Reads fs s.inputs q → ¬(run s).fileSystem.SameFile q ⟨output⟩) ∧
      (run (s.after (run s).fileSystem)).effect = ⟨0, [], (run s).fileSystem⟩ := by
  intro listing output fs s
  have hargs : CommandLine.parse s.args = .ok (.schema (some output)) := by rfl
  have hexit : (run s).exitCode = 0 := by decide +kernel
  have hread : fs.readText s.inputs.constantsFile = .ok listing := by decide +kernel
  have hkeys : Listing.keys listing = ["a".toList] := by decide +kernel
  have hapart : ∀ q, Reads fs s.inputs q → ¬(run s).fileSystem.SameFile q ⟨output⟩ := by
    intro q hq hsame
    cases hq with
    | constants => exact absurd hsame.location_eq (by decide +kernel)
    | default h hkey =>
      rw [← Except.ok.inj (hread.symm.trans h), hkeys] at hkey
      obtain rfl := List.mem_singleton.1 hkey
      exact absurd hsame.location_eq (by decide +kernel)
  exact ⟨hexit, hapart, run_again hargs hexit hapart⟩

end PowerPrefs.Command
