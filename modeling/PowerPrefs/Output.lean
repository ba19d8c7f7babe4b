/-
Output: the schema, with a line feed after it, goes to a file, whose former content it replaces, or to standard output.
-/
import PowerPrefs.Generation

namespace PowerPrefs.Output

/-- what is written for a text -/
def written (t : Text) : Text := t ++ ['\n']

/-- writes to the file at `p`; after a refusal everything is as before -/
def toFile (fs : FileSystem) (t : Text) (p : Path) : FileSystem × Report Unit :=
  match fs.writeText p (written t) with
  | .ok after => (after, ⟨[.written p], .ok ()⟩)
  | .error e => (fs, ⟨[], .error (.outputUnwritable p e)⟩)

/-- where standard output goes -/
inductive Sink where
  | taking
  /-- has no room for a single byte -/
  | full
deriving DecidableEq, Repr

/-- writes to standard output; the first text is what arrives there -/
def toSink (sink : Sink) (t : Text) : Text × Report Unit :=
  match sink with
  | .taking => (written t, ⟨[], .ok ()⟩)
  | .full => ([], ⟨[], .error (.standardOutput .noSpace)⟩)

end PowerPrefs.Output
