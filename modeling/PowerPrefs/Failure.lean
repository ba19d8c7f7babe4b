/-
Failures: why no schema was made or written. Each but the last names the path, as it was given, that could not be read
or written, and all carry the refusal of the file system.
-/
import PowerPrefs.FileSystem

namespace PowerPrefs

inductive Failure where
  | constantsUnreadable (path : Path) (cause : FileError)
  | defaultUnreadable (path : Path) (cause : FileError)
  | outputUnwritable (path : Path) (cause : FileError)
  | standardOutput (cause : FileError)
deriving DecidableEq, Repr

namespace Failure

def cause : Failure → FileError
  | .constantsUnreadable _ e => e
  | .defaultUnreadable _ e => e
  | .outputUnwritable _ e => e
  | .standardOutput e => e

def path? : Failure → Option Path
  | .constantsUnreadable p _ => some p
  | .defaultUnreadable p _ => some p
  | .outputUnwritable p _ => some p
  | .standardOutput _ => none

/-- a path between backquotes -/
def marked (p : Path) : Text := '\x60' :: p.text ++ ['\x60']

def message : Failure → Text
  | .constantsUnreadable p _ => "failed to read constants file ".toList ++ marked p
  | .defaultUnreadable p _ => "failed to read default value file ".toList ++ marked p
  | .outputUnwritable p _ => "failed to write schema to ".toList ++ marked p
  | .standardOutput e => e.message

/-- the word by which a failure is looked up -/
def code : Failure → Text
  | .constantsUnreadable _ _ => "prefs_schema::input_not_found".toList
  | .defaultUnreadable _ _ => "prefs_schema::default_read".toList
  | .outputUnwritable _ _ => "prefs_schema::output_write".toList
  | .standardOutput _ => "prefs_schema::io_error".toList

/-- what the user may do about it -/
def help? : Failure → Option Text
  | .constantsUnreadable _ _ =>
    some "run from the root of a platform2 checkout so that power_manager/ is reachable".toList
  | .defaultUnreadable _ _ => none
  | .outputUnwritable _ _ => some "check that the parent directory exists and is writable".toList
  | .standardOutput _ => none

/-- the report on a failure, line by line: its code, what happened, why, and what to do -/
def lines (f : Failure) : List Text := f.code :: f.message :: f.cause.message :: f.help?.toList

end Failure

end PowerPrefs
