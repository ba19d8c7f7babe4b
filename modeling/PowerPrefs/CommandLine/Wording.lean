/-
What the command line says to its user: help, short and long, the version, and the problems with the arguments. What
comes from outside, the name of the program and the arguments, is shown without its control characters, each part as
its `Passage` wants.
-/
import PowerPrefs.CommandLine
import PowerPrefs.Path
import PowerPrefs.Text.Newline
import PowerPrefs.Text.Terminal

namespace PowerPrefs.CommandLine

/-- the name that the program has for itself -/
def programName : Text := "prefs_schema_cli".toList

def version : Text := "0.1.0".toList

def versionText : Text := programName ++ ' ' :: version ++ ['\n']

/-- the name in the usage line: the file that the program was started as, if that is told -/
def usageName (argZero : Text) : Text := (Path.mk argZero).fileName?.getD programName

def usage (p : Text.Passage) (name : Text) : Text :=
  "Usage: ".toList ++ name.withoutControls p ++ " [OPTIONS]".toList

/-- each line with a line feed after it -/
def block (ls : List Text) : Text := ls.flatMap fun l => l ++ ['\n']

def shortHelpText (p : Text.Passage) (name : Text) : Text :=
  block
    ["Generates power_manager prefs schema".toList,
      [],
      usage p name,
      [],
      "Options:".toList,
      "  -o, --output <OUTPUT>  Output file that will be generated by the transform".toList,
      "  -h, --help             Print help (see more with '--help')".toList,
      "  -V, --version          Print version".toList]

def longHelpText (p : Text.Passage) (name : Text) : Text :=
  block
    ["Transforms the power_manager pref declarations (power_manager/common/power_constants.cc) and their ".toList ++
        "defaults (power_manager/default_prefs/) into the YAML schema used by chromeos-config.".toList,
      [],
      "Run from the root of a platform2 checkout. The schema is printed to stdout unless --output is given.".toList,
      [],
      usage p name,
      [],
      "Options:".toList,
      "  -o, --output <OUTPUT>".toList,
      "          Output file that will be generated by the transform".toList,
      [],
      "  -h, --help".toList,
      "          Print help (see a summary with '-h')".toList,
      [],
      "  -V, --version".toList,
      "          Print version".toList]

def outputOption : Text := "'--output <OUTPUT>'".toList

/-- an argument, or a part of one, between single quotes -/
def marked (p : Text.Passage) (t : Text) : Text := '\x27' :: t.withoutControls p ++ ['\x27']

/-- the complaint about the arguments -/
def complaint (p : Text.Passage) : UsageError → Text
  | .unknownArgument a => "error: unexpected argument ".toList ++ marked p a ++ " found".toList
  | .missingValue => "error: a value is required for ".toList ++ outputOption ++ " but none was supplied".toList
  | .repeatedOutput => "error: the argument ".toList ++ outputOption ++ " cannot be used multiple times".toList
  | .unexpectedValue value option =>
    "error: unexpected value ".toList ++ marked p value ++ " for ".toList ++ marked p option ++
      " found; no more were expected".toList

/-- the complaint line by line -/
def complaintLines (p : Text.Passage) (e : UsageError) : List Text := (complaint p e).lines

/-- the first line of the complaint -/
def headline (p : Text.Passage) (e : UsageError) : Text := ((complaintLines p e).head?.getD []).withoutReturn

end PowerPrefs.CommandLine
