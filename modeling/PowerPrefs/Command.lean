/-
A run of the program, from its surroundings to what it leaves behind.

The arguments are read first; a problem with them, help and version end the run there. Then the schema of the checkout
at the working directory is generated in full, and only then written, so that a run that fails leaves a file that is
there already as it was. Logs and complaints go to standard error and nothing else does.

The working directory can always be told here. Where the system cannot tell it, the checkout would be looked for at `.`
instead, and that case is left out.
-/
import PowerPrefs.Output
import PowerPrefs.Event.Line
import PowerPrefs.CommandLine.Wording

namespace PowerPrefs.Command

/-- what a run finds -/
structure Surroundings where
  fileSystem : FileSystem
  /-- the name of the program, and the arguments -/
  argZero : Text
  args : List Text
  logSetting : Option Text
  sink : Output.Sink

/-- what a run leaves behind -/
structure Outcome where
  exitCode : Nat
  standardOutput : Text
  /-- the log on standard error -/
  log : List Text
  /-- the complaint on standard error, after the log -/
  complaint : List Text
  fileSystem : FileSystem
deriving DecidableEq

/-- exit code of every run that fails -/
def failureCode : Nat := 2

/-- the path to the working directory, which is taken to be known -/
def workingPath (fs : FileSystem) : Path := ⟨'/' :: Text.join '/' fs.workingDir.reverse⟩

/-- a text on standard output, where it arrives only if there is room -/
def display (s : Surroundings) (t : Text) : Outcome :=
  ⟨0, if s.sink = .full then [] else t, [], [], s.fileSystem⟩

/-- the schema, to a file or to standard output -/
def deliver (s : Surroundings) (schema : Text) : Option Text → Text × FileSystem × Report Unit
  | some path =>
    let (after, report) := Output.toFile s.fileSystem schema ⟨path⟩
    ([], after, report)
  | none =>
    let (arrived, report) := Output.toSink s.sink schema
    (arrived, s.fileSystem, report)

/-- generates the schema and delivers it -/
def produce (s : Surroundings) (output : Option Text) : Outcome :=
  let inputs := Inputs.ofRoot (workingPath s.fileSystem)
  let log := (LogFilter.ofSetting s.logSetting).lines inputs
  let generated := generateSchema s.fileSystem inputs
  match generated.result with
  | .error f => ⟨failureCode, [], log (.resolved inputs :: generated.events), f.lines, s.fileSystem⟩
  | .ok schema =>
    let (arrived, after, delivery) := deliver s schema output
    let events := .resolved inputs :: generated.events ++ delivery.events
    match delivery.result with
    | .error f => ⟨failureCode, arrived, log events, f.lines, after⟩
    | .ok () => ⟨0, arrived, log events, [], after⟩

def run (s : Surroundings) : Outcome :=
  match CommandLine.parse s.args with
  | .error e => ⟨failureCode, [], [], CommandLine.complaintLines .stream e, s.fileSystem⟩
  | .ok .shortHelp => display s (CommandLine.shortHelpText .stream (CommandLine.usageName s.argZero))
  | .ok .longHelp => display s (CommandLine.longHelpText .stream (CommandLine.usageName s.argZero))
  | .ok .version => display s CommandLine.versionText
  | .ok (.schema output) => produce s output

end PowerPrefs.Command
