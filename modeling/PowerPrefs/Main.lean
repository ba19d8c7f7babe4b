/-
The program. It looks at the places that a run asks about, lets `Command.run` decide on what it saw, and carries out
what was decided: the schema goes to its file or to standard output, the log and complaints to standard error.
-/
import PowerPrefs.Command

namespace PowerPrefs.Program

/-- what stands at a path of the machine, if it can be looked at; a link is known by where it leads in the end -/
def nodeAt? (p : Path) : IO (Option Node) := do
  let place := (← IO.currentDir) / String.ofList p.text
  try
    match (← place.symlinkMetadata).type with
    | .dir => return some .directory
    | .file => return some (.file (← IO.FS.readBinFile place))
    | .symlink => return some (.link ⟨(← IO.FS.realPath place).toString.toList⟩)
    | .other => return some (.device .null)
  catch _ => return none

/-- the beginnings of a path up to each slash, and the path itself -/
def beginnings (p : Path) : List Path :=
  let ends := (List.range p.pieces.length).map fun n => Path.mk (Text.join '/' (p.pieces.take (n + 1)))
  ends.filter fun q => q.text ≠ []

/-- adds what stands on the way to a path, with `follow` adding what is on the way to the target of a link -/
def observeWith (follow : FileSystem → Path → IO FileSystem) (fs : FileSystem) (p : Path) : IO FileSystem :=
  (beginnings p).foldlM (fun fs q => do
    match fs.locate .entry q with
    | .ok (.vacant dir n) =>
      match ← nodeAt? q with
      | some (.link target) => follow (fs.put (n :: dir) (.link target)) target
      | some node => return fs.put (n :: dir) node
      | none => return fs
    | _ => return fs) fs

/-- adds what stands on the way to a path; there are no links on the way to where a link leads in the end -/
def observe : FileSystem → Path → IO FileSystem := observeWith (observeWith fun fs _ => pure fs)

def inputsOf (fs : FileSystem) : Inputs := Inputs.ofRoot (Command.workingPath fs)

/-- the part of the machine's files that a run may depend on -/
def observeAll (output : Option Path) : IO FileSystem := do
  let names := (Text.split '/' (← IO.currentDir).toString.toList).filter (· ≠ [])
  let start : FileSystem := ⟨.nothing, names.reverse⟩
  let inputs := inputsOf start
  let seen ← observe start inputs.constantsFile
  let keys := match seen.readText inputs.constantsFile with
    | .ok listing => Listing.keys listing
    | .error _ => []
  let seen ← keys.foldlM (fun fs key => observe fs (inputs.defaultPath key)) seen
  match output with
  | some p => observe seen p
  | none => return seen

/-- the file that the arguments ask for -/
def outputPath? (args : List Text) : Option Path :=
  match CommandLine.parse args with
  | .ok (.schema output) => output.map Path.mk
  | _ => none

def printLines (ls : List Text) : IO Unit := ls.forM fun l => IO.eprintln (String.ofList l)

/-- carries out a successful run; what goes wrong now is a failure of the output -/
def perform (fs : FileSystem) (output : Option Path) (outcome : Command.Outcome) : IO (Option Failure) := do
  try
    match output, (generateSchema fs (inputsOf fs)).result with
    | some p, .ok schema =>
      IO.FS.withFile (String.ofList p.text) .write fun handle => do
        handle.write (Output.written schema).toBytes
        handle.flush
    | _, _ =>
      let out ← IO.getStdout
      out.putStr (String.ofList outcome.standardOutput)
      out.flush
    return none
  catch _ =>
    return some (match output with
      | some p => .outputUnwritable p .noSpace
      | none => .standardOutput .noSpace)

def run (args : List Text) : IO UInt32 := do
  let output := outputPath? args
  let fs ← observeAll output
  let outcome := Command.run
    { fileSystem := fs
      argZero := (← IO.appPath).toString.toList
      args := args
      logSetting := (← IO.getEnv "RUST_LOG").map String.toList
      sink := .taking }
  let failure ← if outcome.exitCode = 0 then perform fs output outcome else pure none
  printLines outcome.log
  match failure with
  | some f =>
    printLines f.lines
    return UInt32.ofNat Command.failureCode
  | none =>
    printLines outcome.complaint
    return UInt32.ofNat outcome.exitCode

end PowerPrefs.Program

def main (args : List String) : IO UInt32 := PowerPrefs.Program.run (args.map String.toList)
