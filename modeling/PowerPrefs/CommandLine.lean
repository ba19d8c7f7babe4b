/-
The command line: one option with a value, help and version.

    -o VALUE   -oVALUE   -o=VALUE   --output VALUE   --output=VALUE   -h   --help   -V   --version   --

Arguments are read from the left. An option without an attached value awaits one, and the next argument that does not
look like an option (a hyphen alone does not) is its value; what was given is taken up when the next option comes, or at
the end. After two hyphens alone nothing is an option any more, and since no other arguments are expected, any that
follow are refused, like every argument that is neither an option nor an awaited value.

The first problem decides. Help and version end the reading when they come, and what comes later is not looked at.
Without arguments, the schema goes to standard output.
-/
import PowerPrefs.Text

namespace PowerPrefs

inductive UsageError where
  | unknownArgument (argument : Text)
  /-- the option is given without a value, or with an empty one -/
  | missingValue
  | repeatedOutput
  /-- a value is attached to an option that takes none -/
  | unexpectedValue (value option : Text)
deriving DecidableEq, Repr

namespace CommandLine

/-- what the arguments ask for -/
inductive Request where
  /-- the schema, to the file given or to standard output -/
  | schema (output : Option Text)
  | shortHelp
  | longHelp
  | version
deriving DecidableEq, Repr

/-- an option that was given, but not taken up yet -/
inductive Pending where
  | nothing
  | awaiting
  | given (value : Text)
deriving DecidableEq, Repr

structure State where
  output : Option Text
  pending : Pending
deriving DecidableEq, Repr

namespace State

def start : State := ⟨none, .nothing⟩

/-- takes up a value for the output -/
def accept (s : State) (value : Text) : Except UsageError State :=
  if s.output.isSome then .error .repeatedOutput
  else if value = [] then .error .missingValue
  else .ok ⟨some value, .nothing⟩

/-- takes up what is pending -/
def settle (s : State) : Except UsageError State :=
  match s.pending with
  | .nothing => .ok s
  | .awaiting => .error .missingValue
  | .given value => { s with pending := .nothing }.accept value

/-- an option with its value attached, or one that awaits its value -/
def option (s : State) (attached : Option Text) : Except UsageError State :=
  match s.settle with
  | .error e => .error e
  | .ok s =>
    match attached with
    | some value => s.accept value
    | none => .ok { s with pending := .awaiting }

/-- a request that ends the reading -/
def finish (s : State) (r : Request) : Except UsageError Request :=
  match s.settle with
  | .error e => .error e
  | .ok _ => .ok r

end State

/-- how the reading of one argument ends: with the state for the next, or with a request -/
inductive Progress where
  | next (s : State)
  | finished (r : Request)
deriving DecidableEq, Repr

/-- the value attached to an option of one letter; an equals sign may stand before it -/
def attachedToLetter : Text → Option Text
  | [] => none
  | '=' :: value => some value
  | value => some value

/-- an argument of options of one letter, after its hyphen -/
def readLetters (s : State) : Text → Except UsageError Progress
  | 'o' :: r => (s.option (attachedToLetter r)).map .next
  | 'h' :: _ => (s.finish .shortHelp).map .finished
  | 'V' :: _ => (s.finish .version).map .finished
  | c :: _ => .error (.unknownArgument ['-', c])
  | [] => .ok (.next s)

/-- the name of a long option and the value after its equals sign -/
def longParts (t : Text) : Text × Option Text :=
  match t.dropWhile (· ≠ '=') with
  | [] => (t, none)
  | _ :: value => (t.takeWhile (· ≠ '='), some value)

/-- a long option, after its hyphens -/
def readLong (s : State) (t : Text) : Except UsageError Progress :=
  let (name, attached) := longParts t
  let option := '-' :: '-' :: name
  if name = "output".toList then (s.option attached).map .next
  else if name = "help".toList ∨ name = "version".toList then
    match attached with
    | some value => .error (.unexpectedValue value option)
    | none => (s.finish (if name = "help".toList then .longHelp else .version)).map .finished
  else .error (.unknownArgument option)

/-- an argument that is no option -/
def readValue (s : State) (t : Text) : Except UsageError Progress :=
  match s.pending with
  | .awaiting => .ok (.next { s with pending := .given t })
  | _ => .error (.unknownArgument t)

def readArgument (s : State) (t : Text) : Except UsageError Progress :=
  match t with
  | '-' :: '-' :: r => readLong s r
  | '-' :: c :: r => readLetters s (c :: r)
  | t => readValue s t

/-- no argument is left to be read -/
def conclude (s : State) : Except UsageError Request :=
  match s.settle with
  | .error e => .error e
  | .ok s => .ok (.schema s.output)

def read (s : State) : List Text → Except UsageError Request
  | [] => conclude s
  | a :: rest =>
    if a = ['-', '-'] then
      match rest with
      | [] => conclude s
      | b :: _ => .error (.unknownArgument b)
    else match readArgument s a with
      | .error e => .error e
      | .ok (.finished r) => .ok r
      | .ok (.next s) => read s rest

/-- what the arguments after the program's name ask for -/
def parse (args : List Text) : Except UsageError Request := read .start args

end CommandLine

end PowerPrefs
