/-
Reading and writing files by path, and making, removing and listing entries.

Reading gives the whole content. Writing replaces the whole content, and makes the file where there is none; a refusal
leaves everything as it was. Only `writeWithParents` and `makeDirectories` may be refused halfway: the directories that
they made before stay. Directories are made on one walk along the path, which goes on from each into the next, so that
a long path takes no more than one look at each of its names.
-/
import PowerPrefs.FileSystem.Walk
import PowerPrefs.Text.Sorted

namespace PowerPrefs.FileSystem

/-! ## Files -/

/-- The content of the file that a path leads to. The device that takes everything has none. The full device would give
null bytes without end, so that no reading of it comes to an end; here it has none either. -/
def readBytes (fs : FileSystem) (p : Path) : Except FileError ByteArray :=
  match fs.locate .reading p with
  | .ok (.occupied _ (.file content)) => .ok content
  | .ok (.occupied _ .directory) => .error .isADirectory
  | .ok (.occupied _ (.device _)) => .ok ByteArray.empty
  | .ok (.occupied _ (.link _)) => .error .tooManyLinks
  | .ok (.vacant _ _) => .error .notFound
  | .error e => .error e

/-- the content as a text -/
def readText (fs : FileSystem) (p : Path) : Except FileError Text :=
  match fs.readBytes p with
  | .ok content =>
    match Text.ofBytes? content with
    | some t => .ok t
    | none => .error .notText
  | .error e => .error e

/-- the path leads to a regular file; if anything stands in the way, it does not -/
def isRegularFile (fs : FileSystem) (p : Path) : Bool :=
  match fs.locate .reading p with
  | .ok (.occupied _ (.file _)) => true
  | _ => false

/-- with this content in the file that the path leads to -/
def writeBytes (fs : FileSystem) (p : Path) (content : ByteArray) : Except FileError FileSystem :=
  match fs.locate .writing p with
  | .ok (.vacant dir n) => .ok (fs.put (n :: dir) (.file content))
  | .ok (.occupied loc (.file _)) => .ok (fs.put loc (.file content))
  | .ok (.occupied _ .directory) => .error .isADirectory
  | .ok (.occupied _ (.device .null)) => .ok fs
  | .ok (.occupied _ (.device .full)) => if content.isEmpty then .ok fs else .error .noSpace
  | .ok (.occupied _ (.link _)) => .error .tooManyLinks
  | .error e => .error e

def writeText (fs : FileSystem) (p : Path) (t : Text) : Except FileError FileSystem := fs.writeBytes p t.toBytes

/-! ## Entries -/

/-- with a new node where the path leads to none -/
def addEntry (fs : FileSystem) (p : Path) (node : Node) : Except FileError FileSystem :=
  match fs.locate .entry p with
  | .ok (.vacant dir n) => .ok (fs.put (n :: dir) node)
  | .ok (.occupied _ _) => .error .alreadyExists
  | .error e => .error e

/-- the rest of a path goes beyond the name before it, to another name or a place around -/
def goesOn (rest : List Step) : Bool := rest.any fun step => step ≠ .slash ∧ step ≠ .here

/-- makes what is missing on the walk from directory `dir` on, which may follow so many links. A missing name with
nothing but a dot after it is not made, and what is no directory stops the walk. -/
def makeAlong (fs : FileSystem) (links : Nat) (dir : Location) : List Step → FileSystem × Except FileError Unit
  | [] => (fs, .ok ())
  | .slash :: rest => makeAlong fs links dir rest
  | .here :: rest => makeAlong fs links dir rest
  | .up :: rest => makeAlong fs links dir.tail rest
  | .name n :: rest =>
    match fs.walk .reading links dir [.name n] with
    | .ok (.occupied loc .directory, left) => makeAlong fs left loc rest
    | .ok (.occupied _ _, _) => (fs, .error .alreadyExists)
    | .ok (.vacant _ _, _) =>
      if (fs.node? (n :: dir)).isSome then (fs, .error .alreadyExists)
      else if goesOn rest || onlySlashes rest then makeAlong (fs.put (n :: dir) .directory) links (n :: dir) rest
      else (fs, .error .notFound)
    | .error e => (fs, .error e)

/-- with the directory and those on the way to it -/
def makeDirectories (fs : FileSystem) (p : Path) : FileSystem × Except FileError Unit :=
  if '\x00' ∈ p.text then (fs, .error .nullInPath)
  else if maxPath < p.text.byteLength then (fs, .error .nameTooLong)
  else fs.makeAlong maxLinks (startOf p fs.workingDir) p.steps

/-- writes a file after making the directories on the way to it -/
def writeWithParents (fs : FileSystem) (p : Path) (content : ByteArray) : FileSystem × Except FileError Unit :=
  let (made, result) := match p.parent? with
    | some parent => fs.makeDirectories parent
    | none => (fs, .ok ())
  match result with
  | .error e => (made, .error e)
  | .ok () =>
    match made.writeBytes p content with
    | .ok written => (written, .ok ())
    | .error e => (made, .error e)

/-- with a link at the path; a target must be a path that can be looked up -/
def makeLink (fs : FileSystem) (p target : Path) : Except FileError FileSystem :=
  if '\x00' ∈ target.text then .error .nullInPath
  else if target.text = [] ∨ p.text.getLast? = some '/' then .error .notFound
  else if maxPath < target.text.byteLength then .error .nameTooLong
  else fs.addEntry p (.link target)

/-- the last piece of the path names an entry -/
def endsInName (p : Path) : Bool :=
  match p.steps.reverse.find? (· ≠ .slash) with
  | some (.name _) => true
  | _ => false

/-- without the entry at the path; a directory goes with all that it holds, a link alone -/
def remove (fs : FileSystem) (p : Path) : Except FileError FileSystem :=
  if endsInName p then
    match fs.locate .entry p with
    | .ok (.occupied loc node) =>
      if p.text.getLast? = some '/' ∧ node ≠ .directory then .error .notADirectory else .ok (fs.erase loc)
    | .ok (.vacant _ _) => .error .notFound
    | .error e => .error e
  else .error .isADirectory

/-! ## Listing -/

/-- the path from the working directory to a location below it; that of a directory ends in a slash -/
def listed? (fs : FileSystem) (entry : Location × Node) : Option Text :=
  match fs.workingDir.reverse.isPrefixOf? entry.1.reverse with
  | some (n :: r) => some (Text.join '/' (n :: r) ++ if entry.2 = .directory then ['/'] else [])
  | _ => none

/-- all that is below the working directory, in increasing order -/
def listing (fs : FileSystem) : List Text := Text.sortedSet (fs.entries.filterMap fs.listed?)

end PowerPrefs.FileSystem
