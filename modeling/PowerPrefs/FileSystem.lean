/-
The file system: what stands at which location. A location is the names on the way to it, the innermost first, so that
the directory around a location is its tail; the root is the empty location and is always a directory. There are
regular files, directories, links, which hold a path as their target, and two devices: one takes everything that is
written to it, the other is full and takes nothing.

- `node?_put`: after a node is put at a location, that location holds it and every other location is as before.
- `put_self`: putting what is there already changes nothing.
- `put_put`: of two nodes put at one location, the later one counts.
- `node?_erase`: after a location is erased, nothing stands there and below, and all else is as before.
- `mem_entries`: whatever stands at a location is among the entries.
-/
import PowerPrefs.FileSystem.NameTree
import PowerPrefs.Path

namespace PowerPrefs

/-- names on the way to a place, the innermost first -/
abbrev Location := List Text

inductive Device where
  /-- takes all that is written and keeps nothing -/
  | null
  /-- has no room for a single byte -/
  | full
deriving DecidableEq, Repr

/-- contents are compared in this way, whichever others are in scope -/
instance instDecidableEqContent : DecidableEq ByteArray := ByteArray.instDecidableEq

inductive Node where
  | file (content : ByteArray)
  | directory
  | link (target : Path)
  | device (d : Device)
deriving DecidableEq

/-- why the file system refuses -/
inductive FileError where
  | notFound
  | alreadyExists
  | notADirectory
  | isADirectory
  /-- a path has a null character in it -/
  | nullInPath
  /-- a name or a whole path is longer than can be looked up -/
  | nameTooLong
  | tooManyLinks
  /-- the bytes of a file are not the UTF-8 form of any text -/
  | notText
  | noSpace
deriving DecidableEq, Repr

namespace FileError

/-- the words for a refusal, as the operating system has them -/
def message : FileError → Text
  | .notFound => "No such file or directory (os error 2)".toList
  | .alreadyExists => "File exists (os error 17)".toList
  | .notADirectory => "Not a directory (os error 20)".toList
  | .isADirectory => "Is a directory (os error 21)".toList
  | .nullInPath => "file name contained an unexpected NUL byte".toList
  | .nameTooLong => "File name too long (os error 36)".toList
  | .tooManyLinks => "Too many levels of symbolic links (os error 40)".toList
  | .notText => "stream did not contain valid UTF-8".toList
  | .noSpace => "No space left on device (os error 28)".toList

end FileError

structure FileSystem where
  /-- what is below the root, each node at the names on its way from the root on -/
  nodes : NameTree Node
  /-- where relative paths start -/
  workingDir : Location
deriving DecidableEq

namespace FileSystem

/-! ## Looking up and putting -/

/-- what stands at a location -/
def node? (fs : FileSystem) (loc : Location) : Option Node :=
  if loc = [] then some .directory else fs.nodes.get? loc.reverse

/-- with `node` at the location, in place of what was there -/
def put (fs : FileSystem) (loc : Location) (node : Node) : FileSystem :=
  { fs with nodes := fs.nodes.put node loc.reverse }

/-- without the location and all that lies below it -/
def erase (fs : FileSystem) (loc : Location) : FileSystem := { fs with nodes := fs.nodes.erase loc.reverse }

/-- all that is below the root -/
def entries (fs : FileSystem) : List (Location × Node) := fs.nodes.entries []

theorem node?_put {loc : Location} (h : loc ≠ []) (fs : FileSystem) (other : Location) (node : Node) :
    (fs.put loc node).node? other = if other = loc then some node else fs.node? other := by
  by_cases ho : other = []
  · simp [node?, ho, Ne.symm h]
  · simp [node?, put, ho, NameTree.get?_put node fs.nodes (List.reverse_ne_nil_iff.2 h)]

theorem put_self {fs : FileSystem} {loc : Location} {node : Node} (hne : loc ≠ []) (h : fs.node? loc = some node) :
    fs.put loc node = fs := by
  simp only [node?, hne, if_false] at h
  rw [put, NameTree.put_get? h]

theorem put_put (fs : FileSystem) (loc : Location) (node other : Node) :
    (fs.put loc other).put loc node = fs.put loc node := by
  simp only [put, NameTree.put_put]

theorem node?_erase (fs : FileSystem) (loc : Location) {other : Location} (h : other ≠ []) :
    (fs.erase loc).node? other = if loc <:+ other then none else fs.node? other := by
  simp [node?, erase, h, NameTree.get?_erase]

theorem mem_entries {fs : FileSystem} {loc : Location} {node : Node} (hne : loc ≠ [])
    (h : fs.node? loc = some node) : (loc, node) ∈ fs.entries := by
  simp only [node?, hne, if_false] at h
  simpa [entries] using NameTree.mem_entries h []

end FileSystem

end PowerPrefs
