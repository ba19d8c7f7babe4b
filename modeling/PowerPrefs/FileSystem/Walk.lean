/-
Following a path. From a directory, each name is looked up in turn; two dots lead to the directory around, a link leads
along its target and then on, and all but the last name must lead to directories. A path that ends in a slash must lead
to a directory too.

What the walk is for decides about its last name. For reading, a last link is followed, and for writing as well, also
where its target is not there yet; a path for writing may not end in a slash. For the entry itself, to make or remove
it, a last link is not followed.

A walk takes at most forty links, so it ends: `walk` goes by the links left, `walkSteps` by the steps left. It tells the
links left in the end, so that a walk may go on from where another ended.
- `locate` checks the path as a whole first: a null character, no path at all, a path too long.
-/
import PowerPrefs.FileSystem

namespace PowerPrefs

/-- what a walk is for -/
inductive Purpose where
  | reading
  | writing
  /-- the entry itself, not what it may be a link to -/
  | entry
deriving DecidableEq, Repr

/-- where a walk ends -/
inductive Spot where
  | occupied (loc : Location) (node : Node)
  /-- no entry of this name in an existing directory -/
  | vacant (dir : Location) (name : Text)
deriving DecidableEq

namespace FileSystem

/-- bytes of UTF-8 in the longest name -/
def maxName : Nat := 255

/-- bytes of UTF-8 in the longest path -/
def maxPath : Nat := 4095

/-- links that one walk may follow -/
def maxLinks : Nat := 40

/-- the steps that are left ask for nothing but a directory -/
def onlySlashes (steps : List Step) : Bool := steps.all (· = .slash)

/-- the walk from directory `dir` on, to a spot and the links left then; `links` are left before, and `follow` goes on
from a link in `dir` with the given target and steps left -/
def walkSteps (fs : FileSystem) (purpose : Purpose) (links : Nat)
    (follow : Location → Path → List Step → Except FileError (Spot × Nat)) :
    Location → List Step → Except FileError (Spot × Nat)
  | dir, [] => .ok (.occupied dir .directory, links)
  | dir, .slash :: rest => walkSteps fs purpose links follow dir rest
  | dir, .here :: rest => walkSteps fs purpose links follow dir rest
  | dir, .up :: rest => walkSteps fs purpose links follow dir.tail rest
  | dir, .name n :: rest =>
    if purpose = .writing ∧ rest ≠ [] ∧ onlySlashes rest then .error .isADirectory
    else if maxName < n.byteLength then .error .nameTooLong
    else match fs.node? (n :: dir) with
      | none => if onlySlashes rest then .ok (.vacant dir n, links) else .error .notFound
      | some .directory => walkSteps fs purpose links follow (n :: dir) rest
      | some (.link target) =>
        if purpose = .entry ∧ onlySlashes rest then .ok (.occupied (n :: dir) (.link target), links)
        else follow dir target rest
      | some node => if rest = [] then .ok (.occupied (n :: dir) node, links) else .error .notADirectory

/-- where the steps of a path start: at the root or in the given directory -/
def startOf (p : Path) (dir : Location) : Location := if p.isAbsolute then [] else dir

/-- the walk with at most so many links, to a spot and the links left then -/
def walk (fs : FileSystem) (purpose : Purpose) : Nat → Location → List Step → Except FileError (Spot × Nat)
  | 0 => walkSteps fs purpose 0 fun _ _ _ => .error .tooManyLinks
  | links + 1 =>
    walkSteps fs purpose (links + 1) fun dir target rest =>
      walk fs purpose links (startOf target dir) (target.steps ++ rest)

/-- where a path leads -/
def locate (fs : FileSystem) (purpose : Purpose) (p : Path) : Except FileError Spot :=
  if '\x00' ∈ p.text then .error .nullInPath
  else if p.text = [] then .error .notFound
  else if maxPath < p.text.byteLength then .error .nameTooLong
  else (walk fs purpose maxLinks (startOf p fs.workingDir) p.steps).map Prod.fst

end FileSystem

end PowerPrefs
