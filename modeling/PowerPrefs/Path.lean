/-
Paths, as texts with slashes. A path is kept as it was written; what it means is its components. Two paths are the same
when their components are: repeated slashes, slashes at the end and dots count for nothing, except a dot at the front
of a relative path; two dots are a component like any other, since what they lead to depends on links.

- `Path.join` is textual: an absolute second path replaces the first, and a slash is put between the two only if the
  first is not empty and does not end in one.
- `Path.parent?` and `Path.fileName?` go by components.
- `Path.steps` is the walk that a path describes, every slash of it a step: where a path ends in a slash, that matters.
-/
import PowerPrefs.Text

namespace PowerPrefs

structure Path where
  text : Text
deriving DecidableEq, Repr

/-! ## Components -/

inductive Component where
  | root
  /-- the dot at the front of a relative path -/
  | here
  | up
  | name (n : Text)
deriving DecidableEq, Repr

/-- the component that a piece between slashes is; nothing and a dot are none -/
def Component.ofPiece? : Text → Option Component
  | [] => none
  | ['.'] => none
  | ['.', '.'] => some .up
  | n => some (.name n)

namespace Path

def isAbsolute (p : Path) : Bool := p.text.head? = some '/'

/-- what stands between the slashes, empty pieces included -/
def pieces (p : Path) : List Text := p.text.split '/'

/-- the components that the front of a path gives by itself -/
def leading (p : Path) : List Component :=
  if p.isAbsolute then [.root]
  else if p.pieces.head? = some ['.'] then [.here]
  else (p.pieces.head?.bind Component.ofPiece?).toList

def components (p : Path) : List Component := p.leading ++ p.pieces.tail.filterMap Component.ofPiece?

/-- equality of paths: component by component -/
def Same (p q : Path) : Prop := p.components = q.components

instance (p q : Path) : Decidable (Same p q) := inferInstanceAs (Decidable (_ = _))

/-! ## Joining and taking apart -/

def join (p q : Path) : Path :=
  if q.isAbsolute then q
  else if p.text = [] ∨ p.text.getLast? = some '/' then ⟨p.text ++ q.text⟩
  else ⟨p.text ++ '/' :: q.text⟩

/-- without the pieces at the end that are no component; the list has the last piece first -/
def dropEmptyEnd : List Text → List Text
  | [] => []
  | [p] => [p]
  | p :: q :: r => if p = [] ∨ p = ['.'] then dropEmptyEnd (q :: r) else p :: q :: r

/-- the path without its last component; the root and the empty path have none to lose -/
def parent? (p : Path) : Option Path :=
  match dropEmptyEnd p.pieces.reverse with
  | [] => none
  | [q] => if q = [] then none else some ⟨[]⟩
  | _ :: r =>
    match dropEmptyEnd r with
    | [[]] => some ⟨['/']⟩
    | r => some ⟨Text.join '/' r.reverse⟩

/-- the last component, if it is a name -/
def fileName? (p : Path) : Option Text :=
  match p.components.getLast? with
  | some (.name n) => some n
  | _ => none

end Path

/-! ## The walk -/

/-- one step of the walk that a path describes -/
inductive Step where
  | slash
  | here
  | up
  | name (n : Text)
deriving DecidableEq, Repr

def Step.ofPiece : Text → Step
  | [] => .slash
  | ['.'] => .here
  | ['.', '.'] => .up
  | n => .name n

/-- the steps, from the root or from the working directory on -/
def Path.steps (p : Path) : List Step := p.pieces.map Step.ofPiece

end PowerPrefs
