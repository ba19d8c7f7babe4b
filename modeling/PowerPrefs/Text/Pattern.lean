/-
Patterns: regular expressions in which order counts. Of two branches the first is preferred, and a repetition prefers to
go on, or, if it is a reluctant one, to stop.

A pattern is kept in a plain form, which `sequence`, `choice` and `Repetition.pattern` build. Pieces in a row and
branches are flat. Branches that are sets of characters are one set. What all branches start with stands once, in front
of the choice, and is decided on before it: so `.*a|.*b` first takes as much as `.*` can, and then looks for the branch.
A repetition of what takes no character stands once at most.
- `pieces_sequence`, `branches_joinBranches`: what is put together is found again.
-/
import PowerPrefs.Text.CharSet

namespace PowerPrefs.Text

/-! ## What is asked of a place between two characters -/

inductive Look where
  | textFront
  | textBack
  /-- `returns` tells that carriage returns end lines, too -/
  | lineFront (returns : Bool)
  | lineBack (returns : Bool)
  /-- between a word character and what is none -/
  | wordEdge
  | noWordEdge
  | wordFront
  | wordBack
deriving DecidableEq, Repr

namespace Look

/-- the words are those of ASCII -/
def isWord (c : Char) : Bool := c.isAlphanum || c = '_'

/-- holds between these characters, of which there is none at an end of the text -/
def holds (before ahead : Option Char) : Look → Bool
  | textFront => before.isNone
  | textBack => ahead.isNone
  | lineFront returns => before.all (· = '\n') || returns && before = some '\r' && ahead ≠ some '\n'
  | lineBack false => ahead.all (· = '\n')
  | lineBack true => ahead.all (· = '\r') || ahead = some '\n' && before ≠ some '\r'
  | wordEdge => before.any isWord != ahead.any isWord
  | noWordEdge => before.any isWord == ahead.any isWord
  | wordFront => !before.any isWord && ahead.any isWord
  | wordBack => before.any isWord && !ahead.any isWord

/-- the character before is enough to know that it holds -/
def isKnown (before : Option Char) : Look → Bool
  | textFront => before.isNone
  | lineFront _ => before.all (· = '\n')
  | _ => false

theorem holds_of_isKnown {before ahead : Option Char} {l : Look} (h : l.isKnown before = true) :
    l.holds before ahead = true := by
  cases l <;> simp_all [isKnown, holds]

end Look

/-! ## Patterns -/

inductive Pattern where
  | empty
  | one (set : CharSet)
  | look (l : Look)
  /-- a numbered group, which is the same as no other -/
  | group (number : Nat) (a : Pattern)
  | append (a b : Pattern)
  /-- the first, or else the second -/
  | either (a b : Pattern)
  | optional (reluctant : Bool) (a : Pattern)
  | onceOrMore (reluctant : Bool) (a : Pattern)
  | anyNumber (reluctant : Bool) (a : Pattern)
deriving DecidableEq, Repr

namespace Pattern

/-- can be done without taking a character -/
def mayBeEmpty : Pattern → Bool
  | empty | look _ | optional _ _ | anyNumber _ _ => true
  | one _ => false
  | group _ a | onceOrMore _ a => a.mayBeEmpty
  | append a b => a.mayBeEmpty && b.mayBeEmpty
  | either a b => a.mayBeEmpty || b.mayBeEmpty

/-- takes no character at all -/
def takesNothing : Pattern → Bool
  | empty | look _ => true
  | one _ | onceOrMore _ _ | anyNumber _ _ => false
  | group _ a | optional _ a => a.takesNothing
  | append a b | either a b => a.takesNothing && b.takesNothing

/-! ## Pieces in a row -/

def pieces : Pattern → List Pattern
  | empty => []
  | append a b => a.pieces ++ b.pieces
  | p => [p]

def joinPieces : List Pattern → Pattern
  | [] => empty
  | [p] => p
  | p :: q :: r => append p (joinPieces (q :: r))

/-- one after the other -/
def sequence (ps : List Pattern) : Pattern := joinPieces (ps.flatMap pieces)

theorem pieces_joinPieces {ps : List Pattern} (h : ∀ p ∈ ps, p.pieces = [p]) : (joinPieces ps).pieces = ps := by
  induction ps with
  | nil => rfl
  | cons p r ih =>
    have hp := h p List.mem_cons_self
    cases r with
    | nil => exact hp
    | cons q r =>
      rw [joinPieces, pieces, hp, ih fun p' hm => h p' (List.mem_cons_of_mem _ hm)]
      rfl

theorem pieces_of_mem_pieces {p q : Pattern} (h : q ∈ p.pieces) : q.pieces = [q] := by
  induction p with
  | empty => simp [pieces] at h
  | append a b iha ihb =>
    rw [pieces, List.mem_append] at h
    exact h.elim iha ihb
  | _ =>
    obtain rfl := List.mem_singleton.1 h
    rfl

theorem pieces_sequence (ps : List Pattern) : (sequence ps).pieces = ps.flatMap pieces := by
  refine pieces_joinPieces fun q hq => ?_
  obtain ⟨p, _, hp⟩ := List.mem_flatMap.1 hq
  exact pieces_of_mem_pieces hp

/-! ## Branches -/

def branches : Pattern → List Pattern
  | either a b => a.branches ++ b.branches
  | p => [p]

/-- the first that fits; no branch at all never fits -/
def joinBranches : List Pattern → Pattern
  | [] => one .empty
  | [p] => p
  | p :: q :: r => either p (joinBranches (q :: r))

theorem branches_joinBranches {ps : List Pattern} (hne : ps ≠ []) (h : ∀ p ∈ ps, p.branches = [p]) :
    (joinBranches ps).branches = ps := by
  induction ps with
  | nil => exact absurd rfl hne
  | cons p r ih =>
    have hp := h p List.mem_cons_self
    cases r with
    | nil => exact hp
    | cons q r =>
      rw [joinBranches, branches, hp, ih (by simp) fun p' hm => h p' (List.mem_cons_of_mem _ hm)]
      rfl

/-- the set, if it is nothing else -/
def set? : Pattern → Option CharSet
  | one set => some set
  | _ => none

/-- branches with nothing in common in front; characters alone become one set, and so do sets alone -/
def alternatives (bs : List Pattern) : Pattern :=
  match bs.mapM set? with
  | some sets =>
    if sets.all CharSet.isSingle || !sets.any CharSet.isSingle then one (.ofList sets) else joinBranches bs
  | none => joinBranches bs

/-- what two rows of pieces start with -/
def sharedFront : List Pattern → List Pattern → List Pattern
  | p :: r, q :: s => if p = q then p :: sharedFront r s else []
  | _, _ => []

/-- what all the branches start with, if each is a row of pieces -/
def commonFront (bs : List Pattern) : List Pattern :=
  if bs.all (2 ≤ ·.pieces.length) then
    match bs.map pieces with
    | [] => []
    | row :: rows => rows.foldl sharedFront row
  else []

/-- the first that fits -/
def choice (ps : List Pattern) : Pattern :=
  let bs := ps.flatMap branches
  let front := commonFront bs
  if front = [] then alternatives bs
  else
    let rests := bs.map fun b => joinPieces (b.pieces.drop front.length)
    sequence (front ++ [alternatives (rests.flatMap branches)])

/-! ## Repetitions -/

/-- how often a piece may stand -/
inductive Repetition where
  | atMostOnce
  | onceOrMore
  | anyNumber
deriving DecidableEq, Repr

namespace Repetition

def ofSign? : Char → Option Repetition
  | '?' => some .atMostOnce
  | '+' => some .onceOrMore
  | '*' => some .anyNumber
  | _ => none

def pattern (r : Repetition) (reluctant : Bool) (p : Pattern) : Pattern :=
  match r with
  | atMostOnce => .optional reluctant p
  | onceOrMore => if p.takesNothing then p else .onceOrMore reluctant p
  | anyNumber => if p.takesNothing then .optional reluctant p else .anyNumber reluctant p

end Repetition

end Pattern

end PowerPrefs.Text
