/-
Reading patterns:

    abc     these characters              .       any character on the line
    a|b     the first, or else the second (a)     a group; also (?:a), which has no number, and (?<name>a)
    a*      any number of times           [a-z]   one of a set
    a+      once or more                  \d      what a backslash begins
    a?      once or not at all            ^  $    the front and the end

A question mark after a repetition makes it a reluctant one. `(?i)` changes the manner up to the end of the group around
it, and `(?i:a)` in a new group. Pieces in a row, branches, groups, repetitions and sets nest, but not too deep. A text
that is nothing of this is no pattern. The empty text is the empty pattern.

A group is read in one go, in which `Scope` holds what was read so far and `Cursor` what is left. Every step takes a
character, so the length of the text is fuel enough.
-/
import PowerPrefs.Text.Pattern.Bracket

namespace PowerPrefs.Text.Pattern

/-! ## What is left to read -/

structure Cursor where
  rest : Text
  /-- how many numbered groups were opened -/
  groups : Nat
  /-- the names of groups -/
  names : List Text
deriving DecidableEq, Repr

/-- a name starts with a letter or an underscore -/
def isName : Text → Bool
  | [] => false
  | c :: r => (c = '_' || isAlphabetic c) && r.all fun d => d ∈ ['_', '.', '[', ']'] || isAlphanumeric d

/-- what an opening parenthesis begins -/
inductive Opening where
  /-- a new manner for the rest of the group around it -/
  | manner (m : Manner)
  /-- a group, with its number if it has one -/
  | group (number : Option Nat) (m : Manner)
deriving DecidableEq, Repr

namespace Opening

/-- a group with the next number -/
def numbered (m : Manner) (left : Cursor) : Opening × Cursor :=
  (group (some left.groups) m, { left with groups := left.groups + 1 })

/-- reads the name of a group, which no other has -/
def readName? (m : Manner) (left : Cursor) (t : Text) : Option (Opening × Cursor) :=
  let name : Text := t.takeWhile (· ≠ '>')
  match t.dropWhile (· ≠ '>') with
  | _ :: r =>
    if isName name ∧ name ∉ left.names then some (numbered m { left with rest := r, names := name :: left.names })
    else none
  | [] => none

/-- reads the letters of a new manner; without letters there must be a group -/
def readManner? (m : Manner) (left : Cursor) (t : Text) : Option (Opening × Cursor) :=
  match m.readLetters? [] t with
  | some (m, _, ':' :: r) => some (group none m, { left with rest := r })
  | some (m, _ :: _, _ :: r) => some (manner m, { left with rest := r })
  | _ => none

/-- reads what follows an opening parenthesis; `left` is what was left before -/
def read? (m : Manner) (left : Cursor) (t : Text) : Option (Opening × Cursor) :=
  match m.skip t with
  | '?' :: 'P' :: '<' :: r => readName? m left r
  | '?' :: '<' :: r => readName? m left r
  | '?' :: r => readManner? m left r
  | t => some (numbered m { left with rest := t })

end Opening

/-! ## Groups of which some is read -/

structure Scope where
  manner : Manner
  /-- the branches before the one at hand, the last first -/
  before : List (Nested Pattern)
  /-- the pieces of the branch at hand, the last first; a new manner is one that cannot be repeated -/
  pieces : List (Option (Nested Pattern))
deriving DecidableEq, Repr

namespace Scope

def start (m : Manner) : Scope := ⟨m, [], []⟩

/-- how deep several things next to each other nest -/
def depthOf (depths : List Nat) : Nat :=
  match depths with
  | [] => 0
  | [d] => d
  | ds => ds.foldl max 0 + 1

/-- the branch at hand -/
def branch (s : Scope) : Nested Pattern :=
  let pieces := s.pieces.reverse
  ⟨sequence (pieces.filterMap fun p => p.map Nested.value),
    depthOf (pieces.map fun p => (p.map Nested.depth).getD 0)⟩

/-- the whole group -/
def whole (s : Scope) : Nested Pattern :=
  match s.before with
  | [] => s.branch
  | before =>
    let branches := (s.branch :: before).reverse
    ⟨choice (branches.map Nested.value), depthOf (branches.map Nested.depth)⟩

/-- goes on to the next branch -/
def bar (s : Scope) : Scope := ⟨s.manner, s.branch :: s.before, []⟩

def push (s : Scope) (p : Nested Pattern) : Scope := { s with pieces := some p :: s.pieces }

def pushSet (s : Scope) (set : CharSet) : Scope := s.push ⟨.one set, 0⟩

def pushLook (s : Scope) (l : Look) : Scope := s.push ⟨.look l, 0⟩

def pushGroup (s : Scope) (number : Option Nat) (p : Nested Pattern) : Scope :=
  s.push ⟨match number with
    | some n => .group n p.value
    | none => p.value, p.depth + 1⟩

/-- takes a new manner -/
def change (s : Scope) (m : Manner) : Scope := { s with manner := m, pieces := none :: s.pieces }

/-- repeats the last piece; a question mark right after the sign swaps which way is preferred -/
def readRepetition? (s : Scope) (r : Repetition) (t : Text) : Option (Scope × Text) :=
  match s.pieces with
  | some p :: pieces =>
    let again (reluctant : Bool) : Scope :=
      { s with pieces := pieces }.push ⟨r.pattern reluctant p.value, p.depth + 1⟩
    match t with
    | '?' :: t => some (again (!s.manner.swapped), t)
    | t => some (again s.manner.swapped, t)
  | _ => none

/-- reads a piece that is no group; it begins with `c` -/
def readPiece? (s : Scope) (c : Char) (t : Text) : Option (Scope × Text) :=
  match c with
  | '.' => s.manner.any?.map fun set => (s.pushSet set, t)
  | '^' => some (s.pushLook s.manner.front, t)
  | '$' => some (s.pushLook s.manner.back, t)
  | '\\' => (Escape.read? s.manner t).map fun (e, rest) =>
    (match e with
      | .char d => s.pushSet (s.manner.fold (.single d))
      | .set set => s.pushSet set
      | .look l => s.pushLook l, rest)
  | '[' =>
    let (b, rest) := Bracket.start s.manner t
    (Bracket.read? t.length s.manner b rest).map fun (set, rest) => (s.push ⟨.one set.value, set.depth⟩, rest)
  | '\x7b' => none
  | c =>
    match Repetition.ofSign? c with
    | some r => s.readRepetition? r t
    | none => some (s.pushSet (s.manner.fold (.single c)), t)

end Scope

/-! ## Reading -/

/-- reads up to the end of the group, which is left to read -/
def readGroup? : Nat → Scope → Cursor → Option (Nested Pattern × Cursor)
  | 0, _, _ => none
  | fuel + 1, s, left =>
    match s.manner.skip left.rest with
    | [] => some (s.whole, { left with rest := [] })
    | c :: r =>
      if c = ')' then some (s.whole, { left with rest := c :: r })
      else if c = '|' then readGroup? fuel s.bar { left with rest := r }
      else if c = '(' then
        match Opening.read? s.manner left r with
        | some (.manner m, left) => readGroup? fuel (s.change m) left
        | some (.group number m, left) =>
          match readGroup? fuel (.start m) left with
          | some (inner, left) => if left.rest = [] then none
            else readGroup? fuel (s.pushGroup number inner) { left with rest := left.rest.tail }
          | none => none
        | none => none
      else (s.readPiece? c r).bind fun (s, rest) => readGroup? fuel s { left with rest := rest }

/-- how deep a pattern may nest -/
def depthLimit : Nat := 250

/-- the pattern that a text is, if it is one -/
def read? (t : Text) : Option Pattern :=
  match readGroup? (t.length + 1) (.start .standard) ⟨t, 0, []⟩ with
  | some (p, left) => if left.rest = [] ∧ p.depth ≤ depthLimit then some p.value else none
  | none => none

end PowerPrefs.Text.Pattern
