/-
Sets in brackets. `[abc]` holds these characters, `[a-c]` those from the first to the last, and with a caret in front
all others. Between the brackets may also stand what a backslash begins, further sets in brackets, and classes of ASCII
characters, such as `[:alpha:]`. `&&`, `--` and `~~` stand between two sets for what is in both, in the first only, and
in one of them only; they are taken from left to right.

A hyphen in front or at the end is a member, and so is a closing bracket in front. A set must be closed.

Everything read comes with how deep it nests, since that is limited.
-/
import PowerPrefs.Text.Pattern.Escape

namespace PowerPrefs.Text.Pattern

/-- what was read, and how deep it nests -/
structure Nested (α : Type) where
  value : α
  depth : Nat
deriving DecidableEq, Repr

/-! ## Operations -/

inductive SetOperator where
  | intersection
  | difference
  | symmetricDifference
deriving DecidableEq, Repr

namespace SetOperator

/-- the operator at the front of a text -/
def read? : Text → Option (SetOperator × Text)
  | '&' :: '&' :: r => some (intersection, r)
  | '-' :: '-' :: r => some (difference, r)
  | '~' :: '~' :: r => some (symmetricDifference, r)
  | _ => none

def apply : SetOperator → CharSet → CharSet → CharSet
  | intersection => CharSet.intersection
  | difference => CharSet.difference
  | symmetricDifference => CharSet.symmetricDifference

end SetOperator

/-! ## Classes of ASCII characters -/

def asciiClasses : List (String × CharSet) :=
  let small := CharSet.range 'a' 'z'
  let capital := CharSet.range 'A' 'Z'
  let digit := CharSet.range '0' '9'
  let space := CharSet.single ' '
  [("alnum", .ofList [small, capital, digit]),
    ("alpha", .ofList [small, capital]),
    ("ascii", .range '\x00' '\x7f'),
    ("blank", .ofList [.single '\t', space]),
    ("cntrl", .ofList [.range '\x00' '\x1f', .single '\x7f']),
    ("digit", digit),
    ("graph", .range '!' '~'),
    ("lower", small),
    ("print", .range ' ' '~'),
    ("punct", .ofList [.range '!' '/', .range ':' '@', .range '[' '\x60', .range '\x7b' '~']),
    ("space", .asciiBlank),
    ("upper", capital),
    ("word", .asciiWord),
    ("xdigit", .ofList [digit, .range 'a' 'f', .range 'A' 'F'])]

/-- reads a class after its opening bracket; the first part of the answer tells that all others are meant -/
def readClass? : Text → Option (Bool × CharSet × Text)
  | ':' :: t =>
    let (inverted, t) := match t with
      | '^' :: r => (true, r)
      | t => (false, t)
    let name : Text := t.takeWhile (· ≠ ':')
    match t.dropWhile (· ≠ ':'), asciiClasses.lookup (String.ofList name) with
    | ':' :: ']' :: r, some s => some (inverted, s, r)
    | _, _ => none
  | _ => none

/-! ## Sets of which some is read -/

structure Bracket where
  inverted : Bool
  /-- nothing is read but hyphens -/
  fresh : Bool
  /-- the first operand, if an operator was read -/
  operand : Option (SetOperator × Nested CharSet)
  /-- the members read, after the operator if there is one -/
  members : CharSet
  count : Nat
  /-- how deep the deepest of them nests -/
  depth : Nat
deriving DecidableEq, Repr

namespace Bracket

/-- begins a set after its opening bracket -/
def start (m : Manner) (t : Text) : Bracket × Text :=
  match m.skip t with
  | '^' :: r => (⟨true, true, none, .empty, 0, 0⟩, r)
  | t => (⟨false, true, none, .empty, 0, 0⟩, t)

def add (b : Bracket) (s : Nested CharSet) : Bracket :=
  { b with members := b.members.union s.value, count := b.count + 1, depth := max b.depth s.depth }

/-- what was read as one set -/
def whole (m : Manner) (b : Bracket) : Nested CharSet :=
  let members : Nested CharSet := ⟨b.members, if 2 ≤ b.count then b.depth + 1 else b.depth⟩
  match b.operand with
  | none => members
  | some (operator, first) =>
    ⟨operator.apply (m.fold first.value) (m.fold members.value), max first.depth members.depth + 1⟩

/-- goes on to what follows an operator -/
def operate (m : Manner) (b : Bracket) (operator : SetOperator) : Bracket :=
  ⟨b.inverted, false, some (operator, b.whole m), .empty, 0, 0⟩

def close? (m : Manner) (b : Bracket) : Option (Nested CharSet) :=
  let whole := b.whole m
  (m.invert? b.inverted (m.fold whole.value)).map (⟨·, whole.depth + 1⟩)

/-! ## Reading -/

/-- reads a single character, or what a backslash begins -/
def readMember? (m : Manner) : Text → Option (Escape × Text)
  | [] => none
  | '\\' :: r => Escape.read? m r
  | c :: r => some (.char c, r)

/-- the characters from `low` to `high`; beyond ASCII they must be of Unicode -/
def rangeOf? (m : Manner) (low high : Char) : Option CharSet :=
  if low ≤ high ∧ (m.unicode ∨ high.toNat < 0x80) then some (.range low high) else none

/-- reads a member, or a range if a hyphen and another character follow -/
def readRange? (m : Manner) (t : Text) : Option (CharSet × Text) := do
  let (first, rest) ← readMember? m t
  match m.skip rest with
  | [] => none
  | c :: r =>
    if c ≠ '-' ∨ m.next? r = some ']' ∨ m.next? r = some '-' then
      match first with
      | .char low => return (← rangeOf? m low low, c :: r)
      | .set s => return (s, c :: r)
      | .look _ => none
    else
      let (last, rest) ← readMember? m (m.skip r)
      match first, last with
      | .char low, .char high => return (← rangeOf? m low high, rest)
      | _, _ => none

/-- reads up to the closing bracket; every step takes a character, so the length of what is left is fuel enough -/
def read? : Nat → Manner → Bracket → Text → Option (Nested CharSet × Text)
  | 0, _, _, _ => none
  | fuel + 1, m, b, t =>
    match m.skip t with
    | [] => none
    | c :: r =>
      if c = '-' ∧ b.fresh then read? fuel m (b.add ⟨.single '-', 0⟩) r
      else if c = ']' then
        if b.fresh ∧ b.count = 0 then read? fuel m { b.add ⟨.single ']', 0⟩ with fresh := false } r
        else (b.close? m).map (·, r)
      else
        let b := { b with fresh := false }
        if c = '[' then
          match readClass? r with
          | some (inverted, s, rest) => do
            let s ← m.invert? inverted (m.fold s)
            read? fuel m (b.add ⟨s, 0⟩) rest
          | none => do
            let (inner, rest) := start m r
            let (inner, rest) ← read? fuel m inner rest
            read? fuel m (b.add inner) rest
        else
          match SetOperator.read? (c :: r) with
          | some (operator, rest) => read? fuel m (b.operate m operator) rest
          | none => do
            let (s, rest) ← readRange? m (c :: r)
            read? fuel m (b.add ⟨s, 0⟩) rest

end Bracket

end PowerPrefs.Text.Pattern
