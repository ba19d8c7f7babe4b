/-
Looking for a pattern in a text. It is looked for from the front on: the first place where it fits counts, and there the
way to fit that it prefers. `reachesEnd` tells whether what is found so goes up to the end of the text.

A pattern becomes code: a list of instructions, the last of which is followed by success. The search keeps the list of
places in the code where it waits for the next character, the preferred one first. `reach` finds them: it follows forks
and jumps, preferred ways first, and comes to no place twice, which ends also a repetition that takes nothing. Where a
check cannot be decided before the next character is known, the search waits in front of it, and goes on from all the
places where it waits as soon as that character lets it pass. When success is in the list, what it preferred less counts
no more.
- `length_code`: the code of a pattern is as long as `size` says, so forks and jumps lead to where they should.
-/
import PowerPrefs.Text.Pattern

namespace PowerPrefs.Text.Pattern

inductive Instruction where
  /-- takes a character of the set -/
  | take (set : CharSet)
  /-- passes if this holds -/
  | check (l : Look)
  /-- goes on at either place, preferably at the first -/
  | fork (first second : Nat)
  | jump (target : Nat)
deriving DecidableEq, Repr

namespace Instruction

/-- what goes on at one place and stops at the other -/
def loop (reluctant : Bool) (further stop : Nat) : Instruction :=
  if reluctant then fork stop further else fork further stop

/-- the search can wait here -/
def waits : Instruction → Bool
  | take _ | check _ => true
  | fork _ _ | jump _ => false

end Instruction

/-- instructions, each at its place -/
abbrev Code := Array Instruction

/-! ## The code of a pattern -/

/-- length of the code -/
def size : Pattern → Nat
  | empty => 0
  | one _ | look _ => 1
  | group _ a => a.size
  | append a b => a.size + b.size
  | either a b => a.size + b.size + 2
  | optional _ a | onceOrMore _ a => a.size + 1
  | anyNumber _ a => a.size + 2

/-- the code, where it starts at this place; any number of what may be empty is once or more of it, or nothing -/
def code (place : Nat) : Pattern → List Instruction
  | empty => []
  | one set => [.take set]
  | look l => [.check l]
  | group _ a => a.code place
  | append a b => a.code place ++ b.code (place + a.size)
  | either a b =>
    let second := place + a.size + 2
    .fork (place + 1) second :: a.code (place + 1) ++ .jump (second + b.size) :: b.code second
  | optional reluctant a => .loop reluctant (place + 1) (place + a.size + 1) :: a.code (place + 1)
  | onceOrMore reluctant a => a.code place ++ [.loop reluctant place (place + a.size + 1)]
  | anyNumber reluctant a =>
    let enter := Instruction.loop reluctant (place + 1) (place + a.size + 2)
    enter :: a.code (place + 1) ++ [if a.mayBeEmpty then enter else .jump place]

theorem length_code (p : Pattern) (place : Nat) : (p.code place).length = p.size := by
  induction p generalizing place with
  | empty => rfl
  | one _ => rfl
  | look _ => rfl
  | group _ a ih => exact ih place
  | append a b iha ihb => simp [code, size, iha, ihb]
  | either a b iha ihb => simp only [code, size, List.length_append, List.length_cons, iha, ihb]; omega
  | optional _ a ih => simp [code, size, ih]
  | onceOrMore _ a ih => simp [code, size, ih]
  | anyNumber _ a ih => simp [code, size, ih]

namespace Code

/-! ## The places where a search waits -/

/-- the places that a search goes on to at once -/
def further (code : Code) (passes : Look → Bool) (place : Nat) : List Nat :=
  match code[place]? with
  | some (.fork first second) => [first, second]
  | some (.jump target) => [target]
  | some (.check l) => if passes l then [place + 1] else []
  | _ => []

/-- the places reached from some, in reverse; `found` are those before, and the flags tell which places are among them.
One unit of fuel pays for one place. -/
def follow (code : Code) (passes : Look → Bool) : Nat → List Nat → Array Bool → List Nat → List Nat
  | 0, _, _, found => found
  | _ + 1, [], _, found => found
  | fuel + 1, place :: more, seen, found =>
    if seen[place]?.getD false then follow code passes fuel more seen found
    else
      follow code passes fuel (further code passes place ++ more) (seen.setIfInBounds place true) (place :: found)

/-- the places to wait at that are reached from some, in order of preference; no place leads to more than two, and
success is behind the last -/
def reach (code : Code) (passes : Look → Bool) (places : List Nat) : List Nat :=
  let fuel := places.length + 2 * code.size
  (follow code passes fuel places (.replicate (code.size + 1) false) []).reverse.filter fun place =>
    code[place]?.all Instruction.waits

/-- at this place is a check that passes only now that the next character is known -/
def unlocks (code : Code) (before ahead : Option Char) (place : Nat) : Bool :=
  match code[place]? with
  | some (.check l) => l.holds before ahead && !l.isKnown before
  | _ => false

/-- the places to wait at once the next character is known -/
def settle (code : Code) (before ahead : Option Char) (places : List Nat) : List Nat :=
  if places.any (unlocks code before ahead) then reach code (Look.holds before ahead) places else places

/-- where the search goes on after `c` -/
def after? (code : Code) (c : Char) (place : Nat) : Option Nat :=
  match code[place]? with
  | some (.take set) => if set.contains c then some (place + 1) else none
  | _ => none

/-- takes `c` at all the places before success -/
def advance (code : Code) (before : Option Char) (places : List Nat) (c : Char) : List Nat :=
  let live := (settle code before (some c) places).takeWhile (· < code.size)
  reach code (Look.isKnown (some c)) (live.filterMap (after? code c))

/-- success is reached from these places at the end of the text -/
def succeeds (code : Code) (before : Option Char) (places : List Nat) : Text → Bool
  | [] => code.size ∈ settle code before none places
  | c :: r => succeeds code (some c) (advance code before places c) r

/-- success is reached from the front of the code -/
def run (code : Code) (t : Text) : Bool := succeeds code none (reach code (Look.isKnown none) [0]) t

end Code

/-! ## The search -/

/-- the code of the search: any characters, as few as can be, and then the pattern -/
def searchCode (p : Pattern) : Code := ((append (anyNumber true (one .all)) p).code 0).toArray

/-- what is found of the pattern in the text goes up to the end of the text -/
def reachesEnd (p : Pattern) (t : Text) : Bool := p.searchCode.run t

end PowerPrefs.Text.Pattern
