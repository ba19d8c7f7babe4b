/-
Directives: the parts of a log setting. A directive is one of

    level    reporter    reporter=level    [span]    reporter[span]=level    [span{field}]    [{field=value}]

A level is a word, in either case, or its number; no level means all levels. A name of a reporter stands for all
reporters whose names start with it. A value is a number, a truth value or a pattern, which a text has if what is found
of the pattern in it goes up to its end.

A directive may have blanks around it. Its parts are looked for in the directive without them and then taken, at the
same places, from the directive with them. So blanks after a bracket do no harm, while blanks in front shift what is
taken, and blanks anywhere around a level make it unreadable.
-/
import PowerPrefs.Event
import PowerPrefs.Text.Alphanumeric
import PowerPrefs.Text.Blank
import PowerPrefs.Text.Number
import PowerPrefs.Text.Pattern.Reader
import PowerPrefs.Text.Pattern.Search

namespace PowerPrefs

/-- a level, or silence -/
structure Verbosity where
  rank : Nat
deriving DecidableEq, Repr

namespace Verbosity

def off : Verbosity := ⟨0⟩

def warn : Verbosity := ⟨Level.warn.rank⟩

def all : Verbosity := ⟨Level.trace.rank⟩

def shows (v : Verbosity) (l : Level) : Bool := l.rank ≤ v.rank

/-- the greatest of some, or silence -/
def greatest (vs : List Verbosity) : Verbosity := ⟨(vs.map Verbosity.rank).foldl max 0⟩

def words : List (Text × Verbosity) :=
  ("off".toList, off) ::
    [Level.error, .warn, .info, .debug, .trace].map fun l => (l.name.map Char.toLower, ⟨l.rank⟩)

/-- a number from 0 to 5, which a plus sign may precede -/
def ofNumber? (t : Text) : Option Verbosity :=
  let digits := match t with
    | '+' :: r => r
    | t => t
  if digits ≠ [] ∧ digits.all Char.isDigit then
    let n := digits.foldl (fun n d => 10 * n + (d.toNat - '0'.toNat)) 0
    if n ≤ all.rank then some ⟨n⟩ else none
  else none

def ofText? (t : Text) : Option Verbosity :=
  match ofNumber? t with
  | some v => some v
  | none => words.lookup (t.map Char.toLower)

/-- the level after an equals sign; none at all means all levels -/
def ofSuffix? (t : Text) : Option Verbosity := if t = [] then some all else ofText? t

end Verbosity

/-- a field that is asked for, and what its value is to be -/
structure FieldTest where
  name : Text
  value : Option Text
deriving DecidableEq, Repr

namespace FieldTest

/-- the value stands for itself: a number, or a word for a truth value -/
def isConstant (value : Text) : Bool := value.isNumber || value ∈ ["true".toList, "false".toList]

/-- the name before the first equals sign, the value between it and the next -/
def read? (t : Text) : Option FieldTest :=
  match t.split '=' with
  | name :: value :: _ =>
    if isConstant value ∨ (Text.Pattern.read? value).isSome then some ⟨name, some value⟩ else none
  | [name] => if name = [] then none else some ⟨name, none⟩
  | [] => none

/-- a field with this text has the value asked for; a number or a truth value asks for one, and no text is any -/
def holds (f : FieldTest) (text : Text) : Bool :=
  f.value.all fun value => !isConstant value && (Text.Pattern.read? value).any fun p => p.reachesEnd text

end FieldTest

structure Directive where
  /-- how the names of the reporters start; none stands for all reporters -/
  reporter : Option Text
  span : Option Text
  field : Option FieldTest
  verbosity : Verbosity
deriving DecidableEq, Repr

namespace Directive

/-! ## Reading -/

/-- a directive may start with a letter, a number, a few signs or the bracket of a span -/
def mayStart (c : Char) : Bool := Text.isAlphanumeric c || c ∈ ['-', ':', '_']

/-- a single word: a level, or else the start of a reporter's name -/
def ofWord (t : Text) : Directive :=
  match Verbosity.ofText? t with
  | some v => ⟨none, none, none, v⟩
  | none => ⟨some t, none, none, .all⟩

/-- the level from byte `place` on -/
def readLevel? (piece : Text) (place : Nat) : Option Verbosity := (piece.dropBytes? place).bind Verbosity.ofSuffix?

/-- what follows the closing bracket, at byte `place` -/
def readEnd? (piece : Text) (place : Nat) : Text → Option Verbosity
  | [] => some .all
  | '=' :: _ => readLevel? piece (place + 1)
  | _ => none

/-- what follows the opening bracket, at byte `place` -/
def readSpan? (reporter : Option Text) (piece : Text) (place : Nat) (rest : Text) : Option Directive :=
  let name : Text := rest.takeWhile fun c => c ≠ ']' ∧ c ≠ '\x7b'
  let stop := place + name.byteLength
  match rest.dropWhile (fun c => c ≠ ']' ∧ c ≠ '\x7b'), piece.cut? place stop with
  | ']' :: r, some span => (readEnd? piece (stop + 1) r).map (⟨reporter, some span, none, ·⟩)
  | '\x7b' :: r, some span =>
    let test : Text := r.takeWhile (· ≠ '\x7d')
    let close := stop + 1 + test.byteLength
    match r.dropWhile (· ≠ '\x7d'), (piece.cut? (stop + 1) close).bind FieldTest.read? with
    | '\x7d' :: ']' :: r, some field =>
      (readEnd? piece (close + 2) r).map (⟨reporter, if span = [] then none else some span, some field, ·⟩)
    | _, _ => none
  | _, _ => none

/-- a directive that starts with a word -/
def readWord? (piece t : Text) : Option Directive :=
  let name : Text := t.takeWhile fun c => c ≠ '=' ∧ c ≠ '['
  let stop := name.byteLength
  match t.dropWhile (fun c => c ≠ '=' ∧ c ≠ '['), piece.cut? 0 stop with
  | [], _ => some (ofWord piece)
  | '=' :: _, some reporter => (readLevel? piece (stop + 1)).map (⟨some reporter, none, none, ·⟩)
  | '[' :: r, some reporter => readSpan? (some reporter) piece (stop + 1) r
  | _, _ => none

def parse? (piece : Text) : Option Directive :=
  match piece.trim with
  | [] => none
  | '[' :: r => readSpan? none piece 1 r
  | c :: r => if mayStart c then readWord? piece (c :: r) else none

/-! ## What a directive goes for -/

/-- the directive goes for this reporter -/
def concerns (d : Directive) (r : Reporter) : Bool := d.reporter.all fun start => start.isPrefixOf r.name

/-- the directive asks for no field, or for one of these -/
def asksForOneOf (d : Directive) (names : List Text) : Bool := d.field.all fun f => f.name ∈ names

def asksForValue (d : Directive) : Bool := d.field.any fun f => f.value.isSome

/-- the directive decides on events one by one -/
def isPlain (d : Directive) : Bool := d.span.isNone && !d.asksForValue

/-- the directive goes for what is reported inside spans -/
def isScoped (d : Directive) : Bool := d.span.isSome || d.field.isSome

/-- two directives are for the same, whatever their levels -/
def sameScope (d e : Directive) : Bool := d.reporter = e.reporter && d.span = e.span && d.field = e.field

/-- the longer the reporter's name, the more specific -/
def specificity (d : Directive) : Nat :=
  match d.reporter with
  | some start => start.length + 1
  | none => 0

/-- with equal names of reporters, a field is more specific than none, and of two the later in the alphabet counts -/
def outranks (d e : Directive) : Bool :=
  e.specificity < d.specificity ||
    d.specificity = e.specificity && match d.field, e.field with
      | some f, some g => g.name < f.name
      | some _, none => true
      | none, _ => false

end Directive

end PowerPrefs
