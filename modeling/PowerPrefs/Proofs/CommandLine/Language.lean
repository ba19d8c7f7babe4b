/-
The language of the command line: which arguments ask for the schema, and for which output. There is one option, given
at most once, with a value that is attached to it or comes next; two hyphens alone may end the options.

The reading of the arguments is a scan with what is pending. `read_cons_iff` says once what one argument can do to it,
and what may still come follows state by state: anything may come only while no option was read, one value while the
option awaits it, and nothing but the end of the options once there is an output.
- `OutputOption`, `Value`: what an argument is by its looks; nothing is both.
- `read_ne_of_doomed`: a second option, or an empty value, cannot be made good by what follows.
- `read_settled_iff`, `read_awaiting_iff`, `read_start_iff`: what may still come.
- `Accepted.not_faulty`: no vector with a stray argument, an unknown option or a second option is in the language.
- `parse_language`: the arguments that are accepted, and all others are refused.
-/
import Mathlib.Data.List.TakeWhile
import PowerPrefs.CommandLine

namespace PowerPrefs.CommandLine

/-! ## Arguments by their looks -/

/-- without one equals sign at the front -/
def withoutEquals (v : Text) : Text := if v.head? = some '=' then v.tail else v

/-- the option for the output, with the value that is attached to it -/
inductive OutputOption : Text → Option Text → Prop where
  | letter : OutputOption "-o".toList none
  | letterAttached {v : Text} (h : v ≠ []) : OutputOption ("-o".toList ++ v) (some (withoutEquals v))
  | long : OutputOption "--output".toList none
  | longAttached (v : Text) : OutputOption ("--output=".toList ++ v) (some v)

/-- no option: a hyphen alone, or anything that does not start with one -/
def Value (t : Text) : Prop := t = ['-'] ∨ t.head? ≠ some '-'

/-- after it, nothing is an option -/
def optionsEnd : Text := "--".toList

/-- an option that asks for help or for the version -/
inductive TellOption : Text → Prop where
  | letter {c : Char} (hc : c = 'h' ∨ c = 'V') (r : Text) : TellOption ('-' :: c :: r)
  | long {name : Text} (hname : name = "help".toList ∨ name = "version".toList) : TellOption ('-' :: '-' :: name)

/-! ## The language -/

/-- arguments that ask for the schema, and the output that they give -/
inductive Gives : List Text → Option Text → Prop where
  | nothing : Gives [] none
  | apart {option value : Text} (hoption : OutputOption option none) (hvalue : Value value) (hne : value ≠ []) :
      Gives [option, value] (some value)
  | attached {option value : Text} (hoption : OutputOption option (some value)) (hne : value ≠ []) :
      Gives [option] (some value)

/-- nothing, or the end of the options -/
def Ended (args : List Text) : Prop := args = [] ∨ args = [optionsEnd]

/-- arguments that give the output, with at most one end of the options after them -/
def Accepted (args : List Text) (output : Option Text) : Prop :=
  ∃ front rest, args = front ++ rest ∧ Gives front output ∧ Ended rest

/-- arguments among which there is one that has no place in any vector -/
inductive Faulty : List Text → Prop where
  /-- an argument that is no option, where no option awaits a value -/
  | stray {before after : List Text} {a : Text} (ha : Value a)
      (hbefore : ∀ option ∈ before.getLast?, ¬OutputOption option none) : Faulty (before ++ a :: after)
  | afterEnd {before after : List Text} (h : after ≠ []) : Faulty (before ++ optionsEnd :: after)
  | unknown {before after : List Text} {a : Text} (hvalue : ¬Value a) (hoption : ∀ v, ¬OutputOption a v)
      (hend : a ≠ optionsEnd) : Faulty (before ++ a :: after)
  | twice {before between after : List Text} {a b : Text} {v w : Option Text} (ha : OutputOption a v)
      (hb : OutputOption b w) : Faulty (before ++ a :: (between ++ b :: after))

/-- no schema is asked for: there is a problem with the arguments, or one of them asks for help or for the version -/
def Refused (args : List Text) : Prop :=
  (∃ e, parse args = .error e) ∨
    ∃ r, parse args = .ok r ∧ (∀ output, r ≠ .schema output) ∧ ∃ a ∈ args, TellOption a

variable {s s' : State} {a t v : Text} {args rest : List Text} {attached output : Option Text}

/-! ## One argument -/

theorem not_value_cons (r : Text) (hr : r ≠ []) : ¬Value ('-' :: r) := by
  simp [Value, hr]

theorem OutputOption.not_value (h : OutputOption a attached) : ¬Value a := by
  cases h <;> exact not_value_cons _ (by simp)

theorem OutputOption.ne_optionsEnd (h : OutputOption a attached) : a ≠ optionsEnd := by
  cases h <;> simp [optionsEnd]

theorem not_value_optionsEnd : ¬Value optionsEnd := not_value_cons _ (by simp)

theorem attachedToLetter_eq (h : v ≠ []) : attachedToLetter v = some (withoutEquals v) := by
  unfold attachedToLetter withoutEquals
  split
  · exact absurd rfl h
  · rfl
  · rename_i hequals
    cases v with
    | nil => exact absurd rfl h
    | cons c r =>
      have hc : c ≠ '=' := fun hc => hequals r (hc ▸ rfl)
      simp [hc]

theorem longParts_of_notMem (h : '=' ∉ t) : longParts t = (t, none) := by
  have hall : ∀ c ∈ t, decide (c ≠ '=') = true := fun c hc => decide_eq_true fun heq => h (heq ▸ hc)
  rw [longParts, List.dropWhile_eq_nil_iff.2 hall]

theorem longParts_append (h : '=' ∉ t) (v : Text) : longParts (t ++ '=' :: v) = (t, some v) := by
  have hall : ∀ c ∈ t, decide (c ≠ '=') = true := fun c hc => decide_eq_true fun heq => h (heq ▸ hc)
  rw [longParts, List.dropWhile_append_of_pos hall, List.takeWhile_append_of_pos hall]
  simp

theorem eq_of_longParts {name : Text} (h : longParts t = (name, attached)) :
    (attached = none ∧ t = name) ∨ ∃ v, attached = some v ∧ t = name ++ '=' :: v := by
  by_cases hmem : '=' ∈ t
  · obtain ⟨n, v, rfl, hn⟩ := List.eq_append_cons_of_mem hmem
    rw [longParts_append hn] at h
    obtain ⟨rfl, rfl⟩ := Prod.mk.inj h
    exact Or.inr ⟨v, rfl, rfl⟩
  · rw [longParts_of_notMem hmem] at h
    obtain ⟨rfl, rfl⟩ := Prod.mk.inj h
    exact Or.inl ⟨rfl, rfl⟩

theorem readArgument_of_option (h : OutputOption a attached) (s : State) :
    readArgument s a = (s.option attached).map .next := by
  cases h with
  | letter => rfl
  | letterAttached hv => rw [← attachedToLetter_eq hv]; rfl
  | long => rfl
  | longAttached v =>
    have hparts : longParts ("output".toList ++ '=' :: v) = ("output".toList, some v) :=
      longParts_append (by decide) v
    show readLong s ("output".toList ++ '=' :: v) = _
    simp only [readLong, hparts, if_pos]

theorem readArgument_of_value (h : Value a) (s : State) : readArgument s a = readValue s a := by
  rcases h with rfl | h
  · rfl
  · cases a with
    | nil => rfl
    | cons c r =>
      have hc : c ≠ '-' := by simpa using h
      simp [readArgument, hc]

/-- reading the argument ends all reading, in error or because help or the version is asked for -/
def EndsReading (a : Text) (outcome : Except UsageError Progress) : Prop :=
  (∃ e, outcome = .error e) ∨ ∃ r, outcome = .ok (.finished r) ∧ (∀ output, r ≠ .schema output) ∧ TellOption a

theorem EndsReading.of_finish (s : State) {r : Request} (hr : ∀ output, r ≠ .schema output) (ha : TellOption a) :
    EndsReading a ((s.finish r).map .finished) := by
  unfold State.finish
  cases s.settle with
  | error e => exact Or.inl ⟨e, rfl⟩
  | ok _ => exact Or.inr ⟨r, rfl, hr, ha⟩

theorem readLong_ends (h : ∀ v, ¬OutputOption ('-' :: '-' :: t) v) (s : State) :
    EndsReading ('-' :: '-' :: t) (readLong s t) := by
  rcases hparts : longParts t with ⟨name, attached⟩
  have ht := eq_of_longParts hparts
  simp only [readLong, hparts]
  split
  · rename_i hname
    subst hname
    rcases ht with ⟨rfl, rfl⟩ | ⟨v, rfl, rfl⟩
    · exact absurd .long (h none)
    · exact absurd (.longAttached v) (h (some v))
  · split
    · rename_i hname
      rcases ht with ⟨rfl, rfl⟩ | ⟨v, rfl, rfl⟩
      · refine EndsReading.of_finish s ?_ (.long hname)
        intro output
        split <;> simp
      · exact Or.inl ⟨_, rfl⟩
    · exact Or.inl ⟨_, rfl⟩

theorem readLetters_ends {c : Char} {r : Text} (h : ∀ v, ¬OutputOption ('-' :: c :: r) v) (s : State) :
    EndsReading ('-' :: c :: r) (readLetters s (c :: r)) := by
  by_cases ho : c = 'o'
  · subst ho
    by_cases hr : r = []
    · exact absurd (hr ▸ .letter) (h none)
    · exact absurd (.letterAttached hr) (h _)
  · by_cases hhelp : c = 'h'
    · subst hhelp
      exact .of_finish s (by simp) (.letter (Or.inl rfl) r)
    · by_cases hversion : c = 'V'
      · subst hversion
        exact .of_finish s (by simp) (.letter (Or.inr rfl) r)
      · exact Or.inl ⟨.unknownArgument ['-', c], by simp [readLetters]⟩

/-- an argument that is neither the option nor a value ends all reading -/
theorem readArgument_ends (hvalue : ¬Value a) (hoption : ∀ v, ¬OutputOption a v) (s : State) :
    EndsReading a (readArgument s a) := by
  obtain ⟨r, rfl⟩ : ∃ r, a = '-' :: r := by
    cases a with
    | nil => exact absurd (Or.inr (by simp)) hvalue
    | cons c r =>
      by_cases hc : c = '-'
      · exact ⟨r, hc ▸ rfl⟩
      · exact absurd (Or.inr (by simpa using hc)) hvalue
  cases r with
  | nil => exact absurd (Or.inl rfl) hvalue
  | cons c r =>
    by_cases hc : c = '-'
    · subst hc
      exact readLong_ends hoption s
    · have hletters : readArgument s ('-' :: c :: r) = readLetters s (c :: r) := by simp [readArgument]
      rw [hletters]
      exact readLetters_ends hoption s

/-! ## All arguments -/

theorem read_optionsEnd :
    read s (optionsEnd :: rest) = .ok (.schema output) ↔ rest = [] ∧ conclude s = .ok (.schema output) := by
  cases rest with
  | nil => simp [read, optionsEnd]
  | cons b rest => simp [read, optionsEnd]

theorem read_cons (h : a ≠ optionsEnd) (s : State) (rest : List Text) :
    read s (a :: rest) = match readArgument s a with
      | .error e => .error e
      | .ok (.finished r) => .ok r
      | .ok (.next s) => read s rest := by
  rw [read.eq_def]
  exact if_neg h

/-- what an argument can do in a reading at whose end the schema is asked for -/
theorem read_cons_iff : read s (a :: rest) = .ok (.schema output) ↔
    (a = optionsEnd ∧ rest = [] ∧ conclude s = .ok (.schema output)) ∨
      (∃ attached s', OutputOption a attached ∧ s.option attached = .ok s' ∧ read s' rest = .ok (.schema output)) ∨
      (Value a ∧ s.pending = .awaiting ∧ read { s with pending := .given a } rest = .ok (.schema output)) := by
  by_cases hend : a = optionsEnd
  · subst hend
    have hoption : ∀ v, ¬OutputOption optionsEnd v := fun v h => h.ne_optionsEnd rfl
    simp [read_optionsEnd, hoption, not_value_optionsEnd]
  · simp only [hend, false_and, false_or, read_cons hend]
    by_cases hvalue : Value a
    · have hoption : ∀ v, ¬OutputOption a v := fun v h => h.not_value hvalue
      rw [readArgument_of_value hvalue, readValue]
      cases s.pending <;> simp [hoption, hvalue]
    · by_cases hoption : ∃ v, OutputOption a v
      · simp only [hvalue, false_and, or_false]
        constructor
        · intro h
          obtain ⟨v, hv⟩ := hoption
          rw [readArgument_of_option hv] at h
          cases hs : s.option v with
          | error e => simp [hs, Except.map] at h
          | ok s' => exact ⟨v, s', hv, hs, by simpa [hs, Except.map] using h⟩
        · intro h
          obtain ⟨v, s', hv, hs, hread⟩ := h
          rw [readArgument_of_option hv, hs]
          exact hread
      · rw [not_exists] at hoption
        simp only [hvalue, hoption, false_and, exists_false, or_false, iff_false]
        rcases readArgument_ends hvalue hoption s with ⟨e, he⟩ | ⟨r, hr, hne, -⟩
        · simp [he]
        · simp [hr, hne]

theorem read_nil : read s [] = conclude s := rfl

/-! ## What a state can take -/

theorem accept_eq_ok_iff : s.accept v = .ok s' ↔ s.output = none ∧ v ≠ [] ∧ s' = ⟨some v, .nothing⟩ := by
  unfold State.accept
  cases s.output with
  | some p => simp
  | none => by_cases hv : v = [] <;> simp [hv, eq_comm]

theorem settle_eq_ok_iff : s.settle = .ok s' ↔
    (s.pending = .nothing ∧ s' = s) ∨
      ∃ v, s.pending = .given v ∧ s.output = none ∧ v ≠ [] ∧ s' = ⟨some v, .nothing⟩ := by
  unfold State.settle
  cases s.pending with
  | nothing => simp [eq_comm]
  | awaiting => simp
  | given v => simp [accept_eq_ok_iff]

theorem option_eq_ok_iff : s.option attached = .ok s' ↔ ∃ t, s.settle = .ok t ∧
    ((attached = none ∧ s' = { t with pending := .awaiting }) ∨
      ∃ v, attached = some v ∧ t.output = none ∧ v ≠ [] ∧ s' = ⟨some v, .nothing⟩) := by
  unfold State.option
  cases s.settle with
  | error e => simp
  | ok t =>
    cases attached with
    | none => simp [eq_comm]
    | some v => simp [accept_eq_ok_iff]

theorem conclude_eq_ok_iff : conclude s = .ok (.schema output) ↔ ∃ t, s.settle = .ok t ∧ t.output = output := by
  unfold conclude
  cases s.settle <;> simp

theorem conclude_start_iff : conclude .start = .ok (.schema output) ↔ output = none := by
  rw [conclude_eq_ok_iff]
  constructor
  · rintro ⟨t, ht, rfl⟩
    obtain rfl : State.start = t := Except.ok.inj ht
    rfl
  · rintro rfl
    exact ⟨.start, rfl, rfl⟩

/-! ## What may still come -/

/-- a state that no argument can settle, unless one is a value that the option awaits for the first time -/
def Doomed (s : State) : Prop := (∀ t, s.settle ≠ .ok t) ∧ (s.pending = .awaiting → s.output.isSome = true)

theorem doomed_of_awaiting {p : Text} : Doomed ⟨some p, .awaiting⟩ := by
  simp [Doomed, settle_eq_ok_iff]

theorem doomed_of_given {p : Text} : Doomed ⟨some p, .given v⟩ := by
  simp [Doomed, settle_eq_ok_iff]

theorem doomed_of_empty : Doomed ⟨none, .given []⟩ := by
  simp [Doomed, settle_eq_ok_iff]

/-- nothing that follows makes up for a second option or an empty value -/
theorem read_ne_of_doomed (h : Doomed s) (args : List Text) : read s args ≠ .ok (.schema output) := by
  induction args generalizing s with
  | nil =>
    intro hread
    obtain ⟨t, ht, -⟩ := conclude_eq_ok_iff.1 hread
    exact h.1 t ht
  | cons a rest ih =>
    intro hread
    rcases read_cons_iff.1 hread with ⟨-, -, hend⟩ | ⟨v, s', -, hs, -⟩ | ⟨-, hawaiting, hread⟩
    · obtain ⟨t, ht, -⟩ := conclude_eq_ok_iff.1 hend
      exact h.1 t ht
    · obtain ⟨t, ht, -⟩ := option_eq_ok_iff.1 hs
      exact h.1 t ht
    · obtain ⟨p, hp⟩ := Option.isSome_iff_exists.1 (h.2 hawaiting)
      rw [hp] at hread
      exact ih doomed_of_given hread

/-- once there is an output, only the end of the options may come -/
theorem read_settled_iff {p : Text} (h : s.settle = .ok ⟨some p, .nothing⟩) :
    read s args = .ok (.schema output) ↔ output = some p ∧ Ended args := by
  have hconclude : conclude s = .ok (.schema output) ↔ output = some p := by
    rw [conclude_eq_ok_iff, h]
    simp [eq_comm]
  cases args with
  | nil => simp [read_nil, hconclude, Ended]
  | cons a rest =>
    rw [read_cons_iff, hconclude]
    constructor
    · rintro (⟨rfl, rfl, houtput⟩ | ⟨v, s', -, hs, hread⟩ | ⟨-, hawaiting, -⟩)
      · exact ⟨houtput, Or.inr rfl⟩
      · -- a second option is refused with its value: at once, or with the argument that comes next
        obtain ⟨t, ht, hs⟩ := option_eq_ok_iff.1 hs
        obtain rfl := Except.ok.inj (h.symm.trans ht)
        rcases hs with ⟨-, rfl⟩ | ⟨v, -, hnone, -⟩
        · exact absurd hread (read_ne_of_doomed doomed_of_awaiting rest)
        · exact absurd hnone (by simp)
      · rcases settle_eq_ok_iff.1 h with ⟨hnothing, -⟩ | ⟨v, hgiven, -⟩
        · exact absurd (hnothing.symm.trans hawaiting) (by simp)
        · exact absurd (hgiven.symm.trans hawaiting) (by simp)
    · rintro ⟨houtput, hended⟩
      rcases hended with hnil | hend
      · exact absurd hnil (by simp)
      · obtain ⟨rfl, rfl⟩ := List.cons.inj hend
        exact Or.inl ⟨rfl, rfl, houtput⟩

theorem read_given_iff {p : Text} :
    read ⟨none, .given p⟩ args = .ok (.schema output) ↔ p ≠ [] ∧ output = some p ∧ Ended args := by
  by_cases hp : p = []
  · subst hp
    simp [read_ne_of_doomed doomed_of_empty]
  · rw [read_settled_iff (settle_eq_ok_iff.2 (Or.inr ⟨p, rfl, rfl, hp, rfl⟩))]
    simp [hp]

theorem read_awaiting_iff : read ⟨none, .awaiting⟩ args = .ok (.schema output) ↔
    ∃ p rest, args = p :: rest ∧ Value p ∧ p ≠ [] ∧ output = some p ∧ Ended rest := by
  have hsettle : ∀ t, (⟨none, .awaiting⟩ : State).settle ≠ .ok t := by simp [settle_eq_ok_iff]
  cases args with
  | nil => simp [read_nil, conclude_eq_ok_iff, hsettle]
  | cons a rest =>
    rw [read_cons_iff]
    simp only [conclude_eq_ok_iff, option_eq_ok_iff, hsettle, read_given_iff, false_and, and_false, exists_false,
      false_or, true_and, List.cons.injEq]
    constructor
    · intro h
      exact ⟨a, rest, ⟨rfl, rfl⟩, h⟩
    · rintro ⟨p, r, ⟨rfl, rfl⟩, h⟩
      exact h

theorem read_ended {rest : List Text} (h : Ended rest) (hconclude : conclude s = .ok (.schema output)) :
    read s rest = .ok (.schema output) := by
  rcases h with rfl | rfl
  · exact hconclude
  · exact read_optionsEnd.2 ⟨rfl, hconclude⟩

theorem read_start_iff : read .start args = .ok (.schema output) ↔ Accepted args output := by
  constructor
  · intro h
    cases args with
    | nil =>
      obtain rfl := conclude_start_iff.1 h
      exact ⟨[], [], rfl, .nothing, Or.inl rfl⟩
    | cons a rest =>
      rcases read_cons_iff.1 h with ⟨rfl, rfl, hend⟩ | ⟨attached, s', hoption, hs, hread⟩ | ⟨-, hawaiting, -⟩
      · obtain rfl := conclude_start_iff.1 hend
        exact ⟨[], [optionsEnd], rfl, .nothing, Or.inr rfl⟩
      · obtain ⟨t, ht, ⟨rfl, rfl⟩ | ⟨p, rfl, -, hne, rfl⟩⟩ := option_eq_ok_iff.1 hs
        · obtain rfl : State.start = t := Except.ok.inj ht
          obtain ⟨p, rest, rfl, hvalue, hne, rfl, hended⟩ := read_awaiting_iff.1 hread
          exact ⟨[a, p], rest, rfl, .apart hoption hvalue hne, hended⟩
        · obtain ⟨rfl, hended⟩ := (read_settled_iff rfl).1 hread
          exact ⟨[a], rest, rfl, .attached hoption hne, hended⟩
      · exact absurd hawaiting (by simp [State.start])
  · rintro ⟨front, rest, rfl, hgives, hended⟩
    cases hgives with
    | nothing => exact read_ended hended (conclude_start_iff.2 rfl)
    | apart hoption hvalue hne =>
      refine read_cons_iff.2 (Or.inr (Or.inl ⟨none, ⟨none, .awaiting⟩, hoption, rfl, ?_⟩))
      exact read_awaiting_iff.2 ⟨_, rest, rfl, hvalue, hne, rfl, hended⟩
    | @attached option p hoption hne =>
      refine read_cons_iff.2 (Or.inr (Or.inl ⟨some p, ⟨some p, .nothing⟩, hoption, ?_, ?_⟩))
      · exact option_eq_ok_iff.2 ⟨.start, rfl, Or.inr ⟨p, rfl, rfl, hne, rfl⟩⟩
      · exact (read_settled_iff rfl).2 ⟨rfl, hended⟩

theorem accepted_none_iff : Accepted args none ↔ Ended args := by
  constructor
  · rintro ⟨front, rest, rfl, hgives, hended⟩
    cases hgives with
    | nothing => exact hended
  · intro h
    exact ⟨[], args, rfl, .nothing, h⟩

/-! ## Faults -/

theorem Ended.eq_optionsEnd {before after : List Text} (h : Ended (before ++ a :: after)) :
    a = optionsEnd ∧ after = [] := by
  rcases h with h | h
  · exact absurd h (by simp)
  · simp [List.append_eq_singleton_iff] at h
    exact h.2

/-- every argument of an accepted vector has its place in it -/
theorem Accepted.place {before after : List Text} (h : Accepted (before ++ a :: after) output) :
    (a = optionsEnd ∧ after = []) ∨ ((∃ v, OutputOption a v) ∧ before = []) ∨
      (Value a ∧ ∃ option, before = [option] ∧ OutputOption option none) := by
  obtain ⟨front, rest, heq, hgives, hended⟩ := h
  cases hgives with
  | nothing =>
    rw [List.nil_append] at heq
    exact Or.inl (heq ▸ hended).eq_optionsEnd
  | @apart option value hoption hvalue =>
    have heq : before ++ a :: after = option :: value :: rest := heq
    rcases List.append_eq_cons_iff.1 heq with ⟨rfl, h⟩ | ⟨more, rfl, hrest⟩
    · obtain ⟨rfl, -⟩ := List.cons.inj h
      exact Or.inr (Or.inl ⟨⟨none, hoption⟩, rfl⟩)
    · rcases List.append_eq_cons_iff.1 hrest.symm with ⟨rfl, h⟩ | ⟨more, rfl, rfl⟩
      · obtain ⟨rfl, -⟩ := List.cons.inj h
        exact Or.inr (Or.inr ⟨hvalue, option, rfl, hoption⟩)
      · exact Or.inl hended.eq_optionsEnd
  | @attached option value hoption =>
    rcases List.append_eq_cons_iff.1 heq with ⟨rfl, h⟩ | ⟨more, rfl, rfl⟩
    · obtain ⟨rfl, -⟩ := List.cons.inj h
      exact Or.inr (Or.inl ⟨⟨some value, hoption⟩, rfl⟩)
    · exact Or.inl hended.eq_optionsEnd

theorem Accepted.not_faulty (h : Accepted args output) : ¬Faulty args := by
  intro hfaulty
  cases hfaulty with
  | stray ha hbefore =>
    rcases h.place with ⟨rfl, -⟩ | ⟨⟨v, hv⟩, -⟩ | ⟨-, option, rfl, hoption⟩
    · exact not_value_optionsEnd ha
    · exact hv.not_value ha
    · exact hbefore option rfl hoption
  | afterEnd hafter =>
    rcases h.place with ⟨-, rfl⟩ | ⟨⟨v, hv⟩, -⟩ | ⟨hvalue, -⟩
    · exact hafter rfl
    · exact hv.ne_optionsEnd rfl
    · exact not_value_optionsEnd hvalue
  | unknown hvalue hoption hend =>
    rcases h.place with ⟨rfl, -⟩ | ⟨⟨v, hv⟩, -⟩ | ⟨ha, -⟩
    · exact hend rfl
    · exact hoption v hv
    · exact hvalue ha
  | @twice before between after a b v w ha hb =>
    -- the second option does not stand at the front
    have hsecond : Accepted ((before ++ a :: between) ++ b :: after) output := by simpa using h
    rcases hsecond.place with ⟨rfl, -⟩ | ⟨-, hnil⟩ | ⟨hvalue, -⟩
    · exact hb.ne_optionsEnd rfl
    · exact absurd hnil (by simp)
    · exact hb.not_value hvalue

/-! ## Refusals -/

theorem tellOption_of_finished {r : Request} (h : readArgument s a = .ok (.finished r)) : TellOption a := by
  by_cases hvalue : Value a
  · rw [readArgument_of_value hvalue, readValue] at h
    split at h <;> simp at h
  · by_cases hoption : ∃ v, OutputOption a v
    · obtain ⟨v, hv⟩ := hoption
      rw [readArgument_of_option hv] at h
      cases hs : s.option v <;> simp [hs, Except.map] at h
    · rw [not_exists] at hoption
      rcases readArgument_ends hvalue hoption s with ⟨e, he⟩ | ⟨r, -, -, htell⟩
      · exact absurd (he.symm.trans h) (by simp)
      · exact htell

theorem exists_of_conclude {r : Request} (h : conclude s = .ok r) : ∃ output, r = .schema output := by
  unfold conclude at h
  split at h
  · exact absurd h (by simp)
  · exact ⟨_, (Except.ok.inj h).symm⟩

/-- nothing but the schema is given unless an argument asks for it -/
theorem exists_tellOption {r : Request} (h : read s args = .ok r) (hr : ∀ output, r ≠ .schema output) :
    ∃ a ∈ args, TellOption a := by
  induction args generalizing s with
  | nil =>
    obtain ⟨output, rfl⟩ := exists_of_conclude h
    exact absurd rfl (hr output)
  | cons a rest ih =>
    by_cases hend : a = optionsEnd
    · subst hend
      cases rest with
      | nil =>
        obtain ⟨output, rfl⟩ := exists_of_conclude (h : conclude s = .ok r)
        exact absurd rfl (hr output)
      | cons b rest => exact absurd h (by simp [read, optionsEnd])
    · rw [read_cons hend] at h
      split at h
      · exact absurd h (by simp)
      · rename_i hfinished
        exact ⟨a, List.mem_cons_self, tellOption_of_finished hfinished⟩
      · obtain ⟨b, hb, htell⟩ := ih h
        exact ⟨b, List.mem_cons_of_mem a hb, htell⟩

theorem refused_of_not_accepted (h : ∀ output, ¬Accepted args output) : Refused args := by
  cases hparse : parse args with
  | error e => exact Or.inl ⟨e, hparse⟩
  | ok r =>
    have hr : ∀ output, r ≠ .schema output := by
      rintro output rfl
      exact h output (read_start_iff.1 hparse)
    exact Or.inr ⟨r, hparse, hr, exists_tellOption hparse hr⟩

/-- **The command line accepts exactly one language.** The schema goes to standard output if there are no arguments, or
only the end of the options; it goes to the value of the option if that is given once, with nothing after it but the end
of the options; and every other vector of arguments is refused, whatever its length. So is every vector with an argument
that no option awaits or that follows the end of the options, with an unknown option, or with a second one. -/
theorem parse_language (args : List Text) :
    (parse args = .ok (.schema none) ↔ args = [] ∨ args = [optionsEnd]) ∧
      (∀ output, parse args = .ok (.schema output) ↔ Accepted args output) ∧
      ((∀ output, ¬Accepted args output) → Refused args) ∧ (Faulty args → Refused args) := by
  refine ⟨read_start_iff.trans accepted_none_iff, fun output => read_start_iff, refused_of_not_accepted, fun h => ?_⟩
  exact refused_of_not_accepted fun output haccepted => haccepted.not_faulty h

/-- the version is asked for before an argument that has no place, and a second option follows a value -/
theorem parse_language_refusals :
    let told := ["-V".toList, "x".toList]
    let twice := ["-o".toList, "-".toList, "--output=b".toList]
    (∀ output, ¬Accepted told output) ∧ Refused told ∧ Faulty twice ∧ Refused twice := by
  intro told twice
  obtain ⟨-, hexact, hother, -⟩ := parse_language told
  have hparse : parse told = .ok .version := rfl
  have htold : ∀ output, ¬Accepted told output := by
    intro output h
    rw [← hexact output, hparse] at h
    exact absurd h (by simp)
  have htwice : Faulty twice := @Faulty.twice [] ["-".toList] [] _ _ _ _ .letter (.longAttached "b".toList)
  exact ⟨htold, hother htold, htwice, (parse_language twice).2.2.2 htwice⟩

example : parse ["-o=-x".toList, "--".toList] = .ok (.schema (some "-x".toList)) := rfl

end PowerPrefs.CommandLine
