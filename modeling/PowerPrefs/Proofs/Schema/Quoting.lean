/-
Defaults as YAML reads them. Between its double quotes a scalar on one line is a row of pieces: characters that stand
for themselves, and escape sequences. Of the control characters only the tab may stand for itself.

`Body` is that grammar, and it says what a body stands for. A backslash before each quote and each backslash makes a
body of every value without control characters, and it stands for that value and for no other. A control character is
written as it is, so a value that holds one other than a tab gives a body that YAML does not read. Folding and trimming
take line endings away, and blanks at the ends, but let other control characters through.
- `escape_eq_self_iff`: which values are written as they are.
- `Body.of_backslash`, `Body.of_plain`: the ways to read the front of an escaped value.
- `body_escape_iff`: when an escaped value is a body, and what it stands for.
- `default_read_back_iff`: the same for the line of a default in a schema.
-/
import PowerPrefs.Proofs.Schema.Reading
import PowerPrefs.Text.Pattern.Escape

namespace PowerPrefs.Schema

namespace Scalar

open Text.Pattern.Escape (digitValue?)

/-! ## The grammar -/

/-- what may stand in a scalar: a tab, and every character from the space on -/
def Allowed (c : Char) : Prop := c = '\t' ∨ 0x20 ≤ c.toNat

instance (c : Char) : Decidable (Allowed c) := by
  unfold Allowed
  infer_instance

/-- what one character after a backslash stands for -/
def namedEscapes : List (Char × Char) :=
  [('0', '\x00'), ('a', '\x07'), ('b', '\x08'), ('t', '\t'), ('\t', '\t'), ('n', '\n'), ('v', '\x0b'), ('f', '\x0c'),
    ('r', '\r'), ('e', '\x1b'), (' ', ' '), ('"', '"'), ('/', '/'), ('\\', '\\'), ('N', '\u0085'), ('_', '\u00a0'),
    ('L', '\u2028'), ('P', '\u2029')]

/-- how many hexadecimal digits of a code point follow a letter after a backslash -/
def codeEscapes : List (Char × Nat) := [('x', 2), ('u', 4), ('U', 8)]

def codePoint (digits : List Nat) : Nat := digits.foldl (fun n d => 16 * n + d) 0

/-- a piece of a scalar, and the character that it stands for -/
inductive Piece : Text → Char → Prop where
  | plain {c : Char} (hallowed : Allowed c) (hquote : c ≠ '"') (hbackslash : c ≠ '\\') : Piece [c] c
  | named {mark c : Char} (h : (mark, c) ∈ namedEscapes) : Piece ['\\', mark] c
  | code {mark c : Char} {digits : Text} {values : List Nat} (hcount : (mark, digits.length) ∈ codeEscapes)
      (hdigits : digits.map digitValue? = values.map some) (hc : c.toNat = codePoint values) :
      Piece ('\\' :: mark :: digits) c

/-- what stands between the quotes of a scalar, and the value that it stands for -/
inductive Body : Text → Text → Prop where
  | nil : Body [] []
  | cons {piece body value : Text} {c : Char} (hpiece : Piece piece c) (hbody : Body body value) :
      Body (piece ++ body) (c :: value)

/-! ## Escaped values -/

variable {c mark : Char} {rest value v : Text}

theorem Body.of_nil (h : Body [] v) : v = [] := by
  generalize ht : ([] : Text) = t at h
  cases h with
  | nil => rfl
  | cons hpiece => cases hpiece <;> exact absurd ht (by simp)

/-- a backslash before a quote or a backslash can be read in one way only -/
theorem Body.of_backslash (hmark : mark = '\\' ∨ mark = '"') (h : Body ('\\' :: mark :: rest) v) :
    ∃ w, v = mark :: w ∧ Body rest w := by
  generalize ht : '\\' :: mark :: rest = t at h
  cases h with
  | nil => exact absurd ht (by simp)
  | cons hpiece hbody =>
    cases hpiece with
    | plain _ _ hbackslash => exact absurd (List.cons.inj ht).1.symm hbackslash
    | named hmem =>
      obtain ⟨rfl, rfl⟩ := List.cons.inj (List.cons.inj ht).2
      refine ⟨_, ?_, hbody⟩
      rcases hmark with rfl | rfl <;> simp_all [namedEscapes]
    | code hcount =>
      obtain ⟨rfl, -⟩ := List.cons.inj (List.cons.inj ht).2
      rcases hmark with rfl | rfl <;> simp [codeEscapes] at hcount

theorem Body.of_plain (hbackslash : c ≠ '\\') (h : Body (c :: rest) v) : Allowed c ∧ ∃ w, v = c :: w ∧ Body rest w := by
  generalize ht : c :: rest = t at h
  cases h with
  | nil => exact absurd ht (by simp)
  | cons hpiece hbody =>
    cases hpiece with
    | plain hallowed =>
      obtain ⟨rfl, rfl⟩ := List.cons.inj ht
      exact ⟨hallowed, _, rfl, hbody⟩
    | named => exact absurd (List.cons.inj ht).1 hbackslash
    | code => exact absurd (List.cons.inj ht).1 hbackslash

theorem escape_cons_of_mark (h : c = '\\' ∨ c = '"') (r : Text) : escape (c :: r) = '\\' :: c :: escape r := by
  rw [escape, if_pos h]

theorem escape_cons_of_ne (h : ¬(c = '\\' ∨ c = '"')) (r : Text) : escape (c :: r) = c :: escape r := by
  rw [escape, if_neg h]

theorem length_escape (value : Text) :
    (escape value).length = value.length + value.countP fun c => c = '\\' ∨ c = '"' := by
  induction value with
  | nil => rfl
  | cons c r ih =>
    by_cases h : c = '\\' ∨ c = '"'
    · rw [escape_cons_of_mark h, List.countP_cons_of_pos (by simpa using h)]
      simp only [List.length_cons, ih]
      omega
    · rw [escape_cons_of_ne h, List.countP_cons_of_neg (by simpa using h)]
      simp only [List.length_cons, ih]
      omega

theorem escape_eq_self_iff {value : Text} : escape value = value ↔ ¬('"' ∈ value ∨ '\\' ∈ value) := by
  constructor
  · intro h
    have hlength := length_escape value
    rw [h, Nat.left_eq_add, List.countP_eq_zero] at hlength
    rintro (hquote | hbackslash)
    · exact hlength '"' hquote (by decide)
    · exact hlength '\\' hbackslash (by decide)
  · intro h
    rw [not_or] at h
    induction value with
    | nil => rfl
    | cons c r ih =>
      simp only [List.mem_cons, not_or] at h
      rw [escape_cons_of_ne (by simp [Ne.symm h.1.1, Ne.symm h.2.1]), ih ⟨h.1.2, h.2.2⟩]

theorem allowed_of_mark (h : c = '\\' ∨ c = '"') : Allowed c := by
  rcases h with rfl | rfl <;> decide

theorem body_escape {value : Text} (h : ∀ c ∈ value, Allowed c) : Body (escape value) value := by
  induction value with
  | nil => exact .nil
  | cons c r ih =>
    have hrest := ih fun d hd => h d (List.mem_cons_of_mem c hd)
    by_cases hmark : c = '\\' ∨ c = '"'
    · rw [escape_cons_of_mark hmark]
      exact .cons (.named (by rcases hmark with rfl | rfl <;> decide)) hrest
    · rw [escape_cons_of_ne hmark]
      rw [not_or] at hmark
      exact .cons (.plain (h c List.mem_cons_self) hmark.2 hmark.1) hrest

theorem eq_of_body_escape {value v : Text} (h : Body (escape value) v) : v = value ∧ ∀ c ∈ value, Allowed c := by
  induction value generalizing v with
  | nil => exact ⟨h.of_nil, by simp⟩
  | cons c r ih =>
    obtain ⟨hallowed, w, rfl, hrest⟩ : Allowed c ∧ ∃ w, v = c :: w ∧ Body (escape r) w := by
      by_cases hmark : c = '\\' ∨ c = '"'
      · rw [escape_cons_of_mark hmark] at h
        exact ⟨allowed_of_mark hmark, h.of_backslash hmark⟩
      · rw [escape_cons_of_ne hmark] at h
        exact h.of_plain fun hc => hmark (Or.inl hc)
    obtain ⟨rfl, hr⟩ := ih hrest
    exact ⟨rfl, List.forall_mem_cons.2 ⟨hallowed, hr⟩⟩

theorem body_escape_iff : Body (escape value) v ↔ v = value ∧ ∀ c ∈ value, Allowed c := by
  constructor
  · exact eq_of_body_escape
  · rintro ⟨rfl, h⟩
    exact body_escape h

end Scalar

/-! ## The line of a default -/

open Scalar DefaultValue

theorem getLast?_entryLines (key name value : Text) :
    (entryLines ⟨key, name, some value⟩).getLast? = some (beforeValue ++ (escape value ++ ['"'])) := by
  rw [← valueLine_eq]
  rfl

/-- **A default reads back as its value exactly where no control character but the tab is in it.** On the last line of
its entry it stands between quotes, and what stands there is the body of a scalar if and only if the value holds no
other control character; then it is the body of that value alone. -/
theorem default_read_back_iff (key name content : Text) :
    ∃ body, (entryLines ⟨key, name, some (ofContent content)⟩).getLast? = some (beforeValue ++ (body ++ ['"'])) ∧
      ∀ value, Body body value ↔ value = ofContent content ∧ ∀ c ∈ ofContent content, Allowed c :=
  ⟨escape (ofContent content), getLast?_entryLines key name _, fun _ => body_escape_iff⟩

/-- a default file with a control character among its text gives a line that is no scalar -/
theorem default_unreadable_of_control :
    let content : Text := "x\x01y\n".toList
    ∃ body, (entryLines ⟨['a'], ['a'], some (ofContent content)⟩).getLast? = some (beforeValue ++ (body ++ ['"'])) ∧
      ¬∃ value, Body body value := by
  intro content
  refine ⟨_, getLast?_entryLines ['a'] ['a'] _, ?_⟩
  rintro ⟨value, h⟩
  have hallowed := (body_escape_iff.1 h).2 '\x01' (by decide)
  exact absurd hallowed (by decide)

end PowerPrefs.Schema
