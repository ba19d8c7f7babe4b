/-
Pref declarations, as they stand in the constants listing:

    const char kPluggedDimMsPref[] = "plugged_dim_ms";

A declaration is its pieces: the identifier up to the marker `Pref`, the two characters after the marker (brackets, but
any two are taken), one separator after the equals sign, spaces, and the key between quotes. The separator may be a
line feed, so that a long key may stand on the next line; nothing else crosses a line.

`Declaration.text` writes the pieces down again, and `Declaration.read?` finds them at the front of a text. Where the
pieces can be told apart in more than one way, the longest identifier wins, and then the longest key.

`Declaration.everyReading` reads at every place of a text. It first lists the keys, then the assignments, then the
identifiers with what follows them, each by the list before, so that a text is read in a few passes however many
openings and markers stand on a line.

Results:
- `Declaration.read?_sound`: what is read is well formed, and its text is what stood there.
- `Declaration.everyReading_eq`: the passes find at every place what `Declaration.read?` finds there.
- `Declaration.length_text_pos`: a declaration is never empty, so a search that passes over one moves on.
-/
import PowerPrefs.Text.Run

namespace PowerPrefs

open Text

/-! ## Pieces -/

/-- what a declaration gives its identifier: the key, and how it is laid out after the marker -/
structure Assignment where
  /-- the two characters after the marker -/
  first : Char
  second : Char
  /-- the character after the equals sign -/
  separator : Char
  /-- spaces between the separator and the opening quote -/
  gap : Nat
  key : Text
deriving DecidableEq, Repr

structure Declaration extends Assignment where
  /-- what stands between the opening words and the marker -/
  ident : Text
deriving DecidableEq, Repr

namespace Assignment

def marker : Text := "Pref".toList

def equals : Text := " =".toList

def separators : List Char := [' ', '|', '\n']

/-- the quote that ends a key, and the semicolon after it -/
def closing : Text := "\";".toList

/-- the pieces before the key -/
def beforeKey (a : Assignment) : Text :=
  marker ++ a.first :: a.second :: equals ++ a.separator :: List.replicate a.gap ' ' ++ ['"']

def text (a : Assignment) : Text := a.beforeKey ++ a.key ++ closing

structure WellFormed (a : Assignment) : Prop where
  first_ne : a.first ≠ '\n'
  second_ne : a.second ≠ '\n'
  separator_mem : a.separator ∈ separators
  key_oneLine : '\n' ∉ a.key

/-- the longest key that a closing quote ends, and the text after that -/
def readKey? : Text → Option (Text × Text) := longestRun closing.isPrefixOf?

/-- the assignment at the front of a text, and the text after it; `keyAt` tells the key so many characters on -/
def readWith? (keyAt : Nat → Option (Text × Text)) (s : Text) : Option (Assignment × Text) :=
  match marker.isPrefixOf? s with
  | some (first :: second :: s) =>
    if first = '\n' ∨ second = '\n' then none
    else match equals.isPrefixOf? s with
      | some (separator :: s) =>
        if separator ∈ separators then
          match s.dropWhile (· = ' ') with
          | '"' :: _ =>
            let a : Assignment := ⟨first, second, separator, (s.takeWhile (· = ' ')).length, []⟩
            (keyAt a.beforeKey.length).map fun (key, rest) => ({ a with key := key }, rest)
          | _ => none
        else none
      | _ => none
  | _ => none

/-- the assignment at the front of a text, and the text after it -/
def read? (s : Text) : Option (Assignment × Text) := readWith? (fun n => readKey? (s.drop n)) s

end Assignment

namespace Declaration

def opening : Text := "const char ".toList

/-- the pieces before the key -/
def beforeKey (d : Declaration) : Text := opening ++ d.ident ++ d.toAssignment.beforeKey

def text (d : Declaration) : Text := opening ++ d.ident ++ d.toAssignment.text

structure WellFormed (d : Declaration) : Prop extends d.toAssignment.WellFormed where
  ident_oneLine : '\n' ∉ d.ident

/-- the declaration at the front of a text, and the text after it; `runAt` tells the longest run up to an assignment,
and that assignment, so many characters on -/
def readWith? (runAt : Nat → Option (Text × Assignment × Text)) (s : Text) : Option (Declaration × Text) :=
  match opening.isPrefixOf? s with
  | some _ => (runAt opening.length).map fun (ident, a, rest) => (⟨a, ident⟩, rest)
  | none => none

/-- the declaration at the front of a text, and the text after it -/
def read? (s : Text) : Option (Declaration × Text) := readWith? (fun n => longestRun Assignment.read? (s.drop n)) s

/-- the declaration at every place of a text, and the text after it -/
def everyReading (s : Text) : List (Option (Declaration × Text)) :=
  let keys := longestRuns s (everywhere Assignment.closing.isPrefixOf? s)
  let assignments := everywhereWith Assignment.readWith? s keys
  let runs := longestRuns s assignments
  everywhereWith readWith? s runs

end Declaration

/-! ## What is read stood there -/

theorem takeWhile_eq_replicate (s : Text) :
    s.takeWhile (· = ' ') = List.replicate (s.takeWhile (· = ' ')).length ' ' := by
  induction s with
  | nil => rfl
  | cons c r ih =>
    by_cases hc : c = ' '
    · subst hc
      simpa [List.takeWhile_cons, List.replicate_succ] using ih
    · simp [hc]

namespace Assignment

theorem readKey?_sound {s key rest : Text} (h : readKey? s = some (key, rest)) :
    s = key ++ closing ++ rest ∧ '\n' ∉ key := by
  obtain ⟨r, rfl, hn, hr⟩ := longestRun_sound h
  rw [eq_append_of_isPrefixOf? hr]
  exact ⟨by simp, hn⟩

theorem read?_sound {s rest : Text} {a : Assignment} (h : read? s = some (a, rest)) :
    s = a.text ++ rest ∧ a.WellFormed := by
  unfold read? readWith? at h
  split at h
  · rename_i first second s₁ h₁
    split at h
    · exact absurd h (by simp)
    · rename_i hne
      split at h
      · rename_i separator s₂ h₂
        split at h
        · rename_i hsep
          split at h
          · rename_i r hr
            simp only [Option.map_eq_some_iff, Prod.mk.injEq] at h
            obtain ⟨⟨key, rest'⟩, hk, rfl, rfl⟩ := h
            simp only [not_or] at hne
            have hgap : s₂ = s₂.takeWhile (· = ' ') ++ s₂.dropWhile (· = ' ') :=
              List.takeWhile_append_dropWhile.symm
            rw [hr] at hgap
            have hs : s = beforeKey ⟨first, second, separator, (s₂.takeWhile (· = ' ')).length, []⟩ ++ r := by
              rw [eq_append_of_isPrefixOf? h₁, eq_append_of_isPrefixOf? h₂]
              conv => lhs; rw [hgap]
              simp [beforeKey, ← takeWhile_eq_replicate]
            rw [hs, List.drop_left] at hk
            obtain ⟨rfl, hkey⟩ := readKey?_sound hk
            refine ⟨?_, ⟨hne.1, hne.2, hsep, hkey⟩⟩
            rw [hs]
            simp [text, beforeKey]
          · exact absurd h (by simp)
        · exact absurd h (by simp)
      · exact absurd h (by simp)
  · exact absurd h (by simp)

end Assignment

namespace Declaration

theorem read?_sound {s rest : Text} {d : Declaration} (h : read? s = some (d, rest)) :
    s = d.text ++ rest ∧ d.WellFormed := by
  unfold read? readWith? at h
  split at h
  · rename_i s₁ h₁
    simp only [Option.map_eq_some_iff, Prod.mk.injEq] at h
    obtain ⟨⟨ident, a, rest'⟩, hl, rfl, rfl⟩ := h
    have hs := eq_append_of_isPrefixOf? h₁
    rw [hs, List.drop_left] at hl
    obtain ⟨r, rfl, hn, hr⟩ := longestRun_sound hl
    obtain ⟨rfl, hw⟩ := Assignment.read?_sound hr
    refine ⟨?_, ⟨hw, hn⟩⟩
    rw [hs]
    simp [text]
  · exact absurd h (by simp)

theorem length_text_pos (d : Declaration) : 0 < d.text.length := by
  have : 0 < opening.length := by decide
  simp only [text, List.length_append]
  omega

theorem length_rest_lt {s rest : Text} {d : Declaration} (h : read? s = some (d, rest)) :
    rest.length < s.length := by
  have hp := length_text_pos d
  rw [(read?_sound h).1, List.length_append]
  omega

/-! ## Reading at every place -/

theorem everyReading_eq (s : Text) : everyReading s = everywhere read? s := by
  have keys : longestRuns s (everywhere Assignment.closing.isPrefixOf? s) = everywhere Assignment.readKey? s :=
    longestRuns_everywhere _ s
  have assignments : everywhereWith Assignment.readWith? s (everywhere Assignment.readKey? s) =
      everywhere Assignment.read? s := everywhereWith_everywhere rfl _ s
  have runs : longestRuns s (everywhere Assignment.read? s) = everywhere (longestRun Assignment.read?) s :=
    longestRuns_everywhere _ s
  rw [everyReading, keys, assignments, runs]
  exact everywhereWith_everywhere rfl _ s

end Declaration

end PowerPrefs
