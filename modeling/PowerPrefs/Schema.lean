/-
The schema: a YAML text of two blocks. The first describes a pref without a default and anchors that description; the
second, also anchored, maps the name of each pref of a document, in order, to the description alone or to the
description with a quoted default added.

`Schema.lines` is the text line by line and `Schema.render` the text itself, which has no line feed at its end.
- `length_lines`: five lines of heading, then one line for each entry without a default and three for each with one.
-/
import PowerPrefs.Document
import PowerPrefs.Schema.Scalar

namespace PowerPrefs.Schema

/-- anchor of the shared description -/
def descriptionAnchor : Text := "powerd_prefs_default".toList

/-- anchor of the mapping of all prefs -/
def prefsAnchor : Text := "powerd_prefs".toList

def description : Text :=
  "For details, see https://chromium.googlesource.com/chromiumos/platform2/+/HEAD/power_manager/".toList

/-- a key whose value is a block with an anchor of the same name -/
def anchoredKey (anchor : Text) : Text := anchor ++ ": &".toList ++ anchor

def heading : List Text :=
  [anchoredKey descriptionAnchor, "  description: ".toList ++ description, "  type: string".toList, [],
    anchoredKey prefsAnchor]

def entryLines (e : Entry) : List Text :=
  match e.default with
  | some value =>
    ["  ".toList ++ e.name ++ ":".toList, "    <<: *".toList ++ descriptionAnchor,
      "    default: ".toList ++ Scalar.quoted value]
  | none => ["  ".toList ++ e.name ++ ": *".toList ++ descriptionAnchor]

def lines (d : Document) : List Text := heading ++ d.entries.flatMap entryLines

def render (d : Document) : Text := Text.joinLines (lines d)

/-- the entries whose default does not stand in the schema as it is -/
def escapedEntries (d : Document) : List Entry :=
  d.entries.filter fun e => e.default.any fun value => Scalar.escape value ≠ value

theorem length_lines (d : Document) :
    (lines d).length =
      5 + (d.entries.filter fun e => !e.hasDefault).length + 3 * (d.entries.filter Entry.hasDefault).length := by
  obtain ⟨es⟩ := d
  simp only [lines, List.length_append, show heading.length = 5 from rfl]
  induction es with
  | nil => rfl
  | cons e r ih =>
    cases hd : e.default with
    | none => simp [entryLines, Entry.hasDefault, hd] at ih ⊢; omega
    | some v => simp [entryLines, Entry.hasDefault, hd] at ih ⊢; omega

end PowerPrefs.Schema
