/-
The document: the prefs in order of declaration, each with its key, the name it has in the schema, and the default value
if one is given. Names are written with hyphens where keys have underscores, so that two keys may come to share one
name; such names are the collisions.
- `Entry.new` names an entry after its key.
- `Document.collisions` lists every name that belongs to two different keys or more, with all of its keys.
-/
import PowerPrefs.Text.Sorted

namespace PowerPrefs

/-- a key with each underscore replaced by a hyphen -/
def hyphenate (key : Text) : Text := key.map fun c => if c = '_' then '-' else c

structure Entry where
  /-- the key as declared -/
  key : Text
  /-- the key of the entry's mapping in the schema -/
  name : Text
  default : Option Text
deriving DecidableEq, Repr

namespace Entry

/-- the entry of a key, under the name made from it -/
def new (key : Text) (default : Option Text) : Entry := ⟨key, hyphenate key, default⟩

def hasDefault (e : Entry) : Bool := e.default.isSome

end Entry

structure Document where
  entries : List Entry
deriving DecidableEq, Repr

namespace Document

def empty : Document := ⟨[]⟩

/-- with one more entry at the end -/
def push (d : Document) (e : Entry) : Document := ⟨d.entries ++ [e]⟩

/-- the names in use, each once, in increasing order -/
def names (d : Document) : List Text := Text.sortedSet (d.entries.map Entry.name)

/-- the keys that have this name, each once, in increasing order -/
def keysNamed (d : Document) (name : Text) : List Text :=
  Text.sortedSet ((d.entries.filter fun e => e.name == name).map Entry.key)

/-- the names that two or more keys have, with those keys -/
def collisions (d : Document) : List (Text × List Text) :=
  (d.names.map fun name => (name, d.keysNamed name)).filter fun (_, keys) => 1 < keys.length

theorem mem_names {d : Document} {n : Text} : n ∈ d.names ↔ ∃ e ∈ d.entries, e.name = n := by
  simp [names, Text.mem_sortedSet]

theorem mem_keysNamed {d : Document} {n k : Text} :
    k ∈ d.keysNamed n ↔ ∃ e ∈ d.entries, e.name = n ∧ e.key = k := by
  simp [keysNamed, Text.mem_sortedSet, and_assoc]

end Document

end PowerPrefs
