/-
Generation: from the inputs in a file system to the document, and from the document to the schema.

The constants listing is read first. Then, key by key in order of declaration, the default file of the key is read if
it is a regular file; anything else at its path, or nothing, means that the key has no default. The first default file
that cannot be read as text ends the generation. The events on the way are part of the outcome, and a generation that
fails has reported those up to the failure.
-/
import PowerPrefs.Listing
import PowerPrefs.DefaultValue
import PowerPrefs.Schema
import PowerPrefs.Event
import PowerPrefs.Failure
import PowerPrefs.FileSystem.Access

namespace PowerPrefs

/-- the events of an activity, and how it ends -/
structure Report (α : Type) where
  events : List Event
  result : Except Failure α

namespace Generation

/-- the default value in the file at `p`, if there is a regular file -/
def readDefault (fs : FileSystem) (p : Path) : Except Failure (Option Text) :=
  if fs.isRegularFile p then
    match fs.readText p with
    | .ok content => .ok (some (DefaultValue.ofContent content))
    | .error e => .error (.defaultUnreadable p e)
  else .ok none

/-- the entries of the keys, up to the first default that cannot be read -/
def readEntries (fs : FileSystem) (inputs : Inputs) : List Text → Report (List Entry)
  | [] => ⟨[], .ok []⟩
  | key :: rest =>
    match readDefault fs (inputs.defaultPath key) with
    | .error f => ⟨[], .error f⟩
    | .ok default =>
      let later := readEntries fs inputs rest
      ⟨.extracted key default.isSome :: later.events, later.result.map (Entry.new key default :: ·)⟩

/-- a listing that declares nothing is worth a warning -/
def emptinessEvents (keys : List Text) : List Event := if keys = [] then [.noDeclarations] else []

def collisionEvents (d : Document) : List Event := d.collisions.map fun (name, keys) => .collision name keys

end Generation

open Generation

/-- the document that the inputs give -/
def generate (fs : FileSystem) (inputs : Inputs) : Report Document :=
  match fs.readText inputs.constantsFile with
  | .error e => ⟨[], .error (.constantsUnreadable inputs.constantsFile e)⟩
  | .ok listing =>
    let keys := Listing.keys listing
    let read := readEntries fs inputs keys
    match read.result with
    | .error f => ⟨emptinessEvents keys ++ read.events, .error f⟩
    | .ok entries =>
      let document : Document := ⟨entries⟩
      ⟨emptinessEvents keys ++ read.events ++ collisionEvents document, .ok document⟩

namespace Schema

/-- one event for each default that is not written as it is -/
def renderEvents (d : Document) : List Event := (escapedEntries d).map fun e => .escaped e.name

/-- the text of the schema, with the events of writing it down -/
def report (d : Document) : Report Text := ⟨renderEvents d, .ok (render d)⟩

end Schema

/-- the schema that the inputs give -/
def generateSchema (fs : FileSystem) (inputs : Inputs) : Report Text :=
  let generated := generate fs inputs
  match generated.result with
  | .error f => ⟨generated.events, .error f⟩
  | .ok document => ⟨generated.events ++ Schema.renderEvents document, .ok (Schema.render document)⟩

end PowerPrefs
