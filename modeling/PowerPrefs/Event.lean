/-
Events: what the generator reports while it works, apart from its result. Each event has a level, the component that
reports it, a message and named fields, and is reported inside the generation of a document or outside.
-/
import PowerPrefs.Inputs
import PowerPrefs.Text.Quoted

namespace PowerPrefs

/-- how urgent an event is -/
inductive Level where
  | error
  | warn
  | info
  | debug
  | trace
deriving DecidableEq, Repr

namespace Level

/-- the more a level has to say, the higher its number -/
def rank : Level → Nat
  | .error => 1
  | .warn => 2
  | .info => 3
  | .debug => 4
  | .trace => 5

def name : Level → Text
  | .error => "ERROR".toList
  | .warn => "WARN".toList
  | .info => "INFO".toList
  | .debug => "DEBUG".toList
  | .trace => "TRACE".toList

end Level

/-- the parts of the program that report events -/
inductive Reporter where
  | command
  | generator
  | renderer
  | writer
deriving DecidableEq, Repr

/-- the name by which a log setting refers to a part of the program -/
def Reporter.name : Reporter → Text
  | .command => "prefs_schema".toList
  | .generator => "prefs_schema_core::generator".toList
  | .renderer => "prefs_schema_core::render".toList
  | .writer => "prefs_schema_core::emit".toList

/-- a value in an event: a text shown as it is, a text shown in quotes, or yes and no -/
inductive FieldValue where
  | plain (t : Text)
  | quoted (t : Text)
  | flag (b : Bool)
deriving DecidableEq, Repr

inductive Event where
  /-- the places of the inputs were made out -/
  | resolved (inputs : Inputs)
  /-- the constants listing declares nothing -/
  | noDeclarations
  /-- the default of a declared key, if it has one, was read -/
  | extracted (key : Text) (hasDefault : Bool)
  /-- several keys have this name -/
  | collision (name : Text) (keys : List Text)
  /-- the default of the entry with this name is not written as it is -/
  | escaped (name : Text)
  /-- the schema was written to a file -/
  | written (path : Path)
deriving DecidableEq, Repr

namespace Event

def level : Event → Level
  | .resolved _ => .debug
  | .noDeclarations => .warn
  | .extracted _ _ => .debug
  | .collision _ _ => .warn
  | .escaped _ => .debug
  | .written _ => .info

def reporter : Event → Reporter
  | .resolved _ => .command
  | .noDeclarations => .generator
  | .extracted _ _ => .generator
  | .collision _ _ => .generator
  | .escaped _ => .renderer
  | .written _ => .writer

/-- the event belongs to the generation of a document -/
def inGeneration (e : Event) : Bool := e.reporter = .generator

def message : Event → Text
  | .resolved _ => "resolved inputs".toList
  | .noDeclarations => "no pref declarations found, the schema will have no prefs".toList
  | .extracted _ _ => "extracted pref".toList
  | .collision _ _ => "multiple prefs map to the same schema name".toList
  | .escaped _ => "escaped quotes or backslashes in default".toList
  | .written _ => "wrote prefs schema".toList

def fields : Event → List (Text × FieldValue)
  | .resolved inputs =>
    [("constants_file".toList, .plain inputs.constantsFile.text),
      ("defaults_dir".toList, .plain inputs.defaultsDir.text)]
  | .noDeclarations => []
  | .extracted key hasDefault => [("key".toList, .plain key), ("has_default".toList, .flag hasDefault)]
  | .collision name keys => [("name".toList, .quoted name), ("keys".toList, .plain (Text.quotedSet keys))]
  | .escaped name => [("name".toList, .plain name)]
  | .written path => [("path".toList, .plain path.text)]

/-- the names of the fields; the message counts as one -/
def fieldNames (e : Event) : List Text := "message".toList :: e.fields.map Prod.fst

end Event

end PowerPrefs
