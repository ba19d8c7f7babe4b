/-
The log as lines of text: of each event that the log setting shows, the level, the span in which a document is
generated if that is shown, the message, and the fields as `name=value`.
-/
import PowerPrefs.Event.Filter

namespace PowerPrefs

def FieldValue.text : FieldValue → Text
  | .plain t => t
  | .quoted t => t.quoted
  | .flag true => "true".toList
  | .flag false => "false".toList

namespace Event

/-- the mark of an event from the generation of a document, which tells the constants file -/
def spanMark (inputs : Inputs) : Text :=
  LogFilter.generationSpan ++ '\x7b' :: LogFilter.generationField ++ '=' :: inputs.constantsFile.text ++ "\x7d: ".toList

def fieldText (field : Text × FieldValue) : Text := ' ' :: field.1 ++ '=' :: field.2.text

/-- the line of an event; `inputs` are those of the run -/
def line (filter : LogFilter) (inputs : Inputs) (e : Event) : Text :=
  e.level.name ++ ' ' :: (if e.inGeneration ∧ filter.showsSpan then spanMark inputs else []) ++ e.message ++
    e.fields.flatMap fieldText

end Event

/-- the lines of those events that are shown, in order -/
def LogFilter.lines (f : LogFilter) (inputs : Inputs) (events : List Event) : List Text :=
  let inside := f.spanVerbosity inputs
  (events.filter (f.shows inside)).map (Event.line f inputs)

end PowerPrefs
