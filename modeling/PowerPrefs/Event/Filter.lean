/-
Log settings: which events a log shows. A setting is a list of directives with commas between them. A setting of which
any directive cannot be read counts for nothing, and then warnings and errors are shown. The empty setting has no
directives and shows nothing.

A plain directive, which names no span and asks for no value, decides on events one by one. Of those that go for the
reporter of an event and ask for none but its fields, the most specific decides, and of two for the same the later.

A scoped directive, which names a span or asks for a field, goes for all that is reported inside the span, if the span
is shown itself. A document is generated inside such a span, which tells the constants file. It is shown if nothing in
the setting is too quiet for it (`ceiling`) and either a scoped directive goes for it or the plain ones let it through;
for these, the fields that they ask for do not matter.
-/
import PowerPrefs.Event.Directive

namespace PowerPrefs

/-- the directives of a setting, in the order given -/
structure LogFilter where
  directives : List Directive
deriving DecidableEq, Repr

namespace LogFilter

/-- shows warnings and errors -/
def standard : LogFilter := ⟨[⟨none, none, none, .warn⟩]⟩

def parse? (setting : Text) : Option LogFilter :=
  (((setting.split ',').filter (· ≠ [])).mapM Directive.parse?).map LogFilter.mk

/-- the filter that a setting asks for -/
def ofSetting (setting : Option Text) : LogFilter := (setting.bind parse?).getD standard

/-- the most any directive may let through: all if one asks for a value, which is known only when a span begins -/
def ceiling (f : LogFilter) : Verbosity :=
  if f.directives.any Directive.asksForValue then .all
  else .greatest (f.directives.map Directive.verbosity)

/-! ## Plain directives -/

/-- the more specific of two directives, or the second -/
def prefer (best : Option Directive) (d : Directive) : Option Directive :=
  match best with
  | some b => if b.outranks d then some b else some d
  | none => some d

/-- the level that the most specific of some directives gives -/
def decisive (ds : List Directive) : Verbosity :=
  match ds.foldl prefer none with
  | some d => d.verbosity
  | none => .off

def plain (f : LogFilter) (r : Reporter) : List Directive := f.directives.filter fun d => d.isPlain && d.concerns r

/-- what the plain directives let an event's reporter say with such fields -/
def verbosity (f : LogFilter) (e : Event) : Verbosity :=
  decisive ((f.plain e.reporter).filter fun d => d.asksForOneOf e.fieldNames)

/-! ## The generation of a document -/

/-- name of the span in which a document is generated -/
def generationSpan : Text := "generate".toList

/-- name of its only field -/
def generationField : Text := "constants_file".toList

/-- without those that a later one for the same replaces -/
def latest : List Directive → List Directive
  | [] => []
  | d :: r => if r.any d.sameScope then latest r else d :: latest r

/-- the scoped directives for the generation of a document -/
def spanDirectives (f : LogFilter) : List Directive :=
  latest (f.directives.filter fun d =>
    d.isScoped && d.concerns .generator && d.span.all (· = generationSpan) && d.asksForOneOf [generationField])

/-- events from the generation of a document are marked as such -/
def showsSpan (f : LogFilter) : Bool :=
  f.ceiling.shows .info && (!f.spanDirectives.isEmpty || (decisive (f.plain .generator)).shows .info)

/-- what the scoped directives let through inside the span; `inputs` are those of the run -/
def spanVerbosity (f : LogFilter) (inputs : Inputs) : Verbosity :=
  if f.showsSpan then
    .greatest ((f.spanDirectives.filter fun d => d.field.all fun t => t.holds inputs.constantsFile.text).map
      Directive.verbosity)
  else .off

/-- the event is shown; `inside` is what the scoped directives let through inside the span -/
def shows (f : LogFilter) (inside : Verbosity) (e : Event) : Bool :=
  (f.verbosity e).shows e.level || (e.inGeneration && inside.shows e.level)

end LogFilter

end PowerPrefs
