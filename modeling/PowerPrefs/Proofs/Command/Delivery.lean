/-
What a run leaves behind, apart from what it says on standard error: its exit code, its standard output and the file
system. A run delivers the whole schema or nothing.

`Does` has one rule for each way in which a run may end, and everything else is read off from it.
- `run_does`: a run ends in one of these ways.
- `effect_run_of_written`: a schema that is generated and can be written makes the run succeed.
- `effect_run_logSetting`: the log setting has no say in any of this.
- `run_all_or_nothing`: a run that fails leaves everything as it was, and one that succeeds has delivered the schema.
-/
import PowerPrefs.Command
import PowerPrefs.Proofs.Generation.Agreement

namespace PowerPrefs.Command

/-! ## Effects -/

/-- what a run leaves behind, without the log and the complaint -/
structure Effect where
  exitCode : Nat
  standardOutput : Text
  fileSystem : FileSystem

def Outcome.effect (o : Outcome) : Effect := ⟨o.exitCode, o.standardOutput, o.fileSystem⟩

/-- the inputs of a run are those of the checkout at the working directory -/
def Surroundings.inputs (s : Surroundings) : Inputs := Inputs.ofRoot (workingPath s.fileSystem)

/-- how the generation of the schema ends -/
def Surroundings.schema (s : Surroundings) : Except Failure Text := (generateSchema s.fileSystem s.inputs).result

/-- the run fails and changes nothing -/
def Surroundings.failed (s : Surroundings) : Effect := ⟨failureCode, [], s.fileSystem⟩

variable {s : Surroundings} {schema : Text}

theorem effect_produce_of_error {f : Failure} (h : s.schema = .error f) (output : Option Text) :
    (produce s output).effect = s.failed := by
  have hgen : (generateSchema s.fileSystem (Inputs.ofRoot (workingPath s.fileSystem))).result = .error f := h
  unfold produce
  simp only [hgen]
  rfl

theorem effect_produce_none (h : s.schema = .ok schema) :
    (produce s none).effect =
      match s.sink with
      | .taking => ⟨0, Output.written schema, s.fileSystem⟩
      | .full => s.failed := by
  have hgen : (generateSchema s.fileSystem (Inputs.ofRoot (workingPath s.fileSystem))).result = .ok schema := h
  unfold produce
  simp only [hgen, deliver]
  cases s.sink <;> rfl

theorem effect_produce_some (h : s.schema = .ok schema) (path : Text) :
    (produce s (some path)).effect =
      match s.fileSystem.writeText ⟨path⟩ (Output.written schema) with
      | .ok after => ⟨0, [], after⟩
      | .error _ => s.failed := by
  have hgen : (generateSchema s.fileSystem (Inputs.ofRoot (workingPath s.fileSystem))).result = .ok schema := h
  unfold produce
  simp only [hgen, deliver, Output.toFile]
  cases s.fileSystem.writeText ⟨path⟩ (Output.written schema) <;> rfl

theorem effect_run_schema {output : Option Text} (h : CommandLine.parse s.args = .ok (.schema output)) :
    (run s).effect = (produce s output).effect := by
  rw [run, h]

/-! ## The ways in which a run ends -/

inductive Does (s : Surroundings) : Effect → Prop where
  | failed : Does s s.failed
  /-- help or the version was asked for -/
  | told {text : Text} (h : ∀ output, CommandLine.parse s.args ≠ .ok (.schema output)) :
      Does s ⟨0, text, s.fileSystem⟩
  | printed {schema : Text} (hargs : CommandLine.parse s.args = .ok (.schema none)) (hschema : s.schema = .ok schema) :
      Does s ⟨0, Output.written schema, s.fileSystem⟩
  | wrote {schema path : Text} {after : FileSystem} (hargs : CommandLine.parse s.args = .ok (.schema (some path)))
      (hschema : s.schema = .ok schema)
      (hwrite : s.fileSystem.writeText ⟨path⟩ (Output.written schema) = .ok after) : Does s ⟨0, [], after⟩

theorem produce_does {output : Option Text} (hargs : CommandLine.parse s.args = .ok (.schema output)) :
    Does s (produce s output).effect := by
  cases h : s.schema with
  | error f =>
    rw [effect_produce_of_error h]
    exact .failed
  | ok schema =>
    cases output with
    | none =>
      rw [effect_produce_none h]
      cases s.sink with
      | taking => exact .printed hargs h
      | full => exact .failed
    | some path =>
      rw [effect_produce_some h]
      cases hwrite : s.fileSystem.writeText ⟨path⟩ (Output.written schema) with
      | ok after => exact .wrote hargs h hwrite
      | error e => exact .failed

theorem run_does (s : Surroundings) : Does s (run s).effect := by
  cases hargs : CommandLine.parse s.args with
  | error e =>
    rw [run, hargs]
    exact .failed
  | ok request =>
    cases request with
    | schema output =>
      rw [effect_run_schema hargs]
      exact produce_does hargs
    | shortHelp =>
      rw [run, hargs]
      exact .told (by simp [hargs])
    | longHelp =>
      rw [run, hargs]
      exact .told (by simp [hargs])
    | version =>
      rw [run, hargs]
      exact .told (by simp [hargs])

theorem effect_run_of_written {path : Text} {after : FileSystem}
    (hargs : CommandLine.parse s.args = .ok (.schema (some path))) (hschema : s.schema = .ok schema)
    (hwrite : s.fileSystem.writeText ⟨path⟩ (Output.written schema) = .ok after) : (run s).effect = ⟨0, [], after⟩ := by
  rw [effect_run_schema hargs, effect_produce_some hschema, hwrite]

theorem effect_produce_logSetting (s : Surroundings) (setting output : Option Text) :
    (produce { s with logSetting := setting } output).effect = (produce s output).effect := by
  let other : Surroundings := { s with logSetting := setting }
  cases h : s.schema with
  | error f =>
    have hother : other.schema = .error f := h
    exact (effect_produce_of_error hother output).trans (effect_produce_of_error h output).symm
  | ok schema =>
    have hother : other.schema = .ok schema := h
    cases output with
    | none => exact (effect_produce_none hother).trans (effect_produce_none h).symm
    | some path => exact (effect_produce_some hother path).trans (effect_produce_some h path).symm

/-- what is logged has no effect -/
theorem effect_run_logSetting (s : Surroundings) (setting : Option Text) :
    (run { s with logSetting := setting }).effect = (run s).effect := by
  unfold run
  dsimp only
  cases CommandLine.parse s.args with
  | error e => rfl
  | ok request =>
    cases request with
    | schema output => exact effect_produce_logSetting s setting output
    | shortHelp => rfl
    | longHelp => rfl
    | version => rfl

/-! ## All or nothing -/

/-- the schema was delivered: this is on standard output, and the file system is like this -/
inductive Delivered (fs : FileSystem) (schema : Text) : Option Text → Text → FileSystem → Prop where
  | standardOutput : Delivered fs schema none (Output.written schema) fs
  | file {path : Text} {after : FileSystem} (h : fs.Replaced ⟨path⟩ (Output.written schema).toBytes after) :
      Delivered fs schema (some path) [] after
  /-- a device keeps nothing -/
  | device {path : Text} {loc : Location} (h : fs.locate .writing ⟨path⟩ = .ok (.occupied loc (.device .null))) :
      Delivered fs schema (some path) [] fs

theorem isEmpty_toBytes_written (t : Text) : (Output.written t).toBytes.isEmpty ≠ true := by
  intro h
  have hsize : (Output.written t).toBytes.size = 0 := beq_iff_eq.1 h
  have hnil : (Output.written t).toBytes = Text.toBytes [] := ByteArray.size_eq_zero_iff.1 hsize
  have hread := Text.ofBytes?_toBytes (Output.written t)
  rw [hnil, Text.ofBytes?_toBytes] at hread
  exact absurd (Option.some.inj hread) (by simp [Output.written])

theorem delivered_of_writeText {fs after : FileSystem} {path : Text}
    (h : fs.writeText ⟨path⟩ (Output.written schema) = .ok after) : Delivered fs schema (some path) [] after := by
  rcases FileSystem.writeBytes_cases h with ⟨loc, hloc, rfl⟩ | ⟨loc, d, hd, hfull, rfl⟩
  · exact .file (hloc.replaced _)
  · cases d with
    | null => exact .device hd
    | full => exact absurd (hfull rfl) (isEmpty_toBytes_written schema)

theorem Does.unchanged {effect : Effect} (h : Does s effect) (hexit : effect.exitCode ≠ 0) :
    effect.standardOutput = [] ∧ effect.fileSystem = s.fileSystem := by
  cases h with
  | failed => exact ⟨rfl, rfl⟩
  | told _ => exact absurd rfl hexit
  | printed _ _ => exact absurd rfl hexit
  | wrote _ _ _ => exact absurd rfl hexit

theorem Does.written {effect : Effect} {path : Text} (h : Does s effect)
    (hargs : CommandLine.parse s.args = .ok (.schema (some path))) (hexit : effect.exitCode = 0) :
    ∃ schema, s.schema = .ok schema ∧ effect.standardOutput = [] ∧
      s.fileSystem.writeText ⟨path⟩ (Output.written schema) = .ok effect.fileSystem := by
  cases h with
  | failed => exact absurd hexit (Nat.succ_ne_zero _)
  | told h => exact absurd hargs (h _)
  | printed hargs' _ =>
    rw [hargs'] at hargs
    exact absurd hargs (by simp)
  | wrote hargs' hschema hwrite =>
    rw [hargs'] at hargs
    obtain rfl := Option.some.inj (CommandLine.Request.schema.inj (Except.ok.inj hargs))
    exact ⟨_, hschema, rfl, hwrite⟩

theorem Does.delivered {effect : Effect} {output : Option Text} (h : Does s effect)
    (hargs : CommandLine.parse s.args = .ok (.schema output)) (hexit : effect.exitCode = 0) :
    ∃ schema, s.schema = .ok schema ∧
      Delivered s.fileSystem schema output effect.standardOutput effect.fileSystem := by
  cases output with
  | none =>
    cases h with
    | failed => exact absurd hexit (Nat.succ_ne_zero _)
    | told h => exact absurd hargs (h _)
    | printed _ hschema => exact ⟨_, hschema, .standardOutput⟩
    | wrote hargs' _ _ =>
      rw [hargs'] at hargs
      exact absurd hargs (by simp)
  | some path =>
    obtain ⟨schema, hschema, hout, hwrite⟩ := h.written hargs hexit
    rw [hout]
    exact ⟨schema, hschema, delivered_of_writeText hwrite⟩

end PowerPrefs.Command
