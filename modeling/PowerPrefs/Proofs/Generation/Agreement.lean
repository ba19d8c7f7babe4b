/-
What a generation depends on: the keys that the constants listing declares, and what the default path of each of them
gives. Nothing else in a file system has a say in it, and so nothing else can change its events or its outcome.

- `readDefault_of_leadsToFile`, `readDefault_of_no_file`: what a default path gives, by where it leads.
- `generate_congr`: the same keys with the same defaults make the same generation.
- `generate_of_sameBut`: a file that no path of the generation leads to has no say in it.
-/
import PowerPrefs.Proofs.Generation.Entries
import PowerPrefs.Proofs.FileSystem.Writing

namespace PowerPrefs.Generation

variable {fs fs' : FileSystem} {inputs : Inputs} {p : Path}

/-! ## One default -/

theorem readDefault_of_leadsToFile {content : ByteArray} (h : fs.LeadsToFile p content) :
    readDefault fs p =
      match Text.ofBytes? content with
      | some t => .ok (some (DefaultValue.ofContent t))
      | none => .error (.defaultUnreadable p .notText) := by
  rw [readDefault, if_pos (FileSystem.isRegularFile_iff.2 ⟨content, h⟩)]
  cases ht : Text.ofBytes? content with
  | some t => simp only [FileSystem.readText_of_leadsToFile h ht]
  | none => simp only [FileSystem.readText_of_notText h ht]

theorem readDefault_of_no_file (h : ∀ content, ¬fs.LeadsToFile p content) : readDefault fs p = .ok none := by
  have hfile : ¬fs.isRegularFile p = true := by
    intro hr
    obtain ⟨content, hc⟩ := FileSystem.isRegularFile_iff.1 hr
    exact h content hc
  rw [readDefault, if_neg hfile]

theorem readDefault_congr (h : ∀ content, fs.LeadsToFile p content ↔ fs'.LeadsToFile p content) :
    readDefault fs p = readDefault fs' p := by
  by_cases hfile : ∃ content, fs.LeadsToFile p content
  · obtain ⟨content, hc⟩ := hfile
    rw [readDefault_of_leadsToFile hc, readDefault_of_leadsToFile ((h content).1 hc)]
  · have hnone : ∀ content, ¬fs.LeadsToFile p content := fun content hc => hfile ⟨content, hc⟩
    have hnone' : ∀ content, ¬fs'.LeadsToFile p content := fun content hc => hnone content ((h content).2 hc)
    rw [readDefault_of_no_file hnone, readDefault_of_no_file hnone']

/-! ## The whole generation -/

theorem readEntries_congr {keys : List Text}
    (h : ∀ key ∈ keys, readDefault fs (inputs.defaultPath key) = readDefault fs' (inputs.defaultPath key)) :
    readEntries fs inputs keys = readEntries fs' inputs keys := by
  induction keys with
  | nil => rfl
  | cons key keys ih =>
    have hkey := h key List.mem_cons_self
    have hrest := ih fun k hk => h k (List.mem_cons_of_mem key hk)
    simp only [readEntries, hkey, hrest]

theorem generate_congr_of_unreadable {e : FileError} (h : fs.readText inputs.constantsFile = .error e)
    (h' : fs'.readText inputs.constantsFile = .error e) : generate fs inputs = generate fs' inputs := by
  rw [generate, generate, h, h']

theorem generate_congr {listing listing' : Text} (h : fs.readText inputs.constantsFile = .ok listing)
    (h' : fs'.readText inputs.constantsFile = .ok listing') (hkeys : Listing.keys listing = Listing.keys listing')
    (hdefault : ∀ key ∈ Listing.keys listing,
      readDefault fs (inputs.defaultPath key) = readDefault fs' (inputs.defaultPath key)) :
    generate fs inputs = generate fs' inputs := by
  have hentries := readEntries_congr hdefault
  simp only [generate, h, h', ← hkeys, hentries]

theorem generateSchema_congr (h : generate fs inputs = generate fs' inputs) :
    generateSchema fs inputs = generateSchema fs' inputs := by
  rw [generateSchema, generateSchema, h]

/-! ## The paths that are read -/

/-- the generation reads at this path -/
inductive Reads (fs : FileSystem) (inputs : Inputs) : Path → Prop where
  | constants : Reads fs inputs inputs.constantsFile
  | default {listing key : Text} (h : fs.readText inputs.constantsFile = .ok listing)
      (hkey : key ∈ Listing.keys listing) : Reads fs inputs (inputs.defaultPath key)

theorem generate_of_sameBut {loc : Location} {listing : Text} (h : FileSystem.SameBut loc fs fs')
    (hread : fs.readText inputs.constantsFile = .ok listing)
    (hne : ∀ q, Reads fs inputs q → ∀ old, fs.locate .reading q ≠ .ok (.occupied loc (.file old)))
    (hne' : ∀ q, Reads fs inputs q → ∀ old, fs'.locate .reading q ≠ .ok (.occupied loc (.file old))) :
    generate fs inputs = generate fs' inputs := by
  have hread' := h.readText_eq hread (hne _ .constants)
  apply generate_congr hread hread' rfl
  intro key hkey
  have hreads : Reads fs inputs (inputs.defaultPath key) := .default hread hkey
  exact readDefault_congr (h.leadsToFile_iff (hne _ hreads) (hne' _ hreads))

/-! ## A checkout -/

/-- nothing but a checkout at the root, with this constants listing and these default files, each with its key -/
def checkout (listing : Text) (defaults : List (Text × Text)) : FileSystem :=
  let top : Location := ["power_manager".toList]
  let common : Location := "common".toList :: top
  let prefs : Location := "default_prefs".toList :: top
  let directories : FileSystem :=
    [top, common, prefs].foldl (fun (fs : FileSystem) loc => fs.put loc .directory) ⟨.nothing, []⟩
  defaults.foldl (fun fs d => fs.put (d.1 :: prefs) (.file (Text.toBytes d.2)))
    (directories.put ("power_constants.cc".toList :: common) (.file (Text.toBytes listing)))

end PowerPrefs.Generation
