/-
How a generation ends. There are three ways, and the inputs in the file system tell which: the constants listing cannot
be read as a text; some declared key has a default file that holds no text, and the first such key is blamed; or there
is a document with one entry for each declared key, in order. Anything else at a default path, or nothing, means no
default: `EntryOf` asks only whether the path leads to a regular file.

- `not_leadsToFile_of_unusable`: a key with a null character or with a name that is too long has no default file.
- `generate_ends`: the generation ends as `Ends` says, and in no other way.
-/
import PowerPrefs.Proofs.Generation.Entries
import PowerPrefs.Proofs.Path.Joined

namespace PowerPrefs.Generation

/-- how the generation of a document ends -/
inductive Ends (fs : FileSystem) (inputs : Inputs) : Except Failure Document → Prop where
  | unreadable {e : FileError} (h : fs.readText inputs.constantsFile = .error e) :
      Ends fs inputs (.error (.constantsUnreadable inputs.constantsFile e))
  /-- the key is the first one that is spoilt -/
  | spoilt {listing : Text} {before after : List Text} {key : Text}
      (h : fs.readText inputs.constantsFile = .ok listing) (hkeys : Listing.keys listing = before ++ key :: after)
      (hbefore : ∀ k ∈ before, ¬Spoilt fs inputs k) (hkey : Spoilt fs inputs key) :
      Ends fs inputs (.error (.defaultUnreadable (inputs.defaultPath key) .notText))
  | document {listing : Text} {d : Document} (h : fs.readText inputs.constantsFile = .ok listing)
      (hkeys : ∀ k ∈ Listing.keys listing, ¬Spoilt fs inputs k)
      (hentries : List.Forall₂ (EntryOf fs inputs) (Listing.keys listing) d.entries) : Ends fs inputs (.ok d)

variable {fs : FileSystem} {inputs : Inputs}

/-! ## Results of the stages -/

theorem generate_result_of_unreadable {e : FileError} (h : fs.readText inputs.constantsFile = .error e) :
    (generate fs inputs).result = .error (.constantsUnreadable inputs.constantsFile e) := by
  rw [generate, h]

theorem generate_result_of_readable {listing : Text} (h : fs.readText inputs.constantsFile = .ok listing) :
    (generate fs inputs).result = (readEntries fs inputs (Listing.keys listing)).result.map Document.mk := by
  rw [generate, h]
  cases hr : (readEntries fs inputs (Listing.keys listing)).result <;> simp [hr, Except.map]

theorem ends_generate (fs : FileSystem) (inputs : Inputs) : Ends fs inputs (generate fs inputs).result := by
  cases h : fs.readText inputs.constantsFile with
  | error e =>
    rw [generate_result_of_unreadable h]
    exact .unreadable h
  | ok listing =>
    rw [generate_result_of_readable h]
    cases hr : (readEntries fs inputs (Listing.keys listing)).result with
    | error f =>
      obtain ⟨before, key, after, hkeys, hbefore, hkey, rfl⟩ := readEntries_eq_error_iff.1 hr
      exact .spoilt h hkeys hbefore hkey
    | ok es =>
      have hentries := readEntries_eq_ok_iff.1 hr
      exact .document h (fun k hk => not_spoilt_of_mem hentries hk) hentries

theorem Ends.generate_eq {outcome : Except Failure Document} (h : Ends fs inputs outcome) :
    (generate fs inputs).result = outcome := by
  cases h with
  | unreadable h => exact generate_result_of_unreadable h
  | spoilt h hkeys hbefore hkey =>
    rw [generate_result_of_readable h, readEntries_eq_error_iff.2 ⟨_, _, _, hkeys, hbefore, hkey, rfl⟩]
    rfl
  | document h hkeys hentries =>
    rw [generate_result_of_readable h, readEntries_eq_ok_iff.2 hentries]
    rfl

theorem entries_of_generate {listing : Text} {d : Document} (h : fs.readText inputs.constantsFile = .ok listing)
    (hd : (generate fs inputs).result = .ok d) : List.Forall₂ (EntryOf fs inputs) (Listing.keys listing) d.entries := by
  have hends := ends_generate fs inputs
  rw [hd] at hends
  cases hends with
  | document hread _ hentries =>
    obtain rfl := Except.ok.inj (h.symm.trans hread)
    exact hentries

theorem generateSchema_eq_ok_iff {schema : Text} :
    (generateSchema fs inputs).result = .ok schema ↔
      ∃ d, (generate fs inputs).result = .ok d ∧ schema = Schema.render d := by
  rw [generateSchema]
  cases (generate fs inputs).result with
  | error f => simp
  | ok d => simp [eq_comm]

/-! ## Keys that name no file -/

theorem not_leadsToFile_of_unusable {key : Text}
    (h : '\x00' ∈ key ∨ ∃ piece ∈ key.split '/', FileSystem.maxName < piece.byteLength) (content : ByteArray) :
    ¬fs.LeadsToFile (inputs.defaultPath key) content := by
  intro hc
  obtain ⟨husable, n, -, loc, hleads⟩ := hc
  rcases h with hnull | ⟨piece, hpiece, hlong⟩
  · exact husable.1 (Path.mem_text_join inputs.defaultsDir hnull)
  · have hmem : .name piece ∈ (inputs.defaultPath key).steps := by
      apply Path.name_mem_steps (Path.mem_pieces_join inputs.defaultsDir hpiece)
      have : 2 < FileSystem.maxName := by decide
      omega
    have := hleads.name_le hmem
    omega

/-! ## The outcome -/

/-- **A generation ends in exactly the way that its inputs tell.** The constants listing is at fault if and only if it
cannot be read as a text, and for that reason. Where it can be, the first key whose default file holds no text is at
fault; if there is none, there is a document. A key with a null character or with a name that is too long is never at
fault and has no default. -/
theorem generate_ends (fs : FileSystem) (inputs : Inputs) :
    (∀ outcome, (generate fs inputs).result = outcome ↔ Ends fs inputs outcome) ∧
      (∀ p e, (generate fs inputs).result = .error (.constantsUnreadable p e) ↔
        p = inputs.constantsFile ∧ fs.readText inputs.constantsFile = .error e) ∧
      ∀ key, ('\x00' ∈ key ∨ ∃ piece ∈ key.split '/', FileSystem.maxName < piece.byteLength) →
        ∀ content, ¬fs.LeadsToFile (inputs.defaultPath key) content := by
  refine ⟨fun outcome => ⟨?_, Ends.generate_eq⟩, fun p e => ⟨?_, ?_⟩, fun key h => not_leadsToFile_of_unusable h⟩
  · intro h
    exact h ▸ ends_generate fs inputs
  · intro h
    have hends := ends_generate fs inputs
    rw [h] at hends
    cases hends with
    | unreadable he => exact ⟨rfl, he⟩
  · intro h
    obtain ⟨rfl, he⟩ := h
    exact generate_result_of_unreadable he

end PowerPrefs.Generation
