/-
What a write does to the walks. A write changes one location, where a file stood or nothing did. No walk passes such a
place, so a walk that led elsewhere leads to the same spot as before, and one that led there now leads to the new file.

- `Leads.of_sameBut`: where a walk leads after the change of one location.
- `writeBytes_cases`: a write that succeeds goes to one location, or to a device and changes nothing.
- `WritesTo.locate_writing_put`, `WritesTo.locate_reading_put`: the path of the write leads to the new content.
- `SameBut.readBytes_eq`, `SameBut.leadsToFile_iff`: what is read through the other paths stays.
-/
import PowerPrefs.Proofs.FileSystem.Leads

namespace PowerPrefs

namespace Spot

/-- where the walk ended, or where its last name would stand -/
def location : Spot → Location
  | occupied loc _ => loc
  | vacant dir name => name :: dir

/-- what the walk found -/
def node? : Spot → Option Node
  | occupied _ node => some node
  | vacant _ _ => none

end Spot

namespace FileSystem

variable {fs fs' after : FileSystem} {purpose : Purpose} {p : Path} {loc : Location} {content : ByteArray}

/-! ## What stands where a walk ends -/

theorem Leads.node?_location {dir : Location} {steps : List Step} {n : Nat} {spot : Spot}
    (h : Leads fs purpose dir steps n spot) (hdir : ∀ loc, spot ≠ .occupied loc .directory) :
    spot.location ≠ [] ∧ fs.node? spot.location = spot.node? := by
  induction h with
  | arrived dir => exact absurd rfl (hdir dir)
  | slash _ ih => exact ih hdir
  | here _ ih => exact ih hdir
  | up _ ih => exact ih hdir
  | missing _ hnode _ => exact ⟨List.cons_ne_nil _ _, hnode⟩
  | directory _ _ _ ih => exact ih hdir
  | ownLink _ hnode _ => exact ⟨List.cons_ne_nil _ _, hnode⟩
  | link _ _ _ _ ih => exact ih hdir
  | final _ hnode _ _ => exact ⟨List.cons_ne_nil _ _, hnode⟩

theorem node?_of_locate {spot : Spot} (h : fs.locate purpose p = .ok spot)
    (hdir : ∀ loc, spot ≠ .occupied loc .directory) : spot.location ≠ [] ∧ fs.node? spot.location = spot.node? := by
  obtain ⟨-, n, -, hleads⟩ := locate_eq_ok_iff.1 h
  exact hleads.node?_location hdir

/-! ## File systems that differ in one place -/

/-- nothing, or a file: no walk goes on from here -/
def Closed (node : Option Node) : Prop := node = none ∨ ∃ content, node = some (.file content)

/-- the same but at `loc`, where each has a file or nothing -/
structure SameBut (loc : Location) (fs fs' : FileSystem) : Prop where
  workingDir_eq : fs.workingDir = fs'.workingDir
  node?_eq : ∀ other, other ≠ loc → fs.node? other = fs'.node? other
  closed : Closed (fs.node? loc)
  closed' : Closed (fs'.node? loc)

theorem SameBut.symm (h : SameBut loc fs fs') : SameBut loc fs' fs :=
  ⟨h.workingDir_eq.symm, fun other ho => (h.node?_eq other ho).symm, h.closed', h.closed⟩

theorem Closed.eq_file {node : Node} (h : Closed (some node)) : ∃ content, node = .file content := by
  rcases h with h | ⟨content, h⟩
  · exact absurd h (by simp)
  · exact ⟨content, Option.some.inj h⟩

/-- all that a walk may pass, and devices too, stand elsewhere -/
theorem SameBut.ne_of_node? {place : Location} {node : Node} (h : SameBut loc fs fs')
    (hnode : fs.node? place = some node) (hfile : ∀ content, node ≠ .file content) : place ≠ loc := by
  rintro rfl
  have hclosed := h.closed
  rw [hnode] at hclosed
  obtain ⟨content, rfl⟩ := hclosed.eq_file
  exact hfile content rfl

theorem SameBut.node?_of_not_file {place : Location} {node : Node} (h : SameBut loc fs fs')
    (hnode : fs.node? place = some node) (hfile : ∀ content, node ≠ .file content) : fs'.node? place = some node := by
  rw [← h.node?_eq place (h.ne_of_node? hnode hfile), hnode]

/-- what the end of a walk turns into with another file at `loc`. A path for reading may go on to slashes where it leads
to nothing, and with a file there it would lead nowhere, so only a walk for writing comes to a file that is made. -/
inductive Becomes (fs' : FileSystem) (purpose : Purpose) (loc : Location) : Spot → Spot → Prop where
  | elsewhere {spot : Spot} (h : spot.location ≠ loc) : Becomes fs' purpose loc spot spot
  | replaced {old content : ByteArray} (h : fs'.node? loc = some (.file content)) :
      Becomes fs' purpose loc (.occupied loc (.file old)) (.occupied loc (.file content))
  | made {dir : Location} {name : Text} {content : ByteArray} (hloc : name :: dir = loc) (hwriting : purpose = .writing)
      (h : fs'.node? loc = some (.file content)) :
      Becomes fs' purpose loc (.vacant dir name) (.occupied loc (.file content))

/-- a walk for writing that ends at a missing name has nothing left to ask for -/
theorem Allows.eq_nil {name : Text} {rest : List Step} (h : Allows .writing name rest)
    (hrest : onlySlashes rest = true) : rest = [] := by
  by_cases hnil : rest = []
  · exact hnil
  · exact absurd ⟨rfl, hnil, hrest⟩ h.1

theorem Leads.of_sameBut {dir : Location} {steps : List Step} {n : Nat} {spot spot' : Spot}
    (hl : Leads fs purpose dir steps n spot) (h : SameBut loc fs fs') (hb : Becomes fs' purpose loc spot spot') :
    Leads fs' purpose dir steps n spot' := by
  induction hl with
  | arrived dir =>
    cases hb with
    | elsewhere _ => exact .arrived dir
  | slash _ ih => exact .slash (ih hb)
  | here _ ih => exact .here (ih hb)
  | up _ ih => exact .up (ih hb)
  | missing hname hnode hrest =>
    cases hb with
    | elsewhere hne => exact .missing hname (h.node?_eq _ hne ▸ hnode) hrest
    | made hloc hwriting hnew =>
      subst hwriting hloc
      obtain rfl := hname.eq_nil hrest
      exact .final hname hnew (by simp) (by simp)
  | directory hname hnode _ ih => exact .directory hname (h.node?_of_not_file hnode (by simp)) (ih hb)
  | ownLink hname hnode hown =>
    cases hb with
    | elsewhere _ => exact .ownLink hname (h.node?_of_not_file hnode (by simp)) hown
  | link hname hnode hown _ ih => exact .link hname (h.node?_of_not_file hnode (by simp)) hown (ih hb)
  | final hname hnode hdir hlink =>
    cases hb with
    | elsewhere hne => exact .final hname (h.node?_eq _ hne ▸ hnode) hdir hlink
    | replaced hnew => exact .final hname hnew (by simp) (by simp)

theorem SameBut.locate_eq {spot spot' : Spot} (h : SameBut loc fs fs') (hl : fs.locate purpose p = .ok spot)
    (hb : Becomes fs' purpose loc spot spot') : fs'.locate purpose p = .ok spot' := by
  obtain ⟨hp, n, hle, hleads⟩ := locate_eq_ok_iff.1 hl
  refine locate_eq_ok_iff.2 ⟨hp, n, hle, ?_⟩
  rw [← h.workingDir_eq]
  exact hleads.of_sameBut h hb

/-! ## Reading what is elsewhere -/

/-- both paths lead to one regular file -/
def SameFile (fs : FileSystem) (p q : Path) : Prop :=
  ∃ loc content, fs.locate .reading p = .ok (.occupied loc (.file content)) ∧
    fs.locate .reading q = .ok (.occupied loc (.file content))

theorem SameFile.location_eq {q : Path} (h : fs.SameFile p q) :
    (fs.locate .reading p).toOption.map Spot.location = (fs.locate .reading q).toOption.map Spot.location := by
  obtain ⟨loc, content, hp, hq⟩ := h
  rw [hp, hq]

theorem SameBut.leadsToFile {content : ByteArray} (h : SameBut loc fs fs') (hp : fs.LeadsToFile p content)
    (hne : ∀ old, fs.locate .reading p ≠ .ok (.occupied loc (.file old))) : fs'.LeadsToFile p content := by
  obtain ⟨place, hl⟩ := leadsToFile_iff.1 hp
  have hplace : place ≠ loc := by
    rintro rfl
    exact hne content hl
  exact leadsToFile_iff.2 ⟨place, h.locate_eq hl (.elsewhere hplace)⟩

/-- a path that leads to the file in neither leads to the same files in both -/
theorem SameBut.leadsToFile_iff (h : SameBut loc fs fs')
    (hne : ∀ old, fs.locate .reading p ≠ .ok (.occupied loc (.file old)))
    (hne' : ∀ old, fs'.locate .reading p ≠ .ok (.occupied loc (.file old))) (content : ByteArray) :
    fs.LeadsToFile p content ↔ fs'.LeadsToFile p content := by
  constructor
  · intro hp
    exact h.leadsToFile hp hne
  · intro hp
    exact h.symm.leadsToFile hp hne'

theorem SameBut.readBytes_eq (h : SameBut loc fs fs') (hr : fs.readBytes p = .ok content)
    (hne : ∀ old, fs.locate .reading p ≠ .ok (.occupied loc (.file old))) : fs'.readBytes p = .ok content := by
  unfold readBytes at hr
  split at hr
  · rename_i place found hl
    obtain rfl := Except.ok.inj hr
    exact readBytes_of_leadsToFile (h.leadsToFile (FileSystem.leadsToFile_iff.2 ⟨place, hl⟩) hne)
  · exact absurd hr (by simp)
  · rename_i place d hl
    have hplace : place ≠ loc := h.ne_of_node? (node?_of_locate hl (by simp)).2 (by simp)
    rw [readBytes, h.locate_eq hl (.elsewhere hplace)]
    exact hr
  · exact absurd hr (by simp)
  · exact absurd hr (by simp)
  · exact absurd hr (by simp)

theorem SameBut.readText_eq {t : Text} (h : SameBut loc fs fs') (hr : fs.readText p = .ok t)
    (hne : ∀ old, fs.locate .reading p ≠ .ok (.occupied loc (.file old))) : fs'.readText p = .ok t := by
  unfold readText at hr ⊢
  cases hb : fs.readBytes p with
  | error e =>
    rw [hb] at hr
    exact absurd hr (by simp)
  | ok content =>
    rw [hb] at hr
    rw [h.readBytes_eq hb hne]
    exact hr

/-! ## Writing -/

/-- a write to the path goes to `loc`, where there is a file or one is made -/
inductive WritesTo (fs : FileSystem) (p : Path) : Location → Prop where
  | replacing {loc : Location} {old : ByteArray} (h : fs.locate .writing p = .ok (.occupied loc (.file old))) :
      WritesTo fs p loc
  | making {dir : Location} {name : Text} (h : fs.locate .writing p = .ok (.vacant dir name)) :
      WritesTo fs p (name :: dir)

theorem WritesTo.writeBytes_eq (h : fs.WritesTo p loc) (content : ByteArray) :
    fs.writeBytes p content = .ok (fs.put loc (.file content)) := by
  cases h with
  | replacing h => rw [writeBytes, h]
  | making h => rw [writeBytes, h]

theorem writeBytes_cases (h : fs.writeBytes p content = .ok after) :
    (∃ loc, fs.WritesTo p loc ∧ after = fs.put loc (.file content)) ∨
      ∃ loc d, fs.locate .writing p = .ok (.occupied loc (.device d)) ∧ (d = .full → content.isEmpty = true) ∧
        after = fs := by
  unfold writeBytes at h
  split at h
  · rename_i dir name hl
    exact Or.inl ⟨name :: dir, .making hl, (Except.ok.inj h).symm⟩
  · rename_i loc old hl
    exact Or.inl ⟨loc, .replacing hl, (Except.ok.inj h).symm⟩
  · exact absurd h (by simp)
  · rename_i loc hl
    exact Or.inr ⟨loc, .null, hl, by simp, (Except.ok.inj h).symm⟩
  · rename_i loc hl
    split at h
    · rename_i hempty
      exact Or.inr ⟨loc, .full, hl, fun _ => hempty, (Except.ok.inj h).symm⟩
    · exact absurd h (by simp)
  · exact absurd h (by simp)
  · exact absurd h (by simp)

theorem WritesTo.closed (h : fs.WritesTo p loc) : loc ≠ [] ∧ Closed (fs.node? loc) := by
  cases h with
  | replacing h =>
    obtain ⟨hne, hnode⟩ := node?_of_locate h (by simp)
    exact ⟨hne, Or.inr ⟨_, hnode⟩⟩
  | making h =>
    obtain ⟨hne, hnode⟩ := node?_of_locate h (by simp)
    exact ⟨hne, Or.inl hnode⟩

theorem node?_put_self (hne : loc ≠ []) (node : Node) : (fs.put loc node).node? loc = some node := by
  rw [node?_put hne, if_pos rfl]

theorem node?_put_of_ne {other : Location} (hne : loc ≠ []) (ho : other ≠ loc) (node : Node) :
    (fs.put loc node).node? other = fs.node? other := by
  rw [node?_put hne, if_neg ho]

theorem WritesTo.sameBut (h : fs.WritesTo p loc) (content : ByteArray) :
    SameBut loc fs (fs.put loc (.file content)) where
  workingDir_eq := rfl
  node?_eq := fun _ ho => (node?_put_of_ne h.closed.1 ho _).symm
  closed := h.closed.2
  closed' := Or.inr ⟨content, node?_put_self h.closed.1 _⟩

theorem WritesTo.locate_writing_put (h : fs.WritesTo p loc) (content : ByteArray) :
    (fs.put loc (.file content)).locate .writing p = .ok (.occupied loc (.file content)) := by
  have hsame := h.sameBut content
  have hnew : (fs.put loc (.file content)).node? loc = some (.file content) := node?_put_self h.closed.1 _
  cases h with
  | replacing hl => exact hsame.locate_eq hl (.replaced hnew)
  | making hl => exact hsame.locate_eq hl (.made rfl rfl hnew)

/-- a walk for writing that meets something is a walk for reading too -/
theorem Leads.reading {dir place : Location} {steps : List Step} {n : Nat} {node : Node}
    (h : Leads fs .writing dir steps n (.occupied place node)) :
    Leads fs .reading dir steps n (.occupied place node) := by
  have hallows : ∀ {name rest}, Allows .writing name rest → Allows .reading name rest :=
    fun hname => ⟨by simp, hname.2⟩
  generalize hspot : Spot.occupied place node = spot at h
  induction h with
  | arrived dir => exact .arrived dir
  | slash _ ih => exact .slash (ih hspot)
  | here _ ih => exact .here (ih hspot)
  | up _ ih => exact .up (ih hspot)
  | missing _ _ _ => exact absurd hspot (by simp)
  | directory hname hnode _ ih => exact .directory (hallows hname) hnode (ih hspot)
  | ownLink _ _ hown => exact absurd hown.1 (by simp)
  | link hname hnode _ _ ih => exact .link (hallows hname) hnode (by simp) (ih hspot)
  | final hname hnode hdir hlink => exact .final (hallows hname) hnode hdir hlink

theorem WritesTo.locate_reading_put (h : fs.WritesTo p loc) (content : ByteArray) :
    (fs.put loc (.file content)).locate .reading p = .ok (.occupied loc (.file content)) := by
  obtain ⟨hp, n, hle, hleads⟩ := locate_eq_ok_iff.1 (h.locate_writing_put content)
  exact locate_eq_ok_iff.2 ⟨hp, n, hle, hleads.reading⟩

/-- the file that the path leads to holds this content, and all else is as it was -/
def Replaced (fs : FileSystem) (p : Path) (content : ByteArray) (after : FileSystem) : Prop :=
  ∃ loc, fs.WritesTo p loc ∧ after.locate .reading p = .ok (.occupied loc (.file content)) ∧
    after.workingDir = fs.workingDir ∧ ∀ other, other ≠ loc → after.node? other = fs.node? other

theorem WritesTo.replaced (h : fs.WritesTo p loc) (content : ByteArray) :
    fs.Replaced p content (fs.put loc (.file content)) :=
  ⟨loc, h, h.locate_reading_put content, rfl, fun _ ho => node?_put_of_ne h.closed.1 ho _⟩

/-- the next write goes to the same place -/
theorem WritesTo.writesTo_put (h : fs.WritesTo p loc) (content : ByteArray) :
    (fs.put loc (.file content)).WritesTo p loc :=
  .replacing (h.locate_writing_put content)

/-- of two writes to one path, the later one counts -/
theorem WritesTo.writeBytes_put (h : fs.WritesTo p loc) (earlier content : ByteArray) :
    (fs.put loc (.file earlier)).writeBytes p content = fs.writeBytes p content := by
  rw [(h.writesTo_put earlier).writeBytes_eq, h.writeBytes_eq, put_put]

/-- writing the same once more changes nothing -/
theorem WritesTo.writeBytes_put_self (h : fs.WritesTo p loc) (content : ByteArray) :
    (fs.put loc (.file content)).writeBytes p content = .ok (fs.put loc (.file content)) := by
  rw [(h.writesTo_put content).writeBytes_eq, put_self h.closed.1 (node?_put_self h.closed.1 _)]

end FileSystem

end PowerPrefs
