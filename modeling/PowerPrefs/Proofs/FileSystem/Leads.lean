/-
Where paths lead, without a count of links to spend. `Leads` has one rule for each thing a walk may meet and tells how
many links were followed; a loop of links leads nowhere, since its derivation would never end.

- `walk_eq_ok_iff`: a walk succeeds exactly where the steps lead over no more links than it may take.
- `locate_eq_ok_iff`: so does looking up a path, if the path as a whole can be looked up.
- `Leads.unique`: the steps lead to one spot at most.
- `isRegularFile_iff`, `readBytes_of_leadsToFile`: what is said of the regular file that a path leads to.
- `Leads.name_le`: no step on the way has a name that is too long.
-/
import PowerPrefs.FileSystem.Access

namespace PowerPrefs.FileSystem

/-! ## Rules -/

/-- a name that can be looked up, with these steps left; a file to be written may not have a slash behind it -/
def Allows (purpose : Purpose) (name : Text) (rest : List Step) : Prop :=
  ¬(purpose = .writing ∧ rest ≠ [] ∧ onlySlashes rest = true) ∧ name.byteLength ≤ maxName

/-- the steps from directory `dir` on lead to a spot, over so many links -/
inductive Leads (fs : FileSystem) (purpose : Purpose) : Location → List Step → Nat → Spot → Prop where
  | arrived (dir : Location) : Leads fs purpose dir [] 0 (.occupied dir .directory)
  | slash {dir : Location} {rest : List Step} {n : Nat} {spot : Spot} (h : Leads fs purpose dir rest n spot) :
      Leads fs purpose dir (.slash :: rest) n spot
  | here {dir : Location} {rest : List Step} {n : Nat} {spot : Spot} (h : Leads fs purpose dir rest n spot) :
      Leads fs purpose dir (.here :: rest) n spot
  | up {dir : Location} {rest : List Step} {n : Nat} {spot : Spot} (h : Leads fs purpose dir.tail rest n spot) :
      Leads fs purpose dir (.up :: rest) n spot
  | missing {dir : Location} {name : Text} {rest : List Step} (hname : Allows purpose name rest)
      (hnode : fs.node? (name :: dir) = none) (hrest : onlySlashes rest = true) :
      Leads fs purpose dir (.name name :: rest) 0 (.vacant dir name)
  | directory {dir : Location} {name : Text} {rest : List Step} {n : Nat} {spot : Spot}
      (hname : Allows purpose name rest) (hnode : fs.node? (name :: dir) = some .directory)
      (h : Leads fs purpose (name :: dir) rest n spot) : Leads fs purpose dir (.name name :: rest) n spot
  /-- the entry itself is asked for, and it is a link -/
  | ownLink {dir : Location} {name : Text} {rest : List Step} {target : Path} (hname : Allows purpose name rest)
      (hnode : fs.node? (name :: dir) = some (.link target))
      (hown : purpose = .entry ∧ onlySlashes rest = true) :
      Leads fs purpose dir (.name name :: rest) 0 (.occupied (name :: dir) (.link target))
  | link {dir : Location} {name : Text} {rest : List Step} {target : Path} {n : Nat} {spot : Spot}
      (hname : Allows purpose name rest) (hnode : fs.node? (name :: dir) = some (.link target))
      (hown : ¬(purpose = .entry ∧ onlySlashes rest = true))
      (h : Leads fs purpose (startOf target dir) (target.steps ++ rest) n spot) :
      Leads fs purpose dir (.name name :: rest) (n + 1) spot
  /-- a file or a device, which must come last -/
  | final {dir : Location} {name : Text} {node : Node} (hname : Allows purpose name [])
      (hnode : fs.node? (name :: dir) = some node) (hdir : node ≠ .directory) (hlink : ∀ target, node ≠ .link target) :
      Leads fs purpose dir [.name name] 0 (.occupied (name :: dir) node)

/-! ## The walk, step by step -/

variable {fs : FileSystem} {purpose : Purpose}

theorem walk_nil (links : Nat) (dir : Location) :
    walk fs purpose links dir [] = .ok (.occupied dir .directory, links) := by
  cases links <;> rfl

theorem walk_slash (links : Nat) (dir : Location) (rest : List Step) :
    walk fs purpose links dir (.slash :: rest) = walk fs purpose links dir rest := by
  cases links <;> rfl

theorem walk_here (links : Nat) (dir : Location) (rest : List Step) :
    walk fs purpose links dir (.here :: rest) = walk fs purpose links dir rest := by
  cases links <;> rfl

theorem walk_up (links : Nat) (dir : Location) (rest : List Step) :
    walk fs purpose links dir (.up :: rest) = walk fs purpose links dir.tail rest := by
  cases links <;> rfl

/-- a link takes one of the links left -/
def followLink (fs : FileSystem) (purpose : Purpose) (dir : Location) (target : Path) (rest : List Step) :
    Nat → Except FileError (Spot × Nat)
  | 0 => .error .tooManyLinks
  | links + 1 => walk fs purpose links (startOf target dir) (target.steps ++ rest)

theorem walk_name_eq (links : Nat) (dir : Location) (name : Text) (rest : List Step) :
    walk fs purpose links dir (.name name :: rest) =
      if purpose = .writing ∧ rest ≠ [] ∧ onlySlashes rest then .error .isADirectory
      else if maxName < name.byteLength then .error .nameTooLong
      else match fs.node? (name :: dir) with
        | none => if onlySlashes rest then .ok (.vacant dir name, links) else .error .notFound
        | some .directory => walk fs purpose links (name :: dir) rest
        | some (.link target) =>
          if purpose = .entry ∧ onlySlashes rest then .ok (.occupied (name :: dir) (.link target), links)
          else followLink fs purpose dir target rest links
        | some node => if rest = [] then .ok (.occupied (name :: dir) node, links) else .error .notADirectory := by
  cases links <;> rfl

theorem walk_name {name : Text} {rest : List Step} (hname : Allows purpose name rest) (links : Nat) (dir : Location) :
    walk fs purpose links dir (.name name :: rest) =
      match fs.node? (name :: dir) with
      | none => if onlySlashes rest then .ok (.vacant dir name, links) else .error .notFound
      | some .directory => walk fs purpose links (name :: dir) rest
      | some (.link target) =>
        if purpose = .entry ∧ onlySlashes rest then .ok (.occupied (name :: dir) (.link target), links)
        else followLink fs purpose dir target rest links
      | some node => if rest = [] then .ok (.occupied (name :: dir) node, links) else .error .notADirectory := by
  rw [walk_name_eq, if_neg hname.1, if_neg (Nat.not_lt.2 hname.2)]

theorem walk_name_error {name : Text} {rest : List Step} (hname : ¬Allows purpose name rest) (links : Nat)
    (dir : Location) : ∃ e, walk fs purpose links dir (.name name :: rest) = .error e := by
  rw [walk_name_eq]
  by_cases hw : purpose = .writing ∧ rest ≠ [] ∧ onlySlashes rest = true
  · exact ⟨.isADirectory, if_pos hw⟩
  · have hlong : maxName < name.byteLength := Nat.not_le.1 fun hle => hname ⟨hw, hle⟩
    exact ⟨.nameTooLong, by rw [if_neg hw, if_pos hlong]⟩

/-! ## The walk and the rules agree -/

theorem leads_of_walk {links left : Nat} {dir : Location} {steps : List Step} {spot : Spot}
    (h : walk fs purpose links dir steps = .ok (spot, left)) :
    ∃ n, Leads fs purpose dir steps n spot ∧ left + n = links := by
  -- a link may lead to any number of further steps, so the links left go first and the steps second
  induction links using Nat.strongRecOn generalizing dir steps with
  | _ links ihl =>
    induction steps generalizing dir with
    | nil =>
      rw [walk_nil] at h
      obtain ⟨rfl, rfl⟩ := Prod.mk.inj (Except.ok.inj h)
      exact ⟨0, .arrived dir, rfl⟩
    | cons step rest ih =>
      cases step with
      | slash =>
        rw [walk_slash] at h
        obtain ⟨n, hn, hl⟩ := ih h
        exact ⟨n, .slash hn, hl⟩
      | here =>
        rw [walk_here] at h
        obtain ⟨n, hn, hl⟩ := ih h
        exact ⟨n, .here hn, hl⟩
      | up =>
        rw [walk_up] at h
        obtain ⟨n, hn, hl⟩ := ih h
        exact ⟨n, .up hn, hl⟩
      | name name =>
        by_cases hname : Allows purpose name rest
        · rw [walk_name hname] at h
          split at h
          · rename_i hnode
            split at h
            · rename_i hrest
              obtain ⟨rfl, rfl⟩ := Prod.mk.inj (Except.ok.inj h)
              exact ⟨0, .missing hname hnode hrest, rfl⟩
            · exact absurd h (by simp)
          · rename_i hnode
            obtain ⟨n, hn, hl⟩ := ih h
            exact ⟨n, .directory hname hnode hn, hl⟩
          · rename_i target hnode
            split at h
            · rename_i hown
              obtain ⟨rfl, rfl⟩ := Prod.mk.inj (Except.ok.inj h)
              exact ⟨0, .ownLink hname hnode hown, rfl⟩
            · rename_i hown
              cases links with
              | zero => exact absurd h (by simp [followLink])
              | succ links =>
                obtain ⟨n, hn, hl⟩ := ihl links (Nat.lt_succ_self _) h
                exact ⟨n + 1, .link hname hnode hown hn, by omega⟩
          · rename_i node hdir hlink hnode
            split at h
            · rename_i hrest
              obtain ⟨rfl, rfl⟩ := Prod.mk.inj (Except.ok.inj h)
              subst hrest
              exact ⟨0, .final hname hnode hdir hlink, rfl⟩
            · exact absurd h (by simp)
        · obtain ⟨e, he⟩ := walk_name_error hname links dir
          rw [he] at h
          exact absurd h (by simp)

theorem Leads.walk_eq {dir : Location} {steps : List Step} {n : Nat} {spot : Spot}
    (h : Leads fs purpose dir steps n spot) (left : Nat) : walk fs purpose (left + n) dir steps = .ok (spot, left) := by
  induction h with
  | arrived dir => exact walk_nil _ dir
  | slash _ ih => rw [walk_slash, ih]
  | here _ ih => rw [walk_here, ih]
  | up _ ih => rw [walk_up, ih]
  | missing hname hnode hrest => simp [walk_name hname, hnode, hrest]
  | directory hname hnode _ ih => simp [walk_name hname, hnode, ih]
  | ownLink hname hnode hown =>
    rw [walk_name hname, hnode]
    exact if_pos hown
  | link hname hnode hown _ ih =>
    simp only [walk_name hname, hnode, hown, if_false, ← Nat.add_assoc]
    exact ih
  | @final _ _ node hname hnode hdir hlink => cases node <;> simp_all [walk_name hname]

theorem walk_eq_ok_iff {links left : Nat} {dir : Location} {steps : List Step} {spot : Spot} :
    walk fs purpose links dir steps = .ok (spot, left) ↔ ∃ n, Leads fs purpose dir steps n spot ∧ left + n = links := by
  constructor
  · exact leads_of_walk
  · intro h
    obtain ⟨n, hn, rfl⟩ := h
    exact hn.walk_eq left

/-- the steps lead to one spot, over one number of links -/
theorem Leads.unique {dir : Location} {steps : List Step} {n m : Nat} {spot other : Spot}
    (h : Leads fs purpose dir steps n spot) (ho : Leads fs purpose dir steps m other) : spot = other ∧ n = m := by
  have hn := h.walk_eq m
  have hm := ho.walk_eq n
  rw [Nat.add_comm, hn] at hm
  obtain ⟨hspot, hlinks⟩ := Prod.mk.inj (Except.ok.inj hm)
  exact ⟨hspot, hlinks.symm⟩

theorem name_notMem_of_onlySlashes {rest : List Step} (h : onlySlashes rest = true) (name : Text) :
    .name name ∉ rest := by
  intro hm
  have := List.all_eq_true.1 h _ hm
  simp at this

theorem Allows.le_of_mem {first name : Text} {rest : List Step} (h : Allows purpose first rest)
    (hm : Step.name name ∈ .name first :: rest) (hrest : .name name ∈ rest → name.byteLength ≤ maxName) :
    name.byteLength ≤ maxName := by
  rcases List.mem_cons.1 hm with he | hm
  · obtain rfl := Step.name.inj he
    exact h.2
  · exact hrest hm

theorem Leads.name_le {dir : Location} {steps : List Step} {n : Nat} {spot : Spot}
    (h : Leads fs purpose dir steps n spot) {name : Text} (hm : .name name ∈ steps) : name.byteLength ≤ maxName := by
  induction h with
  | arrived dir => exact absurd hm List.not_mem_nil
  | slash _ ih => exact ih (by simpa using hm)
  | here _ ih => exact ih (by simpa using hm)
  | up _ ih => exact ih (by simpa using hm)
  | missing hname _ hrest => exact hname.le_of_mem hm fun h => absurd h (name_notMem_of_onlySlashes hrest name)
  | directory hname _ _ ih => exact hname.le_of_mem hm ih
  | ownLink hname _ hown => exact hname.le_of_mem hm fun h => absurd h (name_notMem_of_onlySlashes hown.2 name)
  | link hname _ _ _ ih => exact hname.le_of_mem hm fun h => ih (List.mem_append_right _ h)
  | final hname _ _ _ => exact hname.le_of_mem hm fun h => absurd h List.not_mem_nil

/-! ## Looking up a path -/

/-- the path as a whole can be looked up -/
def Usable (p : Path) : Prop := '\x00' ∉ p.text ∧ p.text ≠ [] ∧ p.text.byteLength ≤ maxPath

theorem locate_of_usable {p : Path} (h : Usable p) :
    fs.locate purpose p = (walk fs purpose maxLinks (startOf p fs.workingDir) p.steps).map Prod.fst := by
  rw [locate, if_neg h.1, if_neg h.2.1, if_neg (Nat.not_lt.2 h.2.2)]

theorem usable_of_locate {p : Path} {spot : Spot} (h : fs.locate purpose p = .ok spot) : Usable p := by
  unfold locate at h
  split at h
  · exact absurd h (by simp)
  · rename_i hnull
    split at h
    · exact absurd h (by simp)
    · rename_i hempty
      split at h
      · exact absurd h (by simp)
      · rename_i hlong
        exact ⟨hnull, hempty, Nat.not_lt.1 hlong⟩

theorem locate_eq_ok_iff {p : Path} {spot : Spot} :
    fs.locate purpose p = .ok spot ↔
      Usable p ∧ ∃ n ≤ maxLinks, Leads fs purpose (startOf p fs.workingDir) p.steps n spot := by
  constructor
  · intro h
    have hp := usable_of_locate h
    rw [locate_of_usable hp] at h
    cases hw : walk fs purpose maxLinks (startOf p fs.workingDir) p.steps with
    | error e =>
      rw [hw] at h
      exact absurd h (by simp [Except.map])
    | ok r =>
      obtain ⟨n, hn, hl⟩ := walk_eq_ok_iff.1 hw
      rw [hw] at h
      obtain rfl := Except.ok.inj h
      exact ⟨hp, n, by omega, hn⟩
  · intro h
    obtain ⟨hp, n, hle, hn⟩ := h
    have hw := walk_eq_ok_iff.2 ⟨n, hn, Nat.sub_add_cancel hle⟩
    rw [locate_of_usable hp, hw]
    rfl

/-! ## Regular files -/

/-- the path leads, links followed, to a regular file with this content -/
def LeadsToFile (fs : FileSystem) (p : Path) (content : ByteArray) : Prop :=
  Usable p ∧
    ∃ n ≤ maxLinks, ∃ loc, Leads fs .reading (startOf p fs.workingDir) p.steps n (.occupied loc (.file content))

theorem leadsToFile_iff {p : Path} {content : ByteArray} :
    fs.LeadsToFile p content ↔ ∃ loc, fs.locate .reading p = .ok (.occupied loc (.file content)) := by
  constructor
  · intro h
    obtain ⟨hp, n, hle, loc, hn⟩ := h
    exact ⟨loc, locate_eq_ok_iff.2 ⟨hp, n, hle, hn⟩⟩
  · intro h
    obtain ⟨loc, h⟩ := h
    obtain ⟨hp, n, hle, hn⟩ := locate_eq_ok_iff.1 h
    exact ⟨hp, n, hle, loc, hn⟩

theorem LeadsToFile.unique {p : Path} {content other : ByteArray} (h : fs.LeadsToFile p content)
    (ho : fs.LeadsToFile p other) : content = other := by
  obtain ⟨-, n, -, loc, hn⟩ := h
  obtain ⟨-, m, -, loc', hm⟩ := ho
  obtain ⟨hspot, -⟩ := hn.unique hm
  obtain ⟨-, hnode⟩ := Spot.occupied.inj hspot
  exact Node.file.inj hnode

theorem isRegularFile_iff {p : Path} : fs.isRegularFile p = true ↔ ∃ content, fs.LeadsToFile p content := by
  simp only [leadsToFile_iff, isRegularFile]
  constructor
  · intro h
    split at h
    · rename_i loc content hl
      exact ⟨content, loc, hl⟩
    · exact absurd h (by simp)
  · intro h
    obtain ⟨content, loc, hl⟩ := h
    rw [hl]

theorem readBytes_of_leadsToFile {p : Path} {content : ByteArray} (h : fs.LeadsToFile p content) :
    fs.readBytes p = .ok content := by
  obtain ⟨loc, hl⟩ := leadsToFile_iff.1 h
  rw [readBytes, hl]

theorem readText_of_leadsToFile {p : Path} {content : ByteArray} {t : Text} (h : fs.LeadsToFile p content)
    (ht : Text.ofBytes? content = some t) : fs.readText p = .ok t := by
  simp only [readText, readBytes_of_leadsToFile h, ht]

theorem readText_of_notText {p : Path} {content : ByteArray} (h : fs.LeadsToFile p content)
    (ht : Text.ofBytes? content = none) : fs.readText p = .error .notText := by
  simp only [readText, readBytes_of_leadsToFile h, ht]

end PowerPrefs.FileSystem
