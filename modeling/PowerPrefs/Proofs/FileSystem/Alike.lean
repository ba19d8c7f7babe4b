/-
File systems with the same tree. The same names stand in the same places, and only what the files hold may differ, by a
relation `R` from the content in the one to the content in the other. No walk looks into a file, so every path ends in
the same way in both: with one refusal, or at one place.

- `Alike.locate_agrees`: a path leads to the same spot in both, but for the content found there.
- `Alike.isRegularFile_eq`: it leads to a regular file in both or in neither.
- `Alike.readText_agrees`: reading is refused for the same cause, or gives texts that are related as the bytes are.
-/
import PowerPrefs.Proofs.FileSystem.Leads

namespace PowerPrefs

/-- the same refusal, or results that are related -/
inductive Agree {α β : Type} (Q : α → β → Prop) : Except FileError α → Except FileError β → Prop where
  | ok {a : α} {b : β} (h : Q a b) : Agree Q (.ok a) (.ok b)
  | error (e : FileError) : Agree Q (.error e) (.error e)

section

variable {α β : Type} {Q : α → β → Prop} {x x' : Except FileError α} {y y' : Except FileError β}

theorem Agree.cases (h : Agree Q x y) :
    (∃ e, x = .error e ∧ y = .error e) ∨ ∃ a b, x = .ok a ∧ y = .ok b ∧ Q a b := by
  cases h with
  | ok h => exact Or.inr ⟨_, _, rfl, rfl, h⟩
  | error e => exact Or.inl ⟨e, rfl, rfl⟩

theorem Agree.ite {P : Prop} [Decidable P] (ht : P → Agree Q x y) (he : ¬P → Agree Q x' y') :
    Agree Q (if P then x else x') (if P then y else y') := by
  by_cases h : P
  · rw [if_pos h, if_pos h]
    exact ht h
  · rw [if_neg h, if_neg h]
    exact he h

theorem Agree.map {α' β' : Type} {Q' : α' → β' → Prop} {f : α → α'} {g : β → β'} (h : Agree Q x y)
    (hq : ∀ a b, Q a b → Q' (f a) (g b)) : Agree Q' (x.map f) (y.map g) := by
  cases h with
  | ok h => exact .ok (hq _ _ h)
  | error e => exact .error e

end

variable {R : ByteArray → ByteArray → Prop}

/-- the same node, but for the content of a file -/
inductive NodesAlike (R : ByteArray → ByteArray → Prop) : Node → Node → Prop where
  | file {content content' : ByteArray} (h : R content content') : NodesAlike R (.file content) (.file content')
  | directory : NodesAlike R .directory .directory
  | link (target : Path) : NodesAlike R (.link target) (.link target)
  | device (d : Device) : NodesAlike R (.device d) (.device d)

theorem NodesAlike.refl (h : ∀ content, R content content) (node : Node) : NodesAlike R node node := by
  cases node with
  | file content => exact .file (h content)
  | directory => exact .directory
  | link target => exact .link target
  | device d => exact .device d

/-- the same place, where what stands is alike -/
inductive SpotsAlike (R : ByteArray → ByteArray → Prop) : Spot → Spot → Prop where
  | occupied (loc : Location) {node node' : Node} (h : NodesAlike R node node') :
      SpotsAlike R (.occupied loc node) (.occupied loc node')
  | vacant (dir : Location) (name : Text) : SpotsAlike R (.vacant dir name) (.vacant dir name)

namespace FileSystem

/-- the same tree, with related contents in its files -/
structure Alike (R : ByteArray → ByteArray → Prop) (fs fs' : FileSystem) : Prop where
  workingDir_eq : fs.workingDir = fs'.workingDir
  nodes : ∀ loc, Option.Rel (NodesAlike R) (fs.node? loc) (fs'.node? loc)

variable {fs fs' : FileSystem} {purpose : Purpose}

theorem Alike.refl (h : ∀ content, R content content) (fs : FileSystem) : fs.Alike R fs := by
  refine ⟨rfl, fun loc => ?_⟩
  cases fs.node? loc with
  | none => exact .none
  | some node => exact .some (.refl h node)

theorem Alike.put {loc : Location} {node node' : Node} (h : fs.Alike R fs') (hloc : loc ≠ [])
    (hnode : NodesAlike R node node') : (fs.put loc node).Alike R (fs'.put loc node') := by
  refine ⟨h.workingDir_eq, fun other => ?_⟩
  rw [node?_put hloc, node?_put hloc]
  split
  · exact .some hnode
  · exact h.nodes other

/-! ## Walks -/

theorem Alike.walk_agrees (h : fs.Alike R fs') (links : Nat) (dir : Location) (steps : List Step) :
    Agree (fun x y => SpotsAlike R x.1 y.1 ∧ x.2 = y.2) (walk fs purpose links dir steps)
      (walk fs' purpose links dir steps) := by
  -- a link may lead to any number of further steps, so the links left go first and the steps second
  induction links using Nat.strongRecOn generalizing dir steps with
  | _ links ihl =>
    induction steps generalizing dir with
    | nil =>
      rw [walk_nil, walk_nil]
      exact .ok ⟨.occupied dir .directory, rfl⟩
    | cons step rest ih =>
      cases step with
      | slash =>
        rw [walk_slash, walk_slash]
        exact ih dir
      | here =>
        rw [walk_here, walk_here]
        exact ih dir
      | up =>
        rw [walk_up, walk_up]
        exact ih dir.tail
      | name name =>
        rw [walk_name_eq, walk_name_eq]
        refine .ite (fun _ => .error _) fun _ => .ite (fun _ => .error _) fun _ => ?_
        have hnodes := h.nodes (name :: dir)
        generalize fs.node? (name :: dir) = node at hnodes
        generalize fs'.node? (name :: dir) = node' at hnodes
        cases hnodes with
        | none => exact .ite (fun _ => .ok ⟨.vacant dir name, rfl⟩) fun _ => .error _
        | some hnode =>
          cases hnode with
          | file hr => exact .ite (fun _ => .ok ⟨.occupied _ (.file hr), rfl⟩) fun _ => .error _
          | directory => exact ih (name :: dir)
          | link target =>
            refine .ite (fun _ => .ok ⟨.occupied _ (.link target), rfl⟩) fun _ => ?_
            cases links with
            | zero => exact .error _
            | succ links => exact ihl links (Nat.lt_succ_self _) _ _
          | device d => exact .ite (fun _ => .ok ⟨.occupied _ (.device d), rfl⟩) fun _ => .error _

theorem Alike.locate_agrees (h : fs.Alike R fs') (purpose : Purpose) (p : Path) :
    Agree (SpotsAlike R) (fs.locate purpose p) (fs'.locate purpose p) := by
  rw [locate, locate, ← h.workingDir_eq]
  refine .ite (fun _ => .error _) fun _ => .ite (fun _ => .error _) fun _ => .ite (fun _ => .error _) fun _ => ?_
  exact (h.walk_agrees maxLinks _ p.steps).map fun _ _ hxy => hxy.1

/-! ## Files -/

theorem Alike.isRegularFile_eq (h : fs.Alike R fs') (p : Path) : fs.isRegularFile p = fs'.isRegularFile p := by
  rw [isRegularFile, isRegularFile]
  rcases (h.locate_agrees .reading p).cases with ⟨e, hl, hl'⟩ | ⟨spot, spot', hl, hl', hspot⟩
  · rw [hl, hl']
  · rw [hl, hl']
    cases hspot with
    | vacant dir name => rfl
    | occupied loc hnode => cases hnode <;> rfl

/-- a device reads as empty in both, so `R` must relate the empty content to itself -/
theorem Alike.readBytes_agrees (h : fs.Alike R fs') (hempty : R ByteArray.empty ByteArray.empty) (p : Path) :
    Agree R (fs.readBytes p) (fs'.readBytes p) := by
  rw [readBytes, readBytes]
  rcases (h.locate_agrees .reading p).cases with ⟨e, hl, hl'⟩ | ⟨spot, spot', hl, hl', hspot⟩
  · rw [hl, hl']
    exact .error e
  · rw [hl, hl']
    cases hspot with
    | vacant dir name => exact .error _
    | occupied loc hnode =>
      cases hnode with
      | file hr => exact .ok hr
      | directory => exact .error _
      | link target => exact .error _
      | device d => exact .ok hempty

theorem Alike.readText_agrees {Q : Text → Text → Prop} (h : fs.Alike R fs') (hempty : R ByteArray.empty ByteArray.empty)
    (htext : ∀ {content content'}, R content content' → Option.Rel Q (Text.ofBytes? content) (Text.ofBytes? content'))
    (p : Path) : Agree Q (fs.readText p) (fs'.readText p) := by
  rw [readText, readText]
  rcases (h.readBytes_agrees hempty p).cases with ⟨e, hr, hr'⟩ | ⟨content, content', hr, hr', hrel⟩
  · rw [hr, hr']
    exact .error e
  · rw [hr, hr']
    dsimp only
    have ht := htext hrel
    generalize Text.ofBytes? content = t at ht
    generalize Text.ofBytes? content' = t' at ht
    cases ht with
    | none => exact .error _
    | some hq => exact .ok hq

end FileSystem

end PowerPrefs
