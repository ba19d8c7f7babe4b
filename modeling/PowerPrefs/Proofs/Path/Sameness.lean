/-
Which joined paths are the same. Paths are joined as texts and compared by components. A path that is put after another
adds its components to those of the first, whatever slashes stand at the seam; only an empty first path is different,
since a dot at the front of the second is a component then. But no path is the same as the empty one except itself.

- `components_join`: the components of a joined path, where the first path is not empty.
- `components_join_of_onward`: also where it is, if the second path does not start with a dot.
- `components_eq_nil_iff`: the empty path is the only one without components.
- `Same.join`: the same paths lead to the same joined paths.
- `inputs_same`: inputs are the same exactly if the roots are, then so are the default paths of every key, and different
  names have different default paths.
-/
import PowerPrefs.Document
import PowerPrefs.Inputs
import PowerPrefs.Proofs.Text.Cut

namespace PowerPrefs

namespace Path

open Text

/-- the components of all pieces, as they are after another path -/
def inner (p : Path) : List Component := p.pieces.filterMap Component.ofPiece?

variable {p p' q : Path}

/-! ## The components of a path -/

theorem head?_split_cons {c : Char} (hc : c ≠ '/') (r : Text) : ∃ piece, (split '/' (c :: r)).head? = some (c :: piece) := by
  rw [split_cons_of_ne hc]
  cases hs : split '/' r with
  | nil => exact absurd hs (split_ne_nil '/' r)
  | cons piece more => exact ⟨piece, rfl⟩

theorem ofPiece?_cons {c : Char} {piece : Text} (h : c :: piece ≠ ['.']) : (Component.ofPiece? (c :: piece)).isSome := by
  unfold Component.ofPiece?
  split <;> simp_all

/-- the empty path is the only one without components -/
theorem components_eq_nil_iff : p.components = [] ↔ p.text = [] := by
  obtain ⟨t⟩ := p
  constructor
  · intro h
    have hleading : leading ⟨t⟩ = [] := (List.append_eq_nil_iff.1 h).1
    cases t with
    | nil => rfl
    | cons c r =>
      by_cases hc : c = '/'
      · simp [leading, isAbsolute, hc] at hleading
      · obtain ⟨piece, hpiece⟩ := head?_split_cons hc r
        by_cases hdot : c :: piece = ['.']
        · simp [leading, isAbsolute, hc, pieces, hpiece, hdot] at hleading
        · have hsome := ofPiece?_cons hdot
          simp [leading, isAbsolute, hc, pieces, hpiece, hdot] at hleading
          simp [hleading] at hsome
  · rintro rfl
    rfl

/-- relative, and without a dot at the front -/
structure Onward (q : Path) : Prop where
  relative : q.isAbsolute = false
  head_ne : q.pieces.head? ≠ some ['.']

theorem Onward.components_eq (h : q.Onward) : q.components = q.inner := by
  have hhead := h.head_ne
  rw [components, leading, if_neg (by simp [h.relative]), if_neg hhead, inner]
  cases hs : q.pieces with
  | nil => rfl
  | cons piece more => cases hpiece : Component.ofPiece? piece <;> simp [hpiece]

/-! ## The components of a joined path -/

theorem join_of_absolute (h : q.isAbsolute = true) (p : Path) : p.join q = q := if_pos h

theorem join_of_empty (h : p.text = []) (q : Path) : p.join q = q := by
  unfold join
  split
  · rfl
  · simp [h]

/-- the pieces of the second path come after those of the first, but for an empty one that its last slash leaves -/
theorem pieces_join (h : q.isAbsolute = false) (hne : p.text ≠ []) :
    ∃ front, front ≠ [] ∧ (p.join q).pieces = front ++ q.pieces ∧ (p.pieces = front ∨ p.pieces = front ++ [[]]) := by
  by_cases hslash : p.text.getLast? = some '/'
  · obtain ⟨a, ha⟩ := List.getLast?_eq_some_iff.1 hslash
    refine ⟨split '/' a, split_ne_nil '/' a, ?_, Or.inr ?_⟩
    · rw [join, if_neg (by simp [h]), if_pos (Or.inr hslash), pieces, ha, List.append_assoc]
      exact split_append '/' a q.text
    · rw [pieces, ha]
      exact split_append '/' a []
  · refine ⟨p.pieces, split_ne_nil '/' p.text, ?_, Or.inl rfl⟩
    rw [join, if_neg (by simp [h]), if_neg (by simp [hne, hslash]), pieces]
    exact split_append '/' p.text q.text

theorem isAbsolute_join (h : q.isAbsolute = false) (hne : p.text ≠ []) : (p.join q).isAbsolute = p.isAbsolute := by
  obtain ⟨t⟩ := p
  cases t with
  | nil => exact absurd rfl hne
  | cons c r =>
    unfold join
    rw [if_neg (by simp [h])]
    split <;> rfl

theorem components_join (h : q.isAbsolute = false) (hne : p.text ≠ []) :
    (p.join q).components = p.components ++ q.inner := by
  obtain ⟨front, hfront, hjoin, hp⟩ := pieces_join h hne
  have habsolute := isAbsolute_join h hne
  cases front with
  | nil => exact absurd rfl hfront
  | cons piece more =>
    have hleading : (p.join q).leading = p.leading := by
      rcases hp with hp | hp <;> simp [leading, habsolute, hjoin, hp]
    rw [components, components, hleading, hjoin, inner, List.append_assoc]
    rcases hp with hp | hp <;> simp [hp, Component.ofPiece?]

theorem components_join_of_onward (h : q.Onward) (p : Path) : (p.join q).components = p.components ++ q.components := by
  by_cases hp : p.text = []
  · rw [join_of_empty hp, components_eq_nil_iff.2 hp, List.nil_append]
  · rw [components_join h.relative hp, h.components_eq]

/-! ## Joined paths that are the same -/

theorem Same.join (h : p.Same p') (q : Path) : (p.join q).Same (p'.join q) := by
  have hempty : p.text = [] ↔ p'.text = [] := by rw [← components_eq_nil_iff, ← components_eq_nil_iff, h]
  cases hq : q.isAbsolute with
  | true =>
    rw [join_of_absolute hq, join_of_absolute hq]
    exact rfl
  | false =>
    by_cases hp : p.text = []
    · rw [join_of_empty hp, join_of_empty (hempty.1 hp)]
      exact rfl
    · rw [Same, components_join hq hp, components_join hq (mt hempty.2 hp), h]

theorem same_join_iff (h : q.Onward) : (p.join q).Same (p'.join q) ↔ p.Same p' := by
  rw [Same, Same, components_join_of_onward h, components_join_of_onward h, List.append_left_inj]

/-- the text is one component by itself, and a name -/
structure SingleName (t : Text) : Prop where
  ne_nil : t ≠ []
  slash_notMem : '/' ∉ t
  ne_here : t ≠ ['.']
  ne_up : t ≠ ['.', '.']

variable {n n' : Text}

theorem SingleName.onward (h : SingleName n) : Onward ⟨n⟩ where
  relative := by
    rw [isAbsolute, decide_eq_false_iff_not]
    intro hslash
    exact h.slash_notMem (List.mem_of_head? hslash)
  head_ne := by
    rw [pieces, split_of_notMem h.slash_notMem]
    simpa using h.ne_here

theorem SingleName.components_eq (h : SingleName n) : components ⟨n⟩ = [.name n] := by
  have hpiece : Component.ofPiece? n = some (.name n) := by
    unfold Component.ofPiece?
    split
    · exact absurd rfl h.ne_nil
    · exact absurd rfl h.ne_here
    · exact absurd rfl h.ne_up
    · rfl
  rw [h.onward.components_eq, inner, pieces, split_of_notMem h.slash_notMem]
  simp [hpiece]

theorem same_join_name_iff (p : Path) (h : SingleName n) (h' : SingleName n') :
    (p.join ⟨n⟩).Same (p.join ⟨n'⟩) ↔ n = n' := by
  rw [Same, components_join_of_onward h.onward, components_join_of_onward h'.onward, h.components_eq,
    h'.components_eq]
  simp

end Path

/-! ## Inputs -/

theorem Inputs.onward_constantsPlace : Path.Onward Inputs.constantsPlace := ⟨by decide, by decide⟩

theorem Inputs.onward_defaultsPlace : Path.Onward Inputs.defaultsPlace := ⟨by decide, by decide⟩

/-- **Inputs respect the sameness of paths.** The inputs of two checkouts are the same exactly if their roots are; the
same inputs have the same default path for every key, whatever slashes and dots the key has; and keys that are different
names have different default paths, also where the names that the schema gives them are one. -/
theorem inputs_same :
    (∀ root root' : Path, (Inputs.ofRoot root).Same (Inputs.ofRoot root') ↔ root.Same root') ∧
      (∀ i j : Inputs, i.Same j → ∀ key, (i.defaultPath key).Same (j.defaultPath key)) ∧
      ∀ (i : Inputs) (key key' : Text), Path.SingleName key → Path.SingleName key' → key ≠ key' →
        ¬(i.defaultPath key).Same (i.defaultPath key') := by
  refine ⟨fun root root' => ?_, fun i j h key => h.2.join ⟨key⟩, fun i key key' h h' hne hsame => ?_⟩
  · rw [Inputs.Same, Inputs.ofRoot, Inputs.ofRoot, Path.same_join_iff Inputs.onward_constantsPlace,
      Path.same_join_iff Inputs.onward_defaultsPlace, and_self]
  · exact hne ((Path.same_join_name_iff i.defaultsDir h h').1 hsame)

/-- a key with dots in two checkouts at one place, and two keys of one name -/
theorem inputs_same_dotted :
    let i := Inputs.ofRoot ⟨"./a//b/".toList⟩
    let j := Inputs.ofRoot ⟨"./a/./b".toList⟩
    i.Same j ∧ i ≠ j ∧ (i.defaultPath "./../c".toList).Same (j.defaultPath "./../c".toList) ∧
      Path.SingleName "a_b".toList ∧ Path.SingleName "a-b".toList ∧ hyphenate "a_b".toList = hyphenate "a-b".toList ∧
      ¬(i.defaultPath "a_b".toList).Same (i.defaultPath "a-b".toList) := by
  intro i j
  obtain ⟨hroots, hdefaults, hnames⟩ := inputs_same
  have hsame : i.Same j := (hroots _ _).2 (by decide)
  have hname : Path.SingleName "a_b".toList := ⟨by decide, by decide, by decide, by decide⟩
  have hname' : Path.SingleName "a-b".toList := ⟨by decide, by decide, by decide, by decide⟩
  exact ⟨hsame, by decide, hdefaults i j hsame _, hname, hname', by decide, hnames i _ _ hname hname' (by decide)⟩

end PowerPrefs
