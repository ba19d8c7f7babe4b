/-
Sets of characters. A set is a list of closed ranges of code points in increasing order, with a gap between any two. As
there is one such list only for the same characters, two sets are equal if they hold the same.
- `covers_joinRanges`: joining a range with others keeps what they hold and adds nothing else.
- `covers_gaps`: the gaps between the ranges hold the code points that none of them holds.
- `covers_union`: a union holds what one of the two holds.
-/
import PowerPrefs.Text

namespace PowerPrefs.Text

structure CharSet where
  ranges : List (Nat × Nat)
deriving DecidableEq, Repr

namespace CharSet

/-! ## Ranges -/

def lastCodePoint : Nat := 0x10FFFF

/-- one of the ranges holds `n` -/
def covers (rs : List (Nat × Nat)) (n : Nat) : Bool := rs.any fun (low, high) => low ≤ n && n ≤ high

/-- a range and those of a list, in which each takes in those that it meets -/
def joinRanges (low high : Nat) : List (Nat × Nat) → List (Nat × Nat)
  | [] => [(low, high)]
  | (l, h) :: r =>
    if high + 1 < l then (low, high) :: joinRanges l h r
    else if h + 1 < low then (l, h) :: joinRanges low high r
    else joinRanges (min low l) (max high h) r

/-- what is between the ranges, from `start` on -/
def gaps (start : Nat) : List (Nat × Nat) → List (Nat × Nat)
  | [] => if start ≤ lastCodePoint then [(start, lastCodePoint)] else []
  | (l, h) :: r => if start < l then (start, l - 1) :: gaps (h + 1) r else gaps (h + 1) r

theorem covers_cons (l h : Nat) (r : List (Nat × Nat)) (n : Nat) :
    covers ((l, h) :: r) n = true ↔ (l ≤ n ∧ n ≤ h) ∨ covers r n = true := by
  simp [covers]

theorem covers_joinRanges {low high : Nat} {rs : List (Nat × Nat)} (hl : low ≤ high)
    (hs : ∀ r ∈ rs, r.1 ≤ r.2) (n : Nat) :
    covers (joinRanges low high rs) n = true ↔ (low ≤ n ∧ n ≤ high) ∨ covers rs n = true := by
  induction rs generalizing low high with
  | nil => simp [joinRanges, covers]
  | cons q r ih =>
    obtain ⟨l, h⟩ := q
    have hq : l ≤ h := hs (l, h) List.mem_cons_self
    have hr : ∀ r' ∈ r, r'.1 ≤ r'.2 := fun r' hm => hs r' (List.mem_cons_of_mem _ hm)
    rw [joinRanges]
    split
    · rw [covers_cons, covers_cons, ih hq hr]
    · split
      · rw [covers_cons, covers_cons, ih hl hr]
        exact or_left_comm
      · rw [covers_cons, ih (by omega) hr, ← or_assoc]
        refine or_congr_left ?_
        omega

theorem covers_gaps {start : Nat} {rs : List (Nat × Nat)} (hp : rs.Pairwise fun a b => a.2 < b.1)
    (hs : ∀ r ∈ rs, start ≤ r.1 ∧ r.1 ≤ r.2) {n : Nat} (hn : n ≤ lastCodePoint) :
    covers (gaps start rs) n = true ↔ start ≤ n ∧ covers rs n = false := by
  induction rs generalizing start with
  | nil =>
    rw [gaps]
    split
    · simp [covers, hn]
    · simp [covers]
      omega
  | cons q r ih =>
    obtain ⟨l, h⟩ := q
    obtain ⟨hfirst, hrest⟩ := List.pairwise_cons.1 hp
    obtain ⟨hstart, hq⟩ : start ≤ l ∧ l ≤ h := hs (l, h) List.mem_cons_self
    have hr : ∀ r' ∈ r, h + 1 ≤ r'.1 ∧ r'.1 ≤ r'.2 := fun r' hm =>
      ⟨hfirst r' hm, (hs r' (List.mem_cons_of_mem _ hm)).2⟩
    have below : n ≤ h → covers r n = false := by
      intro hle
      refine List.any_eq_false.2 fun r' hm => ?_
      have := (hr r' hm).1
      simp only [Bool.and_eq_true, decide_eq_true_eq]
      omega
    have hcons : covers ((l, h) :: r) n = false ↔ ¬(l ≤ n ∧ n ≤ h) ∧ covers r n = false := by
      rw [← Bool.not_eq_true, covers_cons, not_or, Bool.not_eq_true]
    rw [gaps, hcons]
    split
    · rw [covers_cons, ih hrest hr]
      constructor
      · rintro (hb | ⟨hb, hc⟩)
        · exact ⟨hb.1, by omega, below (by omega)⟩
        · exact ⟨by omega, by omega, hc⟩
      · rintro ⟨hb, ha, hc⟩
        rcases Nat.lt_or_ge n l with hlt | hge
        · exact Or.inl (by omega)
        · exact Or.inr ⟨by omega, hc⟩
    · rw [ih hrest hr]
      constructor
      · rintro ⟨hb, hc⟩
        exact ⟨by omega, by omega, hc⟩
      · rintro ⟨hb, ha, hc⟩
        exact ⟨by omega, hc⟩

/-! ## Sets -/

def contains (s : CharSet) (c : Char) : Bool := covers s.ranges c.toNat

def empty : CharSet := ⟨[]⟩

def all : CharSet := ⟨[(0, lastCodePoint)]⟩

def range (low high : Char) : CharSet := ⟨[(low.toNat, high.toNat)]⟩

def single (c : Char) : CharSet := range c c

/-- holds exactly one character -/
def isSingle (s : CharSet) : Bool :=
  match s.ranges with
  | [(low, high)] => low = high
  | _ => false

/-- what one of them holds: the ranges of both by where they begin, joined where they meet -/
def union (a b : CharSet) : CharSet :=
  match List.merge a.ranges b.ranges fun p q => p.1 ≤ q.1 with
  | [] => empty
  | (low, high) :: r => ⟨joinRanges low high r⟩

def ofList (sets : List CharSet) : CharSet := sets.foldl union empty

def inverse (a : CharSet) : CharSet := ⟨gaps 0 a.ranges⟩

def intersection (a b : CharSet) : CharSet := inverse (union (inverse a) (inverse b))

/-- what `a` holds and `b` does not -/
def difference (a b : CharSet) : CharSet := intersection a (inverse b)

/-- what only one of them holds -/
def symmetricDifference (a b : CharSet) : CharSet := union (difference a b) (difference b a)

/-! ## Capital and small letters -/

/-- the ASCII letters, each with its other case -/
def asciiCases : List (List Char) :=
  (List.range 26).map fun n => [Char.ofNat ('A'.toNat + n), Char.ofNat ('a'.toNat + n)]

/-- the same, with the long s and the kelvin sign, which are cases of an s and a k -/
def cases : List (List Char) := ['s', 'S', '\u017f'] :: ['k', 'K', '\u212a'] :: asciiCases

/-- with all the cases of every letter in it -/
def foldCase (cases : List (List Char)) (s : CharSet) : CharSet :=
  let letters := (cases.filter fun letters => letters.any s.contains).flatten
  union s (ofList (letters.map single))

theorem covers_union {a b : CharSet} (ha : ∀ r ∈ a.ranges, r.1 ≤ r.2) (hb : ∀ r ∈ b.ranges, r.1 ≤ r.2)
    (n : Nat) :
    covers (union a b).ranges n = true ↔ covers a.ranges n = true ∨ covers b.ranges n = true := by
  have both : covers a.ranges n = true ∨ covers b.ranges n = true ↔
      covers (List.merge a.ranges b.ranges fun p q => p.1 ≤ q.1) n = true := by
    simp only [covers, List.any_eq_true, List.mem_merge, or_and_right, exists_or]
  rw [both, union]
  have hm : ∀ r ∈ List.merge a.ranges b.ranges fun p q => p.1 ≤ q.1, r.1 ≤ r.2 := fun r hr =>
    (List.mem_merge.1 hr).elim (ha r) (hb r)
  split
  · rename_i h
    rw [h]
    rfl
  · rename_i low high r h
    rw [h] at hm ⊢
    rw [covers_cons]
    exact covers_joinRanges (hm _ List.mem_cons_self) (fun r' hr => hm r' (List.mem_cons_of_mem _ hr)) n

theorem contains_single (c d : Char) : (single c).contains d = true ↔ d = c := by
  simp only [contains, single, range, covers, List.any_cons, List.any_nil, Bool.or_false, Bool.and_eq_true,
    decide_eq_true_eq]
  constructor
  · rintro ⟨h₁, h₂⟩
    exact Char.ext (UInt32.toNat_inj.1 (Nat.le_antisymm h₂ h₁))
  · rintro rfl
    exact ⟨Nat.le_refl _, Nat.le_refl _⟩

theorem contains_all (c : Char) : all.contains c = true := by
  have hc : c.toNat ≤ lastCodePoint := by
    have := c.valid
    simp only [UInt32.isValidChar, Nat.isValidChar] at this
    show c.val.toNat ≤ 0x10FFFF
    omega
  simp [contains, all, covers, hc]

end CharSet

end PowerPrefs.Text
