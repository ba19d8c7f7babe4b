/-
What a pattern fits, told by the pattern alone, and what its code does with it. `Fits` says between which points of a
text a pattern fits, and does not ask which way to fit is preferred. `Way` follows the code of a pattern from one
instruction to the next, whichever of two ways a fork offers.

- `Fits.before`: what is fitted is taken from the front of what follows.
- `exists_exit`: a way that leaves the code of a pattern leaves it at its end, and the pattern fits up to there.
- `reaches_of_fits`: where a pattern fits, a way leads through its code.
- `reaches_code_iff`: so the code of a pattern leads to success exactly where the pattern fits.
-/
import Mathlib.Logic.Relation
import PowerPrefs.Text.Pattern.Search

namespace PowerPrefs.Text.Pattern

/-! ## Where a pattern fits -/

/-- a place between two characters of a text: the one before it, if there is one, and all that follows -/
@[ext]
structure Point where
  before : Option Char
  rest : Text

/-- holds at this point -/
def Point.Holds (s : Point) (l : Look) : Prop := l.holds s.before s.rest.head? = true

/-- fits what stands from one point to the other -/
def Fits : Pattern → Point → Point → Prop
  | empty => Eq
  | one set => fun s u => ∃ c, set.contains c = true ∧ s.rest = c :: u.rest ∧ u.before = some c
  | look l => fun s u => s = u ∧ s.Holds l
  | group _ a => a.Fits
  | append a b => Relation.Comp a.Fits b.Fits
  | either a b => fun s u => a.Fits s u ∨ b.Fits s u
  | optional _ a => fun s u => s = u ∨ a.Fits s u
  | onceOrMore _ a => Relation.TransGen a.Fits
  | anyNumber _ a => Relation.ReflTransGen a.Fits

/-- the second point comes after the first one, with what was taken between them -/
def Point.Before (s u : Point) : Prop := ∃ taken, s.rest = taken ++ u.rest ∧ u.before = taken.getLast?.or s.before

theorem Point.Before.refl (s : Point) : s.Before s := ⟨[], rfl, rfl⟩

theorem Point.Before.trans {s u v : Point} (h : s.Before u) (h' : u.Before v) : s.Before v := by
  obtain ⟨a, ha, hb⟩ := h
  obtain ⟨a', ha', hb'⟩ := h'
  refine ⟨a ++ a', ?_, ?_⟩
  · rw [ha, ha', List.append_assoc]
  · rw [hb', hb, List.getLast?_append, Option.or_assoc]

theorem Fits.before {p : Pattern} {s u : Point} (h : p.Fits s u) : s.Before u := by
  induction p generalizing s u with
  | empty =>
    obtain rfl : s = u := h
    exact .refl s
  | one set =>
    obtain ⟨c, -, hr, hb⟩ := h
    exact ⟨[c], hr, hb⟩
  | look l =>
    obtain ⟨rfl, -⟩ := h
    exact .refl s
  | group number a ih => exact ih h
  | append a b iha ihb =>
    obtain ⟨w, hfirst, hsecond⟩ := h
    exact (iha hfirst).trans (ihb hsecond)
  | either a b iha ihb => exact h.elim iha ihb
  | optional reluctant a ih =>
    rcases h with rfl | h
    · exact .refl s
    · exact ih h
  | onceOrMore reluctant a ih =>
    induction h with
    | single h => exact ih h
    | tail _ h hfront => exact hfront.trans (ih h)
  | anyNumber reluctant a ih =>
    induction h with
    | refl => exact .refl s
    | tail _ h hfront => exact hfront.trans (ih h)

/-! ## Ways through code -/

/-- one instruction is followed, from a place in the code and a point in the text to others -/
inductive Step (code : Code) : Nat → Point → Nat → Point → Prop where
  | take {i : Nat} {set : CharSet} {before : Option Char} {c : Char} {r : Text} (h : code[i]? = some (.take set))
      (hc : set.contains c = true) : Step code i ⟨before, c :: r⟩ (i + 1) ⟨some c, r⟩
  | check {i : Nat} {l : Look} {s : Point} (h : code[i]? = some (.check l)) (hl : s.Holds l) :
      Step code i s (i + 1) s
  | first {i first second : Nat} {s : Point} (h : code[i]? = some (.fork first second)) : Step code i s first s
  | second {i first second : Nat} {s : Point} (h : code[i]? = some (.fork first second)) : Step code i s second s
  | jump {i target : Nat} {s : Point} (h : code[i]? = some (.jump target)) : Step code i s target s

/-- so many instructions are followed, one after the other -/
inductive Way (code : Code) : Nat → Nat → Point → Nat → Point → Prop where
  | here (i : Nat) (s : Point) : Way code 0 i s i s
  | step {n i j k : Nat} {s u v : Point} (h : Step code i s j u) (rest : Way code n j u k v) :
      Way code (n + 1) i s k v

variable {code : Code} {n m i j k place stop : Nat} {s u v : Point} {a : Pattern}

theorem Way.single (h : Step code i s j u) : Way code 1 i s j u := .step h (.here j u)

theorem Way.trans (h : Way code n i s j u) (h' : Way code m j u k v) : Way code (n + m) i s k v := by
  induction h with
  | here => rwa [Nat.zero_add]
  | step first _ ih =>
    rw [Nat.add_right_comm]
    exact .step first (ih h')

/-- a way that goes on has a first step -/
theorem Way.exists_step (h : Way code n i s k v) (hne : i ≠ k) :
    ∃ m j u, n = m + 1 ∧ Step code i s j u ∧ Way code m j u k v := by
  cases h with
  | here => exact absurd rfl hne
  | step first rest => exact ⟨_, _, _, rfl, first, rest⟩

section

variable {set : CharSet} {l : Look} {first second target : Nat} {reluctant : Bool}

theorem step_take_iff (h : code[i]? = some (.take set)) : Step code i s j u ↔ j = i + 1 ∧ (one set).Fits s u := by
  constructor
  · intro hs
    cases hs <;> simp_all [Fits]
  · rintro ⟨rfl, c, hc, hr, hb⟩
    obtain ⟨before, rest⟩ := s
    obtain ⟨before', rest'⟩ := u
    obtain rfl : rest = c :: rest' := hr
    obtain rfl : before' = some c := hb
    exact .take h hc

theorem step_check_iff (h : code[i]? = some (.check l)) : Step code i s j u ↔ j = i + 1 ∧ (look l).Fits s u := by
  constructor
  · intro hs
    cases hs <;> simp_all [Fits]
  · rintro ⟨rfl, rfl, hl⟩
    exact .check h hl

theorem step_fork_iff (h : code[i]? = some (.fork first second)) :
    Step code i s j u ↔ u = s ∧ (j = first ∨ j = second) := by
  constructor
  · intro hs
    cases hs <;> simp_all
  · rintro ⟨rfl, rfl | rfl⟩
    · exact .first h
    · exact .second h

theorem step_jump_iff (h : code[i]? = some (.jump target)) : Step code i s j u ↔ u = s ∧ j = target := by
  constructor
  · intro hs
    cases hs <;> simp_all
  · rintro ⟨rfl, rfl⟩
    exact .jump h

theorem step_loop_iff (h : code[i]? = some (.loop reluctant first second)) :
    Step code i s j u ↔ u = s ∧ (j = first ∨ j = second) := by
  cases reluctant with
  | false => exact step_fork_iff h
  | true => rw [step_fork_iff h, or_comm]

theorem not_step_of_getElem? (h : code[i]? = none) : ¬Step code i s j u := by
  intro hs
  cases hs <;> simp_all

end

/-! ## Where the code of a pattern stands -/

/-- these instructions stand in the code from this place on -/
def Holding (code : Code) (place : Nat) : List Instruction → Prop
  | [] => True
  | x :: is => code[place]? = some x ∧ Holding code (place + 1) is

theorem holding_append {is js : List Instruction} :
    Holding code place (is ++ js) ↔ Holding code place is ∧ Holding code (place + is.length) js := by
  induction is generalizing place with
  | nil => simp [Holding]
  | cons x is ih =>
    rw [List.cons_append, Holding, Holding, ih, and_assoc, List.length_cons, Nat.add_right_comm, Nat.add_assoc]

theorem holding_code_append {is : List Instruction} :
    Holding code place (a.code i ++ is) ↔ Holding code place (a.code i) ∧ Holding code (place + a.size) is := by
  rw [holding_append, length_code]

theorem holding_either {b : Pattern} (h : Holding code place ((either a b).code place)) :
    code[place]? = some (.fork (place + 1) (place + a.size + 2)) ∧ Holding code (place + 1) (a.code (place + 1)) ∧
      code[place + 1 + a.size]? = some (.jump (place + a.size + 2 + b.size)) ∧
        Holding code (place + a.size + 2) (b.code (place + a.size + 2)) := by
  obtain ⟨hfork, hrest⟩ := h
  obtain ⟨ha, hjump, hb⟩ := holding_code_append.1 hrest
  rw [Nat.add_right_comm place 1 a.size] at hb
  exact ⟨hfork, ha, hjump, hb⟩

theorem add_size_either (place : Nat) (a b : Pattern) :
    place + (either a b).size = place + a.size + 2 + b.size := by
  simp only [size]
  omega

theorem holding_whole (front is : List Instruction) : Holding (front ++ is).toArray front.length is := by
  induction is generalizing front with
  | nil => trivial
  | cons x is ih =>
    refine ⟨by simp, ?_⟩
    have := ih (front ++ [x])
    rwa [List.append_assoc, List.length_append] at this

/-! ## Ways that leave the code of a pattern -/

/-- a way from `place` on to what is not in the code comes by the end of the code, and the pattern fits up to there -/
def Exits (code : Code) (p : Pattern) (place : Nat) (k : Nat) (v : Point) : Prop :=
  ∀ n s, Way code n place s k v → ∃ m u, p.Fits s u ∧ m ≤ n ∧ Way code m (place + p.size) u k v

/-- code that begins again or stops each time it was gone through; the way gets shorter each time, even if the text
does not -/
theorem exists_exit_of_loop (ha : Exits code a place k v)
    (again : ∀ n s, Way code n (place + a.size) s k v →
      ∃ m < n, Way code m place s k v ∨ Way code m stop s k v)
    (h : Way code n place s k v) :
    ∃ m u, Relation.TransGen a.Fits s u ∧ m ≤ n ∧ Way code m stop u k v := by
  induction n using Nat.strongRecOn generalizing s with
  | ind n ih =>
    obtain ⟨m₁, u₁, hfits, hm₁, hend⟩ := ha n s h
    obtain ⟨m₂, hm₂, hfront | hstop⟩ := again m₁ u₁ hend
    · obtain ⟨m, u, hmore, hm, hway⟩ := ih m₂ (by omega) hfront
      exact ⟨m, u, .head hfits hmore, by omega, hway⟩
    · exact ⟨m₂, u₁, .single hfits, by omega, hstop⟩

/-- at a loop, a way that does not end there goes on at one of the two places -/
theorem Way.exists_of_loop {reluctant : Bool} (h : Way code n i s k v)
    (hi : code[i]? = some (.loop reluctant place stop)) (hne : i ≠ k) :
    ∃ m < n, Way code m place s k v ∨ Way code m stop s k v := by
  obtain ⟨m, j, u, rfl, hstep, hrest⟩ := h.exists_step hne
  obtain ⟨rfl, rfl | rfl⟩ := (step_loop_iff hi).1 hstep
  · exact ⟨m, Nat.lt_succ_self m, Or.inl hrest⟩
  · exact ⟨m, Nat.lt_succ_self m, Or.inr hrest⟩

/-- the same behind what is repeated any number of times, where a way may go to the loop at the front first -/
theorem Way.exists_of_back {reluctant mayBeEmpty : Bool} (h : Way code n i s k v)
    (hloop : code[place]? = some (.loop reluctant (place + 1) stop))
    (hback : code[i]? = some (if mayBeEmpty then .loop reluctant (place + 1) stop else .jump place))
    (hi : i ≠ k) (hplace : place ≠ k) :
    ∃ m < n, Way code m (place + 1) s k v ∨ Way code m stop s k v := by
  cases mayBeEmpty with
  | true => exact h.exists_of_loop hback hi
  | false =>
    obtain ⟨m, j, u, rfl, hstep, hfront⟩ := h.exists_step hi
    obtain ⟨rfl, rfl⟩ := (step_jump_iff hback).1 hstep
    obtain ⟨m', hm', hways⟩ := hfront.exists_of_loop hloop hplace
    exact ⟨m', by omega, hways⟩

theorem exists_exit (p : Pattern) (hcode : Holding code place (p.code place)) (hk : k < place ∨ place + p.size ≤ k) :
    Exits code p place k v := by
  -- `k` is outside, so the way goes on at each place inside. It may come in again, and then the first exit is the one told.
  induction p generalizing place with
  | empty => exact fun n s h => ⟨n, s, rfl, Nat.le_refl n, h⟩
  | one set =>
    intro n s h
    simp only [size] at hk
    obtain ⟨m, j, u, rfl, hstep, hrest⟩ := h.exists_step (by omega)
    obtain ⟨rfl, hfits⟩ := (step_take_iff hcode.1).1 hstep
    exact ⟨m, u, hfits, by omega, hrest⟩
  | look l =>
    intro n s h
    simp only [size] at hk
    obtain ⟨m, j, u, rfl, hstep, hrest⟩ := h.exists_step (by omega)
    obtain ⟨rfl, hfits⟩ := (step_check_iff hcode.1).1 hstep
    exact ⟨m, u, hfits, by omega, hrest⟩
  | group number a ih => exact ih hcode hk
  | append a b iha ihb =>
    intro n s h
    simp only [size] at hk
    obtain ⟨ha, hb⟩ := holding_code_append.1 hcode
    obtain ⟨m₁, u₁, hfits₁, hm₁, h₁⟩ := iha ha (by omega) n s h
    obtain ⟨m₂, u₂, hfits₂, hm₂, h₂⟩ := ihb hb (by omega) m₁ u₁ h₁
    refine ⟨m₂, u₂, ⟨u₁, hfits₁, hfits₂⟩, by omega, ?_⟩
    rwa [size, ← Nat.add_assoc]
  | either a b iha ihb =>
    intro n s h
    simp only [size] at hk
    obtain ⟨hfork, ha, hjump, hb⟩ := holding_either hcode
    rw [add_size_either]
    obtain ⟨m₁, j₁, u₁, rfl, hstep, h₁⟩ := h.exists_step (by omega)
    obtain ⟨rfl, rfl | rfl⟩ := (step_fork_iff hfork).1 hstep
    · obtain ⟨m₂, u₂, hfits, hm₂, h₂⟩ := iha ha (by omega) m₁ u₁ h₁
      obtain ⟨m₃, j₃, u₃, rfl, hstep₃, h₃⟩ := h₂.exists_step (by omega)
      obtain ⟨rfl, rfl⟩ := (step_jump_iff hjump).1 hstep₃
      exact ⟨m₃, u₃, Or.inl hfits, by omega, h₃⟩
    · obtain ⟨m₂, u₂, hfits, hm₂, h₂⟩ := ihb hb (by omega) m₁ u₁ h₁
      exact ⟨m₂, u₂, Or.inr hfits, by omega, h₂⟩
  | optional reluctant a ih =>
    intro n s h
    simp only [size] at hk
    have hend : place + (optional reluctant a).size = place + 1 + a.size := by simp only [size]; omega
    rw [hend]
    obtain ⟨m₁, hm₁, h₁ | h₁⟩ := h.exists_of_loop hcode.1 (by omega)
    · obtain ⟨m₂, u₂, hfits, hm₂, h₂⟩ := ih hcode.2 (by omega) m₁ s h₁
      exact ⟨m₂, u₂, Or.inr hfits, by omega, h₂⟩
    · rw [Nat.add_right_comm] at h₁
      exact ⟨m₁, s, Or.inl rfl, by omega, h₁⟩
  | onceOrMore reluctant a ih =>
    intro n s h
    simp only [size] at hk
    obtain ⟨ha, hloop, -⟩ := holding_code_append.1 hcode
    exact exists_exit_of_loop (ih ha (by omega)) (fun _ _ h' => h'.exists_of_loop hloop (by omega)) h
  | anyNumber reluctant a ih =>
    intro n s h
    simp only [size] at hk
    obtain ⟨hloop, hrest⟩ := hcode
    obtain ⟨ha, hback, -⟩ := holding_code_append.1 hrest
    obtain ⟨m₁, hm₁, h₁ | h₁⟩ := h.exists_of_loop hloop (by omega)
    · have again := fun n' s' (h' : Way code n' (place + 1 + a.size) s' k v) =>
        h'.exists_of_back hloop hback (by omega) (by omega)
      obtain ⟨m₂, u₂, hfits, hm₂, h₂⟩ := exists_exit_of_loop (ih ha (by omega)) again h₁
      exact ⟨m₂, u₂, hfits.to_reflTransGen, by omega, h₂⟩
    · exact ⟨m₁, s, .refl, by omega, h₁⟩

/-! ## Ways through the code of a pattern -/

/-- from this place and point some number of steps leads to those -/
def Reaches (code : Code) (i : Nat) (s : Point) (j : Nat) (u : Point) : Prop := ∃ n, Way code n i s j u

theorem Reaches.refl (code : Code) (i : Nat) (s : Point) : Reaches code i s i s := ⟨0, .here i s⟩

theorem Reaches.head (h : Step code i s j u) (h' : Reaches code j u k v) : Reaches code i s k v := by
  obtain ⟨n, hn⟩ := h'
  exact ⟨n + 1, .step h hn⟩

theorem Reaches.single (h : Step code i s j u) : Reaches code i s j u := ⟨1, .single h⟩

theorem Reaches.trans (h : Reaches code i s j u) (h' : Reaches code j u k v) : Reaches code i s k v := by
  obtain ⟨n, hn⟩ := h
  obtain ⟨m, hm⟩ := h'
  exact ⟨n + m, hn.trans hm⟩

theorem Reaches.loop {reluctant : Bool} {first second : Nat} (h : code[i]? = some (.loop reluctant first second))
    (hj : j = first ∨ j = second) : Reaches code i s j s :=
  .single ((step_loop_iff h).2 ⟨rfl, hj⟩)

theorem Reaches.back {reluctant mayBeEmpty : Bool} (hloop : code[place]? = some (.loop reluctant (place + 1) stop))
    (hback : code[i]? = some (if mayBeEmpty then .loop reluctant (place + 1) stop else .jump place))
    (hj : j = place + 1 ∨ j = stop) : Reaches code i s j s := by
  cases mayBeEmpty with
  | true => exact .loop hback hj
  | false => exact .head (.jump hback) (.loop hloop hj)

theorem reaches_of_loop (ha : ∀ s u, a.Fits s u → Reaches code place s (place + a.size) u)
    (again : ∀ s, Reaches code (place + a.size) s place s) (leave : ∀ s, Reaches code (place + a.size) s stop s)
    (h : Relation.TransGen a.Fits s u) : Reaches code place s stop u := by
  induction h using Relation.TransGen.head_induction_on with
  | single h => exact (ha _ _ h).trans (leave _)
  | head h _ ih => exact (ha _ _ h).trans ((again _).trans ih)

theorem reaches_of_fits (p : Pattern) (hcode : Holding code place (p.code place)) (h : p.Fits s u) :
    Reaches code place s (place + p.size) u := by
  induction p generalizing place s u with
  | empty =>
    obtain rfl : s = u := h
    exact .refl code place s
  | one set => exact .single ((step_take_iff hcode.1).2 ⟨rfl, h⟩)
  | look l => exact .single ((step_check_iff hcode.1).2 ⟨rfl, h⟩)
  | group number a ih => exact ih hcode h
  | append a b iha ihb =>
    obtain ⟨ha, hb⟩ := holding_code_append.1 hcode
    obtain ⟨w, hfirst, hsecond⟩ := h
    rw [size, ← Nat.add_assoc]
    exact (iha ha hfirst).trans (ihb hb hsecond)
  | either a b iha ihb =>
    obtain ⟨hfork, ha, hjump, hb⟩ := holding_either hcode
    rw [add_size_either]
    rcases h with h | h
    · exact .head (.first hfork) ((iha ha h).trans (.single (.jump hjump)))
    · exact .head (.second hfork) (ihb hb h)
  | optional reluctant a ih =>
    have hend : place + (optional reluctant a).size = place + 1 + a.size := by simp only [size]; omega
    rw [hend]
    rcases h with rfl | h
    · exact .loop hcode.1 (Or.inr (Nat.add_right_comm place 1 a.size))
    · exact (Reaches.loop hcode.1 (Or.inl rfl)).trans (ih hcode.2 h)
  | onceOrMore reluctant a ih =>
    obtain ⟨ha, hloop, -⟩ := holding_code_append.1 hcode
    exact reaches_of_loop (fun _ _ => ih ha) (fun _ => .loop hloop (Or.inl rfl)) (fun _ => .loop hloop (Or.inr rfl)) h
  | anyNumber reluctant a ih =>
    obtain ⟨hloop, hrest⟩ := hcode
    obtain ⟨ha, hback, -⟩ := holding_code_append.1 hrest
    rcases Relation.reflTransGen_iff_eq_or_transGen.1 h with rfl | h
    · exact .loop hloop (Or.inr rfl)
    · refine (Reaches.loop hloop (Or.inl rfl)).trans (reaches_of_loop (fun _ _ => ih ha) (fun _ => ?_) (fun _ => ?_) h)
      · exact .back hloop hback (Or.inl rfl)
      · exact .back hloop hback (Or.inr rfl)

/-! ## The code of a pattern on its own -/

/-- the code of a pattern leads to success, or to what is behind it, exactly where the pattern fits -/
theorem reaches_code_iff (p : Pattern) (hk : p.size ≤ k) :
    Reaches (p.code 0).toArray 0 s k v ↔ k = p.size ∧ p.Fits s v := by
  have hcode : Holding (p.code 0).toArray 0 (p.code 0) := holding_whole [] (p.code 0)
  have hlast : (p.code 0).toArray[p.size]? = none := by simp [length_code]
  constructor
  · rintro ⟨n, hn⟩
    obtain ⟨m, u, hfits, -, hend⟩ := exists_exit p hcode (Or.inr (by omega)) n s hn
    rw [Nat.zero_add] at hend
    cases hend with
    | here => exact ⟨rfl, hfits⟩
    | step hstep => exact absurd hstep (not_step_of_getElem? hlast)
  · rintro ⟨rfl, h⟩
    simpa using reaches_of_fits p hcode h

end PowerPrefs.Text.Pattern
