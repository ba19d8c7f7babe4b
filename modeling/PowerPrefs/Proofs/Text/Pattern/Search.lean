/-
What the search for a pattern finds. The search follows all ways through the code of a pattern at once, and only as far
as the next character lets it; what it keeps of them is a list of places.

- `mem_reach_iff`: the fuel is enough, so `reach` finds all places to wait at that are reached, and no others.
- `mem_settle_iff`: so does `settle`, once the next character is known.
- `exists_matches_of_reachesEnd`: what is found fits the pattern, and goes up to the end of the text.
- `reachesEnd_or_matches`: where the pattern fits the back of a text, the search finds it, if not something that ends
  before.
- `reachesEnd_iff`: if it fits nothing that ends before, the search tells whether it fits the back of the text.
- `reachesEnd_textBack_iff`: a pattern that asks for the end of the text reaches it if it fits anywhere.
-/
import Mathlib.Data.Finset.Card
import Mathlib.Data.Finset.Range
import Mathlib.Data.List.TakeWhile
import PowerPrefs.Proofs.Text.Pattern.Meaning

namespace PowerPrefs.Text.Pattern

namespace Code

variable {code : Code} {passes : Look → Bool} {fuel i j place : Nat} {stack more found places : List Nat}
  {seen : Array Bool}

/-! ## The places that are followed -/

/-- leads from one place to the other without taking a character -/
def Onward (code : Code) (passes : Look → Bool) : Nat → Nat → Prop :=
  Relation.ReflTransGen fun i j => j ∈ further code passes i

theorem mem_further_iff : j ∈ further code passes i ↔
    (∃ first second, code[i]? = some (.fork first second) ∧ (j = first ∨ j = second)) ∨
      code[i]? = some (.jump j) ∨ ∃ l, code[i]? = some (.check l) ∧ passes l = true ∧ j = i + 1 := by
  rw [further]
  cases h : code[i]? with
  | none => simp
  | some x =>
    cases x with
    | take set => simp
    | check l => simp
    | fork first second => simp
    | jump target => simpa using Iff.intro Eq.symm Eq.symm

/-- nothing is followed but what is onward from the places to follow -/
theorem onward_of_mem_follow (h : j ∈ follow code passes fuel stack seen found) :
    j ∈ found ∨ ∃ i ∈ stack, Onward code passes i j := by
  induction fuel generalizing stack seen found with
  | zero => exact Or.inl h
  | succ fuel ih =>
    cases stack with
    | nil => exact Or.inl h
    | cons place more =>
      rw [follow] at h
      split at h
      · exact (ih h).imp_right fun ⟨i, hi, hj⟩ => ⟨i, List.mem_cons_of_mem place hi, hj⟩
      · rcases ih h with hj | ⟨i, hi, hj⟩
        · rcases List.mem_cons.1 hj with rfl | hj
          · exact Or.inr ⟨j, List.mem_cons_self, .refl⟩
          · exact Or.inl hj
        · rcases List.mem_append.1 hi with hi | hi
          · exact Or.inr ⟨place, List.mem_cons_self, .head hi hj⟩
          · exact Or.inr ⟨i, List.mem_cons_of_mem place hi, hj⟩

/-- what following places keeps: a place that was seen is found, and what a found place leads to is found or still to
follow -/
structure Kept (code : Code) (passes : Look → Bool) (stack : List Nat) (seen : Array Bool) (found : List Nat) :
    Prop where
  size : seen.size = code.size + 1
  seen : ∀ i, seen[i]?.getD false = true → i ∈ found
  closed : ∀ i ∈ found, ∀ j ∈ further code passes i, j ∈ found ∨ j ∈ stack

theorem Kept.skip (h : Kept code passes (place :: more) seen found) (hseen : seen[place]?.getD false = true) :
    Kept code passes more seen found where
  size := h.size
  seen := h.seen
  closed i hi j hj := by
    rcases h.closed i hi j hj with hj | hj
    · exact Or.inl hj
    · rcases List.mem_cons.1 hj with rfl | hj
      · exact Or.inl (h.seen j hseen)
      · exact Or.inr hj

theorem getD_setIfInBounds (h : (seen.setIfInBounds place true)[i]?.getD false = true) :
    i = place ∨ seen[i]?.getD false = true := by
  rcases eq_or_ne place i with rfl | hne
  · exact Or.inl rfl
  · rw [Array.getElem?_setIfInBounds_ne hne] at h
    exact Or.inr h

theorem Kept.mark (h : Kept code passes (place :: more) seen found) :
    Kept code passes (further code passes place ++ more) (seen.setIfInBounds place true) (place :: found) where
  size := by rw [Array.size_setIfInBounds, h.size]
  seen i hi := by
    rcases getD_setIfInBounds hi with rfl | hi
    · exact List.mem_cons_self
    · exact List.mem_cons_of_mem place (h.seen i hi)
  closed i hi j hj := by
    rcases List.mem_cons.1 hi with rfl | hi
    · exact Or.inr (List.mem_append_left more hj)
    · rcases h.closed i hi j hj with hj | hj
      · exact Or.inl (List.mem_cons_of_mem place hj)
      · rcases List.mem_cons.1 hj with rfl | hj
        · exact Or.inl List.mem_cons_self
        · exact Or.inr (List.mem_append_right _ hj)

/-! ### The fuel is enough -/

/-- the places of the code that were not seen -/
def unseen (code : Code) (seen : Array Bool) : Finset Nat :=
  (Finset.range code.size).filter fun i => seen[i]?.getD false = false

theorem unseen_mark (hsize : seen.size = code.size + 1) :
    unseen code (seen.setIfInBounds place true) = (unseen code seen).erase place := by
  ext i
  simp only [unseen, Finset.mem_filter, Finset.mem_range, Finset.mem_erase]
  rcases eq_or_ne place i with rfl | hne
  · have : place < code.size → (seen.setIfInBounds place true)[place]? = some true := fun h =>
      Array.getElem?_setIfInBounds_self_of_lt (by omega)
    constructor
    · rintro ⟨hlt, hunseen⟩
      rw [this hlt] at hunseen
      exact absurd hunseen Bool.noConfusion
    · exact fun h => absurd rfl h.1
  · rw [Array.getElem?_setIfInBounds_ne hne]
    exact ⟨fun h => ⟨hne.symm, h⟩, fun h => h.2⟩

/-- what a place leads to is paid for by the place itself -/
theorem length_further_le (code : Code) (passes : Look → Bool) (hunseen : seen[place]?.getD false = false) :
    (further code passes place).length + 2 * ((unseen code seen).erase place).card ≤ 2 * (unseen code seen).card := by
  rcases Nat.lt_or_ge place code.size with hlt | hge
  · have hmem : place ∈ unseen code seen := Finset.mem_filter.2 ⟨Finset.mem_range.2 hlt, hunseen⟩
    have hcard := Finset.card_erase_add_one hmem
    have htwo : (further code passes place).length ≤ 2 := by
      rw [further]
      split
      · exact Nat.le_refl 2
      · exact Nat.le_succ 1
      · split
        · exact Nat.le_succ 1
        · exact Nat.zero_le 2
      · exact Nat.zero_le 2
    omega
  · have hnone : further code passes place = [] := by rw [further, Array.getElem?_eq_none hge]
    rw [hnone, List.length_nil, Nat.zero_add]
    exact Nat.mul_le_mul_left 2 (Finset.card_le_card (Finset.erase_subset place _))

/-- with fuel enough, all that is found or to follow is found in the end, and so is all that this leads to -/
theorem follow_closed (h : Kept code passes stack seen found)
    (hfuel : stack.length + 2 * (unseen code seen).card ≤ fuel) :
    (∀ i ∈ found, i ∈ follow code passes fuel stack seen found) ∧
      (∀ i ∈ stack, i ∈ follow code passes fuel stack seen found) ∧
      ∀ i ∈ follow code passes fuel stack seen found, ∀ j ∈ further code passes i,
        j ∈ follow code passes fuel stack seen found := by
  induction fuel generalizing stack seen found with
  | zero =>
    obtain rfl : stack = [] := List.eq_nil_of_length_eq_zero (by omega)
    exact ⟨fun i hi => hi, fun i hi => absurd hi List.not_mem_nil,
      fun i hi j hj => (h.closed i hi j hj).resolve_right List.not_mem_nil⟩
  | succ fuel ih =>
    cases stack with
    | nil =>
      exact ⟨fun i hi => hi, fun i hi => absurd hi List.not_mem_nil,
        fun i hi j hj => (h.closed i hi j hj).resolve_right List.not_mem_nil⟩
    | cons place more =>
      rw [List.length_cons] at hfuel
      rw [follow]
      split
      · rename_i hseen
        obtain ⟨hfound, hstack, hclosed⟩ := ih (h.skip hseen) (by omega)
        refine ⟨hfound, fun i hi => ?_, hclosed⟩
        rcases List.mem_cons.1 hi with rfl | hi
        · exact hfound i (h.seen i hseen)
        · exact hstack i hi
      · rename_i hseen
        have hpaid := length_further_le code passes (Bool.eq_false_of_not_eq_true hseen)
        obtain ⟨hfound, hstack, hclosed⟩ := ih h.mark (by rw [unseen_mark h.size, List.length_append]; omega)
        refine ⟨fun i hi => hfound i (List.mem_cons_of_mem place hi), fun i hi => ?_, hclosed⟩
        rcases List.mem_cons.1 hi with rfl | hi
        · exact hfound i List.mem_cons_self
        · exact hstack i (List.mem_append_right _ hi)

/-! ## The places where the search waits -/

/-- a place to wait at: for a character, for a check, or, at the end of the code, for nothing more -/
def Waits (code : Code) (i : Nat) : Prop := code[i]?.all Instruction.waits = true

theorem waits_of_getElem? {x : Instruction} (h : code[i]? = some x) (hx : x.waits = true) : Waits code i := by
  rw [Waits, h]
  exact hx

theorem waits_size (code : Code) : Waits code code.size := by simp [Waits]

theorem mem_reach_iff :
    j ∈ reach code passes places ↔ Waits code j ∧ ∃ i ∈ places, Onward code passes i j := by
  have hstart : Kept code passes places (.replicate (code.size + 1) false) [] := by
    refine ⟨Array.size_replicate, fun i hi => ?_, fun i hi => absurd hi List.not_mem_nil⟩
    rw [Array.getElem?_replicate] at hi
    split at hi <;> exact absurd hi Bool.noConfusion
  have hfuel : places.length + 2 * (unseen code (.replicate (code.size + 1) false)).card ≤
      places.length + 2 * code.size := by
    have := Finset.card_filter_le (Finset.range code.size) fun i =>
      (Array.replicate (code.size + 1) false)[i]?.getD false = false
    rw [Finset.card_range] at this
    exact Nat.add_le_add_left (Nat.mul_le_mul_left 2 this) _
  obtain ⟨-, hplaces, hclosed⟩ := follow_closed hstart hfuel
  rw [reach, List.mem_filter, List.mem_reverse, and_comm]
  refine and_congr_right' ⟨fun h => ?_, ?_⟩
  · exact (onward_of_mem_follow h).resolve_left List.not_mem_nil
  · rintro ⟨i, hi, honward⟩
    induction honward with
    | refl => exact hplaces i hi
    | tail _ hnext ih => exact hclosed _ ih _ hnext

/-! ## Once the next character is known -/

section

variable {before ahead : Option Char} {c : Char} {r t : Text} {s u v : Point} {n k : Nat}

theorem step_of_mem_further (hpasses : ∀ l, passes l = true → s.Holds l) (h : j ∈ further code passes i) :
    Step code i s j s := by
  rcases mem_further_iff.1 h with ⟨first, second, hfork, hj⟩ | hjump | ⟨l, hcheck, hl, rfl⟩
  · exact (step_fork_iff hfork).2 ⟨rfl, hj⟩
  · exact .jump hjump
  · exact .check hcheck (hpasses l hl)

theorem Onward.reaches (hpasses : ∀ l, passes l = true → s.Holds l) (h : Onward code passes i j) :
    Reaches code i s j s := by
  induction h with
  | refl => exact .refl code i s
  | tail _ hnext ih => exact ih.trans (.single (step_of_mem_further hpasses hnext))

/-- what is reached by checks that are known to hold is reached whatever the next character is -/
theorem reaches_of_mem_reach (h : j ∈ reach code (Look.isKnown before) places) (t : Text) :
    ∃ i ∈ places, Reaches code i ⟨before, t⟩ j ⟨before, t⟩ := by
  obtain ⟨-, i, hi, honward⟩ := mem_reach_iff.1 h
  exact ⟨i, hi, honward.reaches fun l hl => Look.holds_of_isKnown hl⟩

/-- a step takes a character, or else it is onward -/
theorem step_cases (h : Step code i s j u) :
    (u = s ∧ j ∈ further code (Look.holds s.before s.rest.head?) i) ∨
      ∃ set, code[i]? = some (.take set) ∧ j = i + 1 ∧ (one set).Fits s u := by
  cases h with
  | take h hc => exact Or.inr ⟨_, h, rfl, _, hc, rfl, rfl⟩
  | check h hl => exact Or.inl ⟨rfl, mem_further_iff.2 (Or.inr (Or.inr ⟨_, h, hl, rfl⟩))⟩
  | first h => exact Or.inl ⟨rfl, mem_further_iff.2 (Or.inl ⟨_, _, h, Or.inl rfl⟩)⟩
  | second h => exact Or.inl ⟨rfl, mem_further_iff.2 (Or.inl ⟨_, _, h, Or.inr rfl⟩)⟩
  | jump h => exact Or.inl ⟨rfl, mem_further_iff.2 (Or.inr (Or.inl h))⟩

/-- a way up to where a character is taken, or to its end -/
theorem onward_or_take (h : Way code n i s k v) :
    (v = s ∧ Onward code (Look.holds s.before s.rest.head?) i k) ∨
      ∃ j set u, Onward code (Look.holds s.before s.rest.head?) i j ∧ code[j]? = some (.take set) ∧
        (one set).Fits s u ∧ Reaches code (j + 1) u k v := by
  induction h with
  | here => exact Or.inl ⟨rfl, .refl⟩
  | @step m i _ k s u v hstep hrest ih =>
    rcases step_cases hstep with ⟨rfl, hfurther⟩ | ⟨set, htake, rfl, hfits⟩
    · rcases ih with ⟨rfl, honward⟩ | ⟨j, set, w, honward, hmore⟩
      · exact Or.inl ⟨rfl, .head hfurther honward⟩
      · exact Or.inr ⟨j, set, w, .head hfurther honward, hmore⟩
    · exact Or.inr ⟨i, set, u, .refl, htake, hfits, m, hrest⟩

/-- a way to success comes first to a place to wait at, and needs no check for that -/
theorem exists_waits (passes : Look → Bool) (h : Way code n i s k v) (hk : Waits code k) :
    ∃ j, Waits code j ∧ Onward code passes i j ∧ Reaches code j s k v := by
  induction h with
  | here i s => exact ⟨i, hk, .refl, .refl code i s⟩
  | @step m i j k s u v hstep hrest ih =>
    have go : u = s → j ∈ further code passes i →
        ∃ j, Waits code j ∧ Onward code passes i j ∧ Reaches code j s k v := by
      rintro rfl hfurther
      obtain ⟨w, hw, honward, hreaches⟩ := ih hk
      exact ⟨w, hw, .head hfurther honward, hreaches⟩
    have stay : Waits code i → ∃ j, Waits code j ∧ Onward code passes i j ∧ Reaches code j s k v :=
      fun hi => ⟨i, hi, .refl, m + 1, .step hstep hrest⟩
    cases hstep with
    | take h hc => exact stay (waits_of_getElem? h rfl)
    | check h hl => exact stay (waits_of_getElem? h rfl)
    | first h => exact go rfl (mem_further_iff.2 (Or.inl ⟨_, _, h, Or.inl rfl⟩))
    | second h => exact go rfl (mem_further_iff.2 (Or.inl ⟨_, _, h, Or.inr rfl⟩))
    | jump h => exact go rfl (mem_further_iff.2 (Or.inr (Or.inl h)))

/-- places where the search waits, behind this character, with all those onward by checks that are known to hold -/
structure Waiting (code : Code) (before : Option Char) (places : List Nat) : Prop where
  waits : ∀ i ∈ places, Waits code i
  closed : ∀ i ∈ places, ∀ j, Onward code (Look.isKnown before) i j → Waits code j → j ∈ places

theorem waiting_reach (code : Code) (before : Option Char) (places : List Nat) :
    Waiting code before (reach code (Look.isKnown before) places) where
  waits _ hi := (mem_reach_iff.1 hi).1
  closed i hi j hj hwaits := by
    obtain ⟨-, k, hk, honward⟩ := mem_reach_iff.1 hi
    exact mem_reach_iff.2 ⟨hwaits, k, hk, honward.trans hj⟩

/-- a place that is onward is so by checks known to hold before the next character, or behind one that unlocks -/
theorem onward_isKnown_or (h : Onward code (Look.holds before ahead) i j) :
    Onward code (Look.isKnown before) i j ∨
      ∃ k, Onward code (Look.isKnown before) i k ∧ unlocks code before ahead k = true := by
  induction h with
  | refl => exact Or.inl .refl
  | @tail k j _ hnext ih =>
    refine ih.elim (fun honward => ?_) Or.inr
    cases hunlocks : unlocks code before ahead k with
    | true => exact Or.inr ⟨k, honward, hunlocks⟩
    | false =>
      refine Or.inl (honward.tail ?_)
      rcases mem_further_iff.1 hnext with hfork | hjump | ⟨l, hcheck, hl, hj⟩
      · exact mem_further_iff.2 (Or.inl hfork)
      · exact mem_further_iff.2 (Or.inr (Or.inl hjump))
      · have hknown : l.isKnown before = true := by simpa [unlocks, hcheck, hl] using hunlocks
        exact mem_further_iff.2 (Or.inr (Or.inr ⟨l, hcheck, hknown, hj⟩))

theorem waits_of_unlocks (h : unlocks code before ahead i = true) : Waits code i := by
  rw [unlocks] at h
  split at h
  · rename_i hcheck
    exact waits_of_getElem? hcheck rfl
  · exact absurd h Bool.noConfusion

theorem mem_settle_iff (h : Waiting code before places) :
    j ∈ settle code before ahead places ↔
      Waits code j ∧ ∃ i ∈ places, Onward code (Look.holds before ahead) i j := by
  rw [settle]
  split
  · exact mem_reach_iff
  · rename_i hlocked
    constructor
    · exact fun hj => ⟨h.waits j hj, j, hj, .refl⟩
    · rintro ⟨hwaits, i, hi, honward⟩
      rcases onward_isKnown_or honward with hknown | ⟨k, hknown, hunlocks⟩
      · exact h.closed i hi j hknown hwaits
      · exact absurd (List.any_eq_true.2 ⟨k, h.closed i hi k hknown (waits_of_unlocks hunlocks), hunlocks⟩) hlocked

/-! ## Character by character -/

theorem after?_eq_some_iff : after? code c i = some j ↔
    ∃ set, code[i]? = some (.take set) ∧ set.contains c = true ∧ j = i + 1 := by
  rw [after?]
  split
  · rename_i set h
    constructor
    · intro hset
      split at hset
      · rename_i hc
        exact ⟨set, h, hc, (Option.some.inj hset).symm⟩
      · exact nomatch hset
    · rintro ⟨set', h', hc, rfl⟩
      obtain rfl : set = set' := by simpa [h] using h'
      exact if_pos hc
  · rename_i h
    constructor
    · exact fun hn => nomatch hn
    · rintro ⟨set, hset, -⟩
      exact absurd hset (h set)

theorem reaches_of_mem_advance (h : Waiting code before places) (hj : j ∈ advance code before places c) :
    ∃ i ∈ places, Reaches code i ⟨before, c :: r⟩ j ⟨some c, r⟩ := by
  obtain ⟨k, hk, hlater⟩ := reaches_of_mem_reach hj r
  obtain ⟨live, hlive, hafter⟩ := List.mem_filterMap.1 hk
  obtain ⟨set, htake, hc, rfl⟩ := after?_eq_some_iff.1 hafter
  obtain ⟨-, i, hi, honward⟩ := (mem_settle_iff h).1 ((List.takeWhile_sublist _).subset hlive)
  have hfirst : Reaches code i ⟨before, c :: r⟩ live ⟨before, c :: r⟩ := honward.reaches fun l hl => hl
  exact ⟨i, hi, hfirst.trans (.head (.take htake hc) hlater)⟩

theorem reaches_of_succeeds (h : Waiting code before places) (hs : succeeds code before places t = true) :
    ∃ i ∈ places, ∃ last, Reaches code i ⟨before, t⟩ code.size ⟨last, []⟩ := by
  induction t generalizing before places with
  | nil =>
    obtain ⟨-, i, hi, honward⟩ := (mem_settle_iff h).1 (of_decide_eq_true hs)
    exact ⟨i, hi, before, honward.reaches fun l hl => hl⟩
  | cons c r ih =>
    obtain ⟨j, hj, last, hmore⟩ := ih (waiting_reach code (some c) _) hs
    obtain ⟨i, hi, hfirst⟩ := reaches_of_mem_advance h hj
    exact ⟨i, hi, last, hfirst.trans hmore⟩

/-- a way to success at the end of the text is followed to it, unless another one came to success before -/
theorem succeeds_or_before (h : Waiting code before places) {last : Option Char} (hi : i ∈ places)
    (hreaches : Reaches code i ⟨before, t⟩ code.size ⟨last, []⟩) :
    succeeds code before places t = true ∨ ∃ i ∈ places, ∃ k u, code.size ≤ k ∧ u.rest ≠ [] ∧
      Reaches code i ⟨before, t⟩ k u := by
  induction t generalizing before places i with
  | nil =>
    obtain ⟨n, hn⟩ := hreaches
    rcases onward_or_take hn with ⟨-, honward⟩ | ⟨_, _, _, _, _, ⟨_, _, hempty, _⟩, _⟩
    · exact Or.inl (decide_eq_true ((mem_settle_iff h).2 ⟨waits_size code, i, hi, honward⟩))
    · exact absurd hempty (by simp)
  | cons c r ih =>
    obtain ⟨n, hn⟩ := hreaches
    rcases onward_or_take hn with ⟨hend, -⟩ | ⟨j, set, u, honward, htake, ⟨d, hd, hrest, hbefore⟩, m, hm⟩
    · exact absurd (congrArg Point.rest hend) (by simp)
    · obtain ⟨before', rest'⟩ := u
      obtain ⟨rfl, rfl⟩ := List.cons.inj hrest
      obtain rfl : before' = some c := hbefore
      have hsettled := (mem_settle_iff h).2 ⟨waits_of_getElem? htake rfl, i, hi, honward⟩
      by_cases hlive : ∀ k ∈ settle code before (some c) places, k < code.size
      · -- none of the places is success, so none of them is left out
        obtain ⟨k, hk, honward, hlater⟩ := exists_waits (Look.isKnown (some c)) hm (waits_size code)
        have hadvance : k ∈ advance code before places c := by
          refine mem_reach_iff.2 ⟨hk, j + 1, List.mem_filterMap.2 ⟨j, ?_, ?_⟩, honward⟩
          · rwa [List.takeWhile_eq_self_iff.2 fun k hk => decide_eq_true (hlive k hk)]
          · exact after?_eq_some_iff.2 ⟨set, htake, hd, rfl⟩
        rcases ih (waiting_reach code (some c) _) hadvance hlater with hs | ⟨k', hk', e, u, he, hu, hearly⟩
        · exact Or.inl hs
        · obtain ⟨i', hi', hfirst⟩ := reaches_of_mem_advance h hk'
          exact Or.inr ⟨i', hi', e, u, he, hu, hfirst.trans hearly⟩
      · simp only [not_forall, Nat.not_lt] at hlive
        obtain ⟨e, he, hsize⟩ := hlive
        obtain ⟨-, i', hi', hfirst⟩ := (mem_settle_iff h).1 he
        exact Or.inr ⟨i', hi', e, ⟨before, c :: r⟩, hsize, by simp, hfirst.reaches fun l hl => hl⟩

end

end Code

/-! ## The search -/

/-- fits what is `found` in the text between `front` and `back` -/
def Matches (p : Pattern) (front found back : Text) : Prop :=
  p.Fits ⟨front.getLast?, found ++ back⟩ ⟨(front ++ found).getLast?, back⟩

variable {p : Pattern} {front found back t : Text} {s u v : Point} {k : Nat}

theorem anyNumber_all_fits (h : s.Before u) : (anyNumber true (one .all)).Fits s u := by
  obtain ⟨taken, hr, hb⟩ := h
  induction taken generalizing s with
  | nil =>
    obtain rfl : s = u := Point.ext (by simpa using hb.symm) hr
    exact .refl
  | cons c r ih =>
    have hmore : (anyNumber true (one .all)).Fits ⟨some c, r ++ u.rest⟩ u := by
      refine ih rfl ?_
      rw [hb, List.getLast?_cons]
      cases r.getLast? <;> rfl
    have hfirst : (one .all).Fits s ⟨some c, r ++ u.rest⟩ := ⟨c, CharSet.contains_all c, hr, rfl⟩
    exact .head hfirst hmore

/-- the code of the search leads from the front of a text to success where the pattern fits something, wherever that
begins -/
theorem reaches_searchCode_iff (hk : p.searchCode.size ≤ k) :
    Reaches p.searchCode 0 ⟨none, t⟩ k v ↔ k = p.searchCode.size ∧
      ∃ front found, front ++ (found ++ v.rest) = t ∧ v.before = (front ++ found).getLast? ∧
        p.Matches front found v.rest := by
  have hsize : p.searchCode.size = (append (anyNumber true (one .all)) p).size := by
    rw [searchCode, List.size_toArray, length_code]
  rw [hsize] at hk ⊢
  rw [searchCode, reaches_code_iff _ hk]
  refine and_congr_right' ⟨?_, ?_⟩
  · rintro ⟨u, hany, hfits⟩
    obtain ⟨front, hr, hb⟩ := Fits.before hany
    obtain ⟨found, hr', hb'⟩ := hfits.before
    have hu : u = ⟨front.getLast?, found ++ v.rest⟩ := Point.ext (by simpa using hb) hr'
    have hv : v = ⟨(front ++ found).getLast?, v.rest⟩ := by
      refine Point.ext ?_ rfl
      rw [hb', hu, List.getLast?_append]
    refine ⟨front, found, ?_, congrArg Point.before hv, ?_⟩
    · rw [← hr']
      exact hr.symm
    · rwa [hu, hv] at hfits
  · rintro ⟨front, found, rfl, hb, hfits⟩
    refine ⟨⟨front.getLast?, found ++ v.rest⟩, anyNumber_all_fits ⟨front, rfl, by simp⟩, ?_⟩
    rwa [Matches, ← hb] at hfits

theorem exists_matches_of_reachesEnd (h : p.reachesEnd t = true) :
    ∃ front found, front ++ found = t ∧ p.Matches front found [] := by
  obtain ⟨i, hi, last, hend⟩ := Code.reaches_of_succeeds (Code.waiting_reach p.searchCode none [0]) h
  obtain ⟨i₀, hi₀, hstart⟩ := Code.reaches_of_mem_reach hi t
  obtain rfl := List.mem_singleton.1 hi₀
  obtain ⟨-, front, found, ht, -, hfits⟩ := (reaches_searchCode_iff (Nat.le_refl _)).1 (hstart.trans hend)
  rw [List.append_nil] at ht
  exact ⟨front, found, ht, hfits⟩

theorem reachesEnd_or_matches (h : p.Matches front found []) :
    p.reachesEnd (front ++ found) = true ∨
      ∃ front' found' back, back ≠ [] ∧ front' ++ (found' ++ back) = front ++ found ∧ p.Matches front' found' back := by
  have hend : Reaches p.searchCode 0 ⟨none, front ++ found⟩ p.searchCode.size ⟨(front ++ found).getLast?, []⟩ :=
    (reaches_searchCode_iff (Nat.le_refl _)).2 ⟨rfl, front, found, by rw [List.append_nil], rfl, h⟩
  obtain ⟨n, hn⟩ := hend
  obtain ⟨i, hwaits, honward, hi⟩ := Code.exists_waits (Look.isKnown none) hn (Code.waits_size p.searchCode)
  have hmem : i ∈ Code.reach p.searchCode (Look.isKnown none) [0] :=
    Code.mem_reach_iff.2 ⟨hwaits, 0, List.mem_singleton_self 0, honward⟩
  have hwaiting := Code.waiting_reach p.searchCode none [0]
  rcases Code.succeeds_or_before hwaiting hmem hi with hs | ⟨j, hj, k, u, hk, hu, hbefore⟩
  · exact Or.inl hs
  · obtain ⟨j₀, hj₀, hstart⟩ := Code.reaches_of_mem_reach hj (front ++ found)
    obtain rfl := List.mem_singleton.1 hj₀
    obtain ⟨-, front', found', ht, -, hfits⟩ := (reaches_searchCode_iff hk).1 (hstart.trans hbefore)
    exact Or.inr ⟨front', found', u.rest, hu, ht, hfits⟩

-- what is preferred ends before the end of the text, although the other branch would go up to it
example :
    (either (one (.single 'a')) (append (one (.single 'a')) (one (.single 'b')))).reachesEnd ['a', 'b'] = false := by
  decide

theorem reachesEnd_iff
    (hlast : ∀ front found back, front ++ (found ++ back) = t → p.Matches front found back → back = []) :
    p.reachesEnd t = true ↔ ∃ front found, front ++ found = t ∧ p.Matches front found [] := by
  refine ⟨exists_matches_of_reachesEnd, ?_⟩
  rintro ⟨front, found, rfl, h⟩
  rcases reachesEnd_or_matches h with hr | ⟨front', found', back, hback, ht, h'⟩
  · exact hr
  · exact absurd (hlast front' found' back ht h') hback

theorem reachesEnd_textBack_iff :
    (append p (look .textBack)).reachesEnd t = true ↔ ∃ front found, front ++ found = t ∧ p.Matches front found [] := by
  have hlook : ∀ front found back,
      (append p (look .textBack)).Matches front found back ↔ back = [] ∧ p.Matches front found back := by
    intro front found back
    constructor
    · rintro ⟨w, hfits, rfl, hback⟩
      exact ⟨by simpa [Point.Holds, Look.holds] using hback, hfits⟩
    · rintro ⟨rfl, hfits⟩
      exact ⟨_, hfits, rfl, rfl⟩
  rw [reachesEnd_iff fun front found back _ h => ((hlook front found back).1 h).1]
  simp only [hlook, true_and]

end PowerPrefs.Text.Pattern
