/-
Names counted in one pass. The entries are gone through once, in order. Each is noted: its key goes into the set of its
name, and a set is begun where the name is new. What the pass has after some of the entries is the tally of these
entries, and the tally of a document tells its collisions.

- `Tallies.note`: noting one more entry makes a tally of one entry more.
- `tallies_tally`: so the pass ends with the tally of all entries.
- `Tallies.eq_map`: there is one tally only, the names of the document with the keys of each.
- `collisions_eq_filter_tally`: the collisions are what is left of it without the names of a single key.
-/
import Mathlib.Data.List.Induction
import PowerPrefs.Document
import PowerPrefs.Proofs.Text.Sorted

namespace PowerPrefs.Document

open Text

/-! ## The pass -/

/-- with the key of the entry in the set of its name -/
def note (e : Entry) : List (Text × List Text) → List (Text × List Text)
  | [] => [(e.name, [e.key])]
  | (n, keys) :: r =>
    if e.name < n then (e.name, [e.key]) :: (n, keys) :: r
    else if e.name = n then (n, insertSorted e.key keys) :: r
    else (n, keys) :: note e r

/-- the names of the entries in order, each with its keys, from one pass over the entries -/
def tally (es : List Entry) : List (Text × List Text) := es.foldl (fun t e => note e t) []

/-- `t` has each name of the entries once and in order, with the set of all its keys -/
structure Tallies (es : List Entry) (t : List (Text × List Text)) : Prop where
  names_increasing : Increasing (t.map Prod.fst)
  mem_names_iff : ∀ n, n ∈ t.map Prod.fst ↔ ∃ e ∈ es, e.name = n
  keys_increasing : ∀ n keys, (n, keys) ∈ t → Increasing keys
  mem_keys_iff : ∀ n keys, (n, keys) ∈ t → ∀ k, k ∈ keys ↔ ∃ e ∈ es, e.name = n ∧ e.key = k

variable {es : List Entry} {t : List (Text × List Text)} {n : Text} {keys : List Text}

/-! ## One entry -/

theorem map_fst_note (e : Entry) (t : List (Text × List Text)) :
    (note e t).map Prod.fst = insertSorted e.name (t.map Prod.fst) := by
  induction t with
  | nil => rfl
  | cons p r ih =>
    obtain ⟨n, keys⟩ := p
    simp only [note, List.map_cons, insertSorted]
    split
    · rfl
    · split
      · rfl
      · rw [List.map_cons, ih]

/-- the set of the entry's name goes on from what was there, or from nothing; all other sets stay -/
theorem mem_note {e : Entry} (hinc : Increasing (t.map Prod.fst)) (h : (n, keys) ∈ note e t) :
    n ≠ e.name ∧ (n, keys) ∈ t ∨
      n = e.name ∧ ∃ old, ((n, old) ∈ t ∨ n ∉ t.map Prod.fst ∧ old = []) ∧ keys = insertSorted e.key old := by
  induction t with
  | nil =>
    obtain ⟨rfl, rfl⟩ := Prod.mk.inj (List.mem_singleton.1 h)
    exact Or.inr ⟨rfl, [], Or.inr ⟨List.not_mem_nil, rfl⟩, rfl⟩
  | cons p r ih =>
    obtain ⟨m, ms⟩ := p
    obtain ⟨hfirst, hr⟩ := List.pairwise_cons.1 hinc
    have hname : ∀ {n keys}, (n, keys) ∈ r → m < n := fun hn => hfirst _ (List.mem_map_of_mem hn)
    simp only [note] at h
    split at h
    · rename_i hlt
      rcases List.mem_cons.1 h with hnew | hold
      · obtain ⟨rfl, rfl⟩ := Prod.mk.inj hnew
        refine Or.inr ⟨rfl, [], Or.inr ⟨?_, rfl⟩, rfl⟩
        intro hmem
        rcases List.mem_cons.1 hmem with heq | hmem
        · exact absurd hlt (heq ▸ lt_irrefl _)
        · exact lt_asymm hlt (hfirst _ hmem)
      · refine Or.inl ⟨?_, hold⟩
        rintro rfl
        rcases List.mem_cons.1 hold with heq | hmem
        · exact absurd hlt ((Prod.mk.inj heq).1 ▸ lt_irrefl _)
        · exact lt_asymm hlt (hname hmem)
    · rename_i hnlt
      split at h
      · rename_i heq
        subst heq
        rcases List.mem_cons.1 h with hnew | hold
        · obtain ⟨rfl, rfl⟩ := Prod.mk.inj hnew
          exact Or.inr ⟨rfl, ms, Or.inl List.mem_cons_self, rfl⟩
        · exact Or.inl ⟨ne_of_gt (hname hold), List.mem_cons_of_mem _ hold⟩
      · rename_i hne
        rcases List.mem_cons.1 h with hfront | hlater
        · obtain ⟨rfl, rfl⟩ := Prod.mk.inj hfront
          exact Or.inl ⟨Ne.symm hne, List.mem_cons_self⟩
        · rcases ih hr hlater with ⟨hother, hmem⟩ | ⟨rfl, old, hold, rfl⟩
          · exact Or.inl ⟨hother, List.mem_cons_of_mem _ hmem⟩
          · refine Or.inr ⟨rfl, old, ?_, rfl⟩
            rcases hold with hmem | ⟨hnew, rfl⟩
            · exact Or.inl (List.mem_cons_of_mem _ hmem)
            · exact Or.inr ⟨List.not_mem_cons_of_ne_of_not_mem hne hnew, rfl⟩

theorem exists_mem_snoc {e : Entry} {P : Entry → Prop} :
    (∃ e' ∈ es ++ [e], P e') ↔ P e ∨ ∃ e' ∈ es, P e' := by
  simp only [List.mem_append, List.mem_singleton, or_and_right, exists_or, exists_eq_left, or_comm]

/-- noting one more entry makes a tally of one entry more -/
theorem Tallies.note (h : Tallies es t) (e : Entry) : Tallies (es ++ [e]) (note e t) where
  names_increasing := by
    rw [map_fst_note]
    exact increasing_insertSorted e.name h.names_increasing
  mem_names_iff n := by
    rw [map_fst_note, mem_insertSorted, h.mem_names_iff, exists_mem_snoc, eq_comm]
  keys_increasing n keys hp := by
    rcases mem_note h.names_increasing hp with ⟨-, hmem⟩ | ⟨-, old, hold | ⟨-, rfl⟩, rfl⟩
    · exact h.keys_increasing n keys hmem
    · exact increasing_insertSorted e.key (h.keys_increasing n old hold)
    · exact increasing_insertSorted e.key .nil
  mem_keys_iff n keys hp k := by
    rw [exists_mem_snoc]
    rcases mem_note h.names_increasing hp with ⟨hne, hmem⟩ | ⟨rfl, old, hold, rfl⟩
    · rw [h.mem_keys_iff n keys hmem, or_iff_right fun he => hne he.1.symm]
    · have hbefore : k ∈ old ↔ ∃ e' ∈ es, e'.name = e.name ∧ e'.key = k := by
        rcases hold with hmem | ⟨hnew, rfl⟩
        · exact h.mem_keys_iff e.name old hmem k
        · have hnone : ¬∃ e' ∈ es, e'.name = e.name := mt (h.mem_names_iff e.name).2 hnew
          constructor
          · intro hk
            exact absurd hk List.not_mem_nil
          · intro hk
            obtain ⟨e', he', hn, -⟩ := hk
            exact absurd ⟨e', he', hn⟩ hnone
      rw [mem_insertSorted, hbefore, eq_comm, and_iff_right rfl]

/-! ## All entries -/

theorem tallies_tally (es : List Entry) : Tallies es (tally es) := by
  induction es using List.reverseRecOn with
  | nil => exact ⟨.nil, by simp [tally], by simp [tally], by simp [tally]⟩
  | append_singleton es e ih =>
    rw [tally, List.foldl_append]
    exact ih.note e

theorem Tallies.eq_map {d : Document} (h : Tallies d.entries t) : t = d.names.map fun n => (n, d.keysNamed n) := by
  have hnames : t.map Prod.fst = d.names := by
    refine h.names_increasing.eq_of_mem_iff (increasing_sortedSet _) fun n => ?_
    rw [h.mem_names_iff, mem_names]
  have hkeys : ∀ p ∈ t, (p.1, d.keysNamed p.1) = p := by
    intro p hp
    have heq : p.2 = d.keysNamed p.1 := by
      refine (h.keys_increasing p.1 p.2 hp).eq_of_mem_iff (increasing_sortedSet _) fun k => ?_
      rw [h.mem_keys_iff p.1 p.2 hp, mem_keysNamed]
    rw [← heq]
  rw [← hnames, List.map_map]
  exact ((List.map_congr_left hkeys).trans (List.map_id t)).symm

theorem collisions_eq_filter {d : Document} (h : Tallies d.entries t) :
    d.collisions = t.filter fun (_, keys) => 1 < keys.length := by
  rw [collisions, ← h.eq_map]

theorem mem_collisions {d : Document} (h : Tallies d.entries t) :
    (n, keys) ∈ d.collisions ↔ (n, keys) ∈ t ∧ 1 < keys.length := by
  rw [collisions_eq_filter h, List.mem_filter, decide_eq_true_iff]

/-- the collisions come from one pass over the entries -/
theorem collisions_eq_filter_tally (d : Document) :
    d.collisions = (tally d.entries).filter fun (_, keys) => 1 < keys.length :=
  collisions_eq_filter (tallies_tally d.entries)

end PowerPrefs.Document
