/-
What the collisions of a document are, for all entries, also those whose name is not made from their key. A name collides
if two entries have it under different keys; all keys that have the name are then in its set. Names and keys are in the
order of their bytes, and none is there twice.

All of this is said by the pairs of a name and a key alone. So the order of the entries, entries that come again and
default values have no say, and further entries can only add to the collisions.

- `listsCollisions`: the collisions are what `ListsCollisions` describes.
- `collisions_congr`: documents with the same pairs have the same collisions.
- `exists_collision_append`: further entries take away no name and no key.
- `collisions_exact`: all of it, and that one pass over the entries finds the collisions.
-/
import PowerPrefs.Proofs.Document.Tally

namespace PowerPrefs.Document

open Text

/-- the names that two entries or more have under different keys, in order, each with all keys that have it, in order -/
structure ListsCollisions (d : Document) (cs : List (Text × List Text)) : Prop where
  mem_names_iff : ∀ n, n ∈ cs.map Prod.fst ↔
    ∃ e ∈ d.entries, ∃ e' ∈ d.entries, e.name = n ∧ e'.name = n ∧ e.key ≠ e'.key
  mem_keys_iff : ∀ n keys, (n, keys) ∈ cs → ∀ k, k ∈ keys ↔ ∃ e ∈ d.entries, e.name = n ∧ e.key = k
  names_sorted : (cs.map Prod.fst).Pairwise BytesLt
  keys_sorted : ∀ n keys, (n, keys) ∈ cs → keys.Pairwise BytesLt

/-- the name and the key of each entry -/
def namings (d : Document) : List (Text × Text) := d.entries.map fun e => (e.name, e.key)

variable {d d' : Document} {n k : Text}

theorem mem_namings : (n, k) ∈ d.namings ↔ ∃ e ∈ d.entries, e.name = n ∧ e.key = k := by
  simp [namings]

theorem exists_mem_namings : (∃ k, (n, k) ∈ d.namings) ↔ ∃ e ∈ d.entries, e.name = n := by
  simp [namings]

/-! ## What is listed -/

theorem Tallies.one_lt_length_iff {t : List (Text × List Text)} {keys : List Text} (h : Tallies d.entries t)
    (hp : (n, keys) ∈ t) : 1 < keys.length ↔
      ∃ e ∈ d.entries, ∃ e' ∈ d.entries, e.name = n ∧ e'.name = n ∧ e.key ≠ e'.key := by
  rw [(h.keys_increasing n keys hp).one_lt_length_iff]
  constructor
  · intro htwo
    obtain ⟨k, hk, k', hk', hne⟩ := htwo
    obtain ⟨e, he, hn, rfl⟩ := (h.mem_keys_iff n keys hp k).1 hk
    obtain ⟨e', he', hn', rfl⟩ := (h.mem_keys_iff n keys hp k').1 hk'
    exact ⟨e, he, e', he', hn, hn', hne⟩
  · intro htwo
    obtain ⟨e, he, e', he', hn, hn', hne⟩ := htwo
    exact ⟨e.key, (h.mem_keys_iff n keys hp _).2 ⟨e, he, hn, rfl⟩, e'.key,
      (h.mem_keys_iff n keys hp _).2 ⟨e', he', hn', rfl⟩, hne⟩

theorem listsCollisions (d : Document) : ListsCollisions d d.collisions := by
  have h := tallies_tally d.entries
  constructor
  · intro n
    constructor
    · intro hn
      obtain ⟨⟨n, keys⟩, hp, rfl⟩ := List.mem_map.1 hn
      obtain ⟨hp, hlength⟩ := (mem_collisions h).1 hp
      exact (h.one_lt_length_iff hp).1 hlength
    · intro htwo
      obtain ⟨e, he, -, -, hn, -⟩ := id htwo
      obtain ⟨⟨n, keys⟩, hp, rfl⟩ := List.mem_map.1 ((h.mem_names_iff n).2 ⟨e, he, hn⟩)
      exact List.mem_map_of_mem ((mem_collisions h).2 ⟨hp, (h.one_lt_length_iff hp).2 htwo⟩)
  · intro n keys hp
    exact h.mem_keys_iff n keys ((mem_collisions h).1 hp).1
  · rw [collisions_eq_filter h]
    exact h.names_increasing.bytesLt.sublist (List.filter_sublist.map Prod.fst)
  · intro n keys hp
    exact (h.keys_increasing n keys ((mem_collisions h).1 hp).1).bytesLt

/-! ## What the collisions depend on -/

theorem collisions_congr (h : ∀ p, p ∈ d'.namings ↔ p ∈ d.namings) : d'.collisions = d.collisions := by
  have ht := tallies_tally d.entries
  -- the tally of one document is the tally of the other
  have ht' : Tallies d'.entries (tally d.entries) := by
    refine { ht with mem_names_iff := fun n => ?_, mem_keys_iff := fun n keys hp k => ?_ }
    · rw [ht.mem_names_iff, ← exists_mem_namings, ← exists_mem_namings]
      exact exists_congr fun k => (h (n, k)).symm
    · rw [ht.mem_keys_iff n keys hp, ← mem_namings, ← mem_namings]
      exact (h (n, k)).symm
  rw [collisions_eq_filter ht', collisions_eq_filter ht]

theorem collisions_of_same_entries (h : ∀ e, e ∈ d'.entries ↔ e ∈ d.entries) : d'.collisions = d.collisions := by
  apply collisions_congr
  intro p
  simp only [namings, List.mem_map, h]

theorem exists_collision_append {n : Text} {keys : List Text} (h : (n, keys) ∈ d.collisions) (more : List Entry) :
    ∃ keys', (n, keys') ∈ (⟨d.entries ++ more⟩ : Document).collisions ∧ keys ⊆ keys' := by
  have hd := listsCollisions d
  have hlong := listsCollisions ⟨d.entries ++ more⟩
  obtain ⟨e, he, e', he', hn⟩ := (hd.mem_names_iff n).1 (List.mem_map_of_mem h)
  obtain ⟨⟨n, keys'⟩, hp, rfl⟩ := List.mem_map.1 ((hlong.mem_names_iff n).2
    ⟨e, List.mem_append_left _ he, e', List.mem_append_left _ he', hn⟩)
  refine ⟨keys', hp, fun k hk => ?_⟩
  obtain ⟨e, he, hk⟩ := (hd.mem_keys_iff n keys h k).1 hk
  exact (hlong.mem_keys_iff n keys' hp k).2 ⟨e, List.mem_append_left _ he, hk⟩

/-- **The collisions of a document are exactly the names that entries share under different keys, with all of these
keys**, sorted, whether names are made from keys or not. One pass over the entries finds them. They are the same for
every document with the same pairs of a name and a key, so for the entries in another order, with repetitions or with
other default values, and further entries take nothing away. -/
theorem collisions_exact (d : Document) :
    ListsCollisions d d.collisions ∧
      d.collisions = ((tally d.entries).filter fun (_, keys) => 1 < keys.length) ∧
      (∀ d' : Document, (∀ p, p ∈ d'.namings ↔ p ∈ d.namings) → d'.collisions = d.collisions) ∧
      (∀ d' : Document, d'.entries.Perm d.entries → d'.collisions = d.collisions) ∧
      (∀ d' : Document, (∀ e, e ∈ d'.entries ↔ e ∈ d.entries) → d'.collisions = d.collisions) ∧
      (∀ d' : Document, d'.namings = d.namings → d'.collisions = d.collisions) ∧
      ∀ more n keys, (n, keys) ∈ d.collisions →
        ∃ keys', (n, keys') ∈ (⟨d.entries ++ more⟩ : Document).collisions ∧ keys ⊆ keys' := by
  refine ⟨listsCollisions d, collisions_eq_filter_tally d, fun _ h => collisions_congr h, ?_, ?_, ?_, ?_⟩
  · intro d' h
    exact collisions_of_same_entries fun e => h.mem_iff
  · intro d' h
    exact collisions_of_same_entries h
  · intro d' h
    exact collisions_congr fun p => by rw [h]
  · intro more n keys h
    exact exists_collision_append h more

/-- names of their own, one of them shared by two keys; another order, a repetition, other defaults and one entry more -/
theorem collisions_exact_renamed :
    let a : Entry := ⟨"a".toList, "n".toList, none⟩
    let accented : Entry := ⟨"é".toList, "n".toList, some "x".toList⟩
    let z : Entry := ⟨"z".toList, "m".toList, none⟩
    let d : Document := ⟨[accented, z, a]⟩
    let other : Document := ⟨[z, a, { accented with default := none }, a]⟩
    let repeated : Document := ⟨[accented, z, accented, a]⟩
    let more : Entry := ⟨"b".toList, "n".toList, none⟩
    d.collisions = [("n".toList, ["a".toList, "é".toList])] ∧ other.collisions = d.collisions ∧
      (⟨[a, accented, z]⟩ : Document).collisions = d.collisions ∧ repeated.collisions = d.collisions ∧
      (⟨[{ accented with default := none }, z, a]⟩ : Document).collisions = d.collisions ∧
      ∃ keys, ("n".toList, keys) ∈ (⟨d.entries ++ [more]⟩ : Document).collisions ∧
        ["a".toList, "é".toList] ⊆ keys := by
  intro a accented z d other repeated more
  have hd : d.collisions = [("n".toList, ["a".toList, "é".toList])] := by decide
  have hpairs : other.namings ⊆ d.namings ∧ d.namings ⊆ other.namings := by decide
  have hentries : repeated.entries ⊆ d.entries ∧ d.entries ⊆ repeated.entries := by decide
  obtain ⟨-, -, hsame, hperm, hrepeated, hdefaults, hmore⟩ := collisions_exact d
  refine ⟨hd, hsame other fun p => ⟨fun h => hpairs.1 h, fun h => hpairs.2 h⟩, hperm _ (by decide),
    hrepeated repeated fun e => ⟨fun h => hentries.1 h, fun h => hentries.2 h⟩, hdefaults _ rfl, ?_⟩
  exact hmore [more] _ _ (hd ▸ List.mem_cons_self)

end PowerPrefs.Document
