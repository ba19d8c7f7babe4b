/-
The constants listing: a text in which pref declarations stand among anything else.

Declarations are found from the front. One that is found is passed over whole, so that no two overlap, and where none
starts the search moves on by one character. Places are counted in bytes. `Listing.search` says just that;
`Listing.occurrences` reads at every place first and then picks.
- `Listing.occurrences` keeps the place of each declaration.
- `Listing.keys` is the keys in order of declaration, a key declared twice being listed twice. Line endings are made
  line feeds first, since a declaration may be wrapped at a line feed only.
- `Listing.occurrences_eq_search`: picking finds what searching finds.
-/
import PowerPrefs.Declaration
import PowerPrefs.Text.Newline

namespace PowerPrefs

/-- a declaration, and the byte at which it starts -/
structure Occurrence where
  start : Nat
  declaration : Declaration
deriving DecidableEq, Repr

namespace Occurrence

/-- the byte after the declaration -/
def stop (o : Occurrence) : Nat := o.start + o.declaration.text.byteLength

def keyStart (o : Occurrence) : Nat := o.start + o.declaration.beforeKey.byteLength

/-- the byte after the key -/
def keyStop (o : Occurrence) : Nat := o.keyStart + o.declaration.key.byteLength

end Occurrence

namespace Listing

/-- the declarations in `s`, where `s` starts at byte `place` -/
def search (place : Nat) (s : Text) : List Occurrence :=
  match _h : Declaration.read? s with
  | some (d, rest) => ⟨place, d⟩ :: search (place + d.text.byteLength) rest
  | none =>
    match s with
    | [] => []
    | c :: r => search (place + c.utf8Size) r
termination_by s.length
decreasing_by
  · exact Declaration.length_rest_lt _h
  · simp

/-- the declarations in a text, of which `found` is what is read at every place; the next `within` characters belong to
a declaration that was passed -/
def pick (place within : Nat) : Text → List (Option (Declaration × Text)) → List Occurrence
  | c :: r, found :: more =>
    match within, found with
    | 0, some (d, _) => ⟨place, d⟩ :: pick (place + c.utf8Size) (d.text.length - 1) r more
    | 0, none => pick (place + c.utf8Size) 0 r more
    | n + 1, _ => pick (place + c.utf8Size) n r more
  | _, _ => []

def occurrences (s : Text) : List Occurrence := pick 0 0 s (Declaration.everyReading s)

/-- the declared keys, in order -/
def keys (s : Text) : List Text := (occurrences s.unifyNewlines).map fun o => o.declaration.key

/-! ## Picking is searching -/

theorem search_nil (place : Nat) : search place [] = [] := by
  rw [search]
  rfl

theorem pick_within (place : Nat) (a b : Text) :
    pick place a.length (a ++ b) (Text.everywhere Declaration.read? (a ++ b)) =
      pick (place + a.byteLength) 0 b (Text.everywhere Declaration.read? b) := by
  induction a generalizing place with
  | nil => rfl
  | cons c r ih =>
    show pick (place + c.utf8Size) r.length (r ++ b) (Text.everywhere Declaration.read? (r ++ b)) = _
    rw [ih, Text.byteLength, Nat.add_assoc]

theorem pick_eq_search (place : Nat) (s : Text) :
    pick place 0 s (Text.everywhere Declaration.read? s) = search place s := by
  fun_induction search place s with
  | case1 place s d rest h ih =>
    have hs := (Declaration.read?_sound h).1
    have hp := Declaration.length_text_pos d
    cases ht : d.text with
    | nil => simp [ht] at hp
    | cons c r =>
      rw [ht, List.cons_append] at hs
      subst hs
      rw [ht, Text.byteLength, ← Nat.add_assoc] at ih
      rw [Text.byteLength, ← Nat.add_assoc, ← ih, ← pick_within, Text.everywhere, h, pick]
      simp only [ht, List.length_cons, Nat.add_sub_cancel]
  | case2 place h => rfl
  | case3 place c r h ih =>
    rw [← ih, Text.everywhere, h, pick]

theorem occurrences_eq_search (s : Text) : occurrences s = search 0 s := by
  rw [occurrences, Declaration.everyReading_eq, pick_eq_search]

end Listing

end PowerPrefs
