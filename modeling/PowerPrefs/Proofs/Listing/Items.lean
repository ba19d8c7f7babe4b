/-
Listings made of items: declarations, each on a line or two of its own, among lines that declare nothing. The keys of
such a listing are the keys of its declarations, in order.

A declaration item has no quotes but those of its key, and no equals sign after them, and may otherwise hold anything on
its lines, opening words and markers included. That is enough, since the search can go wrong in two ways only:
- the opening words before the right ones start the same declaration earlier, with a longer identifier; its key is still
  the right one (`key_eq_of_written`);
- a declaration could start within the key, but it would need another closing quote on that line.

`keysIn` is the keys that a search finds, wherever the text starts: they do not depend on the place.
- `keysIn_declared`, `keysIn_filler`: what one item adds, whatever comes after its line.
- `keys_joinLines`: what all items give.
-/
import PowerPrefs.Listing
import PowerPrefs.Proofs.Declaration.Front

namespace PowerPrefs.Listing

open Text

/-! ## Items -/

/-- on one line and without quotes -/
def Plain (t : Text) : Prop := '"' ∉ t ∧ '\n' ∉ t ∧ '\r' ∉ t

/-- a declaration with what stands before and after it; if its separator is a line feed, it goes over two lines -/
structure Declared where
  before : Text
  ident : Text
  separator : Char
  gap : Nat
  key : Text
  after : Text
  before_plain : Plain before
  ident_plain : Plain ident
  separator_mem : separator ∈ Assignment.separators
  key_plain : Plain key
  after_plain : Plain after
  equals_notMem_after : '=' ∉ after

/-- a line that declares nothing -/
structure Filler where
  line : Text
  newline_notMem : '\n' ∉ line
  return_notMem : '\r' ∉ line
  not_opens : ¬Declaration.Opens line

inductive Item where
  | declared (d : Declared)
  | filler (f : Filler)

/-- the declaration, with brackets after the marker -/
def Declared.declaration (d : Declared) : Declaration := ⟨⟨'[', ']', d.separator, d.gap, d.key⟩, d.ident⟩

def Declared.text (d : Declared) : Text := d.before ++ (d.declaration.text ++ d.after)

def Item.text : Item → Text
  | .declared d => d.text
  | .filler f => f.line

def Item.key? : Item → Option Text
  | .declared d => some d.key
  | .filler _ => none

theorem Declared.wellFormed (d : Declared) : d.declaration.WellFormed where
  first_ne := (by decide : '[' ≠ '\n')
  second_ne := (by decide : ']' ≠ '\n')
  separator_mem := d.separator_mem
  key_oneLine := d.key_plain.2.1
  ident_oneLine := d.ident_plain.2.1

/-! ## The one declaration of an item -/

theorem closing_append (s : Text) : Assignment.closing ++ s = '"' :: ';' :: s := rfl

/-- nothing ends a key on a line without quotes -/
theorem append_ne_closing {line tail x rest : Text} (hq : '"' ∉ line) (ht : EndsLine tail) (hx : '\n' ∉ x) :
    line ++ tail ≠ x ++ (Assignment.closing ++ rest) := by
  intro h
  have he : line ++ tail = (x ++ ['"']) ++ ';' :: rest := by simpa [closing_append] using h
  obtain ⟨b, rfl, -⟩ := exists_append_of_oneLine he ht (by simp [hx])
  exact hq (by simp)

section

variable {key after tail : Text} (hkey : '"' ∉ key) (hafter : '"' ∉ after) (ht : EndsLine tail)

include hkey hafter ht

/-- from the opening quote on, there is one way to end the key -/
theorem key_unique {key' rest : Text} (hkey' : '\n' ∉ key')
    (h : key ++ (Assignment.closing ++ (after ++ tail)) = key' ++ (Assignment.closing ++ rest)) :
    key = key' ∧ after ++ tail = rest := by
  by_cases hq : '"' ∈ key'
  · obtain ⟨p, q, rfl, hp⟩ := List.eq_append_cons_of_mem hq
    rw [List.append_assoc] at h
    obtain ⟨-, hend⟩ : _ ∧ (';' :: after) ++ tail = q ++ (Assignment.closing ++ rest) := append_mark_inj h hkey hp
    have hq' : '\n' ∉ q := fun hm => hkey' (by simp [hm])
    have hafter' : '"' ∉ ';' :: after := by simp [hafter]
    exact absurd hend (append_ne_closing hafter' ht hq')
  · obtain ⟨rfl, hend⟩ := append_mark_inj h hkey hq
    exact ⟨rfl, (List.cons.inj hend).2⟩

/-- no equals sign within the key starts the value of another declaration -/
theorem no_equals_within (hequals : '=' ∉ after) {q spacing key' rest : Text} (hq : '\n' ∉ q) (hs : '"' ∉ spacing)
    (hkey' : '\n' ∉ key') :
    key ++ (Assignment.closing ++ (after ++ tail)) ≠
      q ++ '=' :: (spacing ++ '"' :: (key' ++ (Assignment.closing ++ rest))) := by
  intro h
  rcases List.append_eq_append_iff.1 h with ⟨c, rfl, hc⟩ | ⟨c, rfl, hc⟩
  · -- the equals sign would stand behind the key
    have he : (Assignment.closing ++ after) ++ tail =
        (c ++ ['=']) ++ (spacing ++ '"' :: (key' ++ (Assignment.closing ++ rest))) := by simpa using hc
    obtain ⟨b, hb, -⟩ := exists_append_of_oneLine he ht (by simp_all)
    have hm : '=' ∈ Assignment.closing ++ after := by simp [hb]
    rcases List.mem_append.1 hm with hm | hm
    · exact absurd hm (by decide)
    · exact hequals hm
  · cases c with
    | nil =>
      have : '=' = '"' := (List.cons.inj hc).1
      exact absurd this (by decide)
    | cons x c =>
      obtain ⟨-, hvalue⟩ := List.cons.inj hc
      have hc' : '"' ∉ c := fun hm => hkey (by simp [hm])
      obtain ⟨-, hend⟩ : _ ∧ key' ++ (Assignment.closing ++ rest) = (';' :: after) ++ tail :=
        append_mark_inj hvalue hs hc'
      have hafter' : '"' ∉ ';' :: after := by simp [hafter]
      exact absurd hend.symm (append_ne_closing hafter' ht hkey')

end

theorem Declared.quote_notMem_front (d : Declared) : '"' ∉ d.declaration.front := by
  have hopening : '"' ∉ Declaration.opening := by decide
  have hmarker : '"' ∉ Assignment.marker := by decide
  have hequals : '"' ∉ Assignment.equals := by decide
  simp [Declaration.front, Declared.declaration, hopening, hmarker, hequals, d.ident_plain.1]

/-- whichever declaration is written from somewhere before the right one on, it has its key and ends where it ends -/
theorem key_eq_of_written {d : Declared} {x y tail rest : Text} {e : Declaration} (hxy : d.before = x ++ y)
    (ht : EndsLine tail) (he : e.WellFormed) (h : y ++ (d.declaration.text ++ (d.after ++ tail)) = e.text ++ rest) :
    e.key = d.key ∧ rest = d.after ++ tail := by
  have hlead : '"' ∉ y ++ (d.declaration.front ++ d.declaration.spacing) := by
    have hy : '"' ∉ y := fun hm => d.before_plain.1 (by simp [hxy, hm])
    simp [hy, d.quote_notMem_front, Declaration.quote_notMem_spacing d.wellFormed]
  obtain ⟨g, hg⟩ : ∃ g, e.front = g ++ ['='] :=
    ⟨Declaration.opening ++ (e.ident ++ (Assignment.marker ++ [e.first, e.second, ' '])), by
      simp [Declaration.front, Assignment.equals]⟩
  have hn : '\n' ∉ g := fun hm => Declaration.newline_notMem_front he (by simp [hg, hm])
  have h' : (y ++ (d.declaration.front ++ d.declaration.spacing)) ++
      '"' :: (d.key ++ (Assignment.closing ++ (d.after ++ tail))) =
        g ++ '=' :: (e.spacing ++ '"' :: (e.key ++ (Assignment.closing ++ rest))) := by
    rw [Declaration.text_append, Declaration.text_append, hg] at h
    simpa [Declared.declaration] using h
  by_cases hq : '"' ∈ g
  · obtain ⟨p, q, rfl, hp⟩ := List.eq_append_cons_of_mem hq
    rw [List.append_assoc p] at h'
    obtain ⟨-, hend⟩ := append_mark_inj h' hlead hp
    have hq' : '\n' ∉ q := fun hm => hn (by simp [hm])
    exact absurd hend (no_equals_within d.key_plain.1 d.after_plain.1 ht d.equals_notMem_after hq'
      (Declaration.quote_notMem_spacing he) he.key_oneLine)
  · have hlead' : '"' ∉ g ++ '=' :: e.spacing := by simp [hq, Declaration.quote_notMem_spacing he]
    have h'' : (y ++ (d.declaration.front ++ d.declaration.spacing)) ++
        '"' :: (d.key ++ (Assignment.closing ++ (d.after ++ tail))) =
          (g ++ '=' :: e.spacing) ++ '"' :: (e.key ++ (Assignment.closing ++ rest)) := by simpa using h'
    obtain ⟨-, hend⟩ := append_mark_inj h'' hlead hlead'
    obtain ⟨hk, hr⟩ := key_unique d.key_plain.1 d.after_plain.1 ht he.key_oneLine hend
    exact ⟨hk.symm, hr.symm⟩

/-! ## Keys, wherever the text starts -/

theorem search_of_some {s rest : Text} {d : Declaration} (h : Declaration.read? s = some (d, rest)) (place : Nat) :
    search place s = ⟨place, d⟩ :: search (place + d.text.byteLength) rest := by
  rw [search]
  split <;> simp_all

theorem search_of_none {r : Text} {c : Char} (h : Declaration.read? (c :: r) = none) (place : Nat) :
    search place (c :: r) = search (place + c.utf8Size) r := by
  rw [search]
  split <;> simp_all

/-- the keys found in a text -/
def keysIn (s : Text) : List Text := (search 0 s).map fun o => o.declaration.key

theorem map_key_search (p q : Nat) (s : Text) :
    ((search p s).map fun o => o.declaration.key) = (search q s).map fun o => o.declaration.key := by
  fun_induction search p s generalizing q with
  | case1 p s d rest h ih => rw [search_of_some h, List.map_cons, List.map_cons, ih]
  | case2 p h => rw [search_nil]
  | case3 p c r h ih => rw [search_of_none h, ih]

theorem keysIn_of_some {s rest : Text} {d : Declaration} (h : Declaration.read? s = some (d, rest)) :
    keysIn s = d.key :: keysIn rest := by
  rw [keysIn, search_of_some h, List.map_cons, map_key_search _ 0, keysIn]

theorem keysIn_of_none {r : Text} {c : Char} (h : Declaration.read? (c :: r) = none) : keysIn (c :: r) = keysIn r := by
  rw [keysIn, search_of_none h, map_key_search _ 0, keysIn]

theorem keys_eq_keysIn {s : Text} (h : '\r' ∉ s) : keys s = keysIn s := by
  rw [keys, unifyNewlines_of_noReturn h, occurrences_eq_search, keysIn]

/-! ## Item by item -/

/-- a line on which nothing is opened adds no key -/
theorem keysIn_of_not_opens {x y tail : Text} (h : ¬Declaration.Opens (x ++ y)) (ht : EndsLine tail) :
    keysIn (y ++ tail) = keysIn tail := by
  induction y generalizing x with
  | nil => rfl
  | cons c y ih =>
    have hnone := Declaration.read?_eq_none_of_not_opens h ht
    rw [List.cons_append] at hnone ⊢
    rw [keysIn_of_none hnone]
    exact ih (x := x ++ [c]) (by simpa using h)

theorem keysIn_filler (f : Filler) {tail : Text} (ht : EndsLine tail) : keysIn (f.line ++ tail) = keysIn tail :=
  keysIn_of_not_opens (x := []) f.not_opens ht

/-- up to the declaration, the search moves on or starts it early -/
theorem keysIn_written (d : Declared) {x y tail : Text} (hxy : d.before = x ++ y) (ht : EndsLine tail) :
    keysIn (y ++ (d.declaration.text ++ (d.after ++ tail))) = d.key :: keysIn (d.after ++ tail) := by
  induction y generalizing x with
  | nil =>
    obtain ⟨e, rest, he, -⟩ := Declaration.read?_greedy d.wellFormed (d.after ++ tail)
    obtain ⟨hs, hw⟩ := Declaration.read?_sound he
    obtain ⟨hk, hr⟩ := key_eq_of_written (y := []) hxy ht hw hs
    rw [List.nil_append, keysIn_of_some he, hk, hr]
  | cons c y ih =>
    cases he : Declaration.read? (c :: y ++ (d.declaration.text ++ (d.after ++ tail))) with
    | none =>
      rw [List.cons_append] at he ⊢
      rw [keysIn_of_none he]
      exact ih (x := x ++ [c]) (by simpa using hxy)
    | some p =>
      obtain ⟨hs, hw⟩ := Declaration.read?_sound he
      obtain ⟨hk, hr⟩ := key_eq_of_written hxy ht hw hs
      rw [keysIn_of_some he, hk, hr]

theorem keysIn_declared (d : Declared) {tail : Text} (ht : EndsLine tail) :
    keysIn (d.text ++ tail) = d.key :: keysIn tail := by
  have hafter := keysIn_of_not_opens (x := []) (Declaration.not_opens_of_notMem d.equals_notMem_after) ht
  rw [Declared.text, List.append_assoc, List.append_assoc, keysIn_written d (x := []) rfl ht, hafter]

theorem keysIn_item (i : Item) {tail : Text} (ht : EndsLine tail) :
    keysIn (i.text ++ tail) = i.key?.toList ++ keysIn tail := by
  cases i with
  | declared d => exact keysIn_declared d ht
  | filler f => exact keysIn_filler f ht

theorem keysIn_newline (s : Text) : keysIn ('\n' :: s) = keysIn s := by
  apply keysIn_of_none
  rw [Declaration.read?_eq_none_iff]
  intro d rest _ h
  have : '\n' = 'c' := (List.cons.inj h).1
  exact absurd this (by decide)

theorem keysIn_joinLines (items : List Item) :
    keysIn (joinLines (items.map Item.text)) = items.filterMap Item.key? := by
  induction items with
  | nil => rw [List.map_nil, joinLines, join, keysIn, search_nil]; rfl
  | cons i items ih =>
    have hkey : (i :: items).filterMap Item.key? = i.key?.toList ++ items.filterMap Item.key? := by
      cases h : i.key? <;> simp [h]
    cases items with
    | nil =>
      have hlast := keysIn_item i endsLine_nil
      rw [List.append_nil] at hlast
      rw [hkey, List.map_singleton, joinLines, join, hlast, keysIn, search_nil]
      rfl
    | cons j items =>
      have hmore := keysIn_item i (endsLine_newline (joinLines ((j :: items).map Item.text)))
      rw [keysIn_newline, ih] at hmore
      rw [hkey, ← hmore]
      rfl

/-! ## The keys of a listing -/

theorem Item.return_notMem_text (i : Item) : '\r' ∉ i.text := by
  cases i with
  | filler f => exact f.return_notMem
  | declared d =>
    have hopening : '\r' ∉ Declaration.opening := by decide
    have hmarker : '\r' ∉ Assignment.marker := by decide
    have hequals : '\r' ∉ Assignment.equals := by decide
    have hclosing : '\r' ∉ Assignment.closing := by decide
    have hsep : d.separator ≠ '\r' := fun h => absurd (h ▸ d.separator_mem) (by decide)
    simp [Item.text, Declared.text, Declared.declaration, Declaration.text, Assignment.text, Assignment.beforeKey,
      hopening, hmarker, hequals, hclosing, hsep.symm, d.before_plain.2.2, d.ident_plain.2.2, d.key_plain.2.2,
      d.after_plain.2.2]

theorem return_notMem_joinLines {ls : List Text} (h : ∀ l ∈ ls, '\r' ∉ l) : '\r' ∉ joinLines ls := by
  induction ls with
  | nil => exact List.not_mem_nil
  | cons l ls ih =>
    have hl := h l List.mem_cons_self
    cases ls with
    | nil => exact hl
    | cons m ls =>
      have hrest := ih fun x hx => h x (List.mem_cons_of_mem _ hx)
      simp only [joinLines, join, List.mem_append, List.mem_cons, not_or]
      exact ⟨hl, by decide, hrest⟩

/-- **The keys of a listing made of items** are those of its declarations, in order, however many items there are and
whatever stands between. -/
theorem keys_joinLines (items : List Item) : keys (joinLines (items.map Item.text)) = items.filterMap Item.key? := by
  rw [keys_eq_keysIn, keysIn_joinLines]
  apply return_notMem_joinLines
  intro l hl
  obtain ⟨i, -, rfl⟩ := List.mem_map.1 hl
  exact i.return_notMem_text

/-- a wrapped declaration whose key has a marker in it, between a comment and a second declaration of that key -/
theorem keys_joinLines_wrapped :
    keys "//\nconst char aPref[] =\n \"bPref\";\nconst char cPref[] = \"bPref\"; //".toList =
      ["bPref".toList, "bPref".toList] :=
  keys_joinLines
    [.filler ⟨"//".toList, by decide, by decide, Declaration.not_opens_of_notMem (by decide)⟩,
      .declared ⟨[], ['a'], '\n', 1, "bPref".toList, [], by simp [Plain], by simp [Plain], by decide,
        by simp [Plain], by simp [Plain], by simp⟩,
      .declared ⟨[], ['c'], ' ', 0, "bPref".toList, " //".toList, by simp [Plain], by simp [Plain], by decide,
        by simp [Plain], by simp [Plain], by decide⟩]

end PowerPrefs.Listing
