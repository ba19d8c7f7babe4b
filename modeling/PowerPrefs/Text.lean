/-
Texts. A text is its list of characters: keys, names, values, paths and whole files are all read and written as such.

Two measures of a text matter outside it: its length in bytes of UTF-8, in which places in a text are counted, and
its bytes, in which files hold it.
- `byteLength_append`: places add up.
- `cut?_append`: the part between two places is what stands there.
- `ofBytes?_toBytes`: the bytes of a text read back as that text.
- `isPrefixOf?_append`, `eq_append_of_isPrefixOf?`: what is found to follow a text is what stands after it.
- `split_join`, `join_split`: pieces joined by a mark that is in none of them are found again by splitting at it, and
  every text is its own pieces joined. Lines are the pieces between line feeds.
-/

namespace PowerPrefs

abbrev Text := List Char

namespace Text

/-- equality of texts is lawful, named so that every search for a text in a list rests on the same proof -/
instance : LawfulBEq Text := inferInstance

/-! ## Bytes -/

/-- length in bytes of UTF-8 -/
def byteLength : Text → Nat
  | [] => 0
  | c :: r => c.utf8Size + byteLength r

theorem byteLength_append (a b : Text) : byteLength (a ++ b) = byteLength a + byteLength b := by
  induction a with
  | nil => simp [byteLength]
  | cons c r ih => simp only [List.cons_append, byteLength, ih]; omega

/-- the UTF-8 form -/
def toBytes (t : Text) : ByteArray := (String.ofList t).toUTF8

/-- the text whose UTF-8 form `b` is, if there is one -/
def ofBytes? (b : ByteArray) : Option Text := b.utf8Decode?.map Array.toList

theorem ofBytes?_toBytes (t : Text) : ofBytes? t.toBytes = some t := by
  simp [ofBytes?, toBytes, String.toUTF8, String.ofList]

/-- without its first `n` bytes; none if that would take a character apart -/
def dropBytes? : Nat → Text → Option Text
  | 0, t => some t
  | _ + 1, [] => none
  | n + 1, c :: r => if c.utf8Size ≤ n + 1 then dropBytes? (n + 1 - c.utf8Size) r else none

/-- its first `n` bytes; none if that would take a character apart -/
def takeBytes? : Nat → Text → Option Text
  | 0, _ => some []
  | _ + 1, [] => none
  | n + 1, c :: r => if c.utf8Size ≤ n + 1 then (takeBytes? (n + 1 - c.utf8Size) r).map (c :: ·) else none

/-- from byte `start` on, before byte `stop` -/
def cut? (t : Text) (start stop : Nat) : Option Text := (t.dropBytes? start).bind (takeBytes? (stop - start))

theorem dropBytes?_append (a b : Text) : dropBytes? a.byteLength (a ++ b) = some b := by
  induction a with
  | nil => simp [byteLength, dropBytes?]
  | cons c r ih =>
    obtain ⟨n, hn⟩ : ∃ n, c.utf8Size + byteLength r = n + 1 :=
      ⟨c.utf8Size + byteLength r - 1, by have := c.utf8Size_pos; omega⟩
    have hr : n + 1 - c.utf8Size = byteLength r := by omega
    rw [byteLength, List.cons_append, hn, dropBytes?, if_pos (by omega), hr, ih]

theorem takeBytes?_append (a b : Text) : takeBytes? a.byteLength (a ++ b) = some a := by
  induction a with
  | nil => simp [byteLength, takeBytes?]
  | cons c r ih =>
    obtain ⟨n, hn⟩ : ∃ n, c.utf8Size + byteLength r = n + 1 :=
      ⟨c.utf8Size + byteLength r - 1, by have := c.utf8Size_pos; omega⟩
    have hr : n + 1 - c.utf8Size = byteLength r := by omega
    rw [byteLength, List.cons_append, hn, takeBytes?, if_pos (by omega), hr, ih, Option.map_some]

theorem cut?_append (a b c : Text) : cut? (a ++ b ++ c) a.byteLength (a ++ b).byteLength = some b := by
  have hl : (a ++ b).byteLength - a.byteLength = b.byteLength := by rw [byteLength_append]; omega
  rw [cut?, List.append_assoc, dropBytes?_append, hl, Option.bind_some, takeBytes?_append]

/-! ## A text at the front -/

theorem isPrefixOf?_cons (c d : Char) (p s : Text) :
    (c :: p).isPrefixOf? (d :: s) = if c == d then p.isPrefixOf? s else none := rfl

theorem eq_append_of_isPrefixOf? {p s r : Text} (h : p.isPrefixOf? s = some r) : s = p ++ r := by
  induction p generalizing s with
  | nil => exact Option.some.inj h
  | cons c p ih =>
    cases s with
    | nil => nomatch h
    | cons d s =>
      rw [isPrefixOf?_cons] at h
      split at h
      · rename_i hcd
        rw [ih h, ← beq_iff_eq.1 hcd]
        rfl
      · exact absurd h (by simp)

theorem isPrefixOf?_append (p r : Text) : p.isPrefixOf? (p ++ r) = some r := by
  induction p with
  | nil => rfl
  | cons c p ih => rw [List.cons_append, isPrefixOf?_cons, if_pos (beq_self_eq_true c), ih]

/-! ## Pieces and lines -/

/-- the pieces between marks; a text without one is a single piece -/
def split (mark : Char) : Text → List Text
  | [] => [[]]
  | c :: r =>
    if c = mark then [] :: split mark r
    else match split mark r with
      | [] => [[c]]
      | p :: ps => (c :: p) :: ps

/-- the pieces in order, with a mark after each but the last -/
def join (mark : Char) : List Text → Text
  | [] => []
  | [p] => p
  | p :: q :: r => p ++ mark :: join mark (q :: r)

def lines : Text → List Text := split '\n'

def joinLines : List Text → Text := join '\n'

theorem split_ne_nil (mark : Char) (t : Text) : split mark t ≠ [] := by
  cases t with
  | nil => simp [split]
  | cons c r =>
    simp only [split]
    split
    · simp
    · split <;> simp

theorem split_of_notMem {mark : Char} {p : Text} (h : mark ∉ p) : split mark p = [p] := by
  induction p with
  | nil => rfl
  | cons c r ih =>
    simp only [List.mem_cons, not_or] at h
    simp [split, ih h.2, Ne.symm h.1]

theorem split_append_mark {mark : Char} {p : Text} (h : mark ∉ p) (r : Text) :
    split mark (p ++ mark :: r) = p :: split mark r := by
  induction p with
  | nil => simp [split]
  | cons c p ih =>
    simp only [List.mem_cons, not_or] at h
    simp [split, ih h.2, Ne.symm h.1]

theorem split_join {mark : Char} {ps : List Text} (hne : ps ≠ []) (h : ∀ p ∈ ps, mark ∉ p) :
    split mark (join mark ps) = ps := by
  induction ps with
  | nil => exact absurd rfl hne
  | cons p r ih =>
    have hp := h p List.mem_cons_self
    cases r with
    | nil => simpa [join] using split_of_notMem hp
    | cons q r =>
      have hr := ih (by simp) (fun x hx => h x (List.mem_cons_of_mem _ hx))
      rw [join, split_append_mark hp, hr]

theorem join_split (mark : Char) (t : Text) : join mark (split mark t) = t := by
  induction t with
  | nil => rfl
  | cons c r ih =>
    simp only [split]
    cases hs : split mark r with
    | nil => exact absurd hs (split_ne_nil mark r)
    | cons p ps =>
      rw [hs] at ih
      split
      · rename_i hc
        rw [join, ih, hc, List.nil_append]
      · cases ps with
        | nil => rw [join] at ih ⊢; rw [ih]
        | cons q ps => rw [join] at ih ⊢; rw [List.cons_append, ih]

theorem lines_joinLines {ls : List Text} (hne : ls ≠ []) (h : ∀ l ∈ ls, '\n' ∉ l) : lines (joinLines ls) = ls :=
  split_join hne h

end Text

end PowerPrefs
