/-
Trees of names. A tree keeps values at ways, which are the names from the outermost on. Names side by side stand in the
order in which they came; what is below a name is a tree again. So finding a value takes one look at the names on every
stage of its way, however much the tree holds elsewhere. Nothing is kept at the empty way.

- `get?_put`: after a value is put at a way, it is found there, and all else is as before.
- `put_get?`: putting what is there already changes nothing.
- `put_put`: of two values put at one way, the later one counts.
- `get?_erase`: after a way is erased, nothing is found there and below, and all else is as before.
- `mem_entries`: whatever is found is among the entries.
-/
import PowerPrefs.Text

namespace PowerPrefs

inductive NameTree (α : Type) where
  | nothing
  /-- a name with its value, what is below it and the names after it -/
  | name (n : Text) (value : Option α) (below after : NameTree α)
deriving DecidableEq

namespace NameTree

variable {α : Type}

/-- the value at a way -/
def get? : NameTree α → List Text → Option α
  | nothing, _ => none
  | name _ _ _ _, [] => none
  | name n value below after, x :: way =>
    if x == n then if way.isEmpty then value else below.get? way
    else after.get? (x :: way)

/-- nothing but this value at this way -/
def single (a : α) : List Text → NameTree α
  | [] => nothing
  | x :: way => name x (if way.isEmpty then some a else none) (single a way) nothing

/-- with this value at the way, in place of what was there -/
def put (a : α) : NameTree α → List Text → NameTree α
  | nothing, way => single a way
  | name n value below after, [] => name n value below after
  | name n value below after, x :: way =>
    if x == n then
      if way.isEmpty then name n (some a) below after else name n value (put a below way) after
    else name n value below (put a after (x :: way))

/-- without the way and all that is below it -/
def erase : NameTree α → List Text → NameTree α
  | nothing, _ => nothing
  | name _ _ _ _, [] => nothing
  | name n value below after, x :: way =>
    if x == n then
      if way.isEmpty then after.erase (x :: way) else name n value (below.erase way) (after.erase (x :: way))
    else name n value below (after.erase (x :: way))

/-- every value with its way, in reverse; `around` is the way to the tree, in reverse too -/
def entries : NameTree α → List Text → List (List Text × α)
  | nothing, _ => []
  | name n value below after, around =>
    (value.map fun a => (n :: around, a)).toList ++ below.entries (n :: around) ++ after.entries around

/-! ## Putting -/

theorem get?_nil (t : NameTree α) : t.get? [] = none := by
  cases t <;> rfl

theorem get?_single (a : α) {way : List Text} (h : way ≠ []) (other : List Text) :
    (single a way).get? other = if other = way then some a else none := by
  induction way generalizing other with
  | nil => exact absurd rfl h
  | cons x way ih =>
    cases other with
    | nil => simp [get?_nil]
    | cons y other =>
      by_cases hy : y = x
      · subst hy
        cases way with
        | nil => cases other <;> simp [single, get?]
        | cons z way =>
          cases other with
          | nil => simp [single, get?]
          | cons w other =>
            have := ih (by simp) (w :: other)
            simp [single, get?] at this ⊢
            exact this
      · simp [single, get?, hy]

theorem get?_put (a : α) (t : NameTree α) {way : List Text} (h : way ≠ []) (other : List Text) :
    (t.put a way).get? other = if other = way then some a else t.get? other := by
  induction t generalizing way other with
  | nothing => rw [put, get?_single a h, get?]
  | name n value below after ihb iha =>
    cases way with
    | nil => exact absurd rfl h
    | cons x way =>
      cases other with
      | nil => simp [get?_nil]
      | cons y other =>
        by_cases hx : x = n
        · subst hx
          by_cases hy : y = x
          · subst hy
            cases way with
            | nil => cases other <;> simp [put, get?]
            | cons z way =>
              cases other with
              | nil => simp [put, get?]
              | cons w other => simp [put, get?, @ihb (z :: way) (by simp) (w :: other)]
          · by_cases hw : way = [] <;> simp [put, get?, hw, hy]
        · by_cases hy : y = n
          · subst hy
            have hne : y ≠ x := Ne.symm hx
            simp [put, get?, hx, hne]
          · simp [put, get?, hx, hy, @iha (x :: way) (by simp) (y :: other)]

theorem put_get? {a : α} {t : NameTree α} {way : List Text} (h : t.get? way = some a) : t.put a way = t := by
  induction t generalizing way with
  | nothing => exact absurd h (by simp [get?])
  | name n value below after ihb iha =>
    cases way with
    | nil => exact absurd h (by simp [get?])
    | cons x way =>
      by_cases hx : x = n
      · by_cases hw : way = []
        · simp only [get?, hx, hw, List.isEmpty_nil, beq_self_eq_true, if_true] at h
          simp [put, hx, hw, h]
        · simp only [get?, hx, beq_self_eq_true, List.isEmpty_iff, hw, if_true, if_false] at h
          simp [put, hx, hw, ihb h]
      · simp only [get?, beq_iff_eq, hx, if_false] at h
        simp [put, hx, iha h]

theorem put_single (a b : α) (way : List Text) : (single b way).put a way = single a way := by
  induction way with
  | nil => rfl
  | cons x way ih => by_cases hw : way = [] <;> simp [single, put, hw, ih]

theorem put_put (a b : α) (t : NameTree α) (way : List Text) : (t.put b way).put a way = t.put a way := by
  induction t generalizing way with
  | nothing => exact put_single a b way
  | name n value below after ihb iha =>
    cases way with
    | nil => rfl
    | cons x way =>
      by_cases hx : x = n
      · by_cases hw : way = [] <;> simp [put, hx, hw, ihb]
      · simp [put, hx, iha]

/-! ## Erasing -/

theorem get?_erase (t : NameTree α) (way other : List Text) :
    (t.erase way).get? other = if way <+: other then none else t.get? other := by
  induction t generalizing way other with
  | nothing => simp [erase, get?]
  | name n value below after ihb iha =>
    cases way with
    | nil => simp [erase, get?]
    | cons x way =>
      cases other with
      | nil => simp [get?_nil]
      | cons y other =>
        have ha := iha (x :: way) (y :: other)
        simp only [List.cons_prefix_cons] at ha ⊢
        by_cases hx : x = n
        · subst hx
          by_cases hy : y = x
          · subst hy
            by_cases hw : way = []
            · simpa [erase, hw] using ha
            · cases other with
              | nil => simp [erase, get?, hw]
              | cons w other => simp [erase, get?, hw, ihb way (w :: other)]
          · have hne : ¬x = y := Ne.symm hy
            by_cases hw : way = []
            · simp only [hne, false_and, if_false] at ha
              simp [erase, get?, hw, hy, hne, hw ▸ ha]
            · simp only [hne, false_and, if_false] at ha
              simp [erase, get?, hw, hy, hne, ha]
        · by_cases hy : y = n
          · subst hy
            simp [erase, get?, hx]
          · simp [erase, get?, hx, hy, ha]

/-! ## Entries -/

theorem mem_entries {t : NameTree α} {way : List Text} {a : α} (h : t.get? way = some a) (around : List Text) :
    (way.reverse ++ around, a) ∈ t.entries around := by
  induction t generalizing way around with
  | nothing => exact absurd h (by simp [get?])
  | name n value below after ihb iha =>
    cases way with
    | nil => exact absurd h (by simp [get?])
    | cons x way =>
      by_cases hx : x = n
      · by_cases hw : way = []
        · simp only [get?, hx, hw, List.isEmpty_nil, beq_self_eq_true, if_true] at h
          simp [entries, hx, hw, h]
        · simp only [get?, hx, beq_self_eq_true, List.isEmpty_iff, hw, if_true, if_false] at h
          have := ihb h (n :: around)
          simp [entries, hx, this]
      · simp only [get?, beq_iff_eq, hx, if_false] at h
        exact List.mem_append_right _ (iha h around)

end NameTree

end PowerPrefs
