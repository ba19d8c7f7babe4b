/-
The order of bytes. Texts are ordered by code point, character by character, and sets of texts are kept in that order;
their UTF-8 forms are ordered byte by byte. The two orders are one. A greater character has the greater byte where the
two forms first differ: the first byte tells how long the form is, and a longer form belongs to a greater character; of
two forms of one length, each byte holds the next six bits of the code point.

- `encodeChar_append_lt`: what follows two characters has no say in the order of their bytes.
- `bytesLt_iff`: a text comes before another in the order of bytes exactly if it does in the order of texts.
-/
import Mathlib.Data.Char
import Mathlib.Data.List.Lex
import Mathlib.Tactic.SplitIfs
import PowerPrefs.Text

namespace PowerPrefs.Text

/-- the UTF-8 form, byte by byte -/
def bytes (t : Text) : List UInt8 := t.toBytes.data.toList

/-- the first text comes before the second in the order of their bytes -/
def BytesLt (t u : Text) : Prop := bytes t < bytes u

theorem bytes_nil : bytes [] = [] := rfl

theorem bytes_cons (c : Char) (r : Text) : bytes (c :: r) = String.utf8EncodeChar c ++ bytes r := by
  simp [bytes, toBytes, String.toUTF8, String.ofList, List.utf8Encode]

/-! ## Characters -/

theorem codePoint_lt (c : Char) : c.val.toNat < 0x110000 := by
  have hvalid := c.valid
  simp only [UInt32.isValidChar, Nat.isValidChar] at hvalid
  omega

/-- the greater of two numbers has more above its last six bits, or as much there and more in them -/
theorem sixBits_cases {v w : Nat} (h : v < w) : v / 64 < w / 64 ∨ v / 64 = w / 64 ∧ v % 64 < w % 64 := by omega

theorem encodeChar_append_lt {c d : Char} (h : c < d) (s t : List UInt8) :
    String.utf8EncodeChar c ++ s < String.utf8EncodeChar d ++ t := by
  have hlt : c.val.toNat < d.val.toNat := h
  have hd := codePoint_lt d
  simp only [String.utf8EncodeChar]
  generalize c.val.toNat = v at *
  generalize d.val.toNat = w at *
  -- the bits above a byte are the bits above the next byte without its own six
  rw [show v / 4096 = v / 64 / 64 by omega, show v / 262144 = v / 64 / 64 / 64 by omega,
    show w / 4096 = w / 64 / 64 by omega, show w / 262144 = w / 64 / 64 / 64 by omega]
  have hlast := sixBits_cases hlt
  have hthird := fun h => sixBits_cases (v := v / 64) (w := w / 64) h
  have hsecond := fun h => sixBits_cases (v := v / 64 / 64) (w := w / 64 / 64) h
  split_ifs <;>
    simp only [List.cons_append, List.nil_append, List.cons_lt_cons_iff, UInt8.lt_iff_toNat_lt, ← UInt8.toNat_inj,
      UInt8.toNat_ofNat'] <;>
    omega

/-! ## Texts -/

theorem bytesLt_of_lt {t u : Text} (h : t < u) : BytesLt t u := by
  induction h with
  | @nil d r =>
    have hpos := d.utf8Size_pos
    cases hform : String.utf8EncodeChar d with
    | nil =>
      rw [← String.length_utf8EncodeChar, hform] at hpos
      exact absurd hpos (Nat.lt_irrefl 0)
    | cons x xs =>
      rw [BytesLt, bytes_nil, bytes_cons, hform]
      exact List.nil_lt_cons x _
  | rel hlt =>
    rw [BytesLt, bytes_cons, bytes_cons]
    exact encodeChar_append_lt hlt _ _
  | cons _ ih =>
    rw [BytesLt, bytes_cons, bytes_cons]
    exact List.Lex.append_left _ ih _

theorem bytesLt_iff {t u : Text} : BytesLt t u ↔ t < u := by
  constructor
  · intro h
    -- were `u` not after `t`, its bytes would not be after those of `t`
    rcases lt_trichotomy t u with hlt | rfl | hgt
    · exact hlt
    · exact absurd h (List.lt_irrefl _)
    · exact absurd (List.lt_trans h (bytesLt_of_lt hgt)) (List.lt_irrefl _)
  · exact bytesLt_of_lt

end PowerPrefs.Text
