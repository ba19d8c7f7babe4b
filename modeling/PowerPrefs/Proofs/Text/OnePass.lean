/-
Line endings in one pass. Unifying goes over a text twice, first for the pairs and then for the carriage returns that
are left, and not at all where there is no carriage return. The first time may put a carriage return before a line feed
that stood apart: of two carriage returns and a line feed, it leaves one of each. That is no pair of the text, and the
second time does not take it for one.

`onePass` goes over a text once and writes one line feed for each ending as it meets it.
- `unifyNewlines_eq_onePass`: the two give the same for every text.
- `unifyNewlines_parted`: a pair that is parted becomes two line feeds, where the whole has one.
- `unifyNewlines_append_iff`: parts of a text are unified apart exactly if no pair is parted.
- `unifyNewlines_withEnding_iff`: an ending that was put in is taken out exactly if the text had none of its own.
- `unifyNewlines_is_one_pass`: all of this.
-/
import PowerPrefs.Proofs.Text.Endings

namespace PowerPrefs.Text

/-- one line feed for each pair and for each carriage return in no pair; all else as it is -/
def onePass : Text → Text
  | [] => []
  | '\r' :: '\n' :: r => '\n' :: onePass r
  | '\r' :: r => '\n' :: onePass r
  | c :: r => c :: onePass r

variable {t r : Text} {c : Char}

theorem onePass_lone (h : r.head? ≠ some '\n') : onePass ('\r' :: r) = '\n' :: onePass r := by
  cases r with
  | nil => rfl
  | cons d r =>
    have hd : d ≠ '\n' := by simpa using h
    simp [onePass, hd]

theorem onePass_cons_of_ne (h : c ≠ '\r') (r : Text) : onePass (c :: r) = c :: onePass r := by
  simp [onePass, h]

theorem unifyNewlines_eq_onePass (t : Text) : unifyNewlines t = onePass t := by
  -- one ending at a time: the two folds together take a whole one off the front, and neither does so alone
  induction t using ending_induction with
  | nil => rfl
  | pair r ih => rw [unifyNewlines_pair, ih, onePass]
  | lone r h ih => rw [unifyNewlines_lone h, ih, onePass_lone h]
  | other c r h ih => rw [unifyNewlines_cons_of_ne h, ih, onePass_cons_of_ne h]

example : unifyNewlines "a\r\r\n\n\rb".toList = "a\n\n\n\nb".toList := by decide

theorem unifyNewlines_unifyNewlines (t : Text) : unifyNewlines (unifyNewlines t) = unifyNewlines t :=
  unifyNewlines_of_noReturn (return_notMem_unifyNewlines t)

/-! ## The seam of two parts -/

theorem unifyNewlines_parted (a b : Text) :
    unifyNewlines (a ++ ['\r']) ++ unifyNewlines ('\n' :: b) =
      unifyNewlines a ++ '\n' :: '\n' :: unifyNewlines b := by
  have hreturn : unifyNewlines (a ++ ['\r']) = unifyNewlines a ++ ['\n'] := by
    apply unifyNewlines_append
    exact keepsPairs_of_head? (by decide) a
  have hfeed : unifyNewlines ('\n' :: b) = '\n' :: unifyNewlines b := unifyNewlines_cons_of_ne (by decide) b
  calc unifyNewlines (a ++ ['\r']) ++ unifyNewlines ('\n' :: b)
      = (unifyNewlines a ++ ['\n']) ++ '\n' :: unifyNewlines b := by rw [hreturn, hfeed]
    _ = unifyNewlines a ++ '\n' :: '\n' :: unifyNewlines b := by rw [List.append_assoc, List.singleton_append]

theorem unifyNewlines_append_iff (a b : Text) :
    unifyNewlines (a ++ b) = unifyNewlines a ++ unifyNewlines b ↔ KeepsPairs a b := by
  refine ⟨fun h => ?_, unifyNewlines_append⟩
  intro hparted
  obtain ⟨a, b, rfl, rfl⟩ := exists_of_not_keepsPairs fun hkeeps => hkeeps hparted
  rw [unifyNewlines_parted, List.append_assoc, List.singleton_append, unifyNewlines_append_pair] at h
  -- one line feed on the left, two on the right
  have hlength := congrArg List.length h
  simp at hlength

/-! ## Other endings -/

theorem unifyNewlines_withEnding_iff (e : Ending) (t : Text) : unifyNewlines (withEnding e t) = t ↔ '\r' ∉ t := by
  constructor
  · intro h
    rw [← h]
    exact return_notMem_unifyNewlines _
  · exact unifyNewlines_withEnding e

/-! ## All of it -/

/-- **Unifying line endings is one pass over the text.** Whatever the text, it gives what a pass from the left gives
that writes one line feed for each pair and for each other carriage return. So no carriage return is left, and unifying
again changes nothing; parts are unified apart unless a pair is parted, and then there is one line feed less than in the
parts; and any ending put in place of the line feeds is taken out again, if the text had no carriage return. -/
theorem unifyNewlines_is_one_pass :
    (∀ t, unifyNewlines t = onePass t) ∧
      (∀ t, '\r' ∉ unifyNewlines t ∧ unifyNewlines (unifyNewlines t) = unifyNewlines t) ∧
      (∀ a b, unifyNewlines (a ++ b) = unifyNewlines a ++ unifyNewlines b ↔ KeepsPairs a b) ∧
      (∀ a b, unifyNewlines (a ++ ['\r']) ++ unifyNewlines ('\n' :: b) =
          unifyNewlines a ++ '\n' :: '\n' :: unifyNewlines b ∧
        unifyNewlines (a ++ ['\r'] ++ '\n' :: b) = unifyNewlines a ++ '\n' :: unifyNewlines b) ∧
      ∀ e t, unifyNewlines (withEnding e t) = t ↔ '\r' ∉ t := by
  refine ⟨unifyNewlines_eq_onePass, ?_, unifyNewlines_append_iff, ?_, unifyNewlines_withEnding_iff⟩
  · intro t
    exact ⟨return_notMem_unifyNewlines t, unifyNewlines_unifyNewlines t⟩
  · intro a b
    refine ⟨unifyNewlines_parted a b, ?_⟩
    rw [List.append_assoc, List.singleton_append, unifyNewlines_append_pair]

end PowerPrefs.Text
