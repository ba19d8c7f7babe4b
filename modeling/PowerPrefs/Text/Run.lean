/-
The longest run on a line. `longestRun next s` takes as many characters of `s` as it can without crossing a line feed,
such that `next` reads something from the text that follows them. `longestRuns` does so at every place of a text at
once, in one pass from its end.

Results:
- `longestRun_sound`: what it takes is a run at the front of the text, on one line, and `next` reads its answer right
  after it.
- `longestRun_maximal`: no other run after which `next` reads anything is longer, and if there is any, one is taken.
- `longestRuns_everywhere`: the one pass finds the longest run at every place.
-/
import PowerPrefs.Text.Everywhere

namespace PowerPrefs.Text

variable {α : Type}

/-- the longest run of characters other than a line feed after which `next` reads something, and what it reads -/
def longestRun (next : Text → Option α) : Text → Option (Text × α)
  | [] => (next []).map ([], ·)
  | c :: r =>
    if c = '\n' then (next (c :: r)).map ([], ·)
    else match longestRun next r with
      | some (run, a) => some (c :: run, a)
      | none => (next (c :: r)).map ([], ·)

/-- the longest run at every place, where `found` is what is read at every place -/
def longestRuns : Text → List (Option α) → List (Option (Text × α))
  | c :: r, here :: further =>
    let runs := longestRuns r further
    let run := if c = '\n' then here.map ([], ·)
      else match runs.head?.join with
        | some (run, a) => some (c :: run, a)
        | none => here.map ([], ·)
    run :: runs
  | _, found => found.map (Option.map ([], ·))

theorem longestRun_sound {next : Text → Option α} {s run : Text} {a : α} (h : longestRun next s = some (run, a)) :
    ∃ rest, s = run ++ rest ∧ '\n' ∉ run ∧ next rest = some a := by
  induction s generalizing run with
  | nil =>
    simp only [longestRun, Option.map_eq_some_iff, Prod.mk.injEq] at h
    obtain ⟨b, hb, rfl, rfl⟩ := h
    exact ⟨[], rfl, List.not_mem_nil, hb⟩
  | cons c r ih =>
    have stop : ∀ {run : Text} {a : α}, (next (c :: r)).map (([] : Text), ·) = some (run, a) →
        ∃ rest, c :: r = run ++ rest ∧ '\n' ∉ run ∧ next rest = some a := by
      intro run a h
      simp only [Option.map_eq_some_iff, Prod.mk.injEq] at h
      obtain ⟨b, hb, rfl, rfl⟩ := h
      exact ⟨c :: r, rfl, List.not_mem_nil, hb⟩
    rw [longestRun] at h
    split at h
    · exact stop h
    · rename_i hc
      split at h
      · rename_i run' a' hr
        simp only [Option.some.injEq, Prod.mk.injEq] at h
        obtain ⟨rfl, rfl⟩ := h
        obtain ⟨rest, rfl, hn, hx⟩ := ih hr
        exact ⟨rest, rfl, by simp [hn, Ne.symm hc], hx⟩
      · exact stop h

theorem longestRun_maximal {next : Text → Option α} {run rest : Text} {a : α} (hn : '\n' ∉ run)
    (hr : next rest = some a) :
    ∃ best b, longestRun next (run ++ rest) = some (best, b) ∧ run.length ≤ best.length := by
  induction run with
  | nil =>
    cases rest with
    | nil => exact ⟨[], a, by simp [longestRun, hr], Nat.le_refl _⟩
    | cons c r =>
      simp only [List.nil_append, longestRun]
      split
      · exact ⟨[], a, by simp [hr], Nat.le_refl _⟩
      · split
        · rename_i best b _
          exact ⟨c :: best, b, rfl, Nat.zero_le _⟩
        · exact ⟨[], a, by simp [hr], Nat.le_refl _⟩
  | cons c r ih =>
    simp only [List.mem_cons, not_or] at hn
    obtain ⟨best, b, hb, hl⟩ := ih hn.2
    exact ⟨c :: best, b, by simp [longestRun, hb, Ne.symm hn.1], by simpa using hl⟩

theorem longestRuns_everywhere (next : Text → Option α) (s : Text) :
    longestRuns s (everywhere next s) = everywhere (longestRun next) s := by
  induction s with
  | nil => rfl
  | cons c r ih =>
    simp only [everywhere, longestRuns, ih, head?_everywhere, Option.join_some, List.cons.injEq, and_true]
    rw [longestRun]

end PowerPrefs.Text
