import Mathlib.Algebra.BigOperators.Group.Finset.Basic
import Mathlib.Algebra.Order.BigOperators.Group.Finset
import Mathlib.Data.Rat.Defs
import Mathlib.Algebra.Order.Ring.Rat
import Mathlib.Tactic.Linarith

/-!
# Retries with backoff

A task is started again some time after it has failed, and the longer the more often it has failed
in a row; after it has run for longer than `reset` the count starts over.  Its failures are a list
of times, the newest first: `streak` is the count, and `Spaced` says that between two failures there
was the delay of the first.

`countP_window_le` bounds the rate: where the first `m` delays together are longer than `reset`, a
window of the length `reset` has at most `m` failures.
-/

namespace Backoff

/-- The number of failures in a row. -/
def streak (reset : ℚ) : List ℚ → ℕ
  | [] => 0
  | [_] => 1
  | t :: s :: times => if reset < t - s then 1 else streak reset (s :: times) + 1

/-- After a failure the next one comes only after the delay. -/
def Spaced (delay : ℕ → ℚ) (reset : ℚ) : List ℚ → Prop
  | [] => True
  | [_] => True
  | t :: s :: times =>
    s + delay (streak reset (s :: times)) ≤ t ∧ Spaced delay reset (s :: times)

variable {delay : ℕ → ℚ} {reset : ℚ}

theorem streak_pos (t : ℚ) (times : List ℚ) : 0 < streak reset (t :: times) := by
  cases times with
  | nil => exact Nat.one_pos
  | cons s times =>
    rw [streak]
    split_ifs
    · exact Nat.one_pos
    · exact Nat.succ_pos _

theorem streak_cons_le (reset t : ℚ) (times : List ℚ) :
    streak reset (t :: times) ≤ streak reset times + 1 := by
  cases times with
  | nil => exact Nat.le_add_left 1 _
  | cons s times =>
    rw [streak]
    split_ifs
    · exact Nat.le_add_left 1 _
    · exact le_rfl

/-- A failure after the delay of the last one. -/
theorem Spaced.cons {t : ℚ} {times : List ℚ} (h : Spaced delay reset times)
    (hgap : ∀ s ∈ times.head?, s + delay (streak reset times) ≤ t) :
    Spaced delay reset (t :: times) := by
  cases times with
  | nil => trivial
  | cons s times => exact ⟨hgap s rfl, h⟩

theorem Spaced.tail {t : ℚ} {times : List ℚ} (h : Spaced delay reset (t :: times)) :
    Spaced delay reset times := by
  cases times with
  | nil => trivial
  | cons s times => exact h.2

/-- The newest failure is the last one. -/
theorem Spaced.le_head (hdelay : ∀ k, 0 ≤ delay k) {t : ℚ} {times : List ℚ}
    (h : Spaced delay reset (t :: times)) {s : ℚ} (hs : s ∈ times) : s ≤ t := by
  induction times generalizing t with
  | nil => cases hs
  | cons r times ih =>
    have hr : r ≤ t := by
      have hgap := h.1
      have hnonneg := hdelay (streak reset (r :: times))
      linarith
    rcases List.mem_cons.mp hs with rfl | hs
    · exact hr
    · exact (ih h.tail hs).trans hr

/-- **Failures in a window** are failures in a row, each after the delay of the one before. -/
theorem Spaced.window (hdelay : ∀ k, 0 ≤ delay k) (hmono : Monotone delay) {a t : ℚ}
    {times : List ℚ} (h : Spaced delay reset (t :: times)) (ha : a ≤ t) (hb : t ≤ a + reset) :
    ∃ w, (t :: times).countP (fun s => decide (a ≤ s)) = w + 1 ∧
      w + 1 ≤ streak reset (t :: times) ∧ a + ∑ k ∈ Finset.range w, delay (k + 1) ≤ t := by
  induction times generalizing t with
  | nil => exact ⟨0, by simp [ha], le_rfl, by simpa using ha⟩
  | cons s times ih =>
    rw [List.countP_cons_of_pos (by simpa using ha)]
    have hgap : s + delay (streak reset (s :: times)) ≤ t := h.1
    have hst : s ≤ t := h.le_head hdelay List.mem_cons_self
    by_cases has : a ≤ s
    · obtain ⟨w, hcount, hstreak, hsum⟩ := ih h.tail has (hst.trans hb)
      refine ⟨w + 1, by rw [hcount], ?_, ?_⟩
      · -- the window is too short for the count to start over
        rw [streak, if_neg (by linarith)]
        omega
      · have hlast : delay (w + 1) ≤ delay (streak reset (s :: times)) := hmono hstreak
        rw [Finset.sum_range_succ]
        linarith
    · have hnone : (s :: times).countP (fun r => decide (a ≤ r)) = 0 := by
        rw [List.countP_eq_zero]
        intro r hr
        have hrs : r ≤ s := by
          rcases List.mem_cons.mp hr with rfl | hr
          · exact le_rfl
          · exact h.tail.le_head hdelay hr
        simpa using lt_of_le_of_lt hrs (not_le.mp has)
      exact ⟨0, by rw [hnone], streak_pos t _, by simpa using ha⟩

/-- **The rate of retries.** A window of the length `reset` has at most `m` failures, where the
first `m` delays are together longer. -/
theorem countP_window_le (hdelay : ∀ k, 0 ≤ delay k) (hmono : Monotone delay) {m : ℕ}
    (hsum : reset < ∑ k ∈ Finset.range m, delay (k + 1)) {times : List ℚ}
    (h : Spaced delay reset times) (a : ℚ) :
    times.countP (fun t => decide (a ≤ t) && decide (t ≤ a + reset)) ≤ m := by
  induction times with
  | nil => exact Nat.zero_le m
  | cons t times ih =>
    by_cases hb : t ≤ a + reset
    · by_cases ha : a ≤ t
      · obtain ⟨w, hcount, -, hw⟩ := h.window hdelay hmono ha hb
        have hle :
            (t :: times).countP (fun t => decide (a ≤ t) && decide (t ≤ a + reset)) ≤ w + 1 := by
          rw [← hcount]
          apply List.countP_mono_left
          intro r _ hr
          exact (Bool.and_eq_true_iff.mp hr).1
        refine hle.trans ?_
        -- `m` delays would not fit
        by_contra hlt
        have hmono' : ∑ k ∈ Finset.range m, delay (k + 1) ≤ ∑ k ∈ Finset.range w, delay (k + 1) :=
          Finset.sum_le_sum_of_subset_of_nonneg (Finset.range_subset_range.mpr (by omega))
            fun k _ _ => hdelay (k + 1)
        linarith
      · rw [List.countP_cons_of_neg (by simp [ha])]
        exact ih h.tail
    · rw [List.countP_cons_of_neg (by simp [hb])]
      exact ih h.tail

end Backoff
