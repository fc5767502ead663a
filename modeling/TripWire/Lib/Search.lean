import Mathlib.Data.List.Basic
import Mathlib.Tactic.Common

/-!
# Searches that stop early

A search goes through a list and stops at the first element that satisfies `Q`, which it still sees.
It *reaches* `P` if it sees an element of `P`; where that element stands is left open, so statements
about every element that a search sees need no index.

The rules are one unfolding step, `reaches_cons_iff`, and its dual `forall_reached_cons_iff`.
-/

namespace Search

variable {α : Type*} {P Q : α → Prop}

/-- A search that stops at the first element of `Q` sees an element of `P`. -/
def Reaches (P Q : α → Prop) (as : List α) : Prop :=
  ∃ before x after, as = before ++ x :: after ∧ P x ∧ ∀ y ∈ before, ¬Q y

theorem not_reaches_nil : ¬Reaches P Q [] := by
  rintro ⟨before, x, after, h, -⟩
  exact List.append_ne_nil_of_right_ne_nil before (List.cons_ne_nil x after) h.symm

theorem reaches_cons_iff {a : α} {as : List α} :
    Reaches P Q (a :: as) ↔ P a ∨ ¬Q a ∧ Reaches P Q as := by
  constructor
  · rintro ⟨before, x, after, has, hx, hbefore⟩
    rcases List.cons_eq_append_iff.mp has with ⟨rfl, h⟩ | ⟨before', rfl, h⟩
    · have hxa : x = a := (List.cons.inj h).1
      left
      rwa [← hxa]
    · right
      refine ⟨hbefore a List.mem_cons_self, before', x, after, h, hx, ?_⟩
      intro y hy
      exact hbefore y (List.mem_cons_of_mem a hy)
  · rintro (h | ⟨hne, before, x, after, rfl, hx, hbefore⟩)
    · exact ⟨[], a, as, rfl, h, by simp⟩
    · refine ⟨a :: before, x, after, rfl, hx, ?_⟩
      intro y hy
      rcases List.mem_cons.mp hy with rfl | hy
      · exact hne
      · exact hbefore y hy

/-- Only what `P` and `Q` say of the elements of the list matters. -/
theorem reaches_congr {P' Q' : α → Prop} {as : List α} (hP : ∀ a ∈ as, P a ↔ P' a)
    (hQ : ∀ a ∈ as, Q a ↔ Q' a) : Reaches P Q as ↔ Reaches P' Q' as := by
  induction as with
  | nil => exact iff_of_false not_reaches_nil not_reaches_nil
  | cons a as ih =>
    rw [List.forall_mem_cons] at hP hQ
    rw [reaches_cons_iff, reaches_cons_iff, hP.1, hQ.1, ih hP.2 hQ.2]

/-- Every element that is reached through elements of `C` satisfies `P`. -/
theorem forall_reached_iff {C : α → Prop} {as : List α} :
    (∀ before x after, as = before ++ x :: after → (∀ y ∈ before, C y) → P x) ↔
      ¬Reaches (fun x => ¬P x) (fun x => ¬C x) as := by
  constructor
  · rintro h ⟨before, x, after, has, hx, hbefore⟩
    exact hx (h before x after has fun y hy => not_not.mp (hbefore y hy))
  · intro h before x after has hbefore
    by_contra hx
    exact h ⟨before, x, after, has, hx, fun y hy => not_not_intro (hbefore y hy)⟩

theorem forall_reached_cons_iff {C : α → Prop} {a : α} {as : List α} :
    (∀ before x after, a :: as = before ++ x :: after → (∀ y ∈ before, C y) → P x) ↔
      P a ∧ (C a → ∀ before x after, as = before ++ x :: after → (∀ y ∈ before, C y) → P x) := by
  rw [forall_reached_iff, forall_reached_iff, reaches_cons_iff, not_or, not_not, not_and, not_not]

end Search
