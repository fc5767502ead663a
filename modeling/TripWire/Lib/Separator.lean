import Mathlib.Data.List.Basic
import Mathlib.Tactic.Common

/-!
# Texts around a separator

A text is cut at its first and at its last separator in one way (`append_cons_inj_of_first`,
`append_cons_inj_of_last`).  Fields that a separator ends are therefore read back from the text they
are put into, whatever follows them (`terminated_inj`).
-/

namespace Separator

variable {α : Type*} {a b x y : List α} {c : α}

/-- A text is split at the first separator. -/
theorem append_cons_inj_of_first (ha : c ∉ a) (hb : c ∉ b) (h : a ++ c :: x = b ++ c :: y) :
    a = b ∧ x = y := by
  induction a generalizing b with
  | nil =>
    cases b with
    | nil => exact ⟨rfl, (List.cons.inj h).2⟩
    | cons d b => exact absurd (List.cons.inj h).1 (List.ne_of_not_mem_cons hb)
  | cons d a ih =>
    rw [List.mem_cons, not_or] at ha
    cases b with
    | nil => exact absurd (List.cons.inj h).1.symm ha.1
    | cons e b =>
      rw [List.mem_cons, not_or] at hb
      obtain ⟨rfl, htail⟩ := List.cons.inj h
      obtain ⟨rfl, hx⟩ := ih ha.2 hb.2 htail
      exact ⟨rfl, hx⟩

/-- A text is split at the last separator. -/
theorem append_cons_inj_of_last (hx : c ∉ x) (hy : c ∉ y) (h : a ++ c :: x = b ++ c :: y) :
    a = b ∧ x = y := by
  have hreverse : x.reverse ++ c :: a.reverse = y.reverse ++ c :: b.reverse := by
    simpa using congrArg List.reverse h
  obtain ⟨hxy, hab⟩ := append_cons_inj_of_first (by simpa using hx) (by simpa using hy) hreverse
  exact ⟨List.reverse_injective hab, List.reverse_injective hxy⟩

/-! ### Fields -/

/-- The fields, each with a separator after it, and then the rest. -/
def terminated (c : α) : List (List α) → List α → List α
  | [], rest => rest
  | field :: fields, rest => field ++ c :: terminated c fields rest

/-- **Fields without separators are read back**, and so is the rest, which may contain some. -/
theorem terminated_inj {fields fields' : List (List α)}
    (hlength : fields.length = fields'.length) (hfields : ∀ field ∈ fields, c ∉ field)
    (hfields' : ∀ field ∈ fields', c ∉ field) (h : terminated c fields x = terminated c fields' y) :
    fields = fields' ∧ x = y := by
  induction fields generalizing fields' with
  | nil =>
    obtain rfl := List.eq_nil_of_length_eq_zero hlength.symm
    exact ⟨rfl, h⟩
  | cons field fields ih =>
    cases fields' with
    | nil => exact absurd hlength (Nat.succ_ne_zero _)
    | cons field' fields' =>
      rw [List.forall_mem_cons] at hfields hfields'
      obtain ⟨rfl, hrest⟩ := append_cons_inj_of_first hfields.1 hfields'.1 h
      obtain ⟨rfl, hxy⟩ := ih (Nat.succ.inj hlength) hfields.2 hfields'.2 hrest
      exact ⟨rfl, hxy⟩

end Separator
