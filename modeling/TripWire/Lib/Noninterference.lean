import TripWire.Lib.Machine

/-!
# Noninterference by unwinding

Several agents drive one machine, and one of them is to see nothing of the others.  Its actions are
those that satisfy `mine`; the run in which the others do nothing is the run of `as.filter mine`.

`R t s` relates a state `t` of the run without the others to the state `s` of the run with them.
`unwinding` is the rule: where the actions of the others keep `s` related to `t`, and an action of
one's own keeps both related, the two runs end in related states.  A guard on one's own actions,
such as the freshness of generated names, is stated in the run with the others.
-/

namespace Machine

variable {σ α : Type*} {step : σ → α → σ}

/-- **The unwinding rule.** -/
theorem unwinding {R : σ → σ → Prop} {mine : α → Bool} {G : σ → α → Prop}
    (hothers : ∀ s t a, R t s → mine a = false → R t (step s a))
    (hmine : ∀ s t a, R t s → G s a → mine a = true → R (step t a) (step s a))
    {s t : σ} {as : List α} (h : R t s)
    (has : Meets step (fun s a => mine a = true → G s a) s as) :
    R (run step t (as.filter mine)) (run step s as) := by
  induction as generalizing s t with
  | nil => exact h
  | cons a as ih =>
    obtain ⟨hguard, hrest⟩ := has
    cases ha : mine a with
    | false =>
      rw [List.filter_cons_of_neg (by simp [ha]), run_cons]
      exact ih (hothers s t a h ha) hrest
    | true =>
      rw [List.filter_cons_of_pos ha, run_cons, run_cons]
      exact ih (hmine s t a h (hguard ha) ha) hrest

end Machine
