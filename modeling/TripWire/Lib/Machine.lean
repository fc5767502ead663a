import Mathlib.Data.List.Basic
import Mathlib.Tactic.Common

/-!
# Runs of a deterministic machine

A machine is a function `step : σ → α → σ`; a run is a list of actions.  Nondeterminism (which
component moves next, which call fails, what a remote service answers) sits in the actions, so a
statement about every list of actions is a statement about every run.

`Meets step G s as` says that every step of the run from `s` satisfies the guard `G` in the state
in which it is taken.  The two rules are:

* `run_induction`: a predicate that every guarded step keeps holds after every guarded run;
* `meets_of_meets`: what a guarded step yields, every step of a guarded run yields, where an
  invariant may be carried along.
-/

namespace Machine

variable {σ α : Type*} (step : σ → α → σ)

/-- The state after the actions `as`, from `s`. -/
def run (s : σ) (as : List α) : σ := as.foldl step s

@[simp]
theorem run_cons (s : σ) (a : α) (as : List α) : run step s (a :: as) = run step (step s a) as :=
  rfl

theorem run_append (s : σ) (as bs : List α) :
    run step s (as ++ bs) = run step (run step s as) bs :=
  List.foldl_append

/-- Every step of the run of `as` from `s` satisfies `G` in the state in which it is taken. -/
def Meets (G : σ → α → Prop) : σ → List α → Prop
  | _, [] => True
  | s, a :: as => G s a ∧ Meets G (step s a) as

instance (G : σ → α → Prop) [∀ s a, Decidable (G s a)] :
    ∀ (s : σ) (as : List α), Decidable (Meets step G s as)
  | _, [] => isTrue trivial
  | s, a :: as =>
    have := instDecidableMeets G (step s a) as
    inferInstanceAs (Decidable (G s a ∧ Meets step G (step s a) as))

variable {step}

/-- **The invariant rule.** A predicate kept by every step that satisfies the guard holds at the
end of every run whose steps satisfy it. -/
theorem run_induction {G : σ → α → Prop} {I : σ → Prop}
    (hstep : ∀ s a, I s → G s a → I (step s a)) {s : σ} {as : List α} (hs : I s)
    (has : Meets step G s as) : I (run step s as) := by
  induction as generalizing s with
  | nil => exact hs
  | cons a as ih => exact ih (hstep s a hs has.1) has.2

/-- The invariant rule without a guard. -/
theorem run_invariant {I : σ → Prop} (hstep : ∀ s a, I s → I (step s a)) {s : σ} (as : List α)
    (hs : I s) : I (run step s as) := by
  induction as generalizing s with
  | nil => exact hs
  | cons a as ih => exact ih (hstep s a hs)

/-- **The history rule.** What a state owes to the actions before it, kept by every step. -/
theorem run_history {I : List α → σ → Prop}
    (hstep : ∀ before s a, I before s → I (before ++ [a]) (step s a)) {before : List α} {s : σ}
    (as : List α) (hs : I before s) : I (before ++ as) (run step s as) := by
  induction as generalizing before s with
  | nil =>
    rw [List.append_nil]
    exact hs
  | cons a as ih =>
    rw [List.append_cons]
    exact ih (hstep before s a hs)

/-- **The step rule.** If a guarded step from a state of the invariant keeps it and satisfies `Q`,
then every step of a guarded run satisfies `Q`. -/
theorem meets_of_meets {G Q : σ → α → Prop} {I : σ → Prop}
    (hstep : ∀ s a, I s → G s a → Q s a ∧ I (step s a)) {s : σ} {as : List α} (hs : I s)
    (has : Meets step G s as) : Meets step Q s as := by
  induction as generalizing s with
  | nil => trivial
  | cons a as ih =>
    obtain ⟨hQ, hI⟩ := hstep s a hs has.1
    exact ⟨hQ, ih hI has.2⟩

/-- The step rule without a guard. -/
theorem meets_invariant {Q : σ → α → Prop} {I : σ → Prop}
    (hstep : ∀ s a, I s → Q s a ∧ I (step s a)) {s : σ} (as : List α) (hs : I s) :
    Meets step Q s as := by
  induction as generalizing s with
  | nil => trivial
  | cons a as ih =>
    obtain ⟨hQ, hI⟩ := hstep s a hs
    exact ⟨hQ, ih hI⟩

/-- A guard on the actions alone. -/
theorem meets_of_forall {P : α → Prop} {as : List α} (h : ∀ a ∈ as, P a) (s : σ) :
    Meets step (fun _ a => P a) s as := by
  induction as generalizing s with
  | nil => trivial
  | cons a as ih =>
    exact ⟨h a List.mem_cons_self, ih (fun b hb => h b (List.mem_cons_of_mem a hb)) (step s a)⟩

/-- A guard may be weakened, action by action. -/
theorem meets_mono {G Q : σ → α → Prop} {as : List α} (h : ∀ a ∈ as, ∀ s, G s a → Q s a) {s : σ}
    (has : Meets step G s as) : Meets step Q s as := by
  induction as generalizing s with
  | nil => trivial
  | cons a as ih =>
    refine ⟨h a List.mem_cons_self s has.1, ih ?_ has.2⟩
    intro b hb
    exact h b (List.mem_cons_of_mem a hb)

/-- Where `π` maps the steps of one machine to those of another, it maps runs to runs. -/
theorem run_map {τ : Type*} {step' : τ → α → τ} {π : σ → τ}
    (hπ : ∀ s a, π (step s a) = step' (π s) a) (s : σ) (as : List α) :
    π (run step s as) = run step' (π s) as := by
  induction as generalizing s with
  | nil => rfl
  | cons a as ih => rw [run_cons, run_cons, ih, hπ]

/-- **Projection.** Where `π` maps the steps of one machine to those of another, what holds of every
step of a run holds of every step of its image. -/
theorem meets_map {τ : Type*} {step' : τ → α → τ} {π : σ → τ}
    (hπ : ∀ s a, π (step s a) = step' (π s) a) {Q : τ → α → Prop} {s : σ} {as : List α}
    (h : Meets step (fun s a => Q (π s) a) s as) : Meets step' Q (π s) as := by
  induction as generalizing s with
  | nil => trivial
  | cons a as ih =>
    refine ⟨h.1, ?_⟩
    rw [← hπ]
    exact ih h.2

end Machine
