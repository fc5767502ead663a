import Mathlib.Data.Finset.Card
import Mathlib.Data.Fintype.Card
import TripWire.Lib.Machine

/-!
# Checks that are not atomic with what they guard

Workers share a counter that is to stay below a limit.  Each of them looks at the counter first and
adds to it later, and in between the others go on: its window is open.  A look below the limit opens
the window, and an addition closes it.

With `n` workers the counter is kept below `limit + n` (`Effect.bound`, `count_lt_of_run`): an
addition trades its window for one on the counter, and when a window opens the counter is below the
limit, whatever the other windows are.  A single worker keeps the limit.
-/

namespace CheckThenAct

variable {ι : Type*} [DecidableEq ι]

/-- What a step does to the counter and to the workers whose windows are open. -/
inductive Effect (limit : ℕ) (count : ℕ) (windows : Finset ι) (count' : ℕ) (windows' : Finset ι) :
    Prop
  /-- The worker `i` has seen the counter below the limit. -/
  | check (i : ι) (below : count < limit) (kept : count' ≤ count)
      (opened : windows' ⊆ insert i windows)
  /-- The worker `i` adds to the counter. -/
  | act (i : ι) (inside : i ∈ windows) (added : count' ≤ count + 1)
      (closed : windows' ⊆ windows.erase i)
  | quiet (kept : count' ≤ count) (closed : windows' ⊆ windows)

/-- The counter with a place for every open window. -/
def Bounded [Fintype ι] (limit count : ℕ) (windows : Finset ι) : Prop :=
  count + windows.card < limit + Fintype.card ι

variable [Fintype ι] {limit count count' : ℕ} {windows windows' : Finset ι}

theorem Effect.bound (h : Effect limit count windows count' windows')
    (hs : Bounded limit count windows) : Bounded limit count' windows' := by
  unfold Bounded at hs ⊢
  cases h with
  | check i below kept opened =>
    have hcard : windows'.card ≤ Fintype.card ι := Finset.card_le_univ windows'
    omega
  | act i inside added closed =>
    have hcard : windows'.card ≤ (windows.erase i).card := Finset.card_le_card closed
    have herase : (windows.erase i).card = windows.card - 1 := Finset.card_erase_of_mem inside
    have hpos : 0 < windows.card := Finset.card_pos.mpr ⟨i, inside⟩
    omega
  | quiet kept closed =>
    have hcard : windows'.card ≤ windows.card := Finset.card_le_card closed
    omega

/-- **The bound.** A counter that starts within the limit stays below `limit + n`. -/
theorem count_lt_of_run {σ α : Type*} {step : σ → α → σ} (count : σ → ℕ) (windows : σ → Finset ι)
    (hstep : ∀ s a, Effect limit (count s) (windows s) (count (step s a)) (windows (step s a)))
    {s : σ} (hcount : count s ≤ limit) (hwindows : windows s = ∅) (hworkers : 0 < Fintype.card ι)
    (as : List α) : count (Machine.run step s as) < limit + Fintype.card ι := by
  have hinit : Bounded limit (count s) (windows s) := by
    rw [Bounded, hwindows, Finset.card_empty]
    omega
  have hrun : Bounded limit (count (Machine.run step s as)) (windows (Machine.run step s as)) :=
    Machine.run_invariant (I := fun s => Bounded limit (count s) (windows s))
      (fun s a h => (hstep s a).bound h) as hinit
  unfold Bounded at hrun
  omega

end CheckThenAct
