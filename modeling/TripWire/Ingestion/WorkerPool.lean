import TripWire.Lib.Backoff
import TripWire.Lib.Machine
import TripWire.Py.Basic

/-!
# Restarts of crashed workers

`WorkerPool` (`tripwire/ingestion/trigger_worker.py`) runs one task for each worker.  When a task
raises, its callback `_on_worker_done` has it started again after a delay, which doubles with every
crash in a row up to two minutes; `_restart_worker` starts it unless the pool is being stopped.

The crashes of a worker are failures with backoff (`invariant_run`), so five minutes see at most
eight of them (`crashes_in_window_le`), and a pool that is being stopped starts no worker
(`not_running_run`).  But `2 ** (restart_count - 1)` has no bound, and the delay is multiplied
before it is capped: at the 1025th crash in a row the product is no float, the callback raises, and
nothing starts the worker again (`worker_lost`).
-/

namespace TripWire

open Py Backoff

/-! ### The pool -/

/-- `_RESTART_COOLDOWN_BASE`. -/
def restartCooldownBase : ℚ := 2

/-- `_RESTART_COOLDOWN_MAX`. -/
def restartCooldownMax : ℚ := 120

/-- `_RESTART_COUNT_RESET_AFTER`. -/
def restartCountResetAfter : ℚ := 300

/-- `x * 2 ** exponent`, which raises where the integer is beyond the floats. -/
def timesPowerOfTwo (x : ℚ) (exponent : ℕ) : Except PyError ℚ :=
  if 1024 ≤ exponent then .error .overflowError else .ok (x * 2 ^ exponent)

/-- The delay of a restart. -/
def restartDelay (restartCount : ℕ) : Except PyError ℚ := do
  return min (← timesPowerOfTwo restartCooldownBase (restartCount - 1)) restartCooldownMax

/-- The task of a worker. -/
inductive WorkerTask where
  | running
  /-- It has raised, and `_restart_worker` is called at the time `due`. -/
  | cooling (due : ℚ)
  /-- It has returned or was cancelled, or the pool is being stopped. -/
  | finished
  /-- It has raised, and so has the callback. -/
  | lost
  deriving DecidableEq

/-- The pool of `n` workers. -/
structure WorkerPool (n : ℕ) where
  clock : ℚ := 0
  /-- `_stopping`. -/
  stopping : Bool := false
  tasks : Fin n → WorkerTask := fun _ => .running
  /-- `_restart_state`. -/
  restartState : Fin n → Option (ℕ × ℚ) := fun _ => none
  /-- When the task has raised while the pool was not being stopped, the newest first. -/
  crashes : Fin n → List ℚ := fun _ => []

/-- One step of a run. -/
inductive PoolAction (n : ℕ) where
  | elapse (seconds : ℚ) (nonneg : 0 ≤ seconds)
  /-- The task raises. -/
  | crash (i : Fin n)
  /-- The task returns, or is cancelled. -/
  | finish (i : Fin n)
  /-- The timer of `call_later` fires. -/
  | fire (i : Fin n)
  | stop

namespace WorkerPool

variable {n : ℕ}

/-- `_on_worker_done` for a task that has raised. -/
def onWorkerDone (s : WorkerPool n) (i : Fin n) : WorkerPool n :=
  if s.stopping then { s with tasks := Function.update s.tasks i .finished }
  else
    let (restartCount, lastRestart) := (s.restartState i).getD (0, 0)
    let restartCount := if restartCountResetAfter < s.clock - lastRestart then 0 else restartCount
    let restartCount := restartCount + 1
    { s with
      restartState := Function.update s.restartState i (some (restartCount, s.clock))
      crashes := Function.update s.crashes i (s.clock :: s.crashes i)
      tasks := Function.update s.tasks i
        (match restartDelay restartCount with
        | .ok delay => .cooling (s.clock + delay)
        | .error _ => .lost) }

/-- `_restart_worker`. -/
def restartWorker (s : WorkerPool n) (i : Fin n) : WorkerPool n :=
  { s with tasks := Function.update s.tasks i (if s.stopping then .finished else .running) }

/-- The pool after a step. -/
def step (s : WorkerPool n) : PoolAction n → WorkerPool n
  | .elapse seconds _ => { s with clock := s.clock + seconds }
  | .crash i =>
    match s.tasks i with
    | .running => s.onWorkerDone i
    | _ => s
  | .finish i =>
    match s.tasks i with
    | .running => { s with tasks := Function.update s.tasks i .finished }
    | _ => s
  | .fire i =>
    match s.tasks i with
    | .cooling due => if due ≤ s.clock then s.restartWorker i else s
    | _ => s
  | .stop => { s with stopping := true }

end WorkerPool

/-! ### Delays -/

/-- The delay of a restart that has one. -/
def delaySeconds (restartCount : ℕ) : ℚ := min (2 * 2 ^ (restartCount - 1)) 120

theorem restartDelay_eq (restartCount : ℕ) :
    restartDelay restartCount =
      if 1024 < restartCount then .error .overflowError else .ok (delaySeconds restartCount) := by
  have hpower : 1024 ≤ restartCount - 1 ↔ 1024 < restartCount := by omega
  simp only [restartDelay, timesPowerOfTwo, hpower]
  split_ifs
  · rfl
  · rfl

theorem delaySeconds_nonneg (restartCount : ℕ) : 0 ≤ delaySeconds restartCount := by
  unfold delaySeconds
  positivity

theorem monotone_delaySeconds : Monotone delaySeconds := by
  intro a b hab
  unfold delaySeconds
  gcongr
  · norm_num

/-- Eight delays are longer than five minutes. -/
theorem sum_delaySeconds :
    restartCountResetAfter < ∑ k ∈ Finset.range 8, delaySeconds (k + 1) := by
  norm_num [Finset.sum_range_succ, delaySeconds, restartCountResetAfter]

/-! ### The invariant -/

/-- The crashes of a worker are spaced by the delays, the newest is in the past, and
`_restart_state` has the length of its streak. -/
structure SlotInvariant (clock : ℚ) (task : WorkerTask) (restartState : Option (ℕ × ℚ))
    (crashes : List ℚ) : Prop where
  spaced : Spaced delaySeconds restartCountResetAfter crashes
  counted : restartState =
    crashes.head?.map fun t => (streak restartCountResetAfter crashes, t)
  /-- A worker runs again only after its delay. -/
  running : task = .running → ∀ t ∈ crashes.head?,
    t + delaySeconds (streak restartCountResetAfter crashes) ≤ clock
  cooling : ∀ due, task = .cooling due → ∃ t ∈ crashes.head?,
    due = t + delaySeconds (streak restartCountResetAfter crashes)
  lost_iff : task = .lost ↔ streak restartCountResetAfter crashes = 1025
  streak_le : streak restartCountResetAfter crashes ≤ 1025

theorem slotInvariant_init : SlotInvariant 0 .running none [] where
  spaced := trivial
  counted := rfl
  running := fun _ t ht => by cases ht
  cooling := fun due h => by cases h
  lost_iff := iff_of_false (by simp) (by simp [streak])
  streak_le := Nat.zero_le _

section Steps

variable {clock : ℚ} {task : WorkerTask} {restartState : Option (ℕ × ℚ)} {crashes : List ℚ}

theorem SlotInvariant.elapse (h : SlotInvariant clock task restartState crashes) {seconds : ℚ}
    (hseconds : 0 ≤ seconds) : SlotInvariant (clock + seconds) task restartState crashes :=
  { h with
    running := fun htask t ht => by
      have hrunning := h.running htask t ht
      linarith }

/-- A worker that was not given up is moved to a state without a timer. -/
theorem SlotInvariant.move (h : SlotInvariant clock task restartState crashes)
    (hlost : task ≠ .lost) {task' : WorkerTask} (hlost' : task' ≠ .lost)
    (hcooling : ∀ due, task' ≠ .cooling due)
    (hrunning : task' = .running → ∀ t ∈ crashes.head?,
      t + delaySeconds (streak restartCountResetAfter crashes) ≤ clock) :
    SlotInvariant clock task' restartState crashes :=
  { h with
    running := hrunning
    cooling := fun due hdue => absurd hdue (hcooling due)
    lost_iff := iff_of_false hlost' fun hstreak => hlost (h.lost_iff.mpr hstreak) }

/-- The counter of `_restart_state` after a crash is the new streak. -/
theorem SlotInvariant.restartCount (h : SlotInvariant clock task restartState crashes) :
    (if restartCountResetAfter < clock - (restartState.getD (0, 0)).2 then 0
      else (restartState.getD (0, 0)).1) + 1 =
      streak restartCountResetAfter (clock :: crashes) := by
  rw [h.counted]
  cases crashes with
  | nil => simp [streak]
  | cons t times =>
    rw [streak]
    simp only [List.head?_cons, Option.map_some, Option.getD_some]
    by_cases hstable : restartCountResetAfter < clock - t
    · simp [hstable]
    · simp [hstable]

/-- **A crash** of a running worker. -/
theorem SlotInvariant.crash (h : SlotInvariant clock .running restartState crashes) :
    SlotInvariant clock
      (match restartDelay (streak restartCountResetAfter (clock :: crashes)) with
        | .ok delay => .cooling (clock + delay)
        | .error _ => .lost)
      (some (streak restartCountResetAfter (clock :: crashes), clock)) (clock :: crashes) := by
  have hne : streak restartCountResetAfter crashes ≠ 1025 := fun heq => by
    cases h.lost_iff.mpr heq
  have hle : streak restartCountResetAfter (clock :: crashes) ≤ 1025 := by
    have hold := h.streak_le
    have hcons := streak_cons_le restartCountResetAfter clock crashes
    omega
  have hspaced : Spaced delaySeconds restartCountResetAfter (clock :: crashes) :=
    h.spaced.cons (h.running rfl)
  rw [restartDelay_eq]
  by_cases hlast : 1024 < streak restartCountResetAfter (clock :: crashes)
  · rw [if_pos hlast]
    exact
      { spaced := hspaced
        counted := rfl
        running := fun htask => by cases htask
        cooling := fun due hdue => by cases hdue
        lost_iff := iff_of_true rfl (by omega)
        streak_le := hle }
  · rw [if_neg hlast]
    exact
      { spaced := hspaced
        counted := rfl
        running := fun htask => by cases htask
        cooling := fun due hdue => by
          cases hdue
          exact ⟨clock, rfl, rfl⟩
        lost_iff := iff_of_false (by simp) (by omega)
        streak_le := hle }

/-- A restart, once the timer is due. -/
theorem SlotInvariant.restart {due : ℚ}
    (h : SlotInvariant clock (.cooling due) restartState crashes)
    (hdue : due ≤ clock) (stopping : Bool) :
    SlotInvariant clock (if stopping then .finished else .running) restartState crashes := by
  obtain ⟨t, ht, rfl⟩ := h.cooling due rfl
  apply h.move (by simp)
  · split_ifs <;> simp
  · intro due'
    split_ifs <;> simp
  · intro _ t' ht'
    obtain rfl : t = t' := Option.mem_unique ht ht'
    exact hdue

end Steps

/-! ### Runs -/

section Runs

variable {n : ℕ}

/-- The invariant of every worker. -/
def WorkerPool.Invariant (s : WorkerPool n) : Prop :=
  ∀ i, SlotInvariant s.clock (s.tasks i) (s.restartState i) (s.crashes i)

/-- A step of one worker. -/
theorem WorkerPool.Invariant.update {s : WorkerPool n} (h : s.Invariant) (i : Fin n)
    {task : WorkerTask} (hi : SlotInvariant s.clock task (s.restartState i) (s.crashes i)) :
    ({ s with tasks := Function.update s.tasks i task } : WorkerPool n).Invariant := by
  intro j
  by_cases hj : j = i
  · subst hj
    show SlotInvariant s.clock (Function.update s.tasks j task j) _ _
    rwa [Function.update_self]
  · show SlotInvariant s.clock (Function.update s.tasks i task j) _ _
    rw [Function.update_of_ne hj]
    exact h j

/-- The callback of a task that has raised. -/
theorem WorkerPool.Invariant.onWorkerDone {s : WorkerPool n} (h : s.Invariant) (i : Fin n)
    (hi : SlotInvariant s.clock .running (s.restartState i) (s.crashes i)) :
    (s.onWorkerDone i).Invariant := by
  unfold WorkerPool.onWorkerDone
  by_cases hstopping : s.stopping = true
  · rw [if_pos hstopping]
    exact h.update i (hi.move (by simp) (by simp) (by simp) (by simp))
  · rw [if_neg hstopping]
    dsimp only
    rw [hi.restartCount]
    intro j
    by_cases hj : j = i
    · subst hj
      simp only [Function.update_self]
      exact hi.crash
    · simp only [Function.update_of_ne hj]
      exact h j

/-- **A step keeps the invariant.** -/
theorem WorkerPool.Invariant.step {s : WorkerPool n} (h : s.Invariant) (a : PoolAction n) :
    (s.step a).Invariant := by
  cases a with
  | elapse seconds nonneg => exact fun i => (h i).elapse nonneg
  | stop => exact h
  | finish i =>
    simp only [WorkerPool.step]
    cases htask : s.tasks i with
    | running =>
      have hi := h i
      rw [htask] at hi
      exact h.update i (hi.move (by simp) (by simp) (by simp) (by simp))
    | cooling due => exact h
    | finished => exact h
    | lost => exact h
  | fire i =>
    simp only [WorkerPool.step]
    cases htask : s.tasks i with
    | cooling due =>
      have hi := h i
      rw [htask] at hi
      dsimp only
      split_ifs with hdue
      · exact h.update i (hi.restart hdue s.stopping)
      · exact h
    | running => exact h
    | finished => exact h
    | lost => exact h
  | crash i =>
    simp only [WorkerPool.step]
    cases htask : s.tasks i with
    | cooling due => exact h
    | finished => exact h
    | lost => exact h
    | running =>
      have hi := h i
      rw [htask] at hi
      exact h.onWorkerDone i hi

theorem invariant_run (n : ℕ) (actions : List (PoolAction n)) :
    (Machine.run WorkerPool.step ({} : WorkerPool n) actions).Invariant :=
  Machine.run_invariant (I := WorkerPool.Invariant) (fun _ a h => h.step a) actions
    fun _ => slotInvariant_init

/-- A pool that is being stopped starts no worker. -/
theorem not_running_of_stopping {s : WorkerPool n} {i : Fin n} (hstopping : s.stopping = true)
    (htask : s.tasks i ≠ .running) (a : PoolAction n) :
    (s.step a).stopping = true ∧ (s.step a).tasks i ≠ .running := by
  have hupdate (j : Fin n) {task : WorkerTask} (h : task ≠ .running) :
      Function.update s.tasks j task i ≠ .running := by
    by_cases hij : i = j
    · rw [hij, Function.update_self]
      exact h
    · rw [Function.update_of_ne hij]
      exact htask
  cases a with
  | elapse seconds nonneg => exact ⟨hstopping, htask⟩
  | stop => exact ⟨rfl, htask⟩
  | finish j =>
    simp only [WorkerPool.step]
    split
    · exact ⟨hstopping, hupdate j (by simp)⟩
    · exact ⟨hstopping, htask⟩
  | crash j =>
    simp only [WorkerPool.step]
    split
    · rw [WorkerPool.onWorkerDone, if_pos hstopping]
      exact ⟨hstopping, hupdate j (by simp)⟩
    · exact ⟨hstopping, htask⟩
  | fire j =>
    simp only [WorkerPool.step]
    split
    · split_ifs
      · refine ⟨hstopping, hupdate j ?_⟩
        rw [if_pos hstopping]
        simp
      · exact ⟨hstopping, htask⟩
    · exact ⟨hstopping, htask⟩

theorem not_running_run {s : WorkerPool n} {i : Fin n} (hstopping : s.stopping = true)
    (htask : s.tasks i ≠ .running) (actions : List (PoolAction n)) :
    (Machine.run WorkerPool.step s actions).tasks i ≠ .running :=
  (Machine.run_invariant (I := fun s : WorkerPool n => s.stopping = true ∧ s.tasks i ≠ .running)
    (fun _ a h => not_running_of_stopping h.1 h.2 a) actions ⟨hstopping, htask⟩).2

/-! ### A worker that crashes whenever it is started -/

/-- A crash and the restart after two minutes. -/
def crashCycle (i : Fin n) : List (PoolAction n) :=
  [.crash i, .elapse 120 (by norm_num), .fire i]

/-- A worker in a crash loop: it runs, and its last `k` crashes are in a row. -/
structure WorkerPool.Looping (s : WorkerPool n) (i : Fin n) (k : ℕ) : Prop where
  invariant : s.Invariant
  running : s.tasks i = .running
  alive : s.stopping = false
  recent : ∀ t ∈ (s.crashes i).head?, s.clock - t ≤ restartCountResetAfter
  streak : streak restartCountResetAfter (s.crashes i) = k

/-- One more crash in a row. -/
theorem WorkerPool.Looping.streak_crash {s : WorkerPool n} {i : Fin n} {k : ℕ} (h : s.Looping i k) :
    Backoff.streak restartCountResetAfter (s.clock :: s.crashes i) = k + 1 := by
  have hrecent := h.recent
  have hstreak := h.streak
  cases hcrashes : s.crashes i with
  | nil =>
    rw [hcrashes] at hstreak
    rw [← hstreak]
    rfl
  | cons t times =>
    rw [hcrashes] at hrecent hstreak
    rw [Backoff.streak, if_neg (not_lt.mpr (hrecent t rfl)), hstreak]

theorem WorkerPool.Looping.crash {s : WorkerPool n} {i : Fin n} {k : ℕ} (h : s.Looping i k) :
    (s.step (.crash i)).crashes i = s.clock :: s.crashes i ∧
      (s.step (.crash i)).tasks i =
        (match restartDelay (k + 1) with
        | .ok delay => .cooling (s.clock + delay)
        | .error _ => .lost) ∧
      (s.step (.crash i)).stopping = false ∧ (s.step (.crash i)).clock = s.clock := by
  have hi := h.invariant i
  simp only [WorkerPool.step, h.running]
  rw [WorkerPool.onWorkerDone, if_neg (by simp [h.alive])]
  dsimp only
  rw [hi.restartCount, h.streak_crash]
  exact ⟨Function.update_self .., Function.update_self .., h.alive, rfl⟩

/-- Below the last one, a crash is followed by a restart. -/
theorem WorkerPool.Looping.cycle {s : WorkerPool n} {i : Fin n} {k : ℕ} (h : s.Looping i k)
    (hk : k < 1024) : (Machine.run WorkerPool.step s (crashCycle i)).Looping i (k + 1) := by
  obtain ⟨hcrashes, htask, halive, hclock⟩ := h.crash
  have hdelay : restartDelay (k + 1) = .ok (delaySeconds (k + 1)) := by
    rw [restartDelay_eq, if_neg (by omega)]
  rw [hdelay] at htask
  have hshort : delaySeconds (k + 1) ≤ 120 := min_le_right _ _
  have hfired : Machine.run WorkerPool.step s (crashCycle i) =
      ((s.step (.crash i)).step (.elapse 120 (by norm_num))).restartWorker i := by
    have hdue : s.clock + delaySeconds (k + 1) ≤ (s.step (.crash i)).clock + 120 := by
      rw [hclock]
      linarith
    show WorkerPool.step ((s.step (.crash i)).step (.elapse 120 (by norm_num))) (.fire i) = _
    generalize hs : s.step (.crash i) = s' at htask hdue
    simp only [WorkerPool.step, htask]
    exact if_pos hdue
  refine
    { invariant := Machine.run_invariant (I := WorkerPool.Invariant) (fun _ a h => h.step a) _
        h.invariant
      running := ?_
      alive := ?_
      recent := ?_
      streak := ?_ }
  · rw [hfired]
    show Function.update (s.step (.crash i)).tasks i
      (if (s.step (.crash i)).stopping then _ else _) i = _
    rw [Function.update_self, halive]
    rfl
  · rw [hfired]
    exact halive
  · rw [hfired]
    intro t ht
    have hhead : ((s.step (.crash i)).crashes i).head? = some s.clock := by rw [hcrashes]; rfl
    obtain rfl : s.clock = t := Option.some.inj (hhead.symm.trans ht)
    show (s.step (.crash i)).clock + 120 - s.clock ≤ restartCountResetAfter
    rw [hclock, restartCountResetAfter]
    linarith
  · rw [hfired]
    show Backoff.streak restartCountResetAfter ((s.step (.crash i)).crashes i) = k + 1
    rw [hcrashes, h.streak_crash]

theorem looping_init (i : Fin n) : ({} : WorkerPool n).Looping i 0 where
  invariant := fun _ => slotInvariant_init
  running := rfl
  alive := rfl
  recent := fun t ht => by cases ht
  streak := rfl

/-- A crash loop of up to 1024 crashes. -/
theorem looping_run (i : Fin n) {k : ℕ} (hk : k ≤ 1024) :
    (Machine.run WorkerPool.step ({} : WorkerPool n)
      (List.replicate k (crashCycle i)).flatten).Looping i k := by
  induction k with
  | zero => exact looping_init i
  | succ k ih =>
    rw [List.replicate_succ', List.flatten_append, Machine.run_append, List.flatten_singleton]
    exact (ih (by omega)).cycle (by omega)

/-- The crash after that is the last one. -/
theorem WorkerPool.Looping.lost {s : WorkerPool n} {i : Fin n} (h : s.Looping i 1024) :
    (s.step (.crash i)).tasks i = .lost := by
  obtain ⟨-, htask, -, -⟩ := h.crash
  rw [htask, restartDelay_eq, if_pos (by norm_num)]

end Runs

/-- **The rate of restarts.** Five minutes see at most eight crashes of a worker. -/
theorem crashes_in_window_le {n : ℕ} (actions : List (PoolAction n)) (i : Fin n) (a : ℚ) :
    ((Machine.run WorkerPool.step ({} : WorkerPool n) actions).crashes i).countP
      (fun t => decide (a ≤ t) && decide (t ≤ a + 300)) ≤ 8 :=
  countP_window_le delaySeconds_nonneg monotone_delaySeconds sum_delaySeconds
    (invariant_run n actions i).spaced a

/-- **A worker is given up at the 1025th crash in a row**, and only then: each of the others is
within five minutes of the one before it.  There are runs that come to it. -/
theorem worker_lost {n : ℕ} (i : Fin n) :
    (∀ actions, (Machine.run WorkerPool.step ({} : WorkerPool n) actions).tasks i = .lost ↔
      streak 300 ((Machine.run WorkerPool.step ({} : WorkerPool n) actions).crashes i) = 1025) ∧
    ∃ actions, (Machine.run WorkerPool.step ({} : WorkerPool n) actions).tasks i = .lost := by
  refine ⟨fun actions => (invariant_run n actions i).lost_iff, ?_⟩
  obtain ⟨actions, hlooping⟩ : ∃ actions,
      (Machine.run WorkerPool.step ({} : WorkerPool n) actions).Looping i 1024 :=
    ⟨_, looping_run i le_rfl⟩
  refine ⟨actions ++ [.crash i], ?_⟩
  rw [Machine.run_append]
  exact hlooping.lost

end TripWire
