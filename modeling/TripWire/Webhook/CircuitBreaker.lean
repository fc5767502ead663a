import Mathlib
import TripWire.Lib.Machine

/-!
# The circuit breaker of the Convoy client

`send_webhook`, `create_application` and `create_endpoint` (`tripwire/webhook/convoy_client.py`) ask
`_guard_circuit` before they call Convoy, and report the result by `_record_success` or
`_record_failure`.  A report may come at any time: the circuit may have opened, and even gone to
`half_open`, since the call was admitted.

`Circuit.Tracks` relates the stored state to the history of calls and reports, whatever their order.
It gives `guardCircuit_raises_iff`: the guard looks at nothing but the failures since the last
success and the time of the latest one.

Nothing in the state `half_open` says that a probe is on its way, and an error that is not a failure
to reach Convoy is not reported at all.  `half_open_one_probe_iff` says in which runs the half-open
circuit admits one probe and every probe ends that state.
-/

namespace TripWire

open Machine

/-! ### The circuit -/

/-- `_circuit_state`; `opened` is the state `"open"`. -/
inductive CircuitState where
  | closed
  | opened
  | halfOpen
  deriving DecidableEq

/-- The module variables of the breaker. -/
structure Circuit where
  state : CircuitState := .closed
  failureCount : ℕ := 0
  lastFailureTime : ℚ := 0
  deriving DecidableEq

/-- `_FAILURE_THRESHOLD`. -/
def failureThreshold : ℕ := 5

/-- `_RECOVERY_TIMEOUT`, in seconds. -/
def recoveryTimeout : ℚ := 30

/-- `ConvoyCircuitOpenError`, with the two numbers of its message. -/
structure ConvoyCircuitOpenError where
  failures : ℕ
  recoveryIn : ℚ
  deriving DecidableEq

namespace Circuit

/-- `_check_circuit`: whether the request is allowed, and the circuit afterwards. -/
def checkCircuit (now : ℚ) (c : Circuit) : Bool × Circuit :=
  match c.state with
  | .closed => (true, c)
  | .opened =>
    if now - c.lastFailureTime > recoveryTimeout then (true, { c with state := .halfOpen })
    else (false, c)
  | .halfOpen => (true, c)

/-- `_guard_circuit`. -/
def guardCircuit (now : ℚ) (c : Circuit) : Except ConvoyCircuitOpenError Circuit :=
  let (allowed, c) := c.checkCircuit now
  if allowed then .ok c
  else .error
    { failures := c.failureCount, recoveryIn := recoveryTimeout - (now - c.lastFailureTime) }

/-- `_record_success`. -/
def recordSuccess (c : Circuit) : Circuit := { c with state := .closed, failureCount := 0 }

/-- `_record_failure`. -/
def recordFailure (now : ℚ) (c : Circuit) : Circuit :=
  let c := { c with failureCount := c.failureCount + 1, lastFailureTime := now }
  if failureThreshold ≤ c.failureCount then { c with state := .opened } else c

end Circuit

/-- A call of one of the three functions. -/
inductive CircuitEvent where
  | guard (now : ℚ)
  | success (now : ℚ)
  | failure (now : ℚ)

namespace CircuitEvent

/-- When the call is made. -/
def time : CircuitEvent → ℚ
  | .guard now | .success now | .failure now => now

/-- The calls are made at non-decreasing times. -/
def InOrder (events : List CircuitEvent) : Prop := events.Pairwise fun d e => d.time ≤ e.time

/-- Whether it records a success. -/
def isSuccess : CircuitEvent → Bool
  | .success _ => true
  | _ => false

/-- Whether it records a failure. -/
def isFailure : CircuitEvent → Bool
  | .failure _ => true
  | _ => false

/-- The time of a recorded failure. -/
def failureTime? : CircuitEvent → Option ℚ
  | .failure now => some now
  | _ => none

end CircuitEvent

namespace Circuit

/-- The circuit after a call; a guard that raises leaves it as it is. -/
def step (c : Circuit) : CircuitEvent → Circuit
  | .guard now => (c.checkCircuit now).2
  | .success _ => c.recordSuccess
  | .failure now => c.recordFailure now

end Circuit

/-! ### The history -/

/-- The number of failures recorded since the last recorded success, or since the start. -/
def failuresSince (history : List CircuitEvent) : ℕ :=
  (history.reverse.takeWhile (!·.isSuccess)).countP (·.isFailure)

/-- The time of the latest recorded failure. -/
def latestFailure (history : List CircuitEvent) : Option ℚ :=
  (history.filterMap CircuitEvent.failureTime?).getLast?

/-- A failure was recorded at most `recoveryTimeout` seconds ago. -/
def FailedRecently (history : List CircuitEvent) (now : ℚ) : Prop :=
  ∃ t, latestFailure history = some t ∧ now - t ≤ recoveryTimeout

section History

variable (history : List CircuitEvent) (now : ℚ)

@[simp]
theorem failuresSince_guard : failuresSince (history ++ [.guard now]) = failuresSince history := by
  simp [failuresSince, CircuitEvent.isSuccess, CircuitEvent.isFailure]

@[simp]
theorem failuresSince_success : failuresSince (history ++ [.success now]) = 0 := by
  simp [failuresSince, CircuitEvent.isSuccess]

@[simp]
theorem failuresSince_failure :
    failuresSince (history ++ [.failure now]) = failuresSince history + 1 := by
  simp [failuresSince, CircuitEvent.isSuccess, CircuitEvent.isFailure]

@[simp]
theorem latestFailure_guard : latestFailure (history ++ [.guard now]) = latestFailure history := by
  simp [latestFailure, CircuitEvent.failureTime?]

@[simp]
theorem latestFailure_success :
    latestFailure (history ++ [.success now]) = latestFailure history := by
  simp [latestFailure, CircuitEvent.failureTime?]

@[simp]
theorem latestFailure_failure : latestFailure (history ++ [.failure now]) = some now := by
  simp [latestFailure, CircuitEvent.failureTime?]

end History

/-- Failures since the last success are failures. -/
theorem exists_latestFailure {history : List CircuitEvent} (h : 0 < failuresSince history) :
    ∃ t, latestFailure history = some t := by
  obtain ⟨e, he, hfailure⟩ := List.countP_pos_iff.mp h
  have hmem : e ∈ history := List.mem_reverse.mp (List.takeWhile_subset _ he)
  apply Option.isSome_iff_exists.mp
  rw [latestFailure, List.getLast?_isSome, ne_eq, List.filterMap_eq_nil_iff]
  intro hnone
  cases e with
  | failure now => cases hnone _ hmem
  | guard now => cases hfailure
  | success now => cases hfailure

namespace Circuit

/-- **The invariant.** The circuit after a history that ends at `now`: it is closed while fewer than
five failures were recorded since the last success, and where it is half open, the latest failure is
more than the recovery timeout ago. -/
structure Tracks (history : List CircuitEvent) (now : ℚ) (c : Circuit) : Prop where
  failureCount : c.failureCount = failuresSince history
  lastFailureTime : ∀ t, latestFailure history = some t → c.lastFailureTime = t
  closed_iff : c.state = .closed ↔ failuresSince history < failureThreshold
  halfOpen : c.state = .halfOpen → recoveryTimeout < now - c.lastFailureTime

theorem tracks_init (now : ℚ) : ({} : Circuit).Tracks [] now where
  failureCount := rfl
  lastFailureTime := fun _ h => by cases h
  closed_iff := by decide
  halfOpen := fun h => by cases h

/-- Time passes. -/
theorem Tracks.later {history : List CircuitEvent} {now now' : ℚ} {c : Circuit}
    (h : c.Tracks history now) (hle : now ≤ now') : c.Tracks history now' where
  failureCount := h.failureCount
  lastFailureTime := h.lastFailureTime
  closed_iff := h.closed_iff
  halfOpen := fun hstate => by
    have hlong := h.halfOpen hstate
    linarith

/-- Whether a guard raises. -/
theorem guardCircuit_error_iff {history : List CircuitEvent} {now : ℚ} {c : Circuit}
    (h : c.Tracks history now) :
    (∃ e, c.guardCircuit now = .error e) ↔
      failureThreshold ≤ failuresSince history ∧ FailedRecently history now := by
  have hclosed := h.closed_iff
  have hhalf := h.halfOpen
  have hpos (hle : failureThreshold ≤ failuresSince history) :
      FailedRecently history now ↔ now - c.lastFailureTime ≤ recoveryTimeout := by
    obtain ⟨t, ht⟩ := exists_latestFailure (lt_of_lt_of_le (by decide) hle)
    rw [FailedRecently, ht, h.lastFailureTime t ht]
    simp
  unfold guardCircuit checkCircuit
  cases hstate : c.state with
  | closed =>
    have hlt : failuresSince history < failureThreshold := hclosed.mp hstate
    refine iff_of_false (by simp) ?_
    rintro ⟨hle, -⟩
    omega
  | opened =>
    have hle : failureThreshold ≤ failuresSince history := by
      rw [hstate] at hclosed
      exact not_lt.mp fun hlt => by cases hclosed.mpr hlt
    rw [hpos hle]
    by_cases hlong : now - c.lastFailureTime > recoveryTimeout
    · refine iff_of_false (by simp [hlong]) ?_
      rintro ⟨-, hshort⟩
      exact absurd hlong (not_lt.mpr hshort)
    · simp [hlong, hle, not_lt.mp hlong]
  | halfOpen =>
    refine iff_of_false (by simp) ?_
    rintro ⟨hle, hrecent⟩
    have hlong := hhalf hstate
    have hshort := (hpos hle).mp hrecent
    linarith

/-- **The invariant is kept** by a call of any of the functions, in any state. -/
theorem Tracks.step {history : List CircuitEvent} {now : ℚ} {c : Circuit} (h : c.Tracks history now)
    {e : CircuitEvent} (hle : now ≤ e.time) : (c.step e).Tracks (history ++ [e]) e.time := by
  have hlater := h.later hle
  cases e with
  | guard t =>
    have hstate : (c.checkCircuit t).2.state = .closed ↔ c.state = .closed := by
      unfold checkCircuit
      cases hstate : c.state with
      | closed => simp [hstate]
      | opened => split_ifs <;> simp [hstate]
      | halfOpen => simp [hstate]
    have hsame : (c.checkCircuit t).2.failureCount = c.failureCount ∧
        (c.checkCircuit t).2.lastFailureTime = c.lastFailureTime := by
      unfold checkCircuit
      cases c.state with
      | closed => exact ⟨rfl, rfl⟩
      | opened => split_ifs <;> exact ⟨rfl, rfl⟩
      | halfOpen => exact ⟨rfl, rfl⟩
    refine ⟨?_, ?_, ?_, ?_⟩
    · rw [failuresSince_guard, Circuit.step, hsame.1, h.failureCount]
    · rw [latestFailure_guard, Circuit.step, hsame.2]
      exact h.lastFailureTime
    · rw [failuresSince_guard, Circuit.step, hstate]
      exact h.closed_iff
    · rw [Circuit.step, hsame.2]
      intro hhalf
      cases hbefore : c.state with
      | closed =>
        rw [hstate.mpr hbefore] at hhalf
        cases hhalf
      | opened =>
        -- the circuit has just left the state `open`
        by_contra hshort
        have hsame : c.checkCircuit t = (false, c) := by
          simp only [checkCircuit, hbefore]
          exact if_neg hshort
        rw [hsame, hbefore] at hhalf
        cases hhalf
      | halfOpen => exact hlater.halfOpen hbefore
  | success t =>
    refine ⟨?_, ?_, ?_, ?_⟩
    · rw [failuresSince_success]
      rfl
    · rw [latestFailure_success]
      exact h.lastFailureTime
    · rw [failuresSince_success]
      exact iff_of_true rfl (by decide)
    · intro hhalf
      cases hhalf
  | failure t =>
    have hcount : c.failureCount + 1 = failuresSince (history ++ [.failure t]) := by
      rw [failuresSince_failure, h.failureCount]
    have hlatest : latestFailure (history ++ [.failure t]) = some t := latestFailure_failure ..
    unfold Circuit.step recordFailure
    rw [hcount]
    dsimp only
    split_ifs with hopen
    · refine ⟨rfl, ?_, ?_, ?_⟩
      · intro u hu
        exact Option.some.inj (hlatest.symm.trans hu)
      · exact iff_of_false (by simp) (not_lt.mpr hopen)
      · intro hhalf
        cases hhalf
    · have hfew : failuresSince history < failureThreshold := by
        rw [failuresSince_failure] at hopen
        omega
      have hclosed : c.state = .closed := h.closed_iff.mpr hfew
      refine ⟨rfl, ?_, iff_of_true hclosed (not_le.mp hopen), ?_⟩
      · intro u hu
        exact Option.some.inj (hlatest.symm.trans hu)
      · intro hhalf
        rw [hclosed] at hhalf
        cases hhalf

/-- The invariant after a run. -/
theorem tracks_run {events : List CircuitEvent} :
    ∀ {history : List CircuitEvent} {now : ℚ} {c : Circuit}, c.Tracks history now →
      (∀ e ∈ events, now ≤ e.time) → CircuitEvent.InOrder events →
      ∀ {later : ℚ}, now ≤ later → (∀ e ∈ events, e.time ≤ later) →
        (run Circuit.step c events).Tracks (history ++ events) later := by
  induction events with
  | nil =>
    intro history now c h _ _ later hlater _
    rw [List.append_nil]
    exact h.later hlater
  | cons e events ih =>
    intro history now c h hfirst hsorted later _ hall
    obtain ⟨hnext, hsorted⟩ := List.pairwise_cons.mp hsorted
    have hstep := h.step (hfirst e List.mem_cons_self)
    have hrest := ih hstep hnext hsorted (hall e List.mem_cons_self)
      fun d hd => hall d (List.mem_cons_of_mem e hd)
    rw [List.append_assoc, List.singleton_append] at hrest
    exact hrest

end Circuit

/-- **What the breaker depends on.** After every sequence of guards and reports at non-decreasing
times, in whatever states the reports arrive: a guard raises exactly when at least five failures
were recorded since the last success and the latest of them is at most thirty seconds old, and the
circuit is closed exactly when fewer than five were. -/
theorem guardCircuit_raises_iff {history : List CircuitEvent} {now : ℚ}
    (hsorted : CircuitEvent.InOrder (history ++ [.guard now])) :
    let c := run Circuit.step {} history
    ((∃ e, c.guardCircuit now = .error e) ↔
      5 ≤ failuresSince history ∧ ∃ t, latestFailure history = some t ∧ now - t ≤ 30) ∧
    (c.state = .closed ↔ failuresSince history < 5) := by
  intro c
  obtain ⟨hpairs, -, hlast⟩ := List.pairwise_append.mp hsorted
  have hlater : ∀ e ∈ history, e.time ≤ now := fun e he => hlast e he _ List.mem_cons_self
  have htracks : c.Tracks history now := by
    cases history with
    | nil => exact Circuit.tracks_init now
    | cons e events =>
      have hfirst : ∀ d ∈ e :: events, e.time ≤ d.time := by
        rw [List.forall_mem_cons]
        exact ⟨le_rfl, (List.pairwise_cons.mp hpairs).1⟩
      exact Circuit.tracks_run (Circuit.tracks_init e.time) hfirst hpairs
        (hlater e List.mem_cons_self) hlater
  exact ⟨Circuit.guardCircuit_error_iff htracks, htracks.closed_iff⟩

/-- Five failures in a row stop a call ten seconds later. -/
theorem guardCircuit_raises_ten :
    ∃ e, Circuit.guardCircuit 110 (run Circuit.step {} (List.replicate 5 (.failure 100))) =
      .error e := by
  have hsorted : CircuitEvent.InOrder (List.replicate 5 (.failure 100) ++ [.guard 110]) := by
    simp [CircuitEvent.InOrder, List.replicate, CircuitEvent.time]
    norm_num
  exact (guardCircuit_raises_iff hsorted).1.mpr ⟨by decide, 100, rfl, by norm_num⟩

/-! ### Calls on their way -/

/-- A call of one of the three guarded functions. -/
inductive ConvoyCall where
  | sendWebhook
  | createApplication
  | createEndpoint (secret : Option String)

/-- `create_endpoint` raises without a secret, between its guard and its request. -/
def ConvoyCall.raisesAtOnce : ConvoyCall → Bool
  | .createEndpoint secret => secret.all (· = "")
  | .sendWebhook | .createApplication => false

/-- How the request of a call ends. -/
inductive ConvoyOutcome where
  | success
  /-- `httpx.ConnectError` or `httpx.TimeoutException`. -/
  | unreachable
  /-- Any other exception: a status of 400 or more, an answer without an id, a cancelled task. -/
  | otherError
  deriving DecidableEq

/-- The calls of the breaker at the end of a request. -/
def ConvoyOutcome.reports (now : ℚ) : ConvoyOutcome → List CircuitEvent
  | .success => [.success now]
  | .unreachable => [.failure now]
  | .otherError => []

/-- The client: `time.monotonic()`, the breaker with the history of its calls, the number of calls
so far, those that wait for Convoy, and those of them that were admitted as probes. -/
structure ConvoyClient where
  clock : ℚ
  circuit : Circuit := {}
  history : List CircuitEvent := []
  calls : ℕ := 0
  waiting : List ℕ := []
  probes : List ℕ := []

/-- What happens next. -/
inductive ConvoyAction where
  | elapse (seconds : ℚ≥0)
  /-- A call is made; `clientFails` if there is no HTTP client for it. -/
  | arrive (call : ConvoyCall) (clientFails : Bool)
  /-- The request of the `i`th call ends. -/
  | finish (i : ℕ) (outcome : ConvoyOutcome)

namespace ConvoyClient

/-- The breaker is called. -/
def record (s : ConvoyClient) (e : CircuitEvent) : ConvoyClient :=
  { s with circuit := s.circuit.step e, history := s.history ++ [e] }

/-- A guard would let a call pass. -/
def admits (s : ConvoyClient) : Bool := (s.circuit.checkCircuit s.clock).1

/-- A guard would move the circuit from `open` to `half_open`. -/
def admitsProbe (s : ConvoyClient) : Bool := s.circuit.state = .opened && s.admits

/-- The state after an action. -/
def step (s : ConvoyClient) : ConvoyAction → ConvoyClient
  | .elapse seconds => { s with clock := s.clock + seconds }
  | .arrive call clientFails =>
    let guarded := { s.record (.guard s.clock) with calls := s.calls + 1 }
    if !s.admits || clientFails || call.raisesAtOnce then guarded
    else
      { guarded with
        waiting := s.calls :: s.waiting
        probes := if s.admitsProbe then s.calls :: s.probes else s.probes }
  | .finish i outcome =>
    if i ∈ s.waiting then
      let reported := (outcome.reports s.clock).foldl record s
      { reported with waiting := s.waiting.erase i, probes := s.probes.erase i }
    else s

/-- The action ends a probe: its request ends, or it raises before it has sent one. -/
def EndsProbe (s : ConvoyClient) : ConvoyAction → Prop
  | .elapse _ => False
  | .arrive call clientFails => s.admitsProbe = true ∧ (clientFails || call.raisesAtOnce) = true
  | .finish i _ => i ∈ s.waiting ∧ i ∈ s.probes

/-- The action is a call that passes the guard. -/
def Passes (s : ConvoyClient) : ConvoyAction → Prop
  | .arrive .. => s.admits = true
  | .elapse _ | .finish .. => False

instance (s : ConvoyClient) : ∀ a, Decidable (s.EndsProbe a)
  | .elapse _ => inferInstanceAs (Decidable False)
  | .arrive _ _ => inferInstanceAs (Decidable (_ ∧ _))
  | .finish _ _ => inferInstanceAs (Decidable (_ ∧ _))

instance (s : ConvoyClient) : ∀ a, Decidable (s.Passes a)
  | .arrive _ _ => inferInstanceAs (Decidable (s.admits = true))
  | .elapse _ | .finish _ _ => inferInstanceAs (Decidable False)

/-- **One probe.** No call passes the guard while a probe is on its way, and the circuit is not half
open when a probe has ended. -/
def OneProbe (s : ConvoyClient) (a : ConvoyAction) : Prop :=
  (s.probes ≠ [] → ¬s.Passes a) ∧ (s.EndsProbe a → (s.step a).circuit.state ≠ .halfOpen)

instance (s : ConvoyClient) (a : ConvoyAction) : Decidable (s.OneProbe a) :=
  inferInstanceAs (Decidable (_ ∧ _))

/-- At least five failures were recorded since the last success, the latest in the last thirty
seconds. -/
def Failing (s : ConvoyClient) : Prop :=
  failureThreshold ≤ failuresSince s.history ∧ FailedRecently s.history s.clock

/-- While a probe is on its way, calls are made only shortly after a failure that was reported in
the meantime.  No probe raises before it has sent its request, and none ends with an unreported
error while the circuit is half open. -/
def ProbeUndisturbed (s : ConvoyClient) : ConvoyAction → Prop
  | .elapse _ => True
  | .arrive call clientFails =>
    (s.probes ≠ [] → s.Failing) ∧
      ((clientFails || call.raisesAtOnce) = true → s.circuit.state = .opened → s.Failing)
  | .finish i outcome =>
    i ∈ s.waiting → i ∈ s.probes → outcome = .otherError → s.circuit.state ≠ .halfOpen

/-- The breaker follows its history. -/
def Tracked (s : ConvoyClient) : Prop := s.circuit.Tracks s.history s.clock

theorem Tracked.record {s : ConvoyClient} (h : s.Tracked) {e : CircuitEvent}
    (he : e.time = s.clock) : (s.record e).Tracked := by
  have hstep := Circuit.Tracks.step h he.ge
  rw [he] at hstep
  exact hstep

theorem Tracked.step {s : ConvoyClient} (h : s.Tracked) (a : ConvoyAction) :
    (s.step a).Tracked := by
  cases a with
  | elapse seconds => exact h.later (le_add_of_nonneg_right seconds.property)
  | arrive call clientFails =>
    have hguard : (s.record (.guard s.clock)).Tracked := h.record rfl
    unfold ConvoyClient.step
    dsimp only
    split_ifs
    · exact hguard
    · exact hguard
    · exact hguard
  | finish i outcome =>
    unfold ConvoyClient.step
    dsimp only
    split_ifs
    · cases outcome with
      | success => exact h.record (e := .success s.clock) rfl
      | unreachable => exact h.record (e := .failure s.clock) rfl
      | otherError => exact h
    · exact h

/-- The guard rejects exactly while Convoy is failing. -/
theorem Tracked.admits_iff {s : ConvoyClient} (h : s.Tracked) : s.admits = true ↔ ¬s.Failing := by
  rw [Failing, ← Circuit.guardCircuit_error_iff h, Circuit.guardCircuit, admits]
  dsimp only
  cases hallowed : (s.circuit.checkCircuit s.clock).1 with
  | true => simp
  | false => simp

/-- A report leaves no half-open circuit. -/
theorem Tracked.not_halfOpen {s : ConvoyClient} (h : s.Tracked) {outcome : ConvoyOutcome}
    (houtcome : outcome ≠ .otherError) :
    ((outcome.reports s.clock).foldl ConvoyClient.record s).circuit.state ≠ .halfOpen := by
  cases outcome with
  | success =>
    intro hhalf
    cases hhalf
  | unreachable =>
    have hnew : (s.record (.failure s.clock)).Tracked := h.record rfl
    intro hhalf
    -- a half-open circuit would have had no failure for thirty seconds
    have hlong := hnew.halfOpen hhalf
    have hlast := hnew.lastFailureTime s.clock (latestFailure_failure ..)
    change recoveryTimeout <
      s.clock - (s.record (.failure s.clock)).circuit.lastFailureTime at hlong
    rw [hlast, sub_self] at hlong
    exact absurd hlong (by decide +kernel)
  | otherError => exact absurd rfl houtcome

/-- One step keeps to one probe exactly when the probe is not disturbed. -/
theorem Tracked.oneProbe_iff {s : ConvoyClient} (h : s.Tracked) (a : ConvoyAction) :
    s.OneProbe a ↔ s.ProbeUndisturbed a := by
  cases a with
  | elapse seconds => exact iff_of_true ⟨fun _ h => h, fun h => h.elim⟩ trivial
  | arrive call clientFails =>
    have hpasses : (s.probes ≠ [] → ¬s.Passes (.arrive call clientFails)) ↔
        (s.probes ≠ [] → s.Failing) := by
      rw [Passes, h.admits_iff, not_not]
    have hends : (s.EndsProbe (.arrive call clientFails) →
        (s.step (.arrive call clientFails)).circuit.state ≠ .halfOpen) ↔
        ((clientFails || call.raisesAtOnce) = true → s.circuit.state = .opened → s.Failing) := by
      rw [EndsProbe, admitsProbe, Bool.and_eq_true, decide_eq_true_eq, h.admits_iff]
      constructor
      · intro hleaves hraises hopened
        by_contra hnot
        -- the probe has moved the circuit and is over
        have hadmits : s.admits = true := h.admits_iff.mpr hnot
        have hcheck : s.circuit.checkCircuit s.clock =
            (true, { s.circuit with state := .halfOpen }) := by
          rw [admits, Circuit.checkCircuit, hopened] at hadmits
          rw [Circuit.checkCircuit, hopened]
          dsimp only at hadmits ⊢
          split_ifs at hadmits ⊢ with hlong
          rfl
        apply hleaves ⟨⟨hopened, hnot⟩, hraises⟩
        have hguarded : s.step (.arrive call clientFails) =
            { s.record (.guard s.clock) with calls := s.calls + 1 } := by
          unfold ConvoyClient.step
          dsimp only
          rw [if_pos]
          rw [Bool.or_assoc, hraises, Bool.or_true]
        rw [hguarded]
        exact congrArg (fun p : Bool × Circuit => p.2.state) hcheck
      · rintro hfailing ⟨⟨hopened, hnot⟩, hraises⟩
        exact absurd (hfailing hraises hopened) hnot
    exact and_congr hpasses hends
  | finish i outcome =>
    have hends : (s.EndsProbe (.finish i outcome) →
        (s.step (.finish i outcome)).circuit.state ≠ .halfOpen) ↔
        s.ProbeUndisturbed (.finish i outcome) := by
      have hcircuit (hi : i ∈ s.waiting) : (s.step (.finish i outcome)).circuit =
          ((outcome.reports s.clock).foldl ConvoyClient.record s).circuit := by
        unfold ConvoyClient.step
        dsimp only
        rw [if_pos hi]
      constructor
      · intro hleaves hi hprobe houtcome
        have hstate := hleaves ⟨hi, hprobe⟩
        rw [hcircuit hi, houtcome] at hstate
        exact hstate
      · rintro hquiet ⟨hi, hprobe⟩
        rw [hcircuit hi]
        by_cases houtcome : outcome = .otherError
        · rw [houtcome]
          exact hquiet hi hprobe houtcome
        · exact h.not_halfOpen houtcome
    exact ⟨fun h => hends.mp h.2, fun h => ⟨fun _ h => h, hends.mpr h⟩⟩

end ConvoyClient

/-- **When a half-open circuit admits one probe.** In every interleaving of calls with any outcomes:
all steps keep to one probe exactly when no step disturbs one. -/
theorem half_open_one_probe_iff (start : ℚ) (actions : List ConvoyAction) :
    Meets ConvoyClient.step ConvoyClient.OneProbe { clock := start } actions ↔
      Meets ConvoyClient.step ConvoyClient.ProbeUndisturbed { clock := start } actions := by
  have hinit : ({ clock := start } : ConvoyClient).Tracked := Circuit.tracks_init start
  constructor
  · intro hmeets
    refine meets_of_meets (I := ConvoyClient.Tracked) ?_ hinit hmeets
    intro s a hs hprobe
    exact ⟨(hs.oneProbe_iff a).mp hprobe, hs.step a⟩
  · intro hmeets
    refine meets_of_meets (I := ConvoyClient.Tracked) ?_ hinit hmeets
    intro s a hs hquiet
    exact ⟨(hs.oneProbe_iff a).mpr hquiet, hs.step a⟩

namespace Sample

/-- Five calls that do not reach Convoy, half a minute, and one call more. -/
def convoyDown : List ConvoyAction :=
  ((List.range 5).flatMap fun i => [.arrive .sendWebhook false, .finish i .unreachable]) ++
    [.elapse 31, .arrive .sendWebhook false]

end Sample

/-- **Two calls probe a half-open circuit**, and Convoy answers a probe with an error status: the
circuit stays half open. -/
theorem half_open_two_probes :
    (run ConvoyClient.step { clock := 0 } Sample.convoyDown).circuit.state = .halfOpen ∧
    ¬Meets ConvoyClient.step ConvoyClient.OneProbe { clock := 0 }
      (Sample.convoyDown ++ [.arrive .createApplication false]) ∧
    ¬Meets ConvoyClient.step ConvoyClient.OneProbe { clock := 0 }
      (Sample.convoyDown ++ [.finish 5 .otherError]) := by
  decide +kernel

end TripWire
