import Mathlib.Logic.Function.Basic
import TripWire.Ingestion.EventBus
import TripWire.Ingestion.Handlers.Payment
import TripWire.Lib.Machine

/-!
# The trigger worker

The consumption loop of a worker (`tripwire/ingestion/trigger_worker.py`).  One action of the
machine is one iteration of the loop with everything the outside answers in it: what Redis returns,
how each call of `process_event` ends, which dead-letter writes succeed and which acknowledgements
take effect.

The loop acknowledges a message when `process_event` returns, whatever it returns, so a result with
status `error` is lost.  `NoErrorResult` excludes such results; `nothingLost_of_run` shows that
every message a run without them acknowledges was undecodable, processed, or written to the
dead-letter stream.
-/

namespace TripWire

open Py

/-! ### The worker -/

/-- `_MAX_RETRIES`. -/
def maxRetries : ℕ := 5

/-- `_FAILURE_COUNTS_CLEANUP_INTERVAL`. -/
def failureCountsCleanupInterval : ℕ := 100

/-- `_FAILURE_COUNTS_MAX_AGE`, in seconds. -/
def failureCountsMaxAge : ℤ := 300

/-- How `wait_for(process_event(raw_log))` ends. -/
inductive ProcessEnd where
  | returned (status : ProcessStatus)
  | timeout
  | raised
  deriving DecidableEq

/-- The end of a call that is not cut off by the timeout. -/
def ProcessEnd.ofResult : Except PyError ProcessResult → ProcessEnd
  | .ok result => .returned result.status
  | .error _ => .raised

/-- The processing of one message: how it ends, whether a write to the dead-letter stream would
succeed, and the clock. -/
structure Attempt where
  ends : ProcessEnd
  dlqOk : Bool := true
  now : ℤ := 0

/-- The state of a worker, and the results `process_event` has returned to it. -/
structure Worker where
  /-- `_failure_counts`: the count and the time of the last failure. -/
  failureCounts : MessageKey → Option (ℕ × ℤ) := fun _ => none
  iteration : ℕ := 0
  consecutiveErrors : ℕ := 0
  processed : ℕ := 0
  errors : ℕ := 0
  bus : Bus := {}
  results : List (MessageKey × ProcessStatus) := []

/-- `_cleanup_failure_counts`. -/
def Worker.cleanupFailureCounts (s : Worker) (now : ℤ) : Worker :=
  { s with
    failureCounts := fun m => (s.failureCounts m).filter fun c =>
      !(failureCountsMaxAge < now - c.2) }

/-- The two `except` branches of the loop, which differ in their log lines only: count the failure
and, at the retry limit, write the message to the dead-letter stream. -/
def handleFailure (a : Attempt) (message : MessageKey) (raw : Value) (s : Worker) (acks : AckMap) :
    Worker × AckMap :=
  let newCount := ((s.failureCounts message).map Prod.fst).getD 0 + 1
  let s₁ := { s with
    errors := s.errors + 1
    failureCounts := Function.update s.failureCounts message (some (newCount, a.now)) }
  -- A dead-letter write that fails leaves the count, and the message pending for the next claim.
  if maxRetries ≤ newCount ∧ a.dlqOk = true then
    ({ s₁ with
        failureCounts := Function.update s₁.failureCounts message none
        bus := { s₁.bus with dlq := s₁.bus.dlq ++ [⟨message, raw, newCount⟩] } },
      acks.add message)
  else (s₁, acks)

/-- The body of the loop over the messages. -/
def processMessage (a : Attempt) (message : MessageKey) (raw : Value) (s : Worker) (acks : AckMap) :
    Worker × AckMap :=
  match a.ends with
  -- The result is not looked at: a status `error` counts as processed.
  | .returned status =>
    ({ s with
        processed := s.processed + 1
        failureCounts := Function.update s.failureCounts message none
        results := s.results ++ [(message, status)] },
      acks.add message)
  | .timeout => handleFailure a message raw s acks
  | .raised => handleFailure a message raw s acks

/-- The loop over the messages; `attempt i` is the processing of the `i`-th message of the
iteration. -/
def processMessages (attempt : ℕ → Attempt) :
    ℕ → List (MessageKey × Value) → Worker → AckMap → Worker × AckMap
  | _, [], s, acks => (s, acks)
  | i, (message, raw) :: rest, s, acks =>
    let (s', acks') := processMessage (attempt i) message raw s acks
    processMessages attempt (i + 1) rest s' acks'

/-- What the outside does during one iteration. -/
structure Iteration where
  consume : ConsumeAnswer
  claims : List ClaimAnswer := []
  attempt : ℕ → Attempt
  /-- The clock at the cleanup of the failure counts. -/
  now : ℤ := 0
  /-- Which commands of the acknowledgement batch take effect. -/
  took : String → Bool := fun _ => true

/-- The messages of an iteration: the new ones and, every tenth iteration, the stale ones; `none`
when `consume_events` raises. -/
def intake (it : Iteration) (iteration : ℕ) (bus : Bus) :
    Bus × Option (List (MessageKey × Value)) :=
  match consumeEvents it.consume bus with
  | (bus₁, .error _) => (bus₁, none)
  | (bus₁, .ok batch) =>
    if iteration % 10 = 0 then
      match claimStale it.claims [] bus₁ with
      -- What was claimed before the exception is dropped here and claimed again later.
      | (bus₂, .error _) => (bus₂, some batch)
      | (bus₂, .ok stale) => (bus₂, some (batch ++ stale))
    else (bus₁, some batch)

/-- One iteration of `TriggerWorker.start`. -/
def workerStep (s : Worker) (it : Iteration) : Worker :=
  let iteration := s.iteration + 1
  match intake it iteration s.bus with
  | (bus, none) => { s with iteration, bus, consecutiveErrors := s.consecutiveErrors + 1 }
  | (bus, some messages) =>
    let s₁ := { s with iteration, bus, consecutiveErrors := 0 }
    let s₂ := if iteration % failureCountsCleanupInterval = 0 then s₁.cleanupFailureCounts it.now
      else s₁
    let (s₃, acks) := processMessages it.attempt 0 messages s₂ []
    { s₃ with bus := ackBatch it.took acks s₃.bus }

/-! ### What may be acknowledged -/

/-- The message was undecodable, or `process_event` returned a result other than `error` for it, or
it is in the dead-letter stream. -/
def Justified (s : Worker) (m : MessageKey) : Prop :=
  m ∈ s.bus.undecodable ∨ (∃ r ∈ s.results, r.1 = m ∧ r.2 ≠ .error) ∨
    ∃ e ∈ s.bus.dlq, e.source = m

instance (s : Worker) (m : MessageKey) : Decidable (Justified s m) := by
  unfold Justified
  infer_instance

/-- Every acknowledged message may be. -/
def NothingLost (s : Worker) : Prop := ∀ m ∈ s.bus.acked, Justified s m

instance (s : Worker) : Decidable (NothingLost s) := by
  unfold NothingLost
  infer_instance

/-- No call of `process_event` in the iteration returns a result with status `error`. -/
def NoErrorResult (s : Worker) (it : Iteration) : Prop :=
  ∀ messages ∈ (intake it (s.iteration + 1) s.bus).2, ∀ i < messages.length,
    (it.attempt i).ends ≠ .returned .error

instance (s : Worker) (it : Iteration) : Decidable (NoErrorResult s it) := by
  unfold NoErrorResult
  infer_instance

/-- What justifies an acknowledgement is never taken back. -/
structure Extends (s s' : Worker) : Prop where
  undecodable : ∀ m ∈ s.bus.undecodable, m ∈ s'.bus.undecodable
  results : ∀ r ∈ s.results, r ∈ s'.results
  dlq : ∀ e ∈ s.bus.dlq, e ∈ s'.bus.dlq

theorem Extends.refl (s : Worker) : Extends s s := ⟨fun _ h => h, fun _ h => h, fun _ h => h⟩

theorem Extends.trans {s₁ s₂ s₃ : Worker} (h : Extends s₁ s₂) (h' : Extends s₂ s₃) :
    Extends s₁ s₃ where
  undecodable := fun m hm => h'.undecodable m (h.undecodable m hm)
  results := fun r hr => h'.results r (h.results r hr)
  dlq := fun e he => h'.dlq e (h.dlq e he)

theorem Justified.extends {s s' : Worker} {m : MessageKey} (hm : Justified s m)
    (h : Extends s s') : Justified s' m := by
  rcases hm with hm | ⟨r, hr, hrm⟩ | ⟨e, he, hem⟩
  · exact Or.inl (h.undecodable m hm)
  · exact Or.inr (Or.inl ⟨r, h.results r hr, hrm⟩)
  · exact Or.inr (Or.inr ⟨e, h.dlq e he, hem⟩)

/-! ### One message -/

/-- What the processing of one message does: nothing is acknowledged yet, and a message that is put
on the list for it is justified. -/
structure Handled (s : Worker) (acks : AckMap) (r : Worker × AckMap) : Prop where
  grows : Extends s r.1
  acked : r.1.bus.acked = s.bus.acked
  listed : ∀ m ∈ AckMap.messages r.2, m ∈ AckMap.messages acks ∨ Justified r.1 m

theorem handleFailure_handled (a : Attempt) (message : MessageKey) (raw : Value) (s : Worker)
    (acks : AckMap) : Handled s acks (handleFailure a message raw s acks) := by
  unfold handleFailure
  simp only
  split_ifs
  · refine ⟨⟨fun _ h => h, fun _ h => h, fun _ h => List.mem_append_left _ h⟩, rfl, ?_⟩
    intro m hm
    rcases AckMap.mem_messages_add hm with hm | rfl
    · exact Or.inl hm
    · exact Or.inr (Or.inr (Or.inr ⟨_, List.mem_append_right _ List.mem_cons_self, rfl⟩))
  · exact ⟨⟨fun _ h => h, fun _ h => h, fun _ h => h⟩, rfl, fun m hm => Or.inl hm⟩

theorem processMessage_handled {a : Attempt} (ha : a.ends ≠ .returned .error) (message : MessageKey)
    (raw : Value) (s : Worker) (acks : AckMap) :
    Handled s acks (processMessage a message raw s acks) := by
  unfold processMessage
  split
  · rename_i status hends
    refine ⟨⟨fun _ h => h, fun _ h => List.mem_append_left _ h, fun _ h => h⟩, rfl, ?_⟩
    intro m hm
    rcases AckMap.mem_messages_add hm with hm | rfl
    · exact Or.inl hm
    · right; right; left
      refine ⟨(m, status), List.mem_append_right _ List.mem_cons_self, rfl, ?_⟩
      rintro rfl
      exact ha hends
  · exact handleFailure_handled a message raw s acks
  · exact handleFailure_handled a message raw s acks

/-- The loop over the messages: the induction is on the list, and the list of acknowledgements stays
justified. -/
theorem processMessages_handled {attempt : ℕ → Attempt} (messages : List (MessageKey × Value)) :
    ∀ (i : ℕ) (s : Worker) (acks : AckMap),
      (∀ j < messages.length, (attempt (i + j)).ends ≠ .returned .error) →
      Handled s acks (processMessages attempt i messages s acks) := by
  induction messages with
  | nil => exact fun _ s _ _ => ⟨Extends.refl s, rfl, fun m hm => Or.inl hm⟩
  | cons head rest ih =>
    intro i s acks hattempt
    obtain ⟨message, raw⟩ := head
    have hfirst := processMessage_handled (hattempt 0 (Nat.succ_pos _)) message raw s acks
    have hnext : ∀ j < rest.length, (attempt (i + 1 + j)).ends ≠ .returned .error := by
      intro j hj
      have h := hattempt (j + 1) (Nat.succ_lt_succ hj)
      rwa [show i + (j + 1) = i + 1 + j by omega] at h
    have hrest := ih (i + 1) (processMessage (attempt i) message raw s acks).1
      (processMessage (attempt i) message raw s acks).2 hnext
    refine ⟨hfirst.grows.trans hrest.grows, hrest.acked.trans hfirst.acked, ?_⟩
    intro m hm
    rcases hrest.listed m hm with hm | hm
    · exact (hfirst.listed m hm).imp_right fun hj => hj.extends hrest.grows
    · exact Or.inr hm

/-! ### One iteration -/

theorem intake_readOnly (it : Iteration) (iteration : ℕ) (bus : Bus) :
    ReadOnly bus (intake it iteration bus).1 := by
  have hconsume := consumeEvents_readOnly it.consume bus
  unfold intake
  split
  · rename_i h
    rw [h] at hconsume
    exact hconsume
  · rename_i bus₁ batch h
    rw [h] at hconsume
    have hclaim := claimStale_readOnly it.claims [] bus₁
    split_ifs
    · split
      · rename_i h'
        rw [h'] at hclaim
        exact hconsume.trans hclaim
      · rename_i h'
        rw [h'] at hclaim
        exact hconsume.trans hclaim
    · exact hconsume

/-- Reading keeps the acknowledged messages justified. -/
theorem NothingLost.read {s s' : Worker} (h : NothingLost s) (hread : ReadOnly s.bus s'.bus)
    (hresults : s'.results = s.results) : NothingLost s' ∧ Extends s s' := by
  have hext : Extends s s' :=
    ⟨hread.undecodable, fun r hr => hresults ▸ hr, fun e he => hread.dlq ▸ he⟩
  refine ⟨fun m hm => ?_, hext⟩
  rcases hread.acked m hm with hm | hm
  · exact (h m hm).extends hext
  · exact Or.inl hm

/-- **An iteration loses nothing** if no `process_event` returns an error. -/
theorem NothingLost.step {s : Worker} {it : Iteration} (h : NothingLost s)
    (hit : NoErrorResult s it) : NothingLost (workerStep s it) := by
  have hread := intake_readOnly it (s.iteration + 1) s.bus
  unfold NoErrorResult at hit
  unfold workerStep
  simp only
  split
  · rename_i bus hintake
    rw [hintake] at hread
    have hlost := @NothingLost.read s { s with bus } h hread rfl
    exact hlost.1
  · rename_i bus messages hintake
    rw [hintake] at hread hit
    -- the cleanup touches the failure counts only, which justify nothing
    generalize hs₂ : (if (s.iteration + 1) % failureCountsCleanupInterval = 0 then _ else _) = s₂
    have hbus : s₂.bus = bus ∧ s₂.results = s.results := by
      rw [← hs₂]
      split_ifs <;> exact ⟨rfl, rfl⟩
    have hlost : NothingLost s₂ := (h.read (hbus.1 ▸ hread) hbus.2).1
    have hattempt : ∀ j < messages.length, (it.attempt (0 + j)).ends ≠ .returned .error := by
      intro j hj
      rw [Nat.zero_add]
      exact hit messages rfl j hj
    have hhandled := processMessages_handled messages 0 s₂ [] hattempt
    intro m hm
    -- the bus differs from that of the loop in the acknowledgements only
    rcases mem_acked_ackBatch hm with hm | hm
    · rw [hhandled.acked] at hm
      have hjustified := (hlost m hm).extends hhandled.grows
      exact hjustified
    · rcases hhandled.listed m hm with hm | hm
      · cases hm
      · exact hm

/-- **The worker loses nothing.** In every run in which no `process_event` returns a result with
status `error`, every acknowledged message was undecodable, or processed with another status, or
written to the dead-letter stream. -/
theorem nothingLost_of_run {s : Worker} {its : List Iteration} (hs : NothingLost s)
    (hits : Machine.Meets workerStep NoErrorResult s its) :
    NothingLost (Machine.run workerStep s its) :=
  Machine.run_induction (I := NothingLost) (fun _ _ h ha => h.step ha) hs hits

namespace Sample

/-- An iteration that reads one message and processes it with the given end. -/
def oneMessage (ends : ProcessEnd) : Iteration where
  consume := { read := .ok [⟨("tripwire:events:0x00", "1-0"), some (.dict [])⟩] }
  attempt := fun _ => { ends }

end Sample

/-- A message that is processed and one that goes to the dead-letter stream after five failures. -/
theorem nothingLost_of_run_failures :
    NothingLost (Machine.run workerStep {}
      [Sample.oneMessage (.returned .processed), Sample.oneMessage .raised,
        Sample.oneMessage .timeout, Sample.oneMessage .raised, Sample.oneMessage .raised,
        Sample.oneMessage .timeout]) :=
  nothingLost_of_run (by decide) (by decide +kernel)

/-- A transfer log whose nonce cannot be stored: `process_event` returns an error, and the message
is acknowledged. -/
theorem not_nothingLost_error :
    ¬ NothingLost (Machine.run workerStep {}
      [Sample.oneMessage (.ofResult
        (processErc3009Event { raises := fun c => c = .recordNonce } false {}
          (.ok (Sample.onchain 100))).2)]) := by
  decide +kernel

end TripWire
