import TripWire.Keeper.Safety
import TripWire.Pulse.System

/-!
# What a webhook says and what the API reports

The execution block of a payload is derived from the event type and the finality the step observed
(`deriveExecutionMetadata`); the API derives the same three fields from the stored status alone
(`executionStateFromStatus`).  A `ProducingStep` is a step that both writes a status and sends
payloads, and `agrees_iff` says for which of its payloads the two derivations agree.

A trigger event stores the state of its payload, so there they always do.  A payment is stored as
`pending` or `confirmed`, and neither status says that the payload was final: the endpoint is told
`finalized` and `safe_to_execute` as soon as the depth shown to it is reached, and the API goes on
reporting `confirmed`.
-/

namespace TripWire

open Py

/-! ### The steps -/

/-- A step that writes the status of an event row and sends payloads about the event. -/
inductive ProducingStep where
  /-- `_dispatch_for_transfer` for a log: the event id is drawn by the call. -/
  | dispatch (env : Env) (t : ERC3009Transfer) (finality : Option FinalityStatus)
      (identity : Option AgentIdentity)
  /-- `_dispatch_for_transfer` for the facilitator, which draws the event id before the call. -/
  | announce (env : Env) (t : ERC3009Transfer) (finality : Option FinalityStatus)
      (identity : Option AgentIdentity)
  | promote (env : Env) (id : EventId) (t : ERC3009Transfer)
  /-- `_transition_event`, as the poller calls it: to `finalized`, or else to `confirmed`. -/
  | transition (env : Env) (row : EventRow) (finalizing : Bool)
  | unified (env : Env) (lib : Library) (raw : RawLog) (triggers : List Trigger)

/-- The world after a step. -/
def ProducingStep.after (w : World) : ProducingStep → World
  | .dispatch env t finality identity => (dispatchForTransfer env w t finality identity).1
  | .announce env t finality identity =>
    let (w₁, id) := w.uuid4
    (dispatchForTransfer env w₁ t finality identity (some .paymentPreConfirmed) (some id)).1
  | .promote env id t => (promotePreConfirmedEvent env w id t).1
  | .transition env row true => transitionEvent env w row .finalized .paymentFinalized
  | .transition env row false => transitionEvent env w row .confirmed .paymentConfirmed
  | .unified env lib raw triggers => (processUnified env lib w raw triggers).1

/-- The messages of a step. -/
def ProducingStep.messages (s : ProducingStep) (w : World) : List Emission :=
  (s.after w).outbox.drop w.outbox.length

/-- The depth a payment message shows to an endpoint: its own in a webhook, the one of the finality
status in a realtime row. -/
def shownDepth (ep : Endpoint) (f : FinalityStatus) : ℤ :=
  match ep.mode with
  | .execute => (resolveEndpointDepth ep).getD f.requiredConfirmations
  | .notify => f.requiredConfirmations

/-- The step tells the endpoint nothing that the status cannot say: a payment stored as `pending` or
`confirmed` is shown below the depth that makes its payload final. -/
def ProducingStep.ShowsStored (ep : Endpoint) : ProducingStep → Prop
  | .dispatch _ _ finality _ => ∀ f ∈ finality, f.confirmations < shownDepth ep f
  | .announce .. => True
  | .promote env _ t => ∀ f ∈ checkFinality env t.chainId t.blockNumber,
      f.isFinalized = false ∧ f.confirmations < shownDepth ep f
  | .transition _ row finalizing => finalizing = true ∨
      ∀ t ∈ reconstructTransfer row, row.finalityDepth < requiredDepth ep t.chainId
  | .unified .. => True

/-! ### The two derivations -/

/-- Both statuses of a payment on its way are reported as `confirmed`. -/
theorem executionStateFromStatus_recorded (finality : Option FinalityStatus) :
    executionStateFromStatus (if finality.any (·.isFinalized) then .confirmed else .pending) =
      (.confirmed, false, .onchain) := by
  split_ifs <;> rfl

/-- A payload of one of the two early types agrees with such a status until its finality block is
final. -/
theorem agrees_deriveExecutionMetadata_iff {status : EventStatus} {type : WebhookEventType}
    (hstatus : executionStateFromStatus status = (.confirmed, false, .onchain))
    (htype : type = .paymentConfirmed ∨ type = .paymentPending) (fd : Option FinalityData) :
    Agrees status (deriveExecutionMetadata type fd) ↔ fd.any (·.isFinalized) = false := by
  have hblock : deriveExecutionMetadata type fd =
      if fd.any (·.isFinalized) then ⟨.finalized, true, .onchain, fd⟩
      else ⟨.confirmed, false, .onchain, fd⟩ := by
    rcases htype with rfl | rfl <;> rfl
  unfold Agrees
  rw [hstatus, hblock]
  cases fd.any (·.isFinalized) <;> simp

theorem any_buildFinalityData_eq_false_iff (finality : Option FinalityStatus)
    (required : Option ℤ) :
    (buildFinalityData finality required).any (·.isFinalized) = false ↔
      ∀ f ∈ finality, f.confirmations < required.getD f.requiredConfirmations := by
  cases finality with
  | none => simp [buildFinalityData]
  | some f => simp [buildFinalityData]

/-- A message of an early type agrees with an early status exactly when the depth it shows is not
reached. -/
theorem Sent.agrees_stored_iff {env : Env} {d : Dispatch} {ep : Endpoint} {e : Emission}
    {status : EventStatus} (h : Sent env d ep e)
    (hstatus : executionStateFromStatus status = (.confirmed, false, .onchain))
    (htype : d.type = .paymentConfirmed ∨ d.type = .paymentPending) :
    Agrees status e.execution ↔ ∀ f ∈ d.finality, f.confirmations < shownDepth ep f := by
  rcases h.execution with ⟨hmode, -, hx⟩ | ⟨hmode, hx⟩
  · rw [hx, agrees_deriveExecutionMetadata_iff hstatus htype, any_buildFinalityData_eq_false_iff]
    simp only [shownDepth, hmode]
  · rw [hx, agrees_deriveExecutionMetadata_iff hstatus htype, any_buildFinalityData_eq_false_iff]
    simp only [shownDepth, hmode, Option.getD_none]

/-! ### One lemma per step -/

/-- The row behind a message of `_dispatch_for_transfer` is the one it inserted: the id was new. -/
theorem dispatchForTransfer_message {env : Env} {w : World} {t : ERC3009Transfer}
    {finality : Option FinalityStatus} {identity : Option AgentIdentity}
    (eventTypeOverride : Option WebhookEventType) (eventId : Option EventId) {e : Emission}
    {row : EventRow} (hnew : w.events.get? (chooseEventId w eventId).2 = none)
    (he : e ∈ (dispatchForTransfer env w t finality identity eventTypeOverride
      eventId).1.outbox.drop w.outbox.length)
    (hrow : (dispatchForTransfer env w t finality identity eventTypeOverride
      eventId).1.events.get? e.event = some row) :
    ∃ d ep endpointId, Sent env d ep e ∧ d.finality = finality ∧
      d.type = eventTypeOverride.getD (defaultEventType finality) ∧
      row = eventRow env.now (chooseEventId w eventId).2 t finality d.type endpointId := by
  rcases dispatchForTransfer_cases env w t finality identity eventTypeOverride eventId with
    h | ⟨D, h⟩
  · rw [h, List.drop_length] at he
    cases he
  · have hmessages : D.after.outbox = w.outbox ++ D.emissions := rfl
    rw [h, hmessages, List.drop_left] at he
    rw [h] at hrow
    obtain ⟨ep, -, hsent⟩ := D.sent e he
    obtain ⟨-, htype, -⟩ := planDispatch_spec D.planned
    have hid : D.row.id = (chooseEventId w eventId).2 := by
      rw [D.row_eq]
      rfl
    have hevent : e.event = D.row.id := hsent.event
    have htable : D.after.events.get? e.event =
        (recordEvent env (chooseEventId w eventId).1 D.row).events.get? e.event := by
      rw [D.recorded]
      rfl
    rw [htable] at hrow
    rcases get?_recordEvent env (chooseEventId w eventId).1 D.row e.event with hsame | ⟨-, hins⟩
    -- Without the insertion there is no row with this id.
    · obtain ⟨n, hn⟩ := chooseEventId_fst w eventId
      rw [hsame, hn, hevent, hid] at hrow
      rw [hnew] at hrow
      cases hrow
    · rw [hins] at hrow
      refine ⟨_, ep, D.plan.matched.head?.map (·.id), hsent, rfl, htype, ?_⟩
      rw [← Option.some.inj hrow]
      exact D.row_eq

theorem agrees_iff_of_dispatch {env : Env} {w : World} {t : ERC3009Transfer}
    {finality : Option FinalityStatus} {identity : Option AgentIdentity} {e : Emission}
    {row : EventRow} (hw : Fresh w)
    (he : e ∈ (ProducingStep.dispatch env t finality identity).messages w)
    (hrow : ((ProducingStep.dispatch env t finality identity).after w).events.get? e.event =
      some row) :
    Agrees row.status e.execution ↔ ∀ f ∈ finality, f.confirmations < shownDepth e.endpoint f := by
  obtain ⟨d, ep, endpointId, hsent, hfinality, htype, rfl⟩ :=
    dispatchForTransfer_message none none hw.get?_uuids he hrow
  have hearly : d.type = .paymentConfirmed ∨ d.type = .paymentPending := by
    rw [htype]
    exact defaultEventType_cases finality
  have hstatus : executionStateFromStatus
      (eventRow env.now (chooseEventId w none).2 t finality d.type endpointId).status =
      (.confirmed, false, .onchain) := by
    rw [show d.type = defaultEventType finality from htype, eventRow_ingested_status]
    exact executionStateFromStatus_recorded finality
  rw [hsent.agrees_stored_iff hstatus hearly, hfinality, hsent.endpoint]

theorem agrees_of_announce {env : Env} {w : World} {t : ERC3009Transfer}
    {finality : Option FinalityStatus} {identity : Option AgentIdentity} {e : Emission}
    {row : EventRow} (hw : Fresh w)
    (he : e ∈ (ProducingStep.announce env t finality identity).messages w)
    (hrow : ((ProducingStep.announce env t finality identity).after w).events.get? e.event =
      some row) :
    Agrees row.status e.execution := by
  obtain ⟨d, ep, endpointId, hsent, -, htype, rfl⟩ :=
    dispatchForTransfer_message (w := w.uuid4.1) (some .paymentPreConfirmed) (some w.uuids)
      hw.get?_uuids he hrow
  have hpre : d.type = .paymentPreConfirmed := htype
  have hx : ∃ fd, e.execution = deriveExecutionMetadata d.type fd := by
    rcases hsent.execution with ⟨-, -, hx⟩ | ⟨-, hx⟩
    · exact ⟨_, hx⟩
    · exact ⟨_, hx⟩
  obtain ⟨fd, hx⟩ := hx
  rw [hx, hpre]
  rfl

/-- A promotion stores `confirmed`, and its type is `payment.finalized` when the block is final for
the chain. -/
theorem agrees_iff_of_promote {env : Env} {w : World} {id : EventId} {t : ERC3009Transfer}
    {e : Emission} {row : EventRow} (he : e ∈ (ProducingStep.promote env id t).messages w)
    (hrow : ((ProducingStep.promote env id t).after w).events.get? e.event = some row) :
    Agrees row.status e.execution ↔ ∀ f ∈ checkFinality env t.chainId t.blockNumber,
      f.isFinalized = false ∧ f.confirmations < shownDepth e.endpoint f := by
  have hafter : (ProducingStep.promote env id t).after w =
      (promotePreConfirmedEvent env w id t).1 := rfl
  unfold ProducingStep.messages at he
  rw [hafter] at he hrow
  rcases promotePreConfirmedEvent_cases env w id t with h | ⟨old, hold, -, h⟩
  · rw [h, List.drop_length] at he
    cases he
  · obtain ⟨ems, ds, hw', hsent⟩ := dispatchPromotion_spec env
      (w.promoteToConfirmed env.now id t).1 (old.promoted env.now t) t
    have hbox : (w.promoteToConfirmed env.now id t).1.outbox = w.outbox := rfl
    rw [h, hw'] at he hrow
    rw [hbox, List.drop_left] at he
    obtain ⟨ep, -, -, hs⟩ := hsent e he
    have hid : old.id = id := KeyedTable.key_of_get? hold
    have hevent : e.event = id := hs.event.trans hid
    have hget := w.get?_promoteToConfirmed env.now id t id
    rw [if_pos rfl, hold] at hget
    rw [hevent] at hrow
    obtain rfl : old.promoted env.now t = row := Option.some.inj (hget.symm.trans hrow)
    have hfinality : (promotionDispatch env (old.promoted env.now t) t).finality =
        checkFinality env t.chainId t.blockNumber := rfl
    by_cases hfinal : (checkFinality env t.chainId t.blockNumber).any (·.isFinalized) = true
    · -- final for the chain: the payload is finalized, the row is not
      have hx : ∃ fd, e.execution = deriveExecutionMetadata .paymentFinalized fd := by
        have htype : (promotionDispatch env (old.promoted env.now t) t).type =
            .paymentFinalized := by
          simp [promotionDispatch, promotionType, hfinal]
        rw [← htype]
        rcases hs.execution with ⟨-, -, hx⟩ | ⟨-, hx⟩
        · exact ⟨_, hx⟩
        · exact ⟨_, hx⟩
      obtain ⟨fd, hx⟩ := hx
      rw [hx]
      constructor
      · intro hagrees
        cases hagrees
      · intro hcond
        cases hc : checkFinality env t.chainId t.blockNumber with
        | none =>
          rw [hc] at hfinal
          cases hfinal
        | some f =>
          rw [hc] at hfinal
          have hfalse := (hcond f hc).1
          rw [Option.any_some, hfalse] at hfinal
          cases hfinal
    · have htype : (promotionDispatch env (old.promoted env.now t) t).type =
          .paymentConfirmed := by
        simp [promotionDispatch, promotionType, hfinal]
      rw [hs.agrees_stored_iff rfl (Or.inl htype), hfinality, hs.endpoint]
      refine forall₂_congr fun f hf => ?_
      have hfalse : f.isFinalized = false := by
        cases hf' : f.isFinalized with
        | false => rfl
        | true =>
          rw [hf, Option.any_some, hf'] at hfinal
          exact absurd rfl hfinal
      simp only [hfalse, true_and]

/-- A transition to `confirmed` shows the depth of the snapshot, one to `finalized` is of a final
type. -/
theorem agrees_iff_of_transition {env : Env} {w : World} {snapshot : EventRow} {finalizing : Bool}
    {e : Emission} {row : EventRow}
    (he : e ∈ (ProducingStep.transition env snapshot finalizing).messages w)
    (hrow : ((ProducingStep.transition env snapshot finalizing).after w).events.get? e.event =
      some row) :
    Agrees row.status e.execution ↔ finalizing = true ∨
      ∀ t ∈ reconstructTransfer snapshot,
        snapshot.finalityDepth < requiredDepth e.endpoint t.chainId := by
  have hspec : ∀ newStatus type, (ProducingStep.transition env snapshot finalizing).after w =
      transitionEvent env w snapshot newStatus type →
      row.status = newStatus ∧ ∃ t, reconstructTransfer snapshot = some t ∧
        e.execution = deriveExecutionMetadata type
          (buildFinalityData (some (snapshotFinality snapshot t.chainId newStatus))
            (resolveEndpointDepth e.endpoint)) := by
    intro newStatus type hafter
    unfold ProducingStep.messages at he
    rw [hafter] at he hrow
    rcases transitionEvent_cases env w snapshot newStatus type with h | ⟨ems, ds, h, hsent⟩
    · rw [h, List.drop_length] at he
      cases he
    · rw [h] at he hrow
      rw [List.drop_left] at he
      obtain ⟨d, hd, ep, -, hs⟩ := hsent e he
      obtain ⟨t, ht, rfl⟩ := Option.map_eq_some_iff.mp hd
      obtain ⟨hevent, hep, -, -, -, hx⟩ := webhookEmission_spec hs
      have hget := w.get?_updateStatus env.now snapshot.id newStatus e.event
      rw [if_pos hevent] at hget
      obtain ⟨old, -, hold⟩ := Option.map_eq_some_iff.mp (hget.symm.trans hrow)
      refine ⟨?_, t, ht, ?_⟩
      · rw [← hold]
        rfl
      · rw [hx, hep]
  cases finalizing with
  | true =>
    obtain ⟨hstatus, t, -, hx⟩ := hspec .finalized .paymentFinalized rfl
    rw [hstatus, hx]
    exact ⟨fun _ => Or.inl rfl, fun _ => rfl⟩
  | false =>
    obtain ⟨hstatus, t, ht, hx⟩ := hspec .confirmed .paymentConfirmed rfl
    rw [hstatus, hx, agrees_deriveExecutionMetadata_iff rfl (Or.inl rfl),
      any_buildFinalityData_eq_false_iff, ht]
    simp [snapshotFinality, requiredDepth]

/-- A trigger event stores the state of its payload. -/
theorem agrees_of_unified {env : Env} {lib : Library} {w : World} {raw : RawLog}
    {triggers : List Trigger} {e : Emission} {row : EventRow} (hw : Fresh w)
    (he : e ∈ (ProducingStep.unified env lib raw triggers).messages w)
    (hrow : ((ProducingStep.unified env lib raw triggers).after w).events.get? e.event =
      some row) :
    Agrees row.status e.execution := by
  obtain ⟨ems, hems, hsaid⟩ := (processUnified_effect env lib w raw triggers).outbox
  have hafter : (ProducingStep.unified env lib raw triggers).after w =
      (processUnified env lib w raw triggers).1 := rfl
  unfold ProducingStep.messages at he
  rw [hafter] at he hrow
  rw [hems, List.drop_left] at he
  obtain ⟨hle, -, status, hagrees, hsame | ⟨row', hrow', rfl⟩⟩ := hsaid e he
  · rw [hsame] at hrow
    exact absurd (hw.events _ row hrow) (Nat.not_lt.mpr hle)
  · rw [hrow'] at hrow
    obtain rfl := Option.some.inj hrow
    exact hagrees

/-! ### All steps -/

/-- **Webhook and API.** A payload and the row its step wrote agree exactly when the step does not
show the endpoint a final depth next to a status that is not final. -/
theorem agrees_iff {w : World} (hw : Fresh w) (s : ProducingStep) {e : Emission}
    (he : e ∈ s.messages w) {row : EventRow}
    (hrow : (s.after w).events.get? e.event = some row) :
    Agrees row.status e.execution ↔ s.ShowsStored e.endpoint := by
  cases s with
  | dispatch env t finality identity => exact agrees_iff_of_dispatch hw he hrow
  | announce env t finality identity =>
    exact iff_of_true (agrees_of_announce hw he hrow) trivial
  | promote env id t => exact agrees_iff_of_promote he hrow
  | transition env snapshot finalizing => exact agrees_iff_of_transition he hrow
  | unified env lib raw triggers => exact iff_of_true (agrees_of_unified hw he hrow) trivial

namespace Sample

/-- The world with one endpoint that executes. -/
def openShop : World := keeperStep {} (register {})

/-- The call of `_dispatch_for_transfer` for the sample payment with this finality. -/
def ingestion (finality : Option FinalityStatus) : ProducingStep :=
  .dispatch {} (onchain 100) finality none

end Sample

/-- Without an answer of the RPC node the payment goes out as `confirmed`, which is what the API
reports. -/
theorem agrees_iff_unknown :
    ∃ e ∈ (Sample.ingestion none).messages Sample.openShop,
      ∃ row, ((Sample.ingestion none).after Sample.openShop).events.get? e.event = some row ∧
        Agrees row.status e.execution := by
  have hw : Fresh Sample.openShop := fresh_empty.step _
  obtain ⟨e, he, row, hrow⟩ : ∃ e ∈ (Sample.ingestion none).messages Sample.openShop,
      ∃ row, ((Sample.ingestion none).after Sample.openShop).events.get? e.event = some row := by
    refine ⟨((Sample.ingestion none).messages Sample.openShop).head (by decide +kernel),
      List.head_mem _, ?_⟩
    exact Option.isSome_iff_exists.mp (by decide +kernel)
  exact ⟨e, he, row, hrow, (agrees_iff hw _ he hrow).mpr (by simp [Sample.ingestion,
    ProducingStep.ShowsStored])⟩

/-- Five blocks deep the endpoint is told that the payment is final and safe to execute, and the API
reports it as `confirmed`. -/
theorem not_agrees_final :
    ∃ e ∈ (Sample.ingestion (checkFinality (Sample.height 105) .base 100)).messages
        Sample.openShop,
      ∃ row ∈ ((Sample.ingestion (checkFinality (Sample.height 105) .base 100)).after
          Sample.openShop).events.get? e.event,
        row.status = .confirmed ∧ e.execution.safeToExecute = true ∧
          ¬ Agrees row.status e.execution := by
  decide +kernel

end TripWire
