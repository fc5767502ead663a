import TripWire.Ingestion.EndpointIsolation
import TripWire.Keeper.Polling
import TripWire.Keeper.Safety

/-!
# The outputs for an event

SKILL-SPEC, sections 8.2 and 8.4: the outputs for an event arrive in the order of the lifecycle, and
their confirmations only increase.  `OutputsInOrder` says this of the payloads in the outbox, for
each event and endpoint.

This module says what single messages show: the stage and the confirmations of each path, and that
one step says one thing about an event to an endpoint (`execution_eq_of_emitted`).  When a whole run
keeps the order is the subject of `TripWire.Keeper.Ordering`.
-/

namespace TripWire

open Py

/-! ### Outputs in order -/

/-- The place of a state in the lifecycle.  `reorged`, which stands for failed payments too, has
none. -/
def ExecutionState.stage : ExecutionState → Option ℕ
  | .provisional => some 0
  | .confirmed => some 1
  | .finalized => some 2
  | .reorged => none

/-- The event type of a message. -/
def Message.type : Message → WebhookEventType
  | .webhook _ _ payload _ => payload.type
  | .realtime type _ _ _ => type

/-- The payloads about an event to an endpoint, in the order in which they were sent. -/
def payloadsTo (outbox : List Emission) (event : EventId) (endpoint : EndpointId) :
    List Emission :=
  outbox.filter fun e => e.event = event ∧ e.endpoint.id = endpoint

/-- The states of the payloads, leaving out `reorged`, do not go back. -/
def StatesInOrder (payloads : List Emission) : Prop :=
  (payloads.filterMap fun e => e.execution.state.stage).Pairwise (· ≤ ·)

/-- The confirmations do not decrease from a payload with a finality block to a later one, unless a
`payment.reorged` payload lies between them. -/
def ConfirmationsInOrder (payloads : List Emission) : Prop :=
  ∀ i j : Fin payloads.length, i < j →
    (∀ k, i < k → k < j → (payloads.get k).message.type ≠ .paymentReorged) →
    ∀ f ∈ (payloads.get i).execution.finality, ∀ f' ∈ (payloads.get j).execution.finality,
      f.confirmations ≤ f'.confirmations

instance (payloads : List Emission) : Decidable (StatesInOrder payloads) := by
  unfold StatesInOrder
  infer_instance

instance (payloads : List Emission) : Decidable (ConfirmationsInOrder payloads) := by
  unfold ConfirmationsInOrder
  infer_instance

/-- For each event and endpoint, the payloads run through the lifecycle forward and their
confirmations do not decrease. -/
def OutputsInOrder (outbox : List Emission) : Prop :=
  ∀ event endpoint, StatesInOrder (payloadsTo outbox event endpoint) ∧
    ConfirmationsInOrder (payloadsTo outbox event endpoint)

/-- `e'` may be sent after `e`. -/
structure Follows (e e' : Emission) : Prop where
  stage : ∀ n ∈ e.execution.state.stage, ∀ n' ∈ e'.execution.state.stage, n ≤ n'
  confirmations : ∀ f ∈ e.execution.finality, ∀ f' ∈ e'.execution.finality,
    f.confirmations ≤ f'.confirmations

/-- `e'` may be sent after `e`, when both are about one event and go to one endpoint. -/
def FollowsInKind (e e' : Emission) : Prop :=
  e.event = e'.event → e.endpoint.id = e'.endpoint.id → Follows e e'

/-- An outbox in which each message may follow those before it is in order. -/
theorem outputsInOrder_of_pairwise {outbox : List Emission}
    (h : outbox.Pairwise FollowsInKind) : OutputsInOrder outbox := by
  intro event endpoint
  have hall : ∀ e ∈ payloadsTo outbox event endpoint,
      e.event = event ∧ e.endpoint.id = endpoint := by
    intro e he
    simpa [payloadsTo] using (List.mem_filter.mp he).2
  have hpayloads : (payloadsTo outbox event endpoint).Pairwise Follows := by
    refine (h.filter _).imp_of_mem ?_
    intro e e' he he' hfollows
    obtain ⟨hevent, hendpoint⟩ := hall e he
    obtain ⟨hevent', hendpoint'⟩ := hall e' he'
    exact hfollows (hevent.trans hevent'.symm) (hendpoint.trans hendpoint'.symm)
  constructor
  · refine List.pairwise_filterMap.mpr (hpayloads.imp ?_)
    intro e e' hfollows n hn n' hn'
    exact hfollows.stage n hn n' hn'
  · intro i j hij _ f hf f' hf'
    exact (List.pairwise_iff_get.mp hpayloads i j hij).confirmations f hf f' hf'

/-! ### Execution blocks -/

@[simp]
theorem finality_deriveExecutionMetadata (type : WebhookEventType) (fd : Option FinalityData) :
    (deriveExecutionMetadata type fd).finality = fd := by
  unfold deriveExecutionMetadata
  split_ifs <;> rfl

/-- A payload of the type `payment.confirmed` or `payment.pending` is finalized or confirmed, by its
finality block. -/
theorem state_deriveExecutionMetadata {type : WebhookEventType}
    (h : type = .paymentConfirmed ∨ type = .paymentPending) (fd : Option FinalityData) :
    (deriveExecutionMetadata type fd).state =
      if fd.any (·.isFinalized) then .finalized else .confirmed := by
  rcases h with rfl | rfl
  · simp only [deriveExecutionMetadata, reduceCtorEq, or_self, if_false]
    split_ifs <;> rfl
  · simp only [deriveExecutionMetadata, reduceCtorEq, or_self, if_false]
    split_ifs <;> rfl

/-- The finality block of a sent message shows the confirmations of the call. -/
theorem Sent.confirmations {env : Env} {d : Dispatch} {ep : Endpoint} {e : Emission}
    (h : Sent env d ep e) {f : FinalityData} (hf : f ∈ e.execution.finality) :
    ∃ s, d.finality = some s ∧ f.confirmations = s.confirmations := by
  have hblock : ∃ required, f ∈ buildFinalityData d.finality required := by
    rcases h.execution with ⟨-, -, hx⟩ | ⟨-, hx⟩
    · rw [hx, finality_deriveExecutionMetadata] at hf
      exact ⟨_, hf⟩
    · rw [hx, finality_deriveExecutionMetadata] at hf
      exact ⟨_, hf⟩
  obtain ⟨required, hf⟩ := hblock
  obtain ⟨s, hs, hconf, -⟩ := mem_buildFinalityData hf
  exact ⟨s, hs, hconf⟩

/-- What a call says to an endpoint does not depend on anything but the two. -/
theorem Sent.execution_eq {env : Env} {d : Dispatch} {ep : Endpoint} {e e' : Emission}
    (h : Sent env d ep e) (h' : Sent env d ep e') : e.execution = e'.execution := by
  rcases h.execution with ⟨hmode, -, hx⟩ | ⟨hmode, hx⟩
  · rcases h'.execution with ⟨-, -, hx'⟩ | ⟨hmode', -⟩
    · rw [hx, hx']
    · rw [hmode] at hmode'
      cases hmode'
  · rcases h'.execution with ⟨hmode', -⟩ | ⟨-, hx'⟩
    · rw [hmode] at hmode'
      cases hmode'
    · rw [hx, hx']

/-! ### The depths of the endpoints -/

/-- Every endpoint of a list has the finality depth `D` gives for its id. -/
def DepthsAre (D : EndpointId → Option ℤ) (eps : List Endpoint) : Prop :=
  ∀ ep ∈ eps, resolveEndpointDepth ep = D ep.id

/-- The finality depths of the endpoints stay as `D` gives them: in the table and in the cache,
which holds an endpoint once. -/
def SteadyDepths (D : EndpointId → Option ℤ) (w : World) : KeeperAction → Prop
  | .facilitator env _ | .goldsky env _ _ => DepthsAre D w.endpoints.rows ∧
    ∀ eps ∈ env.endpointCache, (eps.map Endpoint.id).Nodup ∧ DepthsAre D eps
  | .poll .. => DepthsAre D w.endpoints.rows
  | .sweep .. | .configure .. => True

instance (D : EndpointId → Option ℤ) (eps : List Endpoint) : Decidable (DepthsAre D eps) := by
  unfold DepthsAre
  infer_instance

instance (D : EndpointId → Option ℤ) (w : World) : ∀ a, Decidable (SteadyDepths D w a)
  | .facilitator env _ | .goldsky env _ _ =>
    inferInstanceAs (Decidable (DepthsAre D w.endpoints.rows ∧ ∀ eps ∈ env.endpointCache,
      (eps.map Endpoint.id).Nodup ∧ DepthsAre D eps))
  | .poll .. => inferInstanceAs (Decidable (DepthsAre D w.endpoints.rows))
  | .sweep .. => isTrue trivial
  | .configure .. => isTrue trivial

/-! ### The messages of one step -/

/-- The endpoints a transfer is matched against: each once, with the depth of `D`. -/
theorem fetched_of_steadyDepths {D : EndpointId → Option ℤ} {env : Env} {w : World}
    {t : ERC3009Transfer} {endpoints : List Endpoint} (htable : DepthsAre D w.endpoints.rows)
    (hcache : ∀ eps ∈ env.endpointCache, (eps.map Endpoint.id).Nodup ∧ DepthsAre D eps)
    (h : fetchMatchingEndpoints env w t = .ok endpoints) :
    (endpoints.map Endpoint.id).Nodup ∧ DepthsAre D endpoints := by
  unfold fetchMatchingEndpoints at h
  split at h
  · rename_i eps heps
    obtain rfl := Except.ok.inj h
    exact hcache eps heps
  · split_ifs at h
    obtain rfl := Except.ok.inj h
    constructor
    · exact w.endpoints.keys_nodup.sublist (List.filter_sublist.map _)
    · intro ep hep
      exact htable ep (List.mem_of_mem_filter hep)

/-- An approved endpoint is one of those that were fetched. -/
theorem mem_of_mem_approved {t : ERC3009Transfer} {finality : Option FinalityStatus}
    {identity : Option AgentIdentity} {type : Option WebhookEventType} {endpoints : List Endpoint}
    {plan : Plan} (h : planDispatch t finality identity type endpoints = .ok plan) {ep : Endpoint}
    (hep : ep ∈ plan.approved) : ep ∈ endpoints :=
  List.mem_of_mem_filter ((mem_approved_iff _ _ _ h).mp hep).1

/-- Two messages of a new transfer to one endpoint say the same. -/
theorem execution_eq_of_approved {env : Env} {t : ERC3009Transfer}
    {finality : Option FinalityStatus} {identity : Option AgentIdentity}
    {type : Option WebhookEventType} {endpoints : List Endpoint} {plan : Plan} {d : Dispatch}
    {ep ep' : Endpoint} {e e' : Emission} (hnodup : (endpoints.map Endpoint.id).Nodup)
    (planned : planDispatch t finality identity type endpoints = .ok plan)
    (approved : ep ∈ plan.approved) (approved' : ep' ∈ plan.approved) (sent : Sent env d ep e)
    (sent' : Sent env d ep' e') (hid : e.endpoint.id = e'.endpoint.id) :
    e.execution = e'.execution := by
  rw [sent.endpoint, sent'.endpoint] at hid
  have hsame : ep = ep' := List.inj_on_of_nodup_map hnodup (mem_of_mem_approved planned approved)
    (mem_of_mem_approved planned approved') hid
  subst hsame
  exact sent.execution_eq sent'

/-- Two endpoints of the table with one id are one endpoint. -/
theorem endpoint_eq_of_get? {w : World} {ep ep' : Endpoint}
    (h : w.endpoints.get? ep.id = some ep) (h' : w.endpoints.get? ep'.id = some ep')
    (hid : ep.id = ep'.id) : ep = ep' := by
  rw [hid, h'] at h
  exact (Option.some.inj h).symm

/-- **One step says one thing** about an event to an endpoint. -/
theorem execution_eq_of_emitted {D : EndpointId → Option ℤ} {w : World} {a : KeeperAction}
    {e e' : Emission} (hsteady : SteadyDepths D w a) (he : Emitted w a e) (he' : Emitted w a e')
    (hevent : e.event = e'.event) (hid : e.endpoint.id = e'.endpoint.id) :
    e.execution = e'.execution := by
  cases a with
  | facilitator env t =>
    cases he with
    | preConfirmed _ fetched planned approved sent =>
      cases he' with
      | preConfirmed _ fetched' planned' approved' sent' =>
        obtain rfl := Except.ok.inj (fetched.symm.trans fetched')
        obtain rfl := Except.ok.inj (planned.symm.trans planned')
        obtain ⟨hnodup, -⟩ := fetched_of_steadyDepths hsteady.1 hsteady.2 fetched
        exact execution_eq_of_approved hnodup planned approved approved' sent sent' hid
  | goldsky env unified decoded =>
    cases he with
    | ingested free fetched planned approved sent =>
      cases he' with
      | ingested _ fetched' planned' approved' sent' =>
        obtain rfl := Except.ok.inj (fetched.symm.trans fetched')
        obtain rfl := Except.ok.inj (planned.symm.trans planned')
        obtain ⟨hnodup, -⟩ := fetched_of_steadyDepths hsteady.1 hsteady.2 fetched
        exact execution_eq_of_approved hnodup planned approved approved' sent sent' hid
      | promoted promotes _ _ _ =>
        -- the nonce is free or it is held
        obtain ⟨claim, hclaim, -⟩ := promotedRow_spec promotes
        rw [free] at hclaim
        cases hclaim
    | promoted promotes linked _ sent =>
      cases he' with
      | ingested free _ _ _ _ =>
        obtain ⟨claim, hclaim, -⟩ := promotedRow_spec promotes
        rw [free] at hclaim
        cases hclaim
      | promoted promotes' linked' _ sent' =>
        obtain rfl := Option.some.inj (promotes.symm.trans promotes')
        rw [sent.endpoint, sent'.endpoint] at hid
        obtain rfl := endpoint_eq_of_get? (get?_of_mem_promotionEndpoints linked).1
          (get?_of_mem_promotionEndpoints linked').1 hid
        exact sent.execution_eq sent'
  | poll env chain =>
    obtain ⟨row, hrow, d, hd, ep, hep, hsent⟩ := exists_polledDispatch_of_emitted he
    obtain ⟨row', hrow', d', hd', ep', hep', hsent'⟩ := exists_polledDispatch_of_emitted he'
    obtain ⟨hev, hend, -, -, -, hx⟩ := webhookEmission_spec hsent
    obtain ⟨hev', hend', -, -, -, hx'⟩ := webhookEmission_spec hsent'
    have hrows : row.id = row'.id := by
      rw [← event_of_polledDispatch hd, ← event_of_polledDispatch hd', ← hev, ← hev', hevent]
    have hread := (polledRows_snapshot env w chain).read row hrow
    rw [hrows, (polledRows_snapshot env w chain).read row' hrow'] at hread
    obtain rfl := Option.some.inj hread
    obtain rfl := Option.some.inj (hd.symm.trans hd')
    rw [hend, hend'] at hid
    obtain rfl := endpoint_eq_of_get? (get?_of_mem_fetchEndpoints hep)
      (get?_of_mem_fetchEndpoints hep') hid
    rw [hx, hx']
  | sweep env route ttl =>
    cases he with
    | expired _ _ dispatch _ sent =>
      cases he' with
      | expired _ _ dispatch' _ sent' =>
        -- a failed payment is all that a sweep has to say
        obtain ⟨t, -, rfl⟩ := Option.map_eq_some_iff.mp dispatch
        obtain ⟨t', -, rfl⟩ := Option.map_eq_some_iff.mp dispatch'
        rw [(webhookEmission_spec sent).2.2.2.2.2, (webhookEmission_spec sent').2.2.2.2.2]
        rfl
  | configure endpoints subscriptions => cases he

theorem Follows.of_execution_eq {e e' : Emission} (h : e.execution = e'.execution) :
    Follows e e' where
  stage := by
    intro n hn n' hn'
    rw [h] at hn
    exact (Option.some.inj (hn.symm.trans hn')).le
  confirmations := by
    intro f hf f' hf'
    rw [h] at hf
    obtain rfl := Option.some.inj (hf.symm.trans hf')
    exact le_rfl

/-! ### What the later paths show -/

/-- A transition shows the depth of the row it read, and its message is finalized when this depth
reaches the endpoint's. -/
theorem transitioned_spec {D : EndpointId → Option ℤ} {env : Env} {w : World} {chain : ChainId}
    {row : EventRow} {newStatus : EventStatus} {type : WebhookEventType} {d : Dispatch}
    {ep : Endpoint} {e : Emission} (hdepths : DepthsAre D w.endpoints.rows)
    (pending : row ∈ polledRows env w chain)
    (dispatch : transitionDispatch env row newStatus type = some d)
    (linked : ep ∈ polledEndpoints env w row) (sent : webhookEmission env d ep = some e) :
    e.event = row.id ∧ (∀ f ∈ e.execution.finality, f.confirmations = row.finalityDepth) ∧
      (type = .paymentFinalized → e.execution.state = .finalized) ∧
      (type = .paymentConfirmed → e.execution.state =
        if (D e.endpoint.id).getD (finalityDepths chain) ≤ row.finalityDepth then .finalized
        else .confirmed) := by
  obtain ⟨-, htype, -, -, f, hf, hconf, hreq⟩ := transitionDispatch_spec pending dispatch
  obtain ⟨hevent, hendpoint, -, -, -, hx⟩ := webhookEmission_spec sent
  have hdepth : resolveEndpointDepth ep = D e.endpoint.id := by
    rw [hendpoint]
    exact hdepths ep (KeyedTable.get?_eq_some_iff.mp (get?_of_mem_fetchEndpoints linked)).1
  obtain ⟨t, -, hd⟩ := Option.map_eq_some_iff.mp dispatch
  have hdevent : d.event = row.id := by rw [← hd]
  refine ⟨hevent.trans hdevent, ?_, ?_, ?_⟩
  · intro fd hfd
    rw [hx, finality_deriveExecutionMetadata] at hfd
    obtain ⟨f', hf', hconf', -⟩ := mem_buildFinalityData hfd
    rw [hf] at hf'
    obtain rfl := Option.some.inj hf'
    rw [hconf', hconf]
  · intro hfinal
    rw [hx, htype, hfinal]
    rfl
  · intro hconfirmed
    rw [hx, htype, state_deriveExecutionMetadata (Or.inl hconfirmed), hf, hdepth]
    simp [buildFinalityData, hconf, hreq]

/-- A reorg and an expiry show neither a stage nor a finality block. -/
theorem silent_of_webhook {env : Env} {d : Dispatch} {ep : Endpoint} {e : Emission}
    (sent : webhookEmission env d ep = some e) (hfinality : d.finality = none)
    (htype : d.type = .paymentReorged ∨ d.type = .paymentFailed) :
    e.execution.state.stage = none ∧ e.execution.finality = none := by
  rw [(webhookEmission_spec sent).2.2.2.2.2, hfinality]
  rcases htype with htype | htype
  · rw [htype]
    exact ⟨rfl, rfl⟩
  · rw [htype]
    exact ⟨rfl, rfl⟩

theorem reorged_silent {env : Env} {row : EventRow} {d : Dispatch} {ep : Endpoint} {e : Emission}
    (dispatch : reorgDispatch env row = some d) (sent : webhookEmission env d ep = some e) :
    e.execution.state.stage = none ∧ e.execution.finality = none := by
  obtain ⟨t, -, rfl⟩ := Option.map_eq_some_iff.mp dispatch
  exact silent_of_webhook sent rfl (Or.inl rfl)

theorem expired_silent {env : Env} {row : EventRow} {d : Dispatch} {ep : Endpoint} {e : Emission}
    (dispatch : failureDispatch row = some d) (sent : webhookEmission env d ep = some e) :
    e.execution.state.stage = none ∧ e.execution.finality = none := by
  obtain ⟨t, -, rfl⟩ := Option.map_eq_some_iff.mp dispatch
  exact silent_of_webhook sent rfl (Or.inr rfl)

theorem Follows.of_no_stage {e e' : Emission}
    (h' : e'.execution.state.stage = none ∧ e'.execution.finality = none) : Follows e e' where
  stage := by
    intro n _ n' hn'
    rw [h'.1] at hn'
    cases hn'
  confirmations := by
    intro f _ f' hf'
    rw [h'.2] at hf'
    cases hf'

end TripWire
