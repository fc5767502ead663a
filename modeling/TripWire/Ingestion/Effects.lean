import TripWire.Ingestion.Handlers.Payment
import TripWire.Ingestion.TtlSweeper

/-!
# What each function of the pipeline can do to the world

One lemma per function, which says everything the function can change and what it sends:
`deliver_spec`, `dispatchForTransfer_cases`, `dispatchPromotion_spec`,
`promotePreConfirmedEvent_cases`, `transitionEvent_cases`, `handleReorg_cases`, `pollEvent_cases`
and `expireEvent_cases`.  The invariants of the later modules are case analyses over these lemmas
and unfold none of the functions.

`Sent env d ep e` says that the emission `e` is what one of the two channels makes of the call `d`
for the endpoint `ep`.
-/

namespace TripWire

open Py

/-! ### Sending -/

/-- `e` is the webhook of the call `d` to the execute endpoint `ep`, or its realtime row for the
notify endpoint `ep`. -/
def Sent (env : Env) (d : Dispatch) (ep : Endpoint) (e : Emission) : Prop :=
  (ep.mode = .execute ∧ webhookEmission env d ep = some e) ∨
    (ep.mode = .notify ∧ realtimeEmission d ep = e)

theorem Sent.event {env : Env} {d : Dispatch} {ep : Endpoint} {e : Emission}
    (h : Sent env d ep e) : e.event = d.event := by
  rcases h with ⟨-, h⟩ | ⟨-, rfl⟩
  · exact (webhookEmission_spec h).1
  · rfl

theorem Sent.endpoint {env : Env} {d : Dispatch} {ep : Endpoint} {e : Emission}
    (h : Sent env d ep e) : e.endpoint = ep := by
  rcases h with ⟨-, h⟩ | ⟨-, rfl⟩
  · exact (webhookEmission_spec h).2.1
  · rfl

theorem Sent.blockNumber {env : Env} {d : Dispatch} {ep : Endpoint} {e : Emission}
    (h : Sent env d ep e) : e.blockNumber = d.transfer.blockNumber := by
  rcases h with ⟨-, h⟩ | ⟨-, rfl⟩
  · exact (webhookEmission_spec h).2.2.1
  · rfl

theorem Sent.height {env : Env} {d : Dispatch} {ep : Endpoint} {e : Emission}
    (h : Sent env d ep e) : e.height = d.height := by
  rcases h with ⟨-, h⟩ | ⟨-, rfl⟩
  · exact (webhookEmission_spec h).2.2.2.1
  · rfl

/-- The execution block of a sent message: a webhook shows the endpoint's own depth, a realtime row
the depth of the finality status. -/
theorem Sent.execution {env : Env} {d : Dispatch} {ep : Endpoint} {e : Emission}
    (h : Sent env d ep e) :
    (ep.mode = .execute ∧ truthy ep.convoyProjectId = true ∧ e.execution =
        deriveExecutionMetadata d.type (buildFinalityData d.finality (resolveEndpointDepth ep))) ∨
      (ep.mode = .notify ∧
        e.execution = deriveExecutionMetadata d.type (buildFinalityData d.finality none)) := by
  rcases h with ⟨hmode, h⟩ | ⟨hmode, rfl⟩
  · exact Or.inl ⟨hmode, truthy_of_webhookEmission h, (webhookEmission_spec h).2.2.2.2.2⟩
  · exact Or.inr ⟨hmode, rfl⟩

theorem mem_inMode {mode : EndpointMode} {eps : List Endpoint} {ep : Endpoint} :
    ep ∈ inMode mode eps ↔ ep ∈ eps ∧ ep.mode = mode := by
  simp [inMode]

theorem pushWebhooks_eq (env : Env) (w : World) (d : Dispatch) (eps : List Endpoint) :
    ∃ ds, pushWebhooks env w d eps =
      { w with outbox := w.outbox ++ dispatchEvent env d eps, deliveries := ds } := by
  unfold pushWebhooks
  obtain ⟨ds, hds⟩ :=
    recordDeliveries_frame env d.event (messageIdsOf (dispatchEvent env d eps)) eps
    0 { w with outbox := w.outbox ++ dispatchEvent env d eps }
  exact ⟨ds, hds⟩

/-- `deliver` appends to the outbox and the deliveries, and all it sends goes to approved
endpoints. -/
theorem deliver_spec (env : Env) (w : World) (d : Dispatch) (approved : List Endpoint) :
    ∃ ems ds, (deliver env w d approved).1 =
        { w with outbox := w.outbox ++ ems, deliveries := ds } ∧
      ∀ e ∈ ems, ∃ ep ∈ approved, Sent env d ep e := by
  obtain ⟨ds, hds⟩ := pushWebhooks_eq env w d (inMode .execute approved)
  have hweb : ∀ e ∈ dispatchEvent env d (inMode .execute approved),
      ∃ ep ∈ approved, Sent env d ep e := by
    intro e he
    obtain ⟨ep, hep, hsent⟩ := mem_dispatchEvent he
    exact ⟨ep, (mem_inMode.mp hep).1, Or.inl ⟨(mem_inMode.mp hep).2, hsent⟩⟩
  simp only [deliver, hds]
  split
  -- A subscription raised: the webhooks are out, no realtime row follows.
  · exact ⟨_, ds, rfl, hweb⟩
  · rename_i kept hkept
    refine ⟨_, ds, by rw [pushRealtime, List.append_assoc], ?_⟩
    intro e he
    rcases List.mem_append.mp he with he | he
    · exact hweb e he
    · obtain ⟨ep, hep, rfl⟩ := mem_notifyBatch he
      have hmem := mem_inMode.mp (filterNotifyEndpoints_subset hkept hep)
      exact ⟨ep, hmem.1, Or.inr ⟨hmem.2, rfl⟩⟩

/-! ### Finality -/

theorem checkFinality_eq_some {env : Env} {chain : ChainId} {blockNumber : ℤ} {f : FinalityStatus}
    (h : checkFinality env chain blockNumber = some f) :
    f.confirmations = max 0 (env.blockNumber - blockNumber) ∧
      f.requiredConfirmations = finalityDepths chain ∧
      (f.isFinalized = true ↔ finalityDepths chain ≤ f.confirmations) := by
  unfold checkFinality at h
  split_ifs at h
  obtain rfl := Option.some.inj h
  exact ⟨rfl, rfl, decide_eq_true_iff⟩

theorem paymentFinality_eq_some {env : Env} {unified : Bool} {t : ERC3009Transfer}
    {f : FinalityStatus} (h : paymentFinality env unified t = some f) :
    checkFinality env t.chainId t.blockNumber = some f := by
  unfold paymentFinality at h
  split_ifs at h
  exact h

/-! ### Planning and recording -/

/-- What a plan says: it is the verdicts of the policies on the matched endpoints, cut down by the
depth gate. -/
theorem planDispatch_spec {t : ERC3009Transfer} {finality : Option FinalityStatus}
    {identity : Option AgentIdentity} {eventTypeOverride : Option WebhookEventType}
    {endpoints : List Endpoint} {plan : Plan}
    (h : planDispatch t finality identity eventTypeOverride endpoints = .ok plan) :
    plan.matched = matchEndpoints t endpoints ∧
      plan.type = eventTypeOverride.getD (defaultEventType finality) ∧
      ∃ verdicts, policyVerdicts (buildTransferData t) identity plan.matched = .ok verdicts ∧
        plan.rejected = rejectedOf verdicts ∧
        plan.approved = depthGate t.chainId finality (approvedOf verdicts) := by
  simp only [planDispatch] at h
  cases hverdicts : policyVerdicts (buildTransferData t) identity (matchEndpoints t endpoints) with
  | error e =>
    rw [hverdicts] at h
    cases h
  | ok verdicts =>
    rw [hverdicts] at h
    obtain rfl := Except.ok.inj h
    exact ⟨rfl, rfl, verdicts, hverdicts, rfl, rfl⟩

theorem mem_depthGate {chain : ChainId} {f : FinalityStatus} {eps : List Endpoint} {ep : Endpoint}
    (h : ep ∈ depthGate chain (some f) eps) : requiredDepth ep chain ≤ f.confirmations := by
  simpa using (List.mem_filter.mp h).2

theorem defaultEventType_cases (finality : Option FinalityStatus) :
    defaultEventType finality = .paymentConfirmed ∨
      defaultEventType finality = .paymentPending := by
  unfold defaultEventType
  split_ifs
  · exact Or.inl rfl
  · exact Or.inr rfl

/-- The status of a row that Goldsky recorded. -/
theorem eventRow_ingested_status (now : ℤ) (id : EventId) (t : ERC3009Transfer)
    (finality : Option FinalityStatus) (endpointId : Option EndpointId) :
    (eventRow now id t finality (defaultEventType finality) endpointId).status =
      if finality.any (·.isFinalized) then .confirmed else .pending := by
  show (if defaultEventType finality = .paymentPreConfirmed then EventStatus.preConfirmed
    else _) = _
  rw [if_neg]
  rcases defaultEventType_cases finality with htype | htype <;> simp [htype]

theorem recordEvent_cases (env : Env) (w : World) (row : EventRow) :
    recordEvent env w row = w ∨
      ∃ w', w.insertEvent row = some w' ∧ recordEvent env w row = w' := by
  unfold recordEvent
  split_ifs
  · exact Or.inl rfl
  · cases h : w.insertEvent row with
    | none => exact Or.inl rfl
    | some w' => exact Or.inr ⟨w', rfl, rfl⟩

theorem recordEvent_frame (env : Env) (w : World) (row : EventRow) :
    ∃ t, recordEvent env w row = { w with events := t } := by
  rcases recordEvent_cases env w row with h | ⟨w', hins, h⟩
  · exact ⟨w.events, h⟩
  · obtain ⟨t, rfl⟩ := World.insertEvent_frame hins
    exact ⟨t, h⟩

theorem linkStage_frame (env : Env) (w : World) (id : EventId) (plan : Plan) :
    ∃ l, linkStage env w id plan =
      { w with
        eventEndpoints := l
        policyLog := w.policyLog ++ plan.rejected.map fun ep => (id, ep.id) } := by
  unfold linkStage
  split_ifs
  · exact ⟨w.eventEndpoints, rfl⟩
  · obtain ⟨l, hl⟩ := w.linkEndpoints_frame id (plan.matched.map (·.id))
    exact ⟨l, by rw [hl]⟩

/-! ### `_dispatch_for_transfer` -/

/-- What one call of `_dispatch_for_transfer` does, when it gets as far as recording the event. -/
structure Dispatched (env : Env) (w : World) (t : ERC3009Transfer)
    (finality : Option FinalityStatus) (identity : Option AgentIdentity)
    (eventTypeOverride : Option WebhookEventType) (eventId : Option EventId) where
  endpoints : List Endpoint
  plan : Plan
  fetched : fetchMatchingEndpoints env w t = .ok endpoints
  planned : planDispatch t finality identity eventTypeOverride endpoints = .ok plan
  /-- The row that is inserted, unless the insertion fails. -/
  row : EventRow
  row_eq : row = eventRow env.now (chooseEventId w eventId).2 t finality plan.type
    (plan.matched.head?.map (·.id))
  eventTable : KeyedTable EventRow.id
  recorded : (recordEvent env (chooseEventId w eventId).1 row).events = eventTable
  links : List (EventId × EndpointId)
  linked : (linkStage env (recordEvent env (chooseEventId w eventId).1 row) row.id
    plan).eventEndpoints = links
  deliveries : List DeliveryRow
  emissions : List Emission
  sent : ∀ e ∈ emissions, ∃ ep ∈ plan.approved,
    Sent env
      { event := row.id, transfer := t, type := plan.type, finality, identity,
        height := observedHeight env finality } ep e

/-- The world such a call leaves behind. -/
def Dispatched.after {env : Env} {w : World} {t : ERC3009Transfer}
    {finality : Option FinalityStatus} {identity : Option AgentIdentity}
    {eventTypeOverride : Option WebhookEventType} {eventId : Option EventId}
    (D : Dispatched env w t finality identity eventTypeOverride eventId) : World :=
  { w with
    uuids := (chooseEventId w eventId).1.uuids
    events := D.eventTable
    eventEndpoints := D.links
    deliveries := D.deliveries
    outbox := w.outbox ++ D.emissions
    policyLog := w.policyLog ++ D.plan.rejected.map fun ep => (D.row.id, ep.id) }

theorem chooseEventId_fst (w : World) (eventId : Option EventId) :
    ∃ n, (chooseEventId w eventId).1 = { w with uuids := n } := by
  cases eventId with
  | none => exact ⟨w.uuids + 1, rfl⟩
  | some id => exact ⟨w.uuids, rfl⟩

/-- The stages that record the event leave the other tables and the outbox alone. -/
theorem recordStages_frame (env : Env) (w : World) (eventId : Option EventId) (row : EventRow)
    (plan : Plan) :
    ∃ n table links log,
      linkStage env (recordEvent env (chooseEventId w eventId).1 row) (chooseEventId w eventId).2
          plan =
        { w with uuids := n, events := table, eventEndpoints := links, policyLog := log } := by
  obtain ⟨n, hn⟩ := chooseEventId_fst w eventId
  obtain ⟨table, htable⟩ := recordEvent_frame env (chooseEventId w eventId).1 row
  obtain ⟨links, hlinks⟩ := linkStage_frame env
    (recordEvent env (chooseEventId w eventId).1 row) (chooseEventId w eventId).2 plan
  rw [htable, hn] at hlinks
  rw [htable, hn]
  exact ⟨n, table, links, _, hlinks⟩

/-- **What `_dispatch_for_transfer` does.** Nothing at all, or everything `Dispatched` says. -/
theorem dispatchForTransfer_cases (env : Env) (w : World) (t : ERC3009Transfer)
    (finality : Option FinalityStatus) (identity : Option AgentIdentity)
    (eventTypeOverride : Option WebhookEventType) (eventId : Option EventId) :
    (dispatchForTransfer env w t finality identity eventTypeOverride eventId).1 = w ∨
      ∃ D : Dispatched env w t finality identity eventTypeOverride eventId,
        (dispatchForTransfer env w t finality identity eventTypeOverride eventId).1 = D.after := by
  unfold dispatchForTransfer
  split
  · exact Or.inl rfl
  · rename_i endpoints hfetch
    split
    · exact Or.inl rfl
    · rename_i plan hplan
      right
      -- The frames of the stages, in the order in which they run.
      obtain ⟨n, hn⟩ := chooseEventId_fst w eventId
      obtain ⟨table, htable⟩ := recordEvent_frame env (chooseEventId w eventId).1
        (eventRow env.now (chooseEventId w eventId).2 t finality plan.type
          (plan.matched.head?.map (·.id)))
      obtain ⟨links, hlinks⟩ := linkStage_frame env
        (recordEvent env (chooseEventId w eventId).1
          (eventRow env.now (chooseEventId w eventId).2 t finality plan.type
            (plan.matched.head?.map (·.id)))) (chooseEventId w eventId).2 plan
      obtain ⟨ems, ds, hdeliver, hsent⟩ := deliver_spec env
        (linkStage env (recordEvent env (chooseEventId w eventId).1
          (eventRow env.now (chooseEventId w eventId).2 t finality plan.type
            (plan.matched.head?.map (·.id)))) (chooseEventId w eventId).2 plan)
        { event := (chooseEventId w eventId).2, transfer := t, type := plan.type, finality,
          identity, height := observedHeight env finality } plan.approved
      have hrecorded := congrArg World.events htable
      have hlinked := congrArg World.eventEndpoints hlinks
      refine ⟨⟨endpoints, plan, hfetch, hplan, _, rfl, table, hrecorded, links, hlinked, ds, ems,
        hsent⟩, hdeliver.trans ?_⟩
      simp only [Dispatched.after]
      rw [hlinks, htable, hn]
      rfl

/-! ### Promotion -/

/-- An endpoint object that was read by its id is the row of the table. -/
theorem get?_of_mem_fetchEndpoints {env : Env} {w : World} {event : EventId}
    {ids : List EndpointId} {ep : Endpoint} (h : ep ∈ fetchEndpoints env w event ids) :
    w.endpoints.get? ep.id = some ep := by
  simp only [fetchEndpoints, List.mem_filterMap] at h
  obtain ⟨eid, -, hget⟩ := h
  split_ifs at hget
  have hid : ep.id = eid := KeyedTable.key_of_get? hget
  rw [hid]
  exact hget

/-- A promotion reaches active rows of the endpoint table. -/
theorem get?_of_mem_promotionEndpoints {env : Env} {w : World} {row : EventRow} {ep : Endpoint}
    (h : ep ∈ promotionEndpoints env w row) :
    w.endpoints.get? ep.id = some ep ∧ ep.active = true := by
  obtain ⟨hmem, hactive⟩ := List.mem_filter.mp h
  exact ⟨get?_of_mem_fetchEndpoints hmem, hactive⟩

/-- **What a promotion sends.** Every message goes to a linked, active endpoint whose policies
accept the onchain transfer. -/
theorem dispatchPromotion_spec (env : Env) (w : World) (row : EventRow) (t : ERC3009Transfer) :
    ∃ ems ds, (dispatchPromotion env w row t).1 =
        { w with outbox := w.outbox ++ ems, deliveries := ds } ∧
      ∀ e ∈ ems, ∃ ep ∈ promotionEndpoints env w row,
        evaluatePolicy (buildTransferData t) (promotionDispatch env row t).identity ep.policies =
          .ok none ∧
        Sent env (promotionDispatch env row t) ep e := by
  unfold dispatchPromotion
  simp only
  split
  -- A policy raised: the row stays promoted and nobody hears of it.
  · exact ⟨[], w.deliveries, by rw [List.append_nil], by simp⟩
  · rename_i verdicts hverdicts
    obtain ⟨ds, hds⟩ := pushWebhooks_eq env w (promotionDispatch env row t)
      (inMode .execute (approvedOf verdicts))
    refine ⟨_, ds, by rw [hds, pushRealtime, List.append_assoc], ?_⟩
    intro e he
    rcases List.mem_append.mp he with he | he
    · obtain ⟨ep, hep, hsent⟩ := mem_dispatchEvent he
      obtain ⟨hmem, hok⟩ := (mem_approvedOf hverdicts).mp (mem_inMode.mp hep).1
      exact ⟨ep, hmem, hok, Or.inl ⟨(mem_inMode.mp hep).2, hsent⟩⟩
    · obtain ⟨ep, hep, rfl⟩ := mem_notifyBatch he
      obtain ⟨hmem, hok⟩ := (mem_approvedOf hverdicts).mp (mem_inMode.mp hep).1
      exact ⟨ep, hmem, hok, Or.inr ⟨(mem_inMode.mp hep).2, rfl⟩⟩

theorem promotePreConfirmedEvent_of_recorded {env : Env} {w : World} {id : EventId}
    {old : EventRow} (t : ERC3009Transfer) (hraise : env.raises (.promoteToConfirmed id) = false)
    (hold : w.events.get? id = some old) :
    promotePreConfirmedEvent env w id t =
      dispatchPromotion env (w.promoteToConfirmed env.now id t).1 (old.promoted env.now t) t := by
  have hget := w.get?_promoteToConfirmed env.now id t id
  rw [if_pos rfl, hold] at hget
  have hpair : w.promoteToConfirmed env.now id t =
      ((w.promoteToConfirmed env.now id t).1, some (old.promoted env.now t)) :=
    Prod.ext rfl hget
  rw [promotePreConfirmedEvent, if_neg (by rw [hraise]; exact Bool.false_ne_true), hpair]

theorem promotePreConfirmedEvent_of_missing {env : Env} {w : World} {id : EventId}
    (t : ERC3009Transfer) (hraise : env.raises (.promoteToConfirmed id) = false)
    (hold : w.events.get? id = none) :
    promotePreConfirmedEvent env w id t = (w, errorResult "event_not_found" t.txHash) := by
  have hsame : (w.promoteToConfirmed env.now id t).1 = w := World.updateEvent_of_get?_eq_none hold
  have hget := w.get?_promoteToConfirmed env.now id t id
  rw [if_pos rfl, hold] at hget
  have hpair : w.promoteToConfirmed env.now id t = (w, none) := Prod.ext hsame hget
  rw [promotePreConfirmedEvent, if_neg (by rw [hraise]; exact Bool.false_ne_true), hpair]

/-- **What `_promote_pre_confirmed_event` does.** Nothing, or it rewrites the row `old` that has the
id, whatever its status, and sends the messages of `dispatchPromotion`. -/
theorem promotePreConfirmedEvent_cases (env : Env) (w : World) (id : EventId)
    (t : ERC3009Transfer) :
    (promotePreConfirmedEvent env w id t).1 = w ∨
      ∃ old, w.events.get? id = some old ∧ env.raises (.promoteToConfirmed id) = false ∧
        promotePreConfirmedEvent env w id t =
          dispatchPromotion env (w.promoteToConfirmed env.now id t).1
            (old.promoted env.now t) t := by
  by_cases hraise : env.raises (.promoteToConfirmed id) = true
  · left
    rw [promotePreConfirmedEvent, if_pos hraise]
  · have hraise' : env.raises (.promoteToConfirmed id) = false := by simpa using hraise
    cases hold : w.events.get? id with
    | none =>
      left
      rw [promotePreConfirmedEvent_of_missing t hraise' hold]
    | some old =>
      exact Or.inr ⟨old, rfl, hraise', promotePreConfirmedEvent_of_recorded t hraise' hold⟩

/-! ### The handlers -/

theorem processPreConfirmedEvent_of_free {env : Env} {w : World} {t : ERC3009Transfer}
    (hraise : env.raises .recordNonce = false) (hfree : w.activeClaim t.nonceKey = none) :
    processPreConfirmedEvent env w t =
      dispatchForTransfer env
        (w.uuid4.1.recordNonceOrCorrelate env.now t.nonceKey (some w.uuids) .facilitator).1 t none
        (resolveIdentity env t.authorizer.val t.chainId.value) (some .paymentPreConfirmed)
        (some w.uuids) := by
  have hid : w.uuid4.2 = w.uuids := rfl
  have hfree' : w.uuid4.1.activeClaim t.nonceKey = none := hfree
  have hnew : (w.uuid4.1.recordNonceOrCorrelate env.now t.nonceKey (some w.uuids)
      .facilitator).2 = { isNew := true } := (World.recordNonceOrCorrelate_of_free hfree').1
  simp [processPreConfirmedEvent, hraise, hid, hnew]

theorem processPreConfirmedEvent_of_claimed {env : Env} {w : World} {t : ERC3009Transfer}
    {claim : NonceRow} (hraise : env.raises .recordNonce = false)
    (hclaim : w.activeClaim t.nonceKey = some claim) :
    processPreConfirmedEvent env w t =
      (w.uuid4.1, .ok { status := .duplicate, txHash := some t.txHash }) := by
  have hid : w.uuid4.2 = w.uuids := rfl
  have hclaim' : w.uuid4.1.activeClaim t.nonceKey = some claim := hclaim
  have hanswer : w.uuid4.1.recordNonceOrCorrelate env.now t.nonceKey (some w.uuids)
      .facilitator = (w.uuid4.1, _) := World.recordNonceOrCorrelate_of_claimed hclaim'
  simp [processPreConfirmedEvent, hraise, hid, hanswer]

/-- **What the facilitator path does.** It draws an id; if the nonce was free it claims it with that
id and dispatches, else nothing more happens. -/
theorem processPreConfirmedEvent_cases (env : Env) (w : World) (t : ERC3009Transfer) :
    (processPreConfirmedEvent env w t).1 = w.uuid4.1 ∨
      (env.raises .recordNonce = false ∧ w.activeClaim t.nonceKey = none ∧
        processPreConfirmedEvent env w t =
          dispatchForTransfer env
            (w.uuid4.1.recordNonceOrCorrelate env.now t.nonceKey (some w.uuids)
              .facilitator).1 t none
            (resolveIdentity env t.authorizer.val t.chainId.value) (some .paymentPreConfirmed)
            (some w.uuids)) := by
  by_cases hraise : env.raises .recordNonce = true
  · left
    simp [processPreConfirmedEvent, hraise]
  · have hraise' : env.raises .recordNonce = false := by simpa using hraise
    cases hclaim : w.activeClaim t.nonceKey with
    | none => exact Or.inr ⟨hraise', rfl, processPreConfirmedEvent_of_free hraise' hclaim⟩
    | some claim =>
      left
      rw [processPreConfirmedEvent_of_claimed hraise' hclaim]

theorem processErc3009Event_of_free {env : Env} {w : World} {t : ERC3009Transfer} (unified : Bool)
    (hraise : env.raises .recordNonce = false) (hfree : w.activeClaim t.nonceKey = none) :
    processErc3009Event env unified w (.ok t) =
      processNewTransfer env unified
        (w.recordNonceOrCorrelate env.now t.nonceKey none .goldsky).1 t := by
  have hnew : (w.recordNonceOrCorrelate env.now t.nonceKey none .goldsky).2 = { isNew := true } :=
    (World.recordNonceOrCorrelate_of_free hfree).1
  simp [processErc3009Event, processCorrelated, hraise, hnew]

/-- A Goldsky delivery of a held nonce: promotion when the facilitator holds it with an event id,
else a duplicate. -/
theorem processErc3009Event_of_claimed {env : Env} {w : World} {t : ERC3009Transfer}
    {claim : NonceRow} (unified : Bool) (hraise : env.raises .recordNonce = false)
    (hclaim : w.activeClaim t.nonceKey = some claim) :
    processErc3009Event env unified w (.ok t) =
      match claim.source, claim.eventId with
      | .facilitator, some id => promotePreConfirmedEvent env w id t
      | _, _ => (w, .ok { status := .duplicate, txHash := some t.txHash }) := by
  simp only [processErc3009Event, hraise, Bool.false_eq_true, if_false,
    World.recordNonceOrCorrelate_of_claimed hclaim, processCorrelated]
  cases claim.source <;> cases claim.eventId <;> rfl

/-- **What a Goldsky delivery does.** Nothing; or the nonce was free, is claimed without an event id
and the transfer is dispatched; or the facilitator holds the nonce and its event is promoted. -/
theorem processErc3009Event_cases (env : Env) (unified : Bool) (w : World)
    (decoded : Except PyError ERC3009Transfer) :
    (processErc3009Event env unified w decoded).1 = w ∨
      (∃ t, decoded = .ok t ∧ env.raises .recordNonce = false ∧ w.activeClaim t.nonceKey = none ∧
        processErc3009Event env unified w decoded =
          processNewTransfer env unified
            (w.recordNonceOrCorrelate env.now t.nonceKey none .goldsky).1 t) ∨
      ∃ t claim id, decoded = .ok t ∧ env.raises .recordNonce = false ∧
        w.activeClaim t.nonceKey = some claim ∧ claim.source = .facilitator ∧
        claim.eventId = some id ∧
        processErc3009Event env unified w decoded = promotePreConfirmedEvent env w id t := by
  cases decoded with
  | error e => exact Or.inl rfl
  | ok t =>
    by_cases hraise : env.raises .recordNonce = true
    · left
      simp [processErc3009Event, hraise]
    have hraise' : env.raises .recordNonce = false := by simpa using hraise
    cases hclaim : w.activeClaim t.nonceKey with
    | none => exact Or.inr (Or.inl ⟨t, rfl, hraise', hclaim,
        processErc3009Event_of_free unified hraise' hclaim⟩)
    | some claim =>
      have heq := processErc3009Event_of_claimed unified hraise' hclaim
      cases hsource : claim.source with
      | goldsky =>
        left
        rw [heq, hsource]
      | facilitator =>
        cases hid : claim.eventId with
        | none =>
          left
          rw [heq, hsource, hid]
        | some id =>
          right; right
          refine ⟨t, claim, id, rfl, hraise', hclaim, hsource, hid, ?_⟩
          rw [heq, hsource, hid]

/-! ### The background tasks -/

/-- The parts of the world that the poller and the sweeper leave alone. -/
structure Frame (w w' : World) : Prop where
  eventEndpoints : w'.eventEndpoints = w.eventEndpoints
  endpoints : w'.endpoints = w.endpoints
  subscriptions : w'.subscriptions = w.subscriptions
  policyLog : w'.policyLog = w.policyLog
  uuids : w'.uuids = w.uuids

theorem Frame.refl (w : World) : Frame w w := ⟨rfl, rfl, rfl, rfl, rfl⟩

theorem Frame.trans {w₁ w₂ w₃ : World} (h : Frame w₁ w₂) (h' : Frame w₂ w₃) : Frame w₁ w₃ where
  eventEndpoints := h'.eventEndpoints.trans h.eventEndpoints
  endpoints := h'.endpoints.trans h.endpoints
  subscriptions := h'.subscriptions.trans h.subscriptions
  policyLog := h'.policyLog.trans h.policyLog
  uuids := h'.uuids.trans h.uuids

theorem fetchEndpoints_congr {w w' : World} (h : Frame w w') (env : Env) (event : EventId)
    (ids : List EndpointId) : fetchEndpoints env w' event ids = fetchEndpoints env w event ids := by
  unfold fetchEndpoints
  rw [h.endpoints]

theorem polledEndpoints_congr {w w' : World} (h : Frame w w') (env : Env) (row : EventRow) :
    polledEndpoints env w' row = polledEndpoints env w row := by
  unfold polledEndpoints linkedEndpointIds World.getEndpointIds
  rw [fetchEndpoints_congr h, h.eventEndpoints]

theorem sweptEndpoints_congr {w w' : World} (h : Frame w w') (env : Env) (row : EventRow) :
    sweptEndpoints env w' row = sweptEndpoints env w row := by
  unfold sweptEndpoints World.getEndpointIds
  rw [fetchEndpoints_congr h, h.eventEndpoints]

/-- **The transfer of a row**, column by column. -/
theorem reconstructTransfer_eq_some_iff {row : EventRow} {t : ERC3009Transfer} :
    reconstructTransfer row = some t ↔
      (ChainId.ofValue row.chainId).toOption = some t.chainId ∧
        row.txHash.map strip = some t.txHash ∧ row.blockNumber = some t.blockNumber ∧
        row.blockHash.map strip = some t.blockHash ∧ row.logIndex = some t.logIndex ∧
        row.fromAddress.bind EthAddress.validate = some t.fromAddress ∧
        row.toAddress.bind EthAddress.validate = some t.toAddress ∧
        t.value = strip (row.amount.getD "None") ∧
        row.authorizer.bind EthAddress.validate = some t.authorizer ∧
        row.nonce.map strip = some t.nonce ∧ row.token.map strip = some t.token := by
  constructor
  · intro h
    simp only [reconstructTransfer, bind, Option.bind_eq_some_iff] at h
    obtain ⟨chain, hchain, tx, htx, block, hblock, hash, hhash, index, hindex, source, hsource,
      target, htarget, auth, hauth, nonce, hnonce, token, htoken, heq⟩ := h
    obtain rfl := Option.some.inj heq
    refine ⟨hchain, by rw [htx]; rfl, hblock, by rw [hhash]; rfl, hindex, ?_, ?_, rfl, ?_,
      by rw [hnonce]; rfl, by rw [htoken]; rfl⟩
    · exact Option.bind_eq_some_iff.mpr hsource
    · exact Option.bind_eq_some_iff.mpr htarget
    · exact Option.bind_eq_some_iff.mpr hauth
  · rintro ⟨hchain, htx, hblock, hhash, hindex, hsource, htarget, hvalue, hauth, hnonce, htoken⟩
    obtain ⟨tx, htx₀, htx₁⟩ := Option.map_eq_some_iff.mp htx
    obtain ⟨hash, hhash₀, hhash₁⟩ := Option.map_eq_some_iff.mp hhash
    obtain ⟨nonce, hnonce₀, hnonce₁⟩ := Option.map_eq_some_iff.mp hnonce
    obtain ⟨token, htoken₀, htoken₁⟩ := Option.map_eq_some_iff.mp htoken
    unfold reconstructTransfer
    rw [hchain, htx₀, hblock, hhash₀, hindex, hsource, htarget, hauth, hnonce₀, htoken₀]
    show some (ERC3009Transfer.mk _ _ _ _ _ _ _ _ _ _ _) = some t
    rw [htx₁, hhash₁, hnonce₁, htoken₁, ← hvalue]

/-- **What `_transition_event` does.** -/
theorem transitionEvent_cases (env : Env) (w : World) (row : EventRow) (newStatus : EventStatus)
    (type : WebhookEventType) :
    transitionEvent env w row newStatus type = w ∨
      ∃ ems ds, transitionEvent env w row newStatus type =
          { w.updateStatus env.now row.id newStatus with
            outbox := w.outbox ++ ems, deliveries := ds } ∧
        ∀ e ∈ ems, ∃ d, transitionDispatch env row newStatus type = some d ∧
          ∃ ep ∈ polledEndpoints env w row, webhookEmission env d ep = some e := by
  unfold transitionEvent
  split_ifs
  · exact Or.inl rfl
  · right
    simp only
    split
    · exact ⟨[], w.deliveries, by rw [List.append_nil]; rfl, by simp⟩
    · rename_i d hd
      obtain ⟨ds, hds⟩ := pushWebhooks_eq env (w.updateStatus env.now row.id newStatus) d
        (polledEndpoints env (w.updateStatus env.now row.id newStatus) row)
      refine ⟨_, ds, hds, ?_⟩
      intro e he
      obtain ⟨ep, hep, hsent⟩ := mem_dispatchEvent he
      exact ⟨d, hd, ep, hep, hsent⟩

/-- **What `_handle_reorg` does.** -/
theorem handleReorg_cases (env : Env) (w : World) (row : EventRow) :
    handleReorg env w row = w ∨
      ∃ ems, handleReorg env w row =
          { w.updateStatus env.now row.id .reorged with
            nonces := if env.raises (.invalidateNonce row.id) then w.nonces
              else (w.invalidateByEventId env.now row.id).nonces
            outbox := w.outbox ++ ems } ∧
        ∀ e ∈ ems, ∃ d, reorgDispatch env row = some d ∧
          ∃ ep ∈ polledEndpoints env w row, webhookEmission env d ep = some e := by
  unfold handleReorg
  by_cases hstatus : env.raises (.updateStatus row.id) = true
  · exact Or.inl (if_pos hstatus)
  · rw [if_neg hstatus]
    right
    -- The status and the nonces are different tables, so the two writes commute into one record.
    have hw₂ : (if env.raises (.invalidateNonce row.id) = true
          then w.updateStatus env.now row.id .reorged
          else (w.updateStatus env.now row.id .reorged).invalidateByEventId env.now row.id) =
        { w.updateStatus env.now row.id .reorged with
          nonces := if env.raises (.invalidateNonce row.id) then w.nonces
            else (w.invalidateByEventId env.now row.id).nonces } := by
      split_ifs <;> rfl
    simp only [hw₂]
    split
    · exact ⟨[], by rw [List.append_nil]; rfl, by simp⟩
    · rename_i d hd
      refine ⟨_, rfl, ?_⟩
      intro e he
      obtain ⟨ep, hep, hsent⟩ := mem_dispatchEvent he
      exact ⟨d, hd, ep, hep, hsent⟩

/-- **What the poller does with a row.** Nothing; or it handles a reorg; or it stores the depth; or
it stores the depth and moves the row on by the status the snapshot shows. -/
theorem pollEvent_cases (env : Env) (chain : ChainId) (w : World) (row : EventRow) :
    pollEvent env chain w row = w ∨
      (isReorged env row = true ∧ pollEvent env chain w row = handleReorg env w row) ∨
      pollEvent env chain w row = w.updateFinality row.id (polledConfirmations env row) ∨
      ∃ newStatus type, isReorged env row = false ∧
        finalityDepths chain ≤ polledConfirmations env row ∧
        ((row.status = .pending ∧ newStatus = .confirmed ∧ type = .paymentConfirmed) ∨
          (row.status = .confirmed ∧ newStatus = .finalized ∧ type = .paymentFinalized)) ∧
        pollEvent env chain w row =
          transitionEvent env (w.updateFinality row.id (polledConfirmations env row)) row newStatus
            type := by
  unfold pollEvent processPolledEvent
  by_cases hreorg : isReorged env row = true
  · rw [if_pos hreorg]
    exact Or.inr (Or.inl ⟨hreorg, rfl⟩)
  · rw [if_neg hreorg]
    by_cases hraise : env.raises (.updateFinality row.id) = true
    · exact Or.inl (if_pos hraise)
    · rw [if_neg hraise]
      right; right
      have hreorg' : isReorged env row = false := by simpa using hreorg
      by_cases hdepth : finalityDepths chain ≤ polledConfirmations env row
      · simp only [if_pos hdepth]
        -- `fetchPendingEvents` selects only the first two; the function itself takes any row.
        cases hstatus : row.status with
        | pending => exact Or.inr ⟨_, _, hreorg', hdepth, Or.inl ⟨rfl, rfl, rfl⟩, rfl⟩
        | confirmed => exact Or.inr ⟨_, _, hreorg', hdepth, Or.inr ⟨rfl, rfl, rfl⟩, rfl⟩
        | preConfirmed => exact Or.inl rfl
        | finalized => exact Or.inl rfl
        | reorged => exact Or.inl rfl
        | paymentFailed => exact Or.inl rfl
      · exact Or.inl (if_neg hdepth)

theorem updateFinality_frame (w : World) (id : EventId) (depth : ℤ) :
    Frame w (w.updateFinality id depth) := ⟨rfl, rfl, rfl, rfl, rfl⟩

theorem pollEvent_frame (env : Env) (chain : ChainId) (w : World) (row : EventRow) :
    Frame w (pollEvent env chain w row) := by
  rcases pollEvent_cases env chain w row with h | ⟨-, h⟩ | h | ⟨st, ty, -, -, -, h⟩
  · rw [h]
    exact Frame.refl w
  · rw [h]
    rcases handleReorg_cases env w row with h' | ⟨ems, h', -⟩
    · rw [h']
      exact Frame.refl w
    · rw [h']
      exact ⟨rfl, rfl, rfl, rfl, rfl⟩
  · rw [h]
    exact updateFinality_frame w row.id _
  · rw [h]
    rcases transitionEvent_cases env (w.updateFinality row.id (polledConfirmations env row)) row st
      ty with h' | ⟨ems, ds, h', -⟩
    · rw [h']
      exact updateFinality_frame w row.id _
    · rw [h']
      exact ⟨rfl, rfl, rfl, rfl, rfl⟩

/-- **What the sweeper does with a row.** -/
theorem expireEvent_cases (env : Env) (route : SweepRoute) (w : World) (row : EventRow) :
    expireEvent env route w row = w ∨
      ∃ ems, env.raises (.updateStatus row.id) = false ∧ expireEvent env route w row =
          { w.updateStatus env.now row.id .paymentFailed with outbox := w.outbox ++ ems } ∧
        ∀ e ∈ ems, expiryDispatches env route row = true ∧ ∃ d, failureDispatch row = some d ∧
          ∃ ep ∈ sweptEndpoints env w row, webhookEmission env d ep = some e := by
  unfold expireEvent expireWrite expiryDispatches
  by_cases hstatus : env.raises (.updateStatus row.id) = true
  · left
    simp [hstatus]
  · right
    have hstatus' : env.raises (.updateStatus row.id) = false := by simpa using hstatus
    simp only [hstatus', Bool.not_false, Bool.true_and, Bool.false_eq_true, if_false]
    by_cases hroute : route = .supabase
    · simp only [hroute, decide_true, if_true]
      unfold dispatchFailureWebhook
      split
      · exact ⟨[], trivial, by rw [List.append_nil]; rfl, by simp⟩
      · rename_i d hd
        refine ⟨_, trivial, rfl, ?_⟩
        intro e he
        obtain ⟨ep, hep, hsent⟩ := mem_dispatchEvent he
        exact ⟨trivial, d, hd, ep, hep, hsent⟩
    -- Through `asyncpg` the `TypeError` comes after the write and before the webhook.
    · refine ⟨[], trivial, ?_, by simp⟩
      simp only [hroute, decide_false, Bool.false_eq_true, if_false, List.append_nil]
      rfl

theorem expireEvent_frame (env : Env) (route : SweepRoute) (w : World) (row : EventRow) :
    Frame w (expireEvent env route w row) := by
  rcases expireEvent_cases env route w row with h | ⟨ems, -, h, -⟩
  · rw [h]
    exact Frame.refl w
  · rw [h]
    exact ⟨rfl, rfl, rfl, rfl, rfl⟩

end TripWire
