import TripWire.Ingestion.Effects

/-!
# Delivery attribution

Three functions call `dispatch_event` and then record a `webhook_deliveries` row for each endpoint:
`_dispatch_for_transfer`, `_promote_pre_confirmed_event` and the poller's `_transition_event`.
`dispatch_event` returns the ids of the messages that were sent, without a gap for those that were
not, and the recording loops take the id at the position of the endpoint.

Row `i` is right exactly when the compacted list has the right entry at `i`
(`getElem?_filterMap_eq_some_iff`): every send before a successful one succeeded, and a failed send
stands behind the end of the list.  When all rows can be written this says that no endpoint whose
send fails comes before one whose send succeeds (`sendsInOrder_iff_pairwise`).
-/

namespace TripWire

open Py

/-! ### Positions in a compacted list -/

/-- Entry `i` of a compacted list without repetitions is that of entry `i` exactly when nothing was
left out before it. -/
theorem getElem?_filterMap_eq_some_iff {α β : Type*} {l : List α} {f : α → Option β} {i : ℕ} {a : α}
    {b : β} (hnodup : (l.filterMap f).Nodup) (ha : l[i]? = some a) (hb : f a = some b) :
    (l.filterMap f)[i]? = some b ↔ ∀ x ∈ l.take i, (f x).isSome = true := by
  obtain ⟨hi, rfl⟩ := List.getElem?_eq_some_iff.mp ha
  have hsplit : l.filterMap f =
      (l.take i).filterMap f ++ b :: (l.drop (i + 1)).filterMap f := by
    conv_lhs => rw [← List.take_append_drop i l, List.drop_eq_getElem_cons hi]
    rw [List.filterMap_append, List.filterMap_cons_some hb]
  have hlength : (l.take i).length = i := List.length_take_of_le hi.le
  rw [← List.filterMap_length_eq_length, hlength]
  set k := ((l.take i).filterMap f).length with hk
  have hat : (l.filterMap f)[k]? = some b := by
    rw [hsplit, List.getElem?_append_right le_rfl, Nat.sub_self]
    rfl
  constructor
  · intro h
    obtain ⟨hklt, hkeq⟩ := List.getElem?_eq_some_iff.mp hat
    obtain ⟨hilt, hieq⟩ := List.getElem?_eq_some_iff.mp h
    exact (List.Nodup.getElem_inj_iff hnodup).mp (hkeq.trans hieq.symm)
  · intro h
    rw [← h]
    exact hat

/-! ### The outcome of a send, and the row that is written for it -/

/-- The send to an endpoint succeeds: it has a Convoy project, the circuit is closed and the
provider answers. -/
def sendSucceeds (env : Env) (event : EventId) (ep : Endpoint) : Bool :=
  truthy ep.convoyProjectId && !env.raises (.send event ep.id)

/-- What a send returns. -/
def sendResult (env : Env) (event : EventId) (ep : Endpoint) : Option String :=
  if sendSucceeds env event ep then some (env.messageId ep.id) else none

/-- The row of an endpoint can be written: the insert does not raise, and both foreign keys hold. -/
def deliveryWritten (env : Env) (w : World) (event : EventId) (ep : Endpoint) : Bool :=
  !env.raises (.recordDelivery event ep.id) && (w.events.get? event).isSome &&
    (w.endpoints.get? ep.id).isSome

/-- The row that a recording loop writes for an endpoint. -/
def deliveryRow (event : EventId) (messageId : Option String) (ep : Endpoint) : DeliveryRow :=
  ⟨ep.id, event, messageId, if truthy messageId then .sent else .failed⟩

/-- The list `dispatch_event` returns is the list of the results, compacted. -/
theorem messageIdsOf_dispatchEvent (env : Env) (d : Dispatch) (eps : List Endpoint) :
    messageIdsOf (dispatchEvent env d eps) = eps.filterMap (sendResult env d.event) := by
  rw [messageIdsOf, dispatchEvent, List.filterMap_filterMap]
  congr 1
  funext ep
  unfold webhookEmission sendResult sendSucceeds
  by_cases hproject : truthy ep.convoyProjectId = true
  · by_cases hsend : env.raises (.send d.event ep.id) = true <;> simp [hproject, hsend]
  · simp [hproject]

/-- The rows that a recording loop adds. -/
theorem deliveries_recordDeliveries (env : Env) (event : EventId) (messageIds : List String)
    (eps : List Endpoint) (i : ℕ) (w : World) :
    (recordDeliveries env event messageIds i eps w).deliveries = w.deliveries ++
      ((eps.zipIdx i).filter fun p => deliveryWritten env w event p.1).map fun p =>
        deliveryRow event messageIds[p.2]? p.1 := by
  induction eps generalizing i w with
  | nil => simp [recordDeliveries]
  | cons ep eps ih =>
    rw [recordDeliveries, ih, List.zipIdx_cons, List.filter_cons]
    by_cases hraise : env.raises (.recordDelivery event ep.id) = true
    · have hwritten : deliveryWritten env w event ep = false := by simp [deliveryWritten, hraise]
      simp [hraise, hwritten]
    · by_cases hkeys : (w.events.get? event).isSome ∧ (w.endpoints.get? ep.id).isSome
      · have hwritten : deliveryWritten env w event ep = true := by
          simp [deliveryWritten, hraise, hkeys.1, hkeys.2]
        have hcreate : w.createDelivery ep.id event messageIds[i]? =
            { w with deliveries := w.deliveries ++ [deliveryRow event messageIds[i]? ep] } := by
          rw [World.createDelivery, if_pos hkeys]
          rfl
        rw [if_neg hraise, hcreate, hwritten]
        simp [deliveryWritten]
      · have hwritten : deliveryWritten env w event ep = false := by
          rw [deliveryWritten, Bool.and_assoc, Bool.and_eq_false_iff]
          right
          simpa using hkeys
        have hcreate : w.createDelivery ep.id event messageIds[i]? = w := by
          rw [World.createDelivery, if_neg hkeys]
        rw [if_neg hraise, hcreate, hwritten]
        simp

/-- The rows of a recording loop after `dispatch_event`. -/
def recordedRows (env : Env) (w : World) (event : EventId) (eps : List Endpoint) :
    List DeliveryRow :=
  (eps.zipIdx.filter fun p => deliveryWritten env w event p.1).map fun p =>
    deliveryRow event (eps.filterMap (sendResult env event))[p.2]? p.1

theorem deliveries_pushWebhooks (env : Env) (w : World) (d : Dispatch) (eps : List Endpoint) :
    (pushWebhooks env w d eps).deliveries = w.deliveries ++ recordedRows env w d.event eps := by
  rw [pushWebhooks, deliveries_recordDeliveries, messageIdsOf_dispatchEvent]
  rfl

theorem mem_recordedRows {env : Env} {w : World} {event : EventId} {eps : List Endpoint}
    {row : DeliveryRow} :
    row ∈ recordedRows env w event eps ↔
      ∃ (i : ℕ) (ep : Endpoint), eps[i]? = some ep ∧ deliveryWritten env w event ep = true ∧
        row = deliveryRow event (eps.filterMap (sendResult env event))[i]? ep := by
  simp only [recordedRows, List.mem_map, List.mem_filter, Prod.exists, List.mem_zipIdx_iff_getElem?]
  constructor
  · rintro ⟨ep, i, ⟨hget, hwritten⟩, rfl⟩
    exact ⟨i, ep, hget, hwritten, rfl⟩
  · rintro ⟨i, ep, hget, hwritten, rfl⟩
    exact ⟨ep, i, ⟨hget, hwritten⟩, rfl⟩

/-! ### When the rows are right -/

/-- Each row says how the send to its own endpoint ended. -/
def Attributed (env : Env) (event : EventId) (eps : List Endpoint) (rows : List DeliveryRow) :
    Prop :=
  ∀ row ∈ rows, ∀ ep ∈ eps, row.endpointId = ep.id →
    (sendSucceeds env event ep = true →
      row.status = .sent ∧ row.providerMessageId = some (env.messageId ep.id)) ∧
    (sendSucceeds env event ep = false → row.status = .failed ∧ row.providerMessageId = none)

/-- For each endpoint whose row is written: if its send succeeds, so do those before it, and if not,
no more sends succeed than there are endpoints before it. -/
def SendsInOrder (env : Env) (w : World) (event : EventId) (eps : List Endpoint) : Prop :=
  ∀ (i : ℕ) (ep : Endpoint), eps[i]? = some ep → deliveryWritten env w event ep = true →
    (sendSucceeds env event ep = true →
      ∀ prev ∈ eps.take i, sendSucceeds env event prev = true) ∧
    (sendSucceeds env event ep = false → (eps.filter (sendSucceeds env event)).length ≤ i)

/-- The provider gives each message of a call an id of its own. -/
structure DistinctIds (env : Env) (eps : List Endpoint) : Prop where
  ne_empty : ∀ ep ∈ eps, env.messageId ep.id ≠ ""
  nodup : (eps.map fun ep => env.messageId ep.id).Nodup

section Rows

variable {env : Env} {event : EventId} {eps : List Endpoint}

theorem filterMap_sendResult :
    eps.filterMap (sendResult env event) =
      (eps.filter (sendSucceeds env event)).map fun ep => env.messageId ep.id := by
  induction eps with
  | nil => rfl
  | cons ep eps ih =>
    rw [List.filterMap_cons, List.filter_cons, ih, sendResult]
    cases sendSucceeds env event ep <;> rfl

theorem nodup_filterMap_sendResult (hids : DistinctIds env eps) :
    (eps.filterMap (sendResult env event)).Nodup := by
  rw [filterMap_sendResult]
  exact hids.nodup.sublist (List.filter_sublist.map _)

theorem isSome_sendResult (ep : Endpoint) :
    (sendResult env event ep).isSome = sendSucceeds env event ep := by
  unfold sendResult
  cases sendSucceeds env event ep <;> rfl

/-- The row of a successful send has its own id exactly when all sends before it succeed. -/
theorem deliveryRow_sent_iff (hids : DistinctIds env eps) {i : ℕ} {ep : Endpoint}
    (hget : eps[i]? = some ep) (hsend : sendSucceeds env event ep = true) :
    ((deliveryRow event (eps.filterMap (sendResult env event))[i]? ep).status = .sent ∧
        (deliveryRow event (eps.filterMap (sendResult env event))[i]? ep).providerMessageId =
          some (env.messageId ep.id)) ↔
      ∀ prev ∈ eps.take i, sendSucceeds env event prev = true := by
  have hresult : sendResult env event ep = some (env.messageId ep.id) := by
    rw [sendResult, if_pos hsend]
  have hposition := getElem?_filterMap_eq_some_iff
    (nodup_filterMap_sendResult hids) hget hresult
  simp only [isSome_sendResult] at hposition
  rw [← hposition]
  constructor
  · exact And.right
  · intro hid
    have htruthy : truthy (some (env.messageId ep.id)) = true := by
      simpa [truthy] using hids.ne_empty ep (List.mem_of_getElem? hget)
    refine ⟨?_, hid⟩
    rw [deliveryRow, hid, if_pos htruthy]

/-- The row of a failed send is empty exactly when it stands behind the end of the list. -/
theorem deliveryRow_failed_iff {i : ℕ} {ep : Endpoint} :
    ((deliveryRow event (eps.filterMap (sendResult env event))[i]? ep).status = .failed ∧
        (deliveryRow event (eps.filterMap (sendResult env event))[i]? ep).providerMessageId =
          none) ↔
      (eps.filter (sendSucceeds env event)).length ≤ i := by
  have hlength : (eps.filter (sendSucceeds env event)).length =
      (eps.filterMap (sendResult env event)).length := by
    rw [filterMap_sendResult, List.length_map]
  rw [hlength, ← List.getElem?_eq_none_iff]
  constructor
  · exact And.right
  · intro hnone
    refine ⟨?_, hnone⟩
    rw [deliveryRow, hnone]
    rfl

/-- **The rows of a recording loop are right** exactly when the sends end in order. -/
theorem attributed_recordedRows_iff (w : World) (hids : DistinctIds env eps) :
    Attributed env event eps (recordedRows env w event eps) ↔ SendsInOrder env w event eps := by
  constructor
  · intro h i ep hget hwritten
    obtain ⟨hsent, hfailed⟩ := h _ (mem_recordedRows.mpr ⟨i, ep, hget, hwritten, rfl⟩) ep
      (List.mem_of_getElem? hget) rfl
    exact ⟨fun hsend => (deliveryRow_sent_iff hids hget hsend).mp (hsent hsend),
      fun hsend => deliveryRow_failed_iff.mp (hfailed hsend)⟩
  · intro h row hrow ep hep hid
    obtain ⟨i, ep', hget, hwritten, rfl⟩ := mem_recordedRows.mp hrow
    -- the row names one endpoint of the list
    have hsame : ep' = ep := by
      apply List.inj_on_of_nodup_map hids.nodup (List.mem_of_getElem? hget) hep
      exact congrArg env.messageId hid
    subst hsame
    obtain ⟨hsent, hfailed⟩ := h i ep' hget hwritten
    exact ⟨fun hsend => (deliveryRow_sent_iff hids hget hsend).mpr (hsent hsend),
      fun hsend => deliveryRow_failed_iff.mpr (hfailed hsend)⟩

/-- When all rows are written: no endpoint whose send fails comes before one whose send succeeds. -/
theorem sendsInOrder_iff_pairwise {w : World}
    (hwritten : ∀ ep ∈ eps, deliveryWritten env w event ep = true) :
    SendsInOrder env w event eps ↔
      eps.Pairwise fun a b =>
        sendSucceeds env event b = true → sendSucceeds env event a = true := by
  rw [List.pairwise_iff_getElem]
  constructor
  · intro h i j hi hj hij hsend
    obtain ⟨hsent, -⟩ := h j eps[j] (List.getElem?_eq_getElem hj) (hwritten _ (List.getElem_mem hj))
    exact hsent hsend _ (List.mem_take_iff_getElem.mpr ⟨i, by omega, rfl⟩)
  · intro h i ep hget _
    obtain ⟨hi, rfl⟩ := List.getElem?_eq_some_iff.mp hget
    constructor
    · intro hsend prev hprev
      obtain ⟨j, hj, rfl⟩ := List.mem_take_iff_getElem.mp hprev
      exact h j i (by omega) hi (by omega) hsend
    · intro hfail
      -- the successful sends are all before position `i`
      have hdrop : (eps.drop i).filter (sendSucceeds env event) = [] := by
        rw [List.filter_eq_nil_iff]
        intro ep hep hsend
        obtain ⟨j, hj, rfl⟩ := List.mem_drop_iff_getElem.mp hep
        rcases Nat.eq_zero_or_pos j with rfl | hpos
        · simp only [Nat.add_zero] at hsend
          rw [hfail] at hsend
          cases hsend
        · rw [h i (i + j) hi (by omega) (by omega) hsend] at hfail
          cases hfail
      calc (eps.filter (sendSucceeds env event)).length
          = ((eps.take i).filter (sendSucceeds env event)).length := by
            conv_lhs => rw [← List.take_append_drop i eps, List.filter_append, hdrop]
            rw [List.append_nil]
        _ ≤ (eps.take i).length := List.length_filter_le _ _
        _ ≤ i := List.length_take_le i eps

end Rows

/-! ### The three recorders -/

/-- A call of one of the functions that record deliveries. -/
inductive Recorder where
  | dispatchForTransfer (t : ERC3009Transfer) (finality : Option FinalityStatus)
      (identity : Option AgentIdentity) (eventTypeOverride : Option WebhookEventType)
      (eventId : Option EventId)
  | promotePreConfirmedEvent (id : EventId) (t : ERC3009Transfer)
  | transitionEvent (row : EventRow) (newStatus : EventStatus) (type : WebhookEventType)

namespace Recorder

/-- The world the call leaves behind. -/
def run (env : Env) (w : World) : Recorder → World
  | .dispatchForTransfer t finality identity eventTypeOverride eventId =>
    (TripWire.dispatchForTransfer env w t finality identity eventTypeOverride eventId).1
  | .promotePreConfirmedEvent id t => (TripWire.promotePreConfirmedEvent env w id t).1
  | .transitionEvent row newStatus type => TripWire.transitionEvent env w row newStatus type

/-- Where a recording loop starts: the world, the event and the endpoints it runs over. -/
structure Loop where
  world : World
  event : EventId
  endpoints : List Endpoint

/-- The loop of a call; `none` when the call does not get there. -/
def loop (env : Env) (w : World) : Recorder → Option Loop
  | .dispatchForTransfer t finality identity eventTypeOverride eventId => do
    let endpoints ← (fetchMatchingEndpoints env w t).toOption
    let plan ← (planDispatch t finality identity eventTypeOverride endpoints).toOption
    let (w₁, id) := chooseEventId w eventId
    let row := eventRow env.now id t finality plan.type (plan.matched.head?.map (·.id))
    return ⟨linkStage env (recordEvent env w₁ row) id plan, id, inMode .execute plan.approved⟩
  | .promotePreConfirmedEvent id t =>
    if env.raises (.promoteToConfirmed id) then none
    else do
      let (w₁, row) := w.promoteToConfirmed env.now id t
      let row ← row
      let verdicts ← (policyVerdicts (buildTransferData t) (promotionDispatch env row t).identity
        (promotionEndpoints env w₁ row)).toOption
      return ⟨w₁, row.id, inMode .execute (approvedOf verdicts)⟩
  | .transitionEvent row newStatus type =>
    if env.raises (.updateStatus row.id) then none
    else do
      let w₁ := w.updateStatus env.now row.id newStatus
      let d ← transitionDispatch env row newStatus type
      return ⟨w₁, d.event, polledEndpoints env w₁ row⟩

/-- The rows of a loop. -/
def rows (env : Env) : Option Loop → List DeliveryRow
  | none => []
  | some L => recordedRows env L.world L.event L.endpoints

theorem deliveries_deliver (env : Env) (w : World) (d : Dispatch) (approved : List Endpoint) :
    (deliver env w d approved).1.deliveries =
      w.deliveries ++ recordedRows env w d.event (inMode .execute approved) := by
  rw [← deliveries_pushWebhooks]
  simp only [deliver]
  split <;> rfl

/-- The stages before the loop write no delivery. -/
theorem deliveries_linkStage (env : Env) (w : World) (eventId : Option EventId) (row : EventRow)
    (plan : Plan) :
    (linkStage env (recordEvent env (chooseEventId w eventId).1 row) (chooseEventId w eventId).2
      plan).deliveries = w.deliveries := by
  obtain ⟨n, table, links, log, hframe⟩ := recordStages_frame env w eventId row plan
  rw [hframe]

theorem deliveries_dispatchForTransfer (env : Env) (w : World) (t : ERC3009Transfer)
    (finality : Option FinalityStatus) (identity : Option AgentIdentity)
    (eventTypeOverride : Option WebhookEventType) (eventId : Option EventId) :
    (TripWire.dispatchForTransfer env w t finality identity eventTypeOverride
        eventId).1.deliveries =
      w.deliveries ++
        rows env (loop env w (.dispatchForTransfer t finality identity eventTypeOverride
          eventId)) := by
  cases hfetch : fetchMatchingEndpoints env w t with
  | error e => simp [TripWire.dispatchForTransfer, loop, hfetch, Except.toOption, rows]
  | ok endpoints =>
    cases hplan : planDispatch t finality identity eventTypeOverride endpoints with
    | error e => simp [TripWire.dispatchForTransfer, loop, hfetch, hplan, Except.toOption, rows]
    | ok plan =>
      have hloop : loop env w (.dispatchForTransfer t finality identity eventTypeOverride eventId) =
          some ⟨linkStage env (recordEvent env (chooseEventId w eventId).1
              (eventRow env.now (chooseEventId w eventId).2 t finality plan.type
                (plan.matched.head?.map (·.id)))) (chooseEventId w eventId).2 plan,
            (chooseEventId w eventId).2, inMode .execute plan.approved⟩ := by
        simp [loop, hfetch, hplan, Except.toOption]
      rw [hloop]
      simp only [TripWire.dispatchForTransfer, hfetch, hplan, deliveries_deliver,
        deliveries_linkStage, rows]

theorem deliveries_dispatchPromotion (env : Env) (w : World) (row : EventRow)
    (t : ERC3009Transfer) :
    (dispatchPromotion env w row t).1.deliveries = w.deliveries ++ rows env (do
      let verdicts ← (policyVerdicts (buildTransferData t) (promotionDispatch env row t).identity
        (promotionEndpoints env w row)).toOption
      return ⟨w, row.id, inMode .execute (approvedOf verdicts)⟩) := by
  cases hverdicts : policyVerdicts (buildTransferData t) (promotionDispatch env row t).identity
      (promotionEndpoints env w row) with
  | error e => simp [dispatchPromotion, hverdicts, Except.toOption, rows]
  | ok verdicts =>
    simp only [dispatchPromotion, hverdicts]
    exact deliveries_pushWebhooks env w (promotionDispatch env row t)
      (inMode .execute (approvedOf verdicts))

theorem deliveries_promotePreConfirmedEvent (env : Env) (w : World) (id : EventId)
    (t : ERC3009Transfer) :
    (TripWire.promotePreConfirmedEvent env w id t).1.deliveries =
      w.deliveries ++ rows env (loop env w (.promotePreConfirmedEvent id t)) := by
  by_cases hraise : env.raises (.promoteToConfirmed id) = true
  · simp [TripWire.promotePreConfirmedEvent, loop, hraise, rows]
  · cases hrow : (w.promoteToConfirmed env.now id t).2 with
    | none =>
      have hpair : w.promoteToConfirmed env.now id t =
          ((w.promoteToConfirmed env.now id t).1, none) := Prod.ext rfl hrow
      have hloop : loop env w (.promotePreConfirmedEvent id t) = none := by
        rw [loop, if_neg hraise, hpair]
        rfl
      rw [hloop, TripWire.promotePreConfirmedEvent, if_neg hraise, hpair, rows, List.append_nil]
      rfl
    | some row =>
      have hpair : w.promoteToConfirmed env.now id t =
          ((w.promoteToConfirmed env.now id t).1, some row) := Prod.ext rfl hrow
      rw [loop, TripWire.promotePreConfirmedEvent, if_neg hraise, if_neg hraise, hpair]
      exact deliveries_dispatchPromotion env (w.promoteToConfirmed env.now id t).1 row t

theorem deliveries_transitionEvent (env : Env) (w : World) (row : EventRow)
    (newStatus : EventStatus) (type : WebhookEventType) :
    (TripWire.transitionEvent env w row newStatus type).deliveries =
      w.deliveries ++ rows env (loop env w (.transitionEvent row newStatus type)) := by
  by_cases hraise : env.raises (.updateStatus row.id) = true
  · simp [TripWire.transitionEvent, loop, hraise, rows]
  · cases hd : transitionDispatch env row newStatus type with
    | none =>
      simp [TripWire.transitionEvent, loop, hraise, hd, rows, World.updateStatus, World.updateEvent]
    | some d =>
      rw [TripWire.transitionEvent, loop, if_neg hraise, if_neg hraise, hd]
      exact deliveries_pushWebhooks env (w.updateStatus env.now row.id newStatus) d
        (polledEndpoints env (w.updateStatus env.now row.id newStatus) row)

/-- **What a recorder adds to the deliveries**: the rows of its loop. -/
theorem deliveries_run (env : Env) (w : World) (r : Recorder) :
    (r.run env w).deliveries = w.deliveries ++ rows env (r.loop env w) := by
  cases r with
  | dispatchForTransfer t finality identity eventTypeOverride eventId =>
    exact deliveries_dispatchForTransfer env w t finality identity eventTypeOverride eventId
  | promotePreConfirmedEvent id t => exact deliveries_promotePreConfirmedEvent env w id t
  | transitionEvent row newStatus type =>
    exact deliveries_transitionEvent env w row newStatus type

/-- **Attribution**: in all three recorders, the rows that are written are right exactly when the
sends end in order. -/
theorem attributed_iff {env : Env} {w : World} {r : Recorder} {L : Loop}
    (hloop : r.loop env w = some L) (hids : DistinctIds env L.endpoints) :
    ∃ added, (r.run env w).deliveries = w.deliveries ++ added ∧
      (Attributed env L.event L.endpoints added ↔
        SendsInOrder env L.world L.event L.endpoints) := by
  refine ⟨recordedRows env L.world L.event L.endpoints, ?_, ?_⟩
  · rw [deliveries_run, hloop, rows]
  · exact attributed_recordedRows_iff L.world hids

end Recorder

namespace Sample

/-- An execute endpoint of the recipient, with or without a Convoy project. -/
def endpointNamed (id : EndpointId) (convoyProjectId : Option String) : Endpoint :=
  { endpoint {} with id, convoyProjectId }

/-- Two endpoints, of which the first has no project. -/
def twoEndpoints : List Endpoint := [endpointNamed "a" none, endpointNamed "b" (some "project")]

/-- The database with the two endpoints. -/
def twoEndpointsWorld : World := { endpoints := ⟨twoEndpoints, by decide⟩ }

/-- The payment is new. -/
def newPayment : Recorder := .dispatchForTransfer (onchain 100) none none none none

/-- The database after it is recorded. -/
def recordedWorld : World := newPayment.run {} twoEndpointsWorld

/-- The event is promoted. -/
def promotion : Recorder := .promotePreConfirmedEvent 0 (onchain 100)

/-- The poller confirms it. -/
def confirmation : Recorder :=
  .transitionEvent (eventRow 0 0 (onchain 100) none .paymentPending (some "a")) .confirmed
    .paymentConfirmed

/-- The rows of the two endpoints, the message id of the second in the row of the first. -/
def swappedRows : List DeliveryRow := [⟨"a", 0, some "b", .sent⟩, ⟨"b", 0, none, .failed⟩]

end Sample

namespace Recorder

/-- The loop of a new payment to the two endpoints. -/
theorem attributed_iff_newPayment :
    ∃ L, Sample.newPayment.loop {} Sample.twoEndpointsWorld = some L ∧
      DistinctIds {} L.endpoints ∧
      ∃ added, (Sample.newPayment.run {} Sample.twoEndpointsWorld).deliveries =
          Sample.twoEndpointsWorld.deliveries ++ added ∧
        (Attributed {} L.event L.endpoints added ↔
          SendsInOrder {} L.world L.event L.endpoints) := by
  have hendpoints : (Sample.newPayment.loop {} Sample.twoEndpointsWorld).map Loop.endpoints =
      some Sample.twoEndpoints := by
    decide +kernel
  obtain ⟨L, hloop, hL⟩ := Option.map_eq_some_iff.mp hendpoints
  have hids : DistinctIds {} L.endpoints := by
    rw [hL]
    exact ⟨by decide, by decide⟩
  exact ⟨L, hloop, hids, attributed_iff hloop hids⟩

/-- With the first endpoint skipped, all three recorders write the id of the second message into the
row of the first. -/
theorem deliveries_swapped :
    (Sample.newPayment.run {} Sample.twoEndpointsWorld).deliveries = Sample.swappedRows ∧
      (Sample.promotion.run {} Sample.recordedWorld).deliveries =
        Sample.recordedWorld.deliveries ++ Sample.swappedRows ∧
      (Sample.confirmation.run {} Sample.recordedWorld).deliveries =
        Sample.recordedWorld.deliveries ++ Sample.swappedRows ∧
      ¬ Attributed {} 0 Sample.twoEndpoints Sample.swappedRows := by
  refine ⟨by decide +kernel, by decide +kernel, by decide +kernel, ?_⟩
  intro h
  obtain ⟨-, hfailed⟩ := h _ List.mem_cons_self _ List.mem_cons_self rfl
  cases (hfailed rfl).1

end Recorder

end TripWire
