import TripWire.Keeper.Polling
import TripWire.Pulse.Isolation
import TripWire.Pulse.System

/-!
# Which moves of the poller are told

The poller moves the rows of three inserters and builds its webhooks from the row alone
(`reconstructTransfer`).  `RowShape` says what the inserters leave in the table: a Keeper row makes
a transfer, also after a promotion, and a Pulse row, whose payment columns are null, never does.

The status is written before the transfer is rebuilt.  So the move of a Keeper row reaches each of
its endpoints with one webhook, and the move of a Pulse row reaches none (`informed_iff`).
-/

namespace TripWire

open Py

/-! ### Rows that make a transfer -/

/-- An address that was validated once is validated again when it is read back. -/
theorem bind_validate_val (a : EthAddress) : (some a.val).bind EthAddress.validate = some a := by
  have hstrip : strip a.val = a.val := strip_of_isEthAddress a.property
  rw [Option.bind_some, EthAddress.validate, dif_pos (by rw [hstrip]; exact a.property)]
  exact congrArg some (Subtype.ext hstrip)

/-- The row of a new transfer makes a transfer: the addresses in it were validated once already. -/
theorem isSome_reconstructTransfer_eventRow (now : ℤ) (id : EventId) (t : ERC3009Transfer)
    (finality : Option FinalityStatus) (type : WebhookEventType) (endpointId : Option EndpointId) :
    (reconstructTransfer (eventRow now id t finality type endpointId)).isSome = true := by
  have hmakes : reconstructTransfer (eventRow now id t finality type endpointId) =
      some { t with txHash := strip t.txHash, blockHash := strip t.blockHash,
                    value := strip t.value, nonce := strip t.nonce, token := strip t.token } := by
    rw [reconstructTransfer_eq_some_iff]
    have hchain : (ChainId.ofValue t.chainId.value).toOption = some t.chainId := by
      cases t.chainId <;> rfl
    refine ⟨hchain, rfl, rfl, rfl, rfl, bind_validate_val t.fromAddress,
      bind_validate_val t.toAddress, ?_, bind_validate_val t.authorizer, rfl, rfl⟩
    show strip t.value = strip ((some t.value).getD "None")
    rw [Option.getD_some]
  rw [hmakes]
  rfl

/-- A promotion writes columns that are not null. -/
theorem isSome_reconstructTransfer_promoted (now : ℤ) (t : ERC3009Transfer) {row : EventRow}
    (h : (reconstructTransfer row).isSome = true) :
    (reconstructTransfer (row.promoted now t)).isSome = true := by
  obtain ⟨old, hold⟩ := Option.isSome_iff_exists.mp h
  obtain ⟨hchain, -, -, -, -, hrest⟩ := reconstructTransfer_eq_some_iff.mp hold
  have hmakes : reconstructTransfer (row.promoted now t) =
      some { old with txHash := strip t.txHash, blockNumber := t.blockNumber,
                      blockHash := strip t.blockHash, logIndex := t.logIndex } :=
    reconstructTransfer_eq_some_iff.mpr ⟨hchain, rfl, rfl, rfl, rfl, hrest⟩
  rw [hmakes]
  rfl

/-- A Pulse row has no authorizer, so it makes no transfer. -/
theorem reconstructTransfer_of_isPulseRow {row : EventRow} (h : IsPulseRow row) :
    reconstructTransfer row = none := by
  cases hrecon : reconstructTransfer row with
  | none => rfl
  | some t =>
    obtain ⟨-, -, -, -, -, -, -, -, hauth, -⟩ := reconstructTransfer_eq_some_iff.mp hrecon
    rw [h.2] at hauth
    cases hauth

/-! ### What the inserters leave in the table -/

/-- A row of the events table: a Keeper row that makes a transfer, or a Pulse row. -/
def RowShape (row : EventRow) : Prop :=
  (row.productSource = .keeper ∧ (reconstructTransfer row).isSome = true) ∨ IsPulseRow row

theorem RowShape.eventRow (now : ℤ) (id : EventId) (t : ERC3009Transfer)
    (finality : Option FinalityStatus) (type : WebhookEventType) (endpointId : Option EndpointId) :
    RowShape (TripWire.eventRow now id t finality type endpointId) :=
  Or.inl ⟨rfl, isSome_reconstructTransfer_eventRow now id t finality type endpointId⟩

theorem RowShape.promoted (now : ℤ) (t : ERC3009Transfer) {row : EventRow} (h : RowShape row) :
    RowShape (row.promoted now t) := by
  rcases h with ⟨hsource, hmakes⟩ | hpulse
  · exact Or.inl ⟨hsource, isSome_reconstructTransfer_promoted now t hmakes⟩
  · exact Or.inr hpulse

/-- The columns that the poller and the sweeper write are not read when a transfer is rebuilt. -/
theorem RowShape.moved {row : EventRow} (h : RowShape row) (status : EventStatus) (depth : ℤ)
    (confirmedAt : Option ℤ) :
    RowShape { row with status, finalityDepth := depth, confirmedAt } := by
  rcases h with ⟨hsource, hmakes⟩ | hpulse
  · exact Or.inl ⟨hsource, hmakes⟩
  · exact Or.inr hpulse

/-- What every run leaves in the tables. -/
structure Recorded (w : World) : Prop where
  rows : ∀ id row, w.events.get? id = some row → RowShape row
  links : w.eventEndpoints.Nodup

theorem recorded_empty : Recorded {} := ⟨fun _ _ h => (by cases h), List.nodup_nil⟩

theorem Recorded.keeperStep {w : World} (h : Recorded w) (a : KeeperAction) :
    Recorded (TripWire.keeperStep w a) where
  rows := by
    intro id row hrow
    rcases keeperStep_events w a id with hsame | ⟨new, hnew, hwrite⟩
    · rw [hsame] at hrow
      exact h.rows id row hrow
    · rw [hnew] at hrow
      obtain rfl := Option.some.inj hrow
      cases hwrite with
      | announced | ingested => exact RowShape.eventRow _ _ _ _ _ _
      | @promoted env _ t old merged =>
        have hold := get?_of_promotedRow (promotedRow_of_mergedRow merged)
        exact (h.rows _ old hold).promoted env.now t
      | @polled env chain row _ pending polled =>
        obtain ⟨status, depth, confirmedAt, rfl, -⟩ := polled
        have hread := (polledRows_snapshot env w chain).read row pending
        exact (h.rows _ row hread).moved status depth confirmedAt
      | @expired env route ttl row stale _ =>
        have hread := (sweptRows_snapshot env route ttl w).read row stale
        exact (h.rows _ row hread).moved _ row.finalityDepth _
  links := keeperStep_nodup a h.links

theorem Recorded.pulse {w w' : World} (h : Recorded w) (heffect : PulseEffect w w') :
    Recorded w' where
  rows := by
    intro id row hrow
    rcases heffect.events id with hsame | ⟨new, hnew, -, -, hpulse⟩
    · rw [hsame] at hrow
      exact h.rows id row hrow
    · rw [hnew] at hrow
      obtain rfl := Option.some.inj hrow
      exact Or.inr hpulse
  links := by
    obtain ⟨-, -, -, hnodup⟩ := heffect.links
    exact hnodup h.links

/-- **The tables after a run.** -/
theorem recorded_of_run (as : List PipelineAction) : Recorded (Machine.run pipelineStep {} as) := by
  refine Machine.run_invariant ?_ as recorded_empty
  intro w a hw
  rcases pipelineStep_cases w a with ⟨k, -, hk⟩ | heffect
  · rw [hk]
    exact hw.keeperStep k
  · exact hw.pulse heffect

/-! ### The endpoints of a row -/

theorem polledEndpoints_of_healthy {env : Env} (henv : PollHealthy env) (w : World)
    (row : EventRow) :
    polledEndpoints env w row = (w.getEndpointIds row.id).filterMap w.endpoints.get? := by
  unfold polledEndpoints linkedEndpointIds fetchEndpoints
  rw [henv.tables (.getEndpointIds row.id) rfl]
  simp only [Bool.false_eq_true, if_false]
  refine List.filterMap_congr fun eid _ => ?_
  rw [henv.tables (.getEndpoint row.id eid) rfl]
  simp

theorem nodup_getEndpointIds {w : World} (h : w.eventEndpoints.Nodup) (id : EventId) :
    (w.getEndpointIds id).Nodup := by
  unfold World.getEndpointIds
  refine List.Nodup.map_on ?_ (h.filter _)
  rintro ⟨i, eid⟩ hl ⟨j, eid'⟩ hl' rfl
  have hi : i = id := by simpa using (List.mem_filter.mp hl).2
  have hj : j = id := by simpa using (List.mem_filter.mp hl').2
  rw [hi, hj]

/-- No endpoint object appears twice. -/
theorem nodup_polledEndpoints {env : Env} (henv : PollHealthy env) {w : World} (row : EventRow)
    (h : w.eventEndpoints.Nodup) : ((polledEndpoints env w row).map Endpoint.id).Nodup := by
  rw [polledEndpoints_of_healthy henv, List.map_filterMap]
  refine List.Nodup.filterMap ?_ (nodup_getEndpointIds h row.id)
  intro eid eid' b hb hb'
  obtain ⟨ep, hep, rfl⟩ := Option.map_eq_some_iff.mp hb
  obtain ⟨ep', hep', hid⟩ := Option.map_eq_some_iff.mp hb'
  rw [← KeyedTable.key_of_get? hep, ← KeyedTable.key_of_get? hep', hid]

theorem mem_polledEndpoints {env : Env} (henv : PollHealthy env) {w : World} {row : EventRow}
    {ep : Endpoint} (hlinked : (row.id, ep.id) ∈ w.eventEndpoints)
    (hep : w.endpoints.get? ep.id = some ep) : ep ∈ polledEndpoints env w row := by
  rw [polledEndpoints_of_healthy henv]
  refine List.mem_filterMap.mpr ⟨ep.id, ?_, hep⟩
  exact List.mem_map.mpr ⟨_, List.mem_filter.mpr ⟨hlinked, by simp⟩, rfl⟩

/-- `dispatch_event` sends one webhook to each endpoint with a project. -/
theorem dispatchEvent_to {env : Env} {d : Dispatch} {endpoints : List Endpoint} {ep : Endpoint}
    {e : Emission} (hnodup : (endpoints.map Endpoint.id).Nodup) (hep : ep ∈ endpoints)
    (hsent : webhookEmission env d ep = some e) :
    (dispatchEvent env d endpoints).filter (fun e => e.endpoint.id = ep.id) = [e] := by
  have hflat : dispatchEvent env d endpoints =
      endpoints.flatMap fun ep => (webhookEmission env d ep).toList := by
    unfold dispatchEvent
    rw [List.filterMap_eq_flatMap_toList]
  have hlabel : ∀ ep' ∈ endpoints, ∀ e' ∈ (webhookEmission env d ep').toList,
      (fun e : Emission => e.endpoint.id) e' = ep'.id := by
    intro ep' _ e' he'
    show e'.endpoint.id = ep'.id
    rw [(webhookEmission_spec (Option.mem_toList.mp he')).2.1]
  rw [hflat, KeyedTable.filter_flatMap_of_nodup hnodup hlabel hep, hsent]
  rfl

/-! ### Telling of a move -/

/-- The event types that tell of a move to a status: `payment.*` for a Keeper row, `trigger.*` for a
Pulse row. -/
def TellsOf (source : ProductSource) (status : EventStatus) (type : WebhookEventType) : Prop :=
  match source with
  | .keeper =>
    (status = .confirmed ∧ type = .paymentConfirmed) ∨
      (status = .finalized ∧ type = .paymentFinalized) ∨
      (status = .reorged ∧ type = .paymentReorged)
  | .pulse => type = .triggerMatched ∨ type = .triggerConfirmed ∨ type = .triggerFinalized

/-- The payloads of the webhooks that a step sends to an endpoint about an event. -/
def webhooksTo (w : World) (a : KeeperAction) (id : EventId) (eid : EndpointId) :
    List WebhookPayload :=
  (((newMessages w a).filter fun e => e.event = id).filter fun e => e.endpoint.id = eid).filterMap
    fun e => e.message.webhook?

/-- The step sends the endpoint exactly one webhook about the event of the row, of a type that tells
of its move to `status`. -/
def Informed (w : World) (a : KeeperAction) (row : EventRow) (status : EventStatus)
    (eid : EndpointId) : Prop :=
  ∃ payload, webhooksTo w a row.id eid = [payload] ∧
    TellsOf row.productSource status payload.type

/-- A row whose status has changed was one of the rows of the cycle. -/
theorem polled_of_moved {env : Env} (henv : PollHealthy env) {w : World} {chain : ChainId}
    {row new : EventRow} (hrow : w.events.get? row.id = some row)
    (hnew : (pollChain env w chain).events.get? row.id = some new)
    (hmoved : new.status ≠ row.status) :
    row ∈ fetchPendingEvents w chain ∧ new.status = polledStatus env chain row := by
  have hmem : row ∈ fetchPendingEvents w chain := by
    rw [← polledRows_of_healthy henv]
    rcases keeperStep_events w (.poll env chain) row.id with hsame | ⟨new', hnew', hwrite⟩
    · have hsame' : (pollChain env w chain).events.get? row.id = w.events.get? row.id := hsame
      rw [hsame', hrow] at hnew
      obtain rfl := Option.some.inj hnew
      exact absurd rfl hmoved
    · cases hwrite with
      | @polled _ _ old _ pending polled =>
        obtain ⟨status, depth, confirmedAt, rfl, -⟩ := polled
        have hid : EventRow.id _ = row.id := KeyedTable.key_of_get? hnew'
        have hread := (polledRows_snapshot env w chain).read old pending
        rw [show old.id = row.id from hid, hrow] at hread
        obtain rfl := Option.some.inj hread
        exact pending
  obtain ⟨new', hnew', hstatus⟩ := pollChain_status henv hmem
  rw [hnew] at hnew'
  obtain rfl := Option.some.inj hnew'
  exact ⟨hmem, hstatus⟩

/-- The call of a round that moves its row has the type of the move. -/
theorem polledDispatch_of_moved {env : Env} {chain : ChainId} {row : EventRow}
    {t : ERC3009Transfer} (ht : reconstructTransfer row = some t)
    (hmoved : polledStatus env chain row ≠ row.status) :
    ∃ d, polledDispatch env chain row = some d ∧
      TellsOf .keeper (polledStatus env chain row) d.type := by
  unfold polledStatus at hmoved ⊢
  unfold polledDispatch transitionDispatch reorgDispatch
  rw [ht]
  by_cases hreorg : isReorged env row = true
  · rw [if_pos hreorg, if_pos hreorg]
    exact ⟨_, rfl, Or.inr (Or.inr ⟨rfl, rfl⟩)⟩
  · rw [if_neg hreorg] at hmoved ⊢
    rw [if_neg hreorg]
    by_cases hreached : finalityDepths chain ≤ polledConfirmations env row
    · rw [if_pos hreached] at hmoved ⊢
      rw [if_pos hreached]
      cases hstatus : row.status with
      | pending => exact ⟨_, rfl, Or.inl ⟨rfl, rfl⟩⟩
      | confirmed => exact ⟨_, rfl, Or.inr (Or.inl ⟨rfl, rfl⟩)⟩
      | preConfirmed | finalized | reorged | paymentFailed =>
        rw [hstatus] at hmoved
        exact absurd rfl hmoved
    · rw [if_neg hreached] at hmoved
      exact absurd rfl hmoved

/-- Without a transfer a round has no call. -/
theorem polledDispatch_of_none {env : Env} {chain : ChainId} {row : EventRow}
    (h : reconstructTransfer row = none) : polledDispatch env chain row = none := by
  unfold polledDispatch transitionDispatch reorgDispatch
  rw [h]
  split_ifs
  · rfl
  · split <;> rfl
  · rfl

theorem webhook?_of_webhookEmission {env : Env} {d : Dispatch} {ep : Endpoint} {e : Emission}
    (h : webhookEmission env d ep = some e) :
    ∃ payload, e.message.webhook? = some payload ∧ payload.type = d.type := by
  obtain ⟨-, rfl⟩ := webhookEmission_eq_some h
  exact ⟨_, rfl, rfl⟩

/-- **Which moves are told.** In every run of the pipeline, when no call fails and the poller moves
a row, an endpoint with a project that is linked to the row, whatever its mode, is sent exactly one
webhook of the right type if and only if the row is a Keeper row. -/
theorem informed_iff (as : List PipelineAction) {env : Env} (henv : PollHealthy env)
    {chain : ChainId} {w : World} (hw : w = Machine.run pipelineStep {} as) {row new : EventRow}
    (hrow : w.events.get? row.id = some row)
    (hnew : (keeperStep w (.poll env chain)).events.get? row.id = some new)
    (hmoved : new.status ≠ row.status) {ep : Endpoint}
    (hlinked : (row.id, ep.id) ∈ w.eventEndpoints) (hep : w.endpoints.get? ep.id = some ep)
    (hproject : truthy ep.convoyProjectId = true) :
    Informed w (.poll env chain) row new.status ep.id ↔ row.productSource = .keeper := by
  have hrecorded : Recorded w := by
    rw [hw]
    exact recorded_of_run as
  obtain ⟨hmem, hstatus⟩ := polled_of_moved henv hrow hnew hmoved
  rw [hstatus] at hmoved ⊢
  unfold Informed webhooksTo
  rw [newMessages_poll_row henv hmem]
  rcases hrecorded.rows _ row hrow with ⟨hkeeper, hmakes⟩ | hpulse
  · refine iff_of_true ?_ hkeeper
    obtain ⟨t, ht⟩ := Option.isSome_iff_exists.mp hmakes
    obtain ⟨d, hd, htype⟩ := polledDispatch_of_moved ht hmoved
    obtain ⟨e, hsent⟩ : ∃ e, webhookEmission env d ep = some e := by
      unfold webhookEmission
      rw [if_pos hproject]
      exact ⟨_, rfl⟩
    have hround : polledMessages env chain w row =
        dispatchEvent env d (polledEndpoints env w row) := by
      unfold polledMessages rowWebhooks
      rw [hd]
      rfl
    rw [hround, dispatchEvent_to (nodup_polledEndpoints henv row hrecorded.links)
      (mem_polledEndpoints henv hlinked hep) hsent]
    obtain ⟨payload, hpayload, hpayloadtype⟩ := webhook?_of_webhookEmission hsent
    refine ⟨payload, ?_, ?_⟩
    · simp [hpayload]
    · rw [hkeeper, hpayloadtype]
      exact htype
  · -- no call, so no webhook, and the source is the other one
    have hround : polledMessages env chain w row = [] := by
      unfold polledMessages rowWebhooks
      rw [polledDispatch_of_none (reconstructTransfer_of_isPulseRow hpulse)]
      rfl
    have hsource : row.productSource ≠ .keeper := by
      rw [hpulse.1]
      decide
    refine iff_of_false ?_ hsource
    rintro ⟨payload, hpayload, -⟩
    rw [hround] at hpayload
    cases hpayload

namespace Sample

theorem pollHealthy_height (blockNumber : ℤ) : PollHealthy (height blockNumber) :=
  ⟨rfl, fun _ _ => rfl⟩

/-- The run that records the sample payment as pending. -/
def paymentRun : List PipelineAction :=
  [.keeper (register {}), .keeper (.goldsky (height 100) true (.ok (onchain 100)))]

/-- The run in which a trigger of an endpoint that waits for one block matches a log one block
deep. -/
def triggerRun : List PipelineAction :=
  [.keeper (register { finalityDepth := some ⟨1, by decide⟩ }),
    .unified (height 101) emptyExpression rawLog [trigger "t" []]]

/-- The world after the payment. -/
def paid : World := Machine.run pipelineStep {} paymentRun

/-- The world after the match. -/
def matchedOnce : World := Machine.run pipelineStep {} triggerRun

end Sample

/-- The sample payment is confirmed at height 110, and its endpoint is told. -/
theorem informed_iff_payment :
    ∃ row ∈ Sample.paid.events.get? 0,
      ∃ new ∈ (keeperStep Sample.paid (.poll (Sample.height 110) .base)).events.get? 0,
        new.status = .confirmed ∧
          Informed Sample.paid (.poll (Sample.height 110) .base) row new.status "endpoint" := by
  obtain ⟨row, hrow, new, hnew, hid, hsource, hold, hstatus⟩ :
      ∃ row ∈ Sample.paid.events.get? 0,
        ∃ new ∈ (keeperStep Sample.paid (.poll (Sample.height 110) .base)).events.get? 0,
          row.id = 0 ∧ row.productSource = .keeper ∧ row.status = .pending ∧
            new.status = .confirmed := by
    decide +kernel
  have hread : Sample.paid.events.get? row.id = some row := by
    rw [hid]
    exact hrow
  have hwritten : (keeperStep Sample.paid (.poll (Sample.height 110) .base)).events.get? row.id =
      some new := by
    rw [hid]
    exact hnew
  have hmoved : new.status ≠ row.status := by
    rw [hold, hstatus]
    decide
  have hlinked : (row.id, (Sample.endpoint {}).id) ∈ Sample.paid.eventEndpoints := by
    rw [hid]
    decide +kernel
  refine ⟨row, hrow, new, hnew, hstatus, ?_⟩
  exact (informed_iff Sample.paymentRun (Sample.pollHealthy_height 110) rfl hread hwritten hmoved
    hlinked (by decide +kernel) (by decide)).mpr hsource

/-- The row of a trigger event is moved to `finalized` at height 110, and its endpoint, which was
told that the event is confirmed, hears nothing. -/
theorem not_informed_trigger :
    ∃ row ∈ Sample.matchedOnce.events.get? 0,
      ∃ new ∈ (keeperStep Sample.matchedOnce (.poll (Sample.height 110) .base)).events.get? 0,
        row.status = .confirmed ∧ new.status = .finalized ∧
          (row.id, "endpoint") ∈ Sample.matchedOnce.eventEndpoints ∧
          (∃ ep ∈ Sample.matchedOnce.endpoints.get? "endpoint",
            ep.mode = .execute ∧ truthy ep.convoyProjectId = true) ∧
          ¬ Informed Sample.matchedOnce (.poll (Sample.height 110) .base) row new.status
            "endpoint" := by
  obtain ⟨row, hrow, new, hnew, hold, hstatus, hlinked, hep, hsent⟩ :
      ∃ row ∈ Sample.matchedOnce.events.get? 0,
        ∃ new ∈ (keeperStep Sample.matchedOnce (.poll (Sample.height 110) .base)).events.get? 0,
          row.status = .confirmed ∧ new.status = .finalized ∧
            (row.id, "endpoint") ∈ Sample.matchedOnce.eventEndpoints ∧
            (∃ ep ∈ Sample.matchedOnce.endpoints.get? "endpoint",
              ep.mode = .execute ∧ truthy ep.convoyProjectId = true) ∧
            webhooksTo Sample.matchedOnce (.poll (Sample.height 110) .base) row.id "endpoint" =
              [] := by
    decide +kernel
  refine ⟨row, hrow, new, hnew, hold, hstatus, hlinked, hep, ?_⟩
  rintro ⟨payload, hpayload, -⟩
  rw [hsent] at hpayload
  cases hpayload

end TripWire
