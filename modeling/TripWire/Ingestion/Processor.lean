import TripWire.Policies.Engine
import TripWire.Webhook.Dispatcher

/-!
# The event processor

The generic part of the ingestion pipeline (`tripwire/ingestion/processor.py`):
`dispatchForTransfer` takes a new transfer through endpoint matching, policies, recording and
dispatch; `promotePreConfirmedEvent` merges an onchain transfer into the row the facilitator
recorded; `processPreConfirmedEvent` is the facilitator's fast path.

`dispatchForTransfer` is cut at its database statements into stages (`fetchMatchingEndpoints`,
`planDispatch`, `recordEvent`, `linkStage`, `deliver`), so that a model in which other tasks run
between two statements can use the same stages.

A function of the pipeline returns the world it leaves behind next to its result: an exception that
leaves the function (`Except.error`) does not undo the statements issued before it.
-/

namespace TripWire

open Py

/-! ### Results -/

/-- The `status` entry of a result. -/
inductive ProcessStatus where
  | error
  | duplicate
  | promoted
  | noEndpoints
  | noMatch
  | processed
  | filtered
  | skipped
  | deferred
  deriving DecidableEq, Repr

/-- The entry of one trigger in the result of a dynamic event. -/
structure TriggerResult where
  triggerId : String
  status : ProcessStatus
  reason : Option String := none
  eventId : Option EventId := none
  messageId : Option String := none
  executionState : Option ExecutionState := none
  notifySent : Option ℕ := none
  deriving DecidableEq

/-- The summary a processing function returns. -/
structure ProcessResult where
  status : ProcessStatus
  reason : Option String := none
  txHash : Option String := none
  eventId : Option EventId := none
  webhookType : Option WebhookEventType := none
  endpointsMatched : Option ℕ := none
  endpointsApproved : Option ℕ := none
  webhooksSent : Option ℕ := none
  notifySent : Option ℕ := none
  messageIds : List String := []
  triggersEvaluated : Option ℕ := none
  triggersDispatched : Option ℕ := none
  results : List TriggerResult := []
  deriving DecidableEq

/-- What a processing function leaves behind and how it ends. -/
abbrev Outcome := World × Except PyError ProcessResult

/-- A result with status `error`. -/
def errorResult (reason : String) (txHash : Option String := none) : Except PyError ProcessResult :=
  .ok { status := .error, reason := some reason, txHash }

/-! ### Finality and identity -/

/-- `check_finality`, with the `try` around it: `none` when the RPC call raises. -/
def checkFinality (env : Env) (chain : ChainId) (blockNumber : ℤ) : Option FinalityStatus :=
  if env.raises .blockNumber then none
  else
    let confirmations := max 0 (env.blockNumber - blockNumber)
    some
      { confirmations
        requiredConfirmations := finalityDepths chain
        isFinalized := decide (finalityDepths chain ≤ confirmations) }

/-- Identity resolution, with the `try` around it. -/
def resolveIdentity (env : Env) (address : String) (chainId : ℤ) : Option AgentIdentity :=
  if env.raises .resolveIdentity then none else env.resolve address chainId

/-- The block height behind a finality status. -/
def observedHeight (env : Env) (finality : Option FinalityStatus) : Option ℤ :=
  finality.map fun _ => env.blockNumber

/-! ### The stages of `_dispatch_for_transfer` -/

/-- `_fetch_matching_endpoints_async`: the shared cache, else the endpoints table. -/
def fetchMatchingEndpoints (env : Env) (w : World) (t : ERC3009Transfer) :
    Except PyError (List Endpoint) :=
  match env.endpointCache with
  -- A hit is not compared with the table: an endpoint changed since is served as it was.
  | some endpoints => .ok endpoints
  | none =>
    if env.raises .fetchEndpoints then .error .infrastructure
    else .ok (w.listByRecipient t.toAddress)

/-- What the stages before the recording decide. -/
structure Plan where
  matched : List Endpoint
  rejected : List Endpoint
  /-- The endpoints to dispatch to: accepted by their policies and past the depth gate. -/
  approved : List Endpoint
  type : WebhookEventType

/-- The finality depth gate: with a known finality status, an endpoint whose depth is not reached is
deferred. -/
def depthGate (chain : ChainId) (finality : Option FinalityStatus) (endpoints : List Endpoint) :
    List Endpoint :=
  match finality with
  -- No status means no depth to compare with: the gate is skipped, not closed.
  | none => endpoints
  | some f => endpoints.filter fun ep => requiredDepth ep chain ≤ f.confirmations

/-- The event type of a new transfer. -/
def defaultEventType (finality : Option FinalityStatus) : WebhookEventType :=
  if finality.any (·.isFinalized) then .paymentConfirmed else .paymentPending

/-- Matching, policy evaluation, the depth gate and the event type. -/
def planDispatch (t : ERC3009Transfer) (finality : Option FinalityStatus)
    (identity : Option AgentIdentity) (eventTypeOverride : Option WebhookEventType)
    (endpoints : List Endpoint) : Except PyError Plan :=
  let matched := matchEndpoints t endpoints
  (policyVerdicts (buildTransferData t) identity matched).map fun verdicts =>
    { matched
      rejected := rejectedOf verdicts
      approved := depthGate t.chainId finality (approvedOf verdicts)
      type := eventTypeOverride.getD (defaultEventType finality) }

/-- The row `_record_event` inserts. -/
def eventRow (now : ℤ) (id : EventId) (t : ERC3009Transfer) (finality : Option FinalityStatus)
    (type : WebhookEventType) (endpointId : Option EndpointId) : EventRow where
  id
  type
  chainId := t.chainId.value
  txHash := some t.txHash
  blockNumber := some t.blockNumber
  blockHash := some t.blockHash
  logIndex := some t.logIndex
  fromAddress := some t.fromAddress.val
  toAddress := some t.toAddress.val
  amount := some t.value
  authorizer := some t.authorizer.val
  nonce := some t.nonce
  token := some t.token
  -- `is_finalized` compares with the depth of the chain; no endpoint has a say in the status.
  status :=
    if type = .paymentPreConfirmed then .preConfirmed
    else if finality.any (·.isFinalized) then .confirmed else .pending
  finalityDepth := (finality.map (·.confirmations)).getD 0
  endpointId := endpointId.filter (· ≠ "")
  createdAt := now
  confirmedAt := if finality.any (·.isFinalized) then some now else none

/-- `_record_event`: a failed insertion is logged and the id returned all the same. -/
def recordEvent (env : Env) (w : World) (row : EventRow) : World :=
  if env.raises (.insertEvent row.id) then w else (w.insertEvent row).getD w

/-- `link_endpoints` for the matched endpoints, and the log lines of the rejected ones. -/
def linkStage (env : Env) (w : World) (id : EventId) (plan : Plan) : World :=
  -- The rejected endpoints are linked too: the links say who matched, not who was accepted.
  let w' := if plan.matched.isEmpty || env.raises (.linkEndpoints id) then w
    else w.linkEndpoints id (plan.matched.map (·.id))
  { w' with policyLog := w'.policyLog ++ plan.rejected.map fun ep => (id, ep.id) }

/-- The endpoints of a list that work in `mode`. -/
def inMode (mode : EndpointMode) (endpoints : List Endpoint) : List Endpoint :=
  endpoints.filter fun ep => ep.mode = mode

/-- `dispatch_event` followed by the recording of its deliveries. -/
def pushWebhooks (env : Env) (w : World) (d : Dispatch) (endpoints : List Endpoint) : World :=
  let emissions := dispatchEvent env d endpoints
  recordDeliveries env d.event (messageIdsOf emissions) 0 endpoints
    { w with outbox := w.outbox ++ emissions }

/-- `notify_batch` and its rows. -/
def pushRealtime (env : Env) (w : World) (d : Dispatch) (endpoints : List Endpoint) : World :=
  { w with outbox := w.outbox ++ notifyBatch env w d endpoints }

/-- Step 8 of `_dispatch_for_transfer`: webhooks for the execute endpoints, realtime rows for the
notify endpoints whose subscriptions let the transfer through.  A subscription amount that is not a
number raises after the webhooks are out. -/
def deliver (env : Env) (w : World) (d : Dispatch) (approved : List Endpoint) :
    World × Except PyError ℕ :=
  let w₁ := pushWebhooks env w d (inMode .execute approved)
  match filterNotifyEndpoints env w₁ d.transfer d.identity (inMode .notify approved) with
  | .error e => (w₁, .error e)
  | .ok kept => (pushRealtime env w₁ d kept, .ok kept.length)

/-- The result of `_dispatch_for_transfer` for a plan. -/
def dispatchResult (env : Env) (d : Dispatch) (endpoints : List Endpoint) (plan : Plan)
    (notifySent : ℕ) : ProcessResult :=
  let messageIds := messageIdsOf (dispatchEvent env d (inMode .execute plan.approved))
  if endpoints.isEmpty then
    { status := .noEndpoints, txHash := some d.transfer.txHash, eventId := some d.event }
  else if plan.matched.isEmpty then
    { status := .noMatch, txHash := some d.transfer.txHash, eventId := some d.event }
  else
    { status := .processed
      txHash := some d.transfer.txHash
      eventId := some d.event
      endpointsMatched := some plan.matched.length
      endpointsApproved := some plan.approved.length
      webhooksSent := some messageIds.length
      notifySent := some notifySent
      messageIds }

/-- The event id of a recording: the one the caller chose, or a fresh one. -/
def chooseEventId (w : World) : Option EventId → World × EventId
  | some id => (w, id)
  | none => w.uuid4

/-- `_dispatch_for_transfer`. -/
def dispatchForTransfer (env : Env) (w : World) (t : ERC3009Transfer)
    (finality : Option FinalityStatus) (identity : Option AgentIdentity)
    (eventTypeOverride : Option WebhookEventType := none) (eventId : Option EventId := none) :
    Outcome :=
  match fetchMatchingEndpoints env w t with
  -- The nonce is already claimed, and stays so.
  | .error _ => (w, errorResult "endpoint_fetch_failed" t.txHash)
  | .ok endpoints =>
    match planDispatch t finality identity eventTypeOverride endpoints with
    | .error e => (w, .error e)
    | .ok plan =>
      let (w₁, id) := chooseEventId w eventId
      let row := eventRow env.now id t finality plan.type (plan.matched.head?.map (·.id))
      let w₂ := linkStage env (recordEvent env w₁ row) id plan
      let d : Dispatch :=
        { event := id, transfer := t, type := plan.type, finality, identity,
          height := observedHeight env finality }
      let (w₃, sent) := deliver env w₂ d plan.approved
      (w₃, sent.map (dispatchResult env d endpoints plan))

/-! ### The facilitator's fast path and the promotion -/

/-- The key under which a transfer is deduplicated. -/
def ERC3009Transfer.nonceKey (t : ERC3009Transfer) : NonceKey :=
  World.nonceKey t.chainId.value t.nonce t.authorizer.val

/-- `process_pre_confirmed_event`. -/
def processPreConfirmedEvent (env : Env) (w : World) (t : ERC3009Transfer) : Outcome :=
  -- The id is drawn before the claim, so that the nonce row can point at the event.
  let (w₁, id) := w.uuid4
  if env.raises .recordNonce then (w₁, errorResult "nonce_dedup_failed" t.txHash)
  else
    let (w₂, answer) := w₁.recordNonceOrCorrelate env.now t.nonceKey (some id) .facilitator
    if answer.isNew then
      dispatchForTransfer env w₂ t none (resolveIdentity env t.authorizer.val t.chainId.value)
        (some .paymentPreConfirmed) (some id)
    else (w₂, .ok { status := .duplicate, txHash := some t.txHash })

/-- The ids of the endpoints linked to an event.  When the join table cannot be read the legacy
`endpoint_id` column stands in. -/
def linkedEndpointIds (env : Env) (w : World) (row : EventRow) : List EndpointId :=
  if env.raises (.getEndpointIds row.id) then (row.endpointId.filter (· ≠ "")).toList
  else w.getEndpointIds row.id

/-- The endpoint objects behind a list of ids; ids that cannot be read are skipped. -/
def fetchEndpoints (env : Env) (w : World) (event : EventId) (ids : List EndpointId) :
    List Endpoint :=
  ids.filterMap fun eid =>
    if env.raises (.getEndpoint event eid) then none else w.endpoints.get? eid

/-- The endpoints a promotion reaches before policies: linked, readable and active. -/
def promotionEndpoints (env : Env) (w : World) (row : EventRow) : List Endpoint :=
  (fetchEndpoints env w row.id (linkedEndpointIds env w row)).filter (·.active)

/-- The event type of a promotion. -/
def promotionType (finality : Option FinalityStatus) : WebhookEventType :=
  if finality.any (·.isFinalized) then .paymentFinalized else .paymentConfirmed

/-- The call behind the messages of a promotion. -/
def promotionDispatch (env : Env) (row : EventRow) (t : ERC3009Transfer) : Dispatch :=
  let finality := checkFinality env t.chainId t.blockNumber
  { event := row.id, transfer := t, type := promotionType finality, finality,
    identity := resolveIdentity env t.authorizer.val t.chainId.value,
    height := observedHeight env finality }

/-- The last steps of a promotion, after `promote_to_confirmed` returned `row`.  Neither the depth
gate nor the subscription filters of `_dispatch_for_transfer` are applied here. -/
def dispatchPromotion (env : Env) (w : World) (row : EventRow) (t : ERC3009Transfer) : Outcome :=
  let d := promotionDispatch env row t
  let endpoints := promotionEndpoints env w row
  let base : ProcessResult :=
    { status := .promoted, txHash := some t.txHash, eventId := some row.id,
      webhookType := some d.type, endpointsMatched := some endpoints.length }
  match policyVerdicts (buildTransferData t) d.identity endpoints with
  | .error e => (w, .error e)
  | .ok verdicts =>
    let approved := approvedOf verdicts
    let execute := inMode .execute approved
    let notify := inMode .notify approved
    let messageIds := messageIdsOf (dispatchEvent env d execute)
    (pushRealtime env (pushWebhooks env w d execute) d notify,
      .ok <| if endpoints.isEmpty then base else
        { base with
          endpointsApproved := some approved.length
          webhooksSent := some messageIds.length
          notifySent := some notify.length
          messageIds })

/-- `_promote_pre_confirmed_event`. -/
def promotePreConfirmedEvent (env : Env) (w : World) (id : EventId) (t : ERC3009Transfer) :
    Outcome :=
  if env.raises (.promoteToConfirmed id) then (w, errorResult "promote_failed" t.txHash)
  else
    match w.promoteToConfirmed env.now id t with
    -- The nonce names an event that was never inserted.
    | (w₁, none) => (w₁, errorResult "event_not_found" t.txHash)
    | (w₁, some row) => dispatchPromotion env w₁ row t

end TripWire
