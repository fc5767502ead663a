import TripWire.Ingestion.Decoders.AbiGeneric
import TripWire.Ingestion.Processor

/-!
# The trigger handler

The processing of a log that dynamic triggers match (`tripwire/ingestion/handlers/trigger.py`):
`processUnified` is the unified loop with a list of triggers, `processDynamicEvent` the legacy one.

The unified loop works in stages over the whole list: decode and filter, deduplicate, look up
finality and identity once for the first surviving event (`TriggerContext`), gate by reputation, and
then dispatch trigger by trigger.  An exception of one trigger's filters or policies leaves the
function and ends the work on all of them.  The legacy loop takes one trigger after the other
through all stages.

`TriggerDispatch` records what the loop sends out for a trigger, whether or not the call returns.
-/

namespace TripWire

open Py

/-- `Trigger`: the columns that the processing of a matched log reads, and `required_agent_class`,
which it does not read. -/
structure Trigger where
  id : String
  endpointId : EndpointId
  abi : List Dict := []
  filterRules : List TriggerFilter := []
  reputationThreshold : ℚ := 0
  requiredAgentClass : Option String := none
  requirePayment : Bool := false
  paymentToken : Option String := none
  minPaymentAmount : Option String := none

/-! ### Decoding and filtering -/

/-- The token check of `_check_payment_gate`. -/
def checkPaymentToken (d : DecodedEvent) (trigger : Trigger) : Option String :=
  match trigger.paymentToken.filter (· ≠ ""), d.paymentToken.filter (· ≠ "") with
  | none, _ => none
  | some _, none => some "no_payment_token"
  | some required, some token =>
    if lower token ≠ lower required then some s!"wrong_token:{token}" else none

/-- The amount check of `_check_payment_gate`. -/
def checkPaymentAmount (amount : String) (trigger : Trigger) : Option String :=
  match trigger.minPaymentAmount.filter (· ≠ "") with
  | none => none
  | some minimum =>
    match int amount, int minimum with
    | .ok actual, .ok required =>
      if actual < required then some s!"amount_below_minimum:{actual}<{required}" else none
    | _, _ => some "invalid_payment_amount"

/-- `_check_payment_gate`: the reason of a rejection, if any. -/
def checkPaymentGate (d : DecodedEvent) (trigger : Trigger) : Option String :=
  if trigger.requirePayment then
    match d.paymentAmount with
    | none => some "no_payment_data"
    | some amount => checkPaymentToken d trigger <|> checkPaymentAmount amount trigger
  else none

/-- The first loop of `_process_unified` for one trigger: the decoded event, if it passes the
filters and the payment gate.  A decoding error is caught, an error of the filters is not. -/
def survivor (lib : Library) (raw : RawLog) (trigger : Trigger) :
    Except PyError (Option DecodedEvent) :=
  match AbiGenericDecoder.decode lib trigger.abi raw with
  -- The decoder is called in a `try`, `evaluate_filters` after it is not.
  | .error _ => .ok none
  | .ok d =>
    (evaluateFilters lib d.fields trigger.filterRules).map fun rejection =>
      if rejection.isSome || (checkPaymentGate d trigger).isSome then none else some d

/-- `decoded_pairs`. -/
def decodedPairs (lib : Library) (raw : RawLog) :
    List Trigger → Except PyError (List (DecodedEvent × Trigger))
  | [] => .ok []
  | t :: ts =>
    match survivor lib raw t with
    | .error e => .error e
    | .ok d =>
      (decodedPairs lib raw ts).map fun pairs =>
        match d with
        | some d => (d, t) :: pairs
        | none => pairs

/-! ### Deduplication -/

/-- The text under which a trigger's handling of a log is deduplicated. -/
def triggerNonce (txHash : String) (logIndex : ℤ) (triggerId : String) : String :=
  s!"{txHash}:{logIndex}:{triggerId}"

/-- The nonce key of a pair in the unified loop, on the chain of the first surviving event. -/
def triggerNonceKey (chainId : Option ℤ) (d : DecodedEvent) (t : Trigger) : NonceKey :=
  World.nonceKey (chainId.getD 0) (triggerNonce d.txHash d.logIndex t.id)
    ((d.identityAddress.filter (· ≠ "")).getD "dynamic_trigger")

/-- The deduplication loop: the pairs whose nonce was new.  A call that raises drops its pair. -/
def dedupPairs (env : Env) (chainId : Option ℤ) : List (DecodedEvent × Trigger) → World →
    World × List (DecodedEvent × Trigger)
  | [], w => (w, [])
  | (d, t) :: pairs, w =>
    -- The pair is dropped for good: nothing tells the caller that its nonce was not recorded.
    if env.raises (.recordTriggerNonce t.id) then dedupPairs env chainId pairs w
    else
      let (w₁, isNew) := w.recordNonce env.now (triggerNonceKey chainId d t) none
      let (w₂, active) := dedupPairs env chainId pairs w₁
      (w₂, if isNew then (d, t) :: active else active)

/-! ### Finality, identity and reputation -/

/-- `_do_finality`: `none` without a block number or a chain, and when the lookup raises. -/
def triggerFinality (env : Env) (d : DecodedEvent) : Option FinalityStatus :=
  match d.chainId with
  | none => none
  | some n =>
    -- `if not decoded.block_number or not decoded.chain_id`
    if d.blockNumber = 0 ∨ n = 0 then none
    else
      match ChainId.ofValue n with
      | .error _ => none
      | .ok chain => checkFinality env chain d.blockNumber

/-- `_do_identity`. -/
def triggerIdentity (env : Env) (d : DecodedEvent) : Option AgentIdentity :=
  match d.identityAddress.filter (· ≠ "") with
  | none => none
  | some address => resolveIdentity env address (d.chainId.getD 0)

/-- What the unified loop takes from the first surviving event for all triggers: `tx_hash`,
`chain_id`, and the finality and identity it looked up. -/
structure TriggerContext where
  txHash : String
  chainId : Option ℤ
  finality : Option FinalityStatus
  identity : Option AgentIdentity

/-- The context that `primary_decoded` gives. -/
def triggerContext (env : Env) (primary : DecodedEvent) : TriggerContext where
  txHash := primary.txHash
  chainId := primary.chainId
  finality := triggerFinality env primary
  identity := triggerIdentity env primary

/-- The reputation gate of a trigger. -/
def reputationGate (identity : Option AgentIdentity) (t : Trigger) : Bool :=
  -- An unresolved identity counts as reputation zero.
  let rep : ℚ := (identity.map fun i => i.reputationScore.val).getD 0
  !(decide (0 < t.reputationThreshold) && decide (rep < t.reputationThreshold))

/-! ### Dispatch -/

/-- The transfer data under which the policies see an event. -/
def triggerTransferData (d : DecodedEvent) : TransferData where
  chainId :=
    match d.chainId with
    | none => .base
    | some n => ((ChainId.ofValue n).toOption).getD .base
  txHash := d.txHash
  blockNumber := d.blockNumber
  fromAddress := ((d.paymentFrom.filter (· ≠ "")) <|> (d.identityAddress.filter (· ≠ ""))).getD ""
  toAddress := (d.paymentTo.filter (· ≠ "")).getD d.contractAddress
  amount := (d.paymentAmount.filter (· ≠ "")).getD "0"
  nonce := (d.dedupKey.filter (· ≠ "")).getD ""
  token := (d.paymentToken.filter (· ≠ "")).getD d.contractAddress

/-- What the loop decides about a trigger before it dispatches: a result that ends the work on it,
or the endpoint to dispatch to. -/
def triggerVerdict (env : Env) (lib : Library) (endpoints : KeyedTable Endpoint.id)
    (ctx : TriggerContext) (d : DecodedEvent) (t : Trigger) :
    Except PyError (TriggerResult ⊕ Endpoint) :=
  if env.raises (.getTriggerEndpoint t.id) then
    .ok (.inl { triggerId := t.id, status := .error, reason := some "endpoint_fetch_failed" })
  else
    match (endpoints.get? t.endpointId).filter (·.active) with
    | none => .ok (.inl { triggerId := t.id, status := .skipped,
                          reason := some "endpoint_inactive" })
    | some ep =>
      match evaluatePolicy (triggerTransferData d) ctx.identity ep.policies with
      -- `int(amount)` on a text that is not a number; no `try` stands around the policies.
      | .error e => .error e
      | .ok (some denial) =>
        .ok (.inl { triggerId := t.id, status := .filtered,
                    reason := some ("policy: " ++ denial.reason fun q => lib.str (.float q)) })
      | .ok none =>
        if ctx.finality.any fun f =>
            f.confirmations < requiredDepth ep (triggerTransferData d).chainId then
          .ok (.inl { triggerId := t.id, status := .deferred, reason := some "finality_pending" })
        else .ok (.inr ep)

/-- The execution block of a trigger event. -/
def triggerExecution (finality : Option FinalityStatus) : ExecutionBlock :=
  if finality.any (·.isFinalized) then
    { state := .finalized, safeToExecute := true, finality := buildFinalityData finality none }
  else { state := .confirmed, safeToExecute := false, finality := buildFinalityData finality none }

/-- What is sent out for a trigger. -/
structure TriggerDispatch where
  trigger : String
  endpoint : Endpoint
  payload : WebhookPayload
  deriving DecidableEq

/-- The payload of a trigger event. -/
def triggerDispatch (ctx : TriggerContext) (d : DecodedEvent) (t : Trigger) (ep : Endpoint) :
    TriggerDispatch where
  trigger := t.id
  endpoint := ep
  payload :=
    { idempotencyKey := s!"dyn_{ctx.txHash}_{d.logIndex}_{t.id}"
      type := .triggerMatched
      mode := ep.mode
      execution := triggerExecution ctx.finality
      data := { event := some d.fields, identity := ctx.identity }
      triggerId := some t.id }

/-- The webhook of a trigger event, to an execute endpoint with a Convoy project. -/
def triggerWebhook (env : Env) (id : EventId) (ctx : TriggerContext) (d : DecodedEvent)
    (out : TriggerDispatch) : Option Emission :=
  if out.endpoint.mode = .execute ∧ truthy out.endpoint.convoyProjectId = true then
    some
      { event := id
        endpoint := out.endpoint
        message := .webhook (out.endpoint.convoyProjectId.getD "") none out.payload
          (if env.raises (.send id out.endpoint.id) then none
            else some (env.messageId out.endpoint.id))
        blockNumber := d.blockNumber
        height := observedHeight env ctx.finality }
  else none

/-- The realtime row of a trigger event, to a notify endpoint one of whose subscriptions listens on
the chain.  The column `chain_id` is not nullable. -/
def triggerRealtime (env : Env) (w : World) (id : EventId) (ctx : TriggerContext) (d : DecodedEvent)
    (out : TriggerDispatch) : Option Emission :=
  if out.endpoint.mode = .notify ∧ env.raises (.insertRealtime id) = false then
    let subs := if env.raises (.fetchSubscriptions out.endpoint.id) then []
      else w.activeSubscriptions out.endpoint.id
    match ctx.chainId with
    | none => none
    | some chain =>
      if subs.isEmpty || subs.any fun s => listFilter s.filters.chains chain then
        some
          { event := id
            endpoint := out.endpoint
            message := .realtime .triggerMatched chain
              ((d.paymentTo.filter (· ≠ "")).getD d.contractAddress) (.event out.payload)
            blockNumber := d.blockNumber
            height := observedHeight env ctx.finality }
      else none
  else none

/-- The row of a trigger event. -/
def triggerRow (now : ℤ) (id : EventId) (status : EventStatus) (finalityDepth : ℤ)
    (fromAddress txHash : String) (chain : ℤ) (d : DecodedEvent) (t : Trigger) : EventRow where
  id
  type := .triggerMatched
  chainId := chain
  txHash := some txHash
  blockNumber := some d.blockNumber
  blockHash := some d.blockHash
  logIndex := some d.logIndex
  fromAddress := some fromAddress
  toAddress := some d.contractAddress
  amount := none
  authorizer := none
  nonce := none
  token := none
  status
  finalityDepth
  endpointId := some t.endpointId
  createdAt := now
  confirmedAt := none
  triggerId := some t.id
  productSource := .pulse

/-- The recording of a trigger event and its link, in one `try`.  `chain_id` is not nullable, so an
event without a chain is not recorded. -/
def recordTriggerEvent (env : Env) (w : World) (id : EventId) (chain : Option ℤ) (t : Trigger)
    (row : ℤ → EventRow) : World :=
  if env.raises (.insertEvent id) then w
  else
    match chain.bind fun n => w.insertEvent (row n) with
    | none => w
    | some w₁ => if env.raises (.linkEndpoints id) then w₁ else w₁.linkEndpoints id [t.endpointId]

/-- `_record_delivery` for the message id of a trigger event, if there is one. -/
def recordTriggerDelivery (env : Env) (w : World) (id : EventId) (eid : EndpointId)
    (messageId : Option String) : World :=
  if truthy messageId = true ∧ env.raises (.recordDelivery id eid) = false then
    w.createDelivery eid id messageId
  else w

/-- The message id of a webhook that was sent. -/
def Emission.messageId (e : Emission) : Option String :=
  match e.message with
  | .webhook _ _ _ messageId => messageId
  | .realtime .. => none

/-- The rest of the loop body once the endpoint is known. -/
def dispatchTrigger (env : Env) (w : World) (ctx : TriggerContext) (d : DecodedEvent) (t : Trigger)
    (ep : Endpoint) : World × TriggerResult :=
  let (w₁, id) := w.uuid4
  let out := triggerDispatch ctx d t ep
  let webhook := triggerWebhook env id ctx d out
  let realtime := triggerRealtime env w₁ id ctx d out
  -- The messages go out first; the event row is written afterwards and may fail.
  let messageId := webhook.bind Emission.messageId
  let finalized := ctx.finality.any (·.isFinalized)
  let w₂ := { w₁ with outbox := w₁.outbox ++ webhook.toList ++ realtime.toList }
  let w₃ := recordTriggerEvent env w₂ id ctx.chainId t fun chain =>
    triggerRow env.now id (if finalized then .finalized else .confirmed)
      ((ctx.finality.map (·.confirmations)).getD 0) ((d.identityAddress.filter (· ≠ "")).getD "")
      ctx.txHash chain d t
  (recordTriggerDelivery env w₃ id ep.id messageId,
    { triggerId := t.id
      status := .processed
      eventId := some id
      messageId
      executionState := some (triggerExecution ctx.finality).state
      notifySent := some realtime.toList.length })

/-! ### The unified loop -/

/-- The dispatch loop: what it sends out, and its results unless it raises. -/
def dispatchTriggers (env : Env) (lib : Library) (ctx : TriggerContext) :
    List (DecodedEvent × Trigger) → World →
      World × List TriggerDispatch × Except PyError (List TriggerResult)
  | [], w => (w, [], .ok [])
  | (d, t) :: pairs, w =>
    match triggerVerdict env lib w.endpoints ctx d t with
    -- The triggers after this one are not reached, those before it are already dispatched.
    | .error e => (w, [], .error e)
    | .ok (.inl result) =>
      let (w', out, results) := dispatchTriggers env lib ctx pairs w
      (w', out, results.map (result :: ·))
    | .ok (.inr ep) =>
      let (w₁, result) := dispatchTrigger env w ctx d t ep
      let (w', out, results) := dispatchTriggers env lib ctx pairs w₁
      (w', triggerDispatch ctx d t ep :: out, results.map (result :: ·))

/-- The summary of a dynamic event. -/
def triggerSummary (txHash : String) (evaluated : ℕ) (results : List TriggerResult) :
    ProcessResult :=
  let processed := (results.filter fun r => r.status = .processed).length
  { status := if 0 < processed then .processed else .filtered
    txHash := some txHash
    triggersEvaluated := some evaluated
    triggersDispatched := some processed
    results }

/-- `_process_unified` with a list of triggers, and what it sends out. -/
def processUnifiedTraced (env : Env) (lib : Library) (w : World) (raw : RawLog)
    (triggers : List Trigger) : World × List TriggerDispatch × Except PyError ProcessResult :=
  match decodedPairs lib raw triggers with
  | .error e => (w, [], .error e)
  | .ok [] =>
    (w, [], .ok { status := .filtered, reason := some "no_events_after_decode",
                  txHash := some raw.transactionHash })
  | .ok (primary :: pairs) =>
    -- The nonces of all pairs are taken here, before any of the work that can still raise.
    let (w₁, active) := dedupPairs env primary.1.chainId (primary :: pairs) w
    if active.isEmpty then
      (w₁, [], .ok { status := .duplicate, txHash := some primary.1.txHash })
    else
      let ctx := triggerContext env primary.1
      let gated := active.filter fun p => reputationGate ctx.identity p.2
      if gated.isEmpty then
        (w₁, [], .ok { status := .filtered, reason := some "reputation_below_threshold",
                       txHash := some primary.1.txHash })
      else
        let (w₂, out, results) := dispatchTriggers env lib ctx gated w₁
        (w₂, out, results.map (triggerSummary primary.1.txHash triggers.length))

/-- `_process_unified` with a list of triggers. -/
def processUnified (env : Env) (lib : Library) (w : World) (raw : RawLog)
    (triggers : List Trigger) : Outcome :=
  let (w', _, result) := processUnifiedTraced env lib w raw triggers
  (w', result)

/-! ### The legacy loop -/

/-- The nonce key of a trigger in the legacy loop.  The log index is the column as it came, not the
number the decoder makes of it. -/
def dynamicNonceKey (lib : Library) (raw : RawLog) (t : Trigger) : NonceKey :=
  World.nonceKey (raw.chainId.getD 0)
    s!"{raw.transactionHash}:{lib.str raw.logIndex}:{t.id}" "dynamic_trigger"

/-- The payload of the legacy loop: confirmed, never safe, without a finality block. -/
def dynamicDispatch (lib : Library) (raw : RawLog) (identity : Option AgentIdentity)
    (d : DecodedEvent) (t : Trigger) (ep : Endpoint) : TriggerDispatch where
  trigger := t.id
  endpoint := ep
  payload :=
    { idempotencyKey := s!"dyn_{raw.transactionHash}_{lib.str raw.logIndex}_{t.id}"
      type := .triggerMatched
      mode := ep.mode
      execution := { state := .confirmed }
      data := { event := some d.fields, identity }
      triggerId := some t.id }

/-- The webhook of the legacy loop: to every endpoint with a Convoy project, whatever its mode. -/
def dynamicWebhook (env : Env) (id : EventId) (d : DecodedEvent) (out : TriggerDispatch) :
    Option Emission :=
  if truthy out.endpoint.convoyProjectId = true then
    some
      { event := id
        endpoint := out.endpoint
        message := .webhook (out.endpoint.convoyProjectId.getD "") none out.payload
          (if env.raises (.send id out.endpoint.id) then none
            else some (env.messageId out.endpoint.id))
        blockNumber := d.blockNumber
        height := none }
  else none

/-- Steps 6 and 7 of the legacy loop: dispatch and record. -/
def dispatchDynamic (env : Env) (lib : Library) (w : World) (raw : RawLog)
    (identity : Option AgentIdentity) (d : DecodedEvent) (t : Trigger) (ep : Endpoint) :
    World × TriggerResult :=
  let (w₁, id) := w.uuid4
  let webhook := dynamicWebhook env id d (dynamicDispatch lib raw identity d t ep)
  let messageId := webhook.bind Emission.messageId
  let w₂ := { w₁ with outbox := w₁.outbox ++ webhook.toList }
  let w₃ := recordTriggerEvent env w₂ id d.chainId t fun chain =>
    triggerRow env.now id .confirmed 0 (d.identityAddress.getD "") raw.transactionHash chain d t
  (recordTriggerDelivery env w₃ id ep.id messageId,
    { triggerId := t.id, status := .processed, eventId := some id, messageId })

/-- The legacy loop body after the filters: deduplication, identity, reputation and endpoint. -/
def processDynamicMatch (env : Env) (lib : Library) (w : World) (raw : RawLog) (d : DecodedEvent)
    (t : Trigger) : World × TriggerResult :=
  if env.raises (.recordTriggerNonce t.id) then
    (w, { triggerId := t.id, status := .error, reason := some "dedup_failed" })
  else
    let (w₁, isNew) := w.recordNonce env.now (dynamicNonceKey lib raw t) none
    -- Each trigger resolves its own identity here, where the unified loop resolves one for all.
    let identity := triggerIdentity env d
    if !isNew then (w₁, { triggerId := t.id, status := .duplicate })
    else if !reputationGate identity t then
      (w₁, { triggerId := t.id, status := .filtered, reason := some "reputation_below_threshold" })
    else if env.raises (.getTriggerEndpoint t.id) then
      (w₁, { triggerId := t.id, status := .error, reason := some "endpoint_fetch_failed" })
    else
      match (w₁.endpoints.get? t.endpointId).filter (·.active) with
      | none => (w₁, { triggerId := t.id, status := .skipped, reason := some "endpoint_inactive" })
      | some ep => dispatchDynamic env lib w₁ raw identity d t ep

/-- The legacy loop. -/
def processDynamicTriggers (env : Env) (lib : Library) (raw : RawLog) :
    List Trigger → World → World × Except PyError (List TriggerResult)
  | [], w => (w, .ok [])
  | t :: ts, w =>
    match AbiGenericDecoder.decode lib t.abi raw with
    | .error _ =>
      let (w', results) := processDynamicTriggers env lib raw ts w
      (w', results.map
        ({ triggerId := t.id, status := .error, reason := some "decode_failed" } :: ·))
    | .ok d =>
      match evaluateFilters lib d.fields t.filterRules with
      | .error e => (w, .error e)
      | .ok (some reason) =>
        let (w', results) := processDynamicTriggers env lib raw ts w
        (w', results.map ({ triggerId := t.id, status := .filtered, reason := some reason } :: ·))
      | .ok none =>
        let (w₁, result) := processDynamicMatch env lib w raw d t
        let (w', results) := processDynamicTriggers env lib raw ts w₁
        (w', results.map (result :: ·))

/-- `_process_dynamic_event`. -/
def processDynamicEvent (env : Env) (lib : Library) (w : World) (raw : RawLog)
    (triggers : List Trigger) : Outcome :=
  let (w', results) := processDynamicTriggers env lib raw triggers w
  (w', results.map (triggerSummary raw.transactionHash triggers.length))

end TripWire
