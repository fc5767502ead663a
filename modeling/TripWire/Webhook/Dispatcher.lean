import TripWire.Db.Repositories

/-!
# The webhook dispatcher and the realtime notifier

`dispatchEvent` builds one payload per endpoint, with the endpoint's own finality depth shown in
it, and hands it to the provider.  `notifyBatch` builds one payload for all its endpoints, with the
depth of the chain, and inserts a `realtime_events` row for each.

Both take a `Dispatch`: the transfer, the event type, the finality status and the identity of the
call, together with the event it is made for and the block height its step observed.  The last two
are not part of the payload; they label the emissions in the outbox.
-/

namespace TripWire

open Py

/-- The arguments of `dispatch_event` and `notify_batch` that all endpoints of a call share. -/
structure Dispatch where
  event : EventId
  transfer : ERC3009Transfer
  type : WebhookEventType
  finality : Option FinalityStatus := none
  identity : Option AgentIdentity := none
  height : Option ℤ := none

/-- The text that `generate_idempotency_key` hashes. -/
def idempotencyText (chainId : ℤ) (txHash : String) (logIndex : ℤ) (endpointId : EndpointId)
    (eventType : String) : String :=
  s!"{chainId}:{lower txHash}:{logIndex}:{endpointId}:{eventType}"

/-- `generate_idempotency_key`. -/
def generateIdempotencyKey (env : Env) (chainId : ℤ) (txHash : String) (logIndex : ℤ)
    (endpointId : EndpointId) (eventType : String) : String :=
  "idem_" ++ env.sha256 (idempotencyText chainId txHash logIndex endpointId eventType)

/-- `build_transfer_data`. -/
def buildTransferData (t : ERC3009Transfer) : TransferData where
  chainId := t.chainId
  txHash := t.txHash
  blockNumber := t.blockNumber
  fromAddress := t.fromAddress.val
  toAddress := t.toAddress.val
  amount := t.value
  nonce := t.nonce
  token := t.token

/-- `_build_payload`. -/
def buildPayload (env : Env) (d : Dispatch) (mode : EndpointMode) (endpointId : EndpointId)
    (requiredDepth : Option ℤ) : WebhookPayload :=
  let finalityData := buildFinalityData d.finality requiredDepth
  { idempotencyKey := generateIdempotencyKey env d.transfer.chainId.value d.transfer.txHash
      d.transfer.logIndex endpointId d.type.value
    type := d.type
    mode
    execution := deriveExecutionMetadata d.type finalityData
    data :=
      { transfer := some (buildTransferData d.transfer)
        finality := finalityData
        identity := d.identity } }

/-- `match_endpoints`: active endpoints of the recipient that listen on the chain. -/
def matchEndpoints (t : ERC3009Transfer) (endpoints : List Endpoint) : List Endpoint :=
  endpoints.filter fun ep =>
    ep.active && lower ep.recipient.val == lower t.toAddress.val && t.chainId.value ∈ ep.chains

/-- Whether an optional list filter accepts `x`; an empty list accepts everything. -/
def listFilter {α : Type} [DecidableEq α] (allowed : Option (List α)) (x : α) : Bool :=
  match allowed with
  | none | some [] => true
  | some xs => x ∈ xs

/-- The filters of one subscription, in the source's order; the amounts are parsed only when the
earlier filters passed. -/
def subscriptionMatches (t : ERC3009Transfer) (identity : Option AgentIdentity)
    (f : SubscriptionFilter) : Except PyError Bool := do
  if !listFilter f.chains t.chainId.value then return false
  if !listFilter (f.senders.map (List.map lower)) (lower t.fromAddress.val) then return false
  if !listFilter (f.recipients.map (List.map lower)) (lower t.toAddress.val) then return false
  if let some minimum := f.minAmount.filter (· ≠ "") then
    if (← int t.value) < (← int minimum) then return false
  match f.agentClass.filter (· ≠ "") with
  | none => return true
  | some required => return identity.any (·.agentClass == required)

/-- `match_subscriptions`. -/
def matchSubscriptions (t : ERC3009Transfer) (identity : Option AgentIdentity) :
    List Subscription → Except PyError (List Subscription)
  | [] => .ok []
  | s :: ss => do
    -- One subscription that raises ends the whole call, whatever the others would say.
    let hit ← if s.active then subscriptionMatches t identity s.filters else pure false
    let rest ← matchSubscriptions t identity ss
    return if hit then s :: rest else rest

/-! ### `dispatch_event` -/

/-- The webhook to one endpoint; `none` when the endpoint has no Convoy project. -/
def webhookEmission (env : Env) (d : Dispatch) (ep : Endpoint) : Option Emission :=
  if truthy ep.convoyProjectId then
    some
      { event := d.event
        endpoint := ep
        message := .webhook (ep.convoyProjectId.getD "") (ep.convoyEndpointId.filter (· ≠ ""))
          (buildPayload env d ep.mode ep.id (resolveEndpointDepth ep))
          (if env.raises (.send d.event ep.id) then none else some (env.messageId ep.id))
        blockNumber := d.transfer.blockNumber
        height := d.height }
  else none

/-- `dispatch_event`: the payloads handed to the provider, in order. -/
def dispatchEvent (env : Env) (d : Dispatch) (endpoints : List Endpoint) : List Emission :=
  endpoints.filterMap (webhookEmission env d)

/-- The list `dispatch_event` returns: the ids of the sends that succeeded, and only those. -/
def messageIdsOf (emissions : List Emission) : List String :=
  emissions.filterMap fun e =>
    match e.message with
    | .webhook _ _ _ messageId => messageId
    | .realtime .. => none

theorem mem_dispatchEvent {env : Env} {d : Dispatch} {endpoints : List Endpoint} {e : Emission}
    (h : e ∈ dispatchEvent env d endpoints) :
    ∃ ep ∈ endpoints, webhookEmission env d ep = some e := by
  simpa [dispatchEvent] using h

/-- When there is a webhook, and which. -/
theorem webhookEmission_eq_some {env : Env} {d : Dispatch} {ep : Endpoint} {e : Emission}
    (h : webhookEmission env d ep = some e) :
    truthy ep.convoyProjectId = true ∧
      e =
        { event := d.event
          endpoint := ep
          message := .webhook (ep.convoyProjectId.getD "") (ep.convoyEndpointId.filter (· ≠ ""))
            (buildPayload env d ep.mode ep.id (resolveEndpointDepth ep))
            (if env.raises (.send d.event ep.id) then none else some (env.messageId ep.id))
          blockNumber := d.transfer.blockNumber
          height := d.height } := by
  unfold webhookEmission at h
  by_cases hproject : truthy ep.convoyProjectId = true
  · rw [if_pos hproject] at h
    exact ⟨hproject, (Option.some.inj h).symm⟩
  · rw [if_neg hproject] at h
    cases h

/-- What a webhook of `dispatch_event` says: the labels are those of the call, and the execution
block is derived from the finality status against the endpoint's own depth. -/
theorem webhookEmission_spec {env : Env} {d : Dispatch} {ep : Endpoint} {e : Emission}
    (h : webhookEmission env d ep = some e) :
    e.event = d.event ∧ e.endpoint = ep ∧ e.blockNumber = d.transfer.blockNumber ∧
      e.height = d.height ∧ e.message.isWebhook = true ∧
      e.execution =
        deriveExecutionMetadata d.type
          (buildFinalityData d.finality (resolveEndpointDepth ep)) := by
  obtain ⟨-, rfl⟩ := webhookEmission_eq_some h
  exact ⟨rfl, rfl, rfl, rfl, rfl, rfl⟩

theorem truthy_of_webhookEmission {env : Env} {d : Dispatch} {ep : Endpoint} {e : Emission}
    (h : webhookEmission env d ep = some e) : truthy ep.convoyProjectId = true :=
  (webhookEmission_eq_some h).1

/-- Every endpoint with a Convoy project is sent a webhook. -/
theorem exists_mem_dispatchEvent {env : Env} (d : Dispatch) {endpoints : List Endpoint}
    {ep : Endpoint} (hep : ep ∈ endpoints) (hproject : truthy ep.convoyProjectId = true) :
    ∃ e ∈ dispatchEvent env d endpoints, e.endpoint = ep := by
  obtain ⟨e, he⟩ : ∃ e, webhookEmission env d ep = some e := by
    rw [webhookEmission, if_pos hproject]
    exact ⟨_, rfl⟩
  exact ⟨e, List.mem_filterMap.mpr ⟨ep, hep, he⟩, (webhookEmission_spec he).2.1⟩

/-! ### `notify_batch` -/

/-- The `realtime_events` row for one endpoint.  The finality block carries the depth of the status,
never the endpoint's own. -/
def realtimeEmission (d : Dispatch) (ep : Endpoint) : Emission :=
  let finalityData := buildFinalityData d.finality none
  { event := d.event
    endpoint := ep
    message := .realtime d.type d.transfer.chainId.value (lower d.transfer.toAddress.val)
      (.transfer (buildTransferData d.transfer) (deriveExecutionMetadata d.type finalityData)
        finalityData d.identity)
    blockNumber := d.transfer.blockNumber
    height := d.height }

/-- `notify_batch`: one bulk insert.  `endpoint_id` is a foreign key, and a failed insert is
swallowed. -/
def notifyBatch (env : Env) (w : World) (d : Dispatch) (endpoints : List Endpoint) :
    List Emission :=
  if env.raises (.insertRealtime d.event) ∨ ∃ ep ∈ endpoints, w.endpoints.get? ep.id = none then []
  else endpoints.map (realtimeEmission d)

theorem mem_notifyBatch {env : Env} {w : World} {d : Dispatch} {endpoints : List Endpoint}
    {e : Emission} (h : e ∈ notifyBatch env w d endpoints) :
    ∃ ep ∈ endpoints, realtimeEmission d ep = e := by
  unfold notifyBatch at h
  split_ifs at h
  · cases h
  · simpa using h

/-- A notify batch of known endpoints is inserted as a whole. -/
theorem notifyBatch_of_known {env : Env} {w : World} {d : Dispatch} {eps : List Endpoint}
    (hraise : env.raises (.insertRealtime d.event) = false)
    (hknown : ∀ ep ∈ eps, w.endpoints.get? ep.id ≠ none) :
    notifyBatch env w d eps = eps.map (realtimeEmission d) := by
  unfold notifyBatch
  rw [if_neg]
  rintro (h | ⟨ep, hep, h⟩)
  · rw [hraise] at h
    cases h
  · exact hknown ep hep h

/-- Whether a notify endpoint's subscriptions let the transfer through: an endpoint without active
subscriptions receives everything. -/
def subscribed (env : Env) (w : World) (t : ERC3009Transfer) (identity : Option AgentIdentity)
    (ep : Endpoint) : Except PyError Bool :=
  let subs := if env.raises (.fetchSubscriptions ep.id) then [] else w.activeSubscriptions ep.id
  if subs.isEmpty then .ok true
  else (matchSubscriptions t identity subs).map fun matched => !matched.isEmpty

/-- The subscription stage before `notify_batch`. -/
def filterNotifyEndpoints (env : Env) (w : World) (t : ERC3009Transfer)
    (identity : Option AgentIdentity) : List Endpoint → Except PyError (List Endpoint)
  | [] => .ok []
  | ep :: eps =>
    match subscribed env w t identity ep with
    | .error e => .error e
    | .ok keep =>
      match filterNotifyEndpoints env w t identity eps with
      | .error e => .error e
      | .ok rest => .ok (if keep then ep :: rest else rest)

theorem filterNotifyEndpoints_subset {env : Env} {w : World} {t : ERC3009Transfer}
    {identity : Option AgentIdentity} :
    ∀ {eps kept : List Endpoint}, filterNotifyEndpoints env w t identity eps = .ok kept →
      kept ⊆ eps := by
  intro eps
  induction eps with
  | nil =>
    intro kept h
    obtain rfl := Except.ok.inj h
    exact List.Subset.refl _
  | cons ep eps ih =>
    intro kept h
    rw [filterNotifyEndpoints] at h
    split at h
    · cases h
    · rename_i keep _
      split at h
      · cases h
      · rename_i rest hrest
        obtain rfl := Except.ok.inj h
        have hsub : rest ⊆ eps := ih hrest
        cases keep
        · exact List.Subset.trans hsub (List.subset_cons_self ep eps)
        · exact List.cons_subset_cons ep hsub

/-! ### Recording deliveries -/

/-- The recording loop after `dispatch_event`: the message id of endpoint `i` is taken from position
`i` of the returned list. -/
def recordDeliveries (env : Env) (event : EventId) (messageIds : List String) :
    ℕ → List Endpoint → World → World
  | _, [], w => w
  -- Failed sends leave no gap in `messageIds`, so `i` may pick the id of a later endpoint.
  | i, ep :: eps, w =>
    let w' := if env.raises (.recordDelivery event ep.id) then w
      else w.createDelivery ep.id event messageIds[i]?
    recordDeliveries env event messageIds (i + 1) eps w'

/-- Recording changes nothing but the deliveries. -/
theorem recordDeliveries_frame (env : Env) (event : EventId) (messageIds : List String)
    (eps : List Endpoint) (i : ℕ) (w : World) :
    ∃ ds, recordDeliveries env event messageIds i eps w = { w with deliveries := ds } := by
  induction eps generalizing i w with
  | nil => exact ⟨w.deliveries, rfl⟩
  | cons ep eps ih =>
    rw [recordDeliveries]
    obtain ⟨ds, hds⟩ : ∃ ds, (if env.raises (.recordDelivery event ep.id) then w
        else w.createDelivery ep.id event messageIds[i]?) = { w with deliveries := ds } := by
      split_ifs
      · exact ⟨w.deliveries, rfl⟩
      · exact w.createDelivery_frame ep.id event messageIds[i]?
    obtain ⟨ds', hds'⟩ := ih (i + 1) { w with deliveries := ds }
    exact ⟨ds', by rw [hds, hds']⟩

end TripWire
