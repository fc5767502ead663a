import TripWire.Lib.KeyedTable
import TripWire.Types.Models

/-!
# The state the pipeline works on

`World` is the database (the tables `events`, `event_endpoints`, `nonces`, `endpoints`,
`subscriptions` and `webhook_deliveries`) together with the log of everything that left the system:
the payloads handed to the webhook provider and the rows inserted into `realtime_events`
(`World.outbox`), and the `policy_rejected` log lines (`World.policyLog`).

`Env` holds the answers of the world outside for one step of the program: the block height and block
hashes an RPC node reports, the identities the registry resolves, the endpoint list a cache holds,
the clock, and which calls raise (`Env.raises`).  A call that raises has no effect on the database.
A statement for every `Env` is a statement for every pattern of answers and failures.
-/

namespace TripWire

open Py

/-! ### Rows -/

/-- An event id.  The program draws `uuid4` strings; the model draws from a counter. -/
abbrev EventId := ℕ

/-- Links between events and endpoints can be looked up in a list. -/
instance : LawfulBEq (EventId × EndpointId) := inferInstance

/-- The column `events.status`. -/
inductive EventStatus where
  | preConfirmed
  | pending
  | confirmed
  | finalized
  | reorged
  | paymentFailed
  deriving DecidableEq, Repr

/-- `execution_state_from_status`: what the API reports of a row, derived from its status alone. -/
def executionStateFromStatus : EventStatus → ExecutionState × Bool × TrustSource
  | .preConfirmed => (.provisional, false, .facilitator)
  | .pending => (.confirmed, false, .onchain)
  | .confirmed => (.confirmed, false, .onchain)
  | .finalized => (.finalized, true, .onchain)
  | .reorged => (.reorged, false, .onchain)
  | .paymentFailed => (.reorged, false, .onchain)

/-- The column `events.product_source`. -/
inductive ProductSource where
  | keeper
  | pulse
  deriving DecidableEq, Repr

/-- A row of the `events` table.  The payment columns are nullable (migration 002). -/
structure EventRow where
  id : EventId
  type : WebhookEventType
  chainId : ℤ
  txHash : Option String
  blockNumber : Option ℤ
  blockHash : Option String
  logIndex : Option ℤ
  fromAddress : Option String
  toAddress : Option String
  amount : Option String
  authorizer : Option String
  nonce : Option String
  token : Option String
  status : EventStatus
  finalityDepth : ℤ
  endpointId : Option EndpointId
  createdAt : ℤ
  confirmedAt : Option ℤ
  triggerId : Option String := none
  productSource : ProductSource := .keeper
  deriving DecidableEq

/-- The row after `update_status`, which also stamps `confirmed_at` on a confirmation. -/
def EventRow.withStatus (now : ℤ) (status : EventStatus) (r : EventRow) : EventRow :=
  { r with status, confirmedAt := if status = .confirmed then some now else r.confirmedAt }

/-- The row after `update_finality`. -/
def EventRow.withFinality (depth : ℤ) (r : EventRow) : EventRow := { r with finalityDepth := depth }

/-- The row after `promote_to_confirmed`: the onchain columns of `t`, whatever the status was. -/
def EventRow.promoted (now : ℤ) (t : ERC3009Transfer) (r : EventRow) : EventRow :=
  { r with
    txHash := some t.txHash
    blockNumber := some t.blockNumber
    blockHash := some t.blockHash
    logIndex := some t.logIndex
    status := .confirmed
    confirmedAt := some now }

@[simp]
theorem EventRow.id_withStatus (now : ℤ) (status : EventStatus) (r : EventRow) :
    (r.withStatus now status).id = r.id := rfl

@[simp]
theorem EventRow.id_withFinality (depth : ℤ) (r : EventRow) : (r.withFinality depth).id = r.id :=
  rfl

@[simp]
theorem EventRow.id_promoted (now : ℤ) (t : ERC3009Transfer) (r : EventRow) :
    (r.promoted now t).id = r.id := rfl

/-- The column `nonces.source`: which path claimed the nonce. -/
inductive NonceSource where
  | facilitator
  | goldsky
  deriving DecidableEq, Repr

/-- The key of a nonce: `(chain_id, nonce, authorizer)`, the authorizer in lower case. -/
abbrev NonceKey := ℤ × String × String

/-- A row of the `nonces` table. -/
structure NonceRow where
  chainId : ℤ
  nonce : String
  authorizer : String
  eventId : Option EventId
  source : NonceSource
  reorgedAt : Option ℤ
  createdAt : ℤ
  deriving DecidableEq

/-- The `UNIQUE (chain_id, nonce, authorizer)` constraint of the `nonces` table. -/
def NonceRow.key (r : NonceRow) : NonceKey := (r.chainId, r.nonce, r.authorizer)

/-- A nonce taken over by a new claim: `source` is `none` where the statement leaves it alone. -/
def NonceRow.reclaimed (now : ℤ) (eventId : Option EventId) (source : Option NonceSource)
    (r : NonceRow) : NonceRow :=
  { r with reorgedAt := none, eventId, source := source.getD r.source, createdAt := now }

/-- A nonce marked as reorged. -/
def NonceRow.invalidated (now : ℤ) (r : NonceRow) : NonceRow := { r with reorgedAt := some now }

@[simp]
theorem NonceRow.key_reclaimed (now : ℤ) (eventId : Option EventId) (source : Option NonceSource)
    (r : NonceRow) : (r.reclaimed now eventId source).key = r.key := rfl

@[simp]
theorem NonceRow.key_invalidated (now : ℤ) (r : NonceRow) : (r.invalidated now).key = r.key := rfl

/-- The column `webhook_deliveries.status` as the recording loops write it. -/
inductive DeliveryStatus where
  | sent
  | failed
  deriving DecidableEq, Repr

/-- A row of the `webhook_deliveries` table. -/
structure DeliveryRow where
  endpointId : EndpointId
  eventId : EventId
  providerMessageId : Option String
  status : DeliveryStatus
  deriving DecidableEq

/-! ### What leaves the system -/

/-- The `data` column of a `realtime_events` row: built by `notify_batch` for a transfer, or the
whole payload of a trigger event. -/
inductive RealtimeData where
  | transfer (transfer : TransferData) (execution : ExecutionBlock)
      (finality : Option FinalityData) (identity : Option AgentIdentity)
  | event (payload : WebhookPayload)
  deriving DecidableEq

/-- The execution block of a realtime row. -/
def RealtimeData.execution : RealtimeData → ExecutionBlock
  | .transfer _ execution _ _ => execution
  | .event payload => payload.execution

/-- A message to an endpoint: a payload handed to `provider.send`, with the id the provider
returned (`none` when the call raised), or an inserted row of `realtime_events`. -/
inductive Message where
  | webhook (appId : String) (convoyEndpointId : Option String) (payload : WebhookPayload)
      (messageId : Option String)
  | realtime (type : WebhookEventType) (chainId : ℤ) (recipient : String) (data : RealtimeData)
  deriving DecidableEq

/-- The execution block a message carries. -/
def Message.execution : Message → ExecutionBlock
  | .webhook _ _ payload _ => payload.execution
  | .realtime _ _ _ data => data.execution

/-- Whether a message is a webhook. -/
def Message.isWebhook : Message → Bool
  | .webhook .. => true
  | .realtime .. => false

/-- The payload of a webhook. -/
def Message.webhook? : Message → Option WebhookPayload
  | .webhook _ _ payload _ => some payload
  | .realtime .. => none

/-- The transfer a message is about; a trigger event has none. -/
def Message.transfer? : Message → Option TransferData
  | .webhook _ _ payload _ => payload.data.transfer
  | .realtime _ _ _ (.transfer transfer _ _ _) => some transfer
  | .realtime _ _ _ (.event payload) => payload.data.transfer

/-- The trigger a message is about; a message about a transfer has none. -/
def Message.trigger? : Message → Option String
  | .webhook _ _ payload _ => payload.triggerId
  | .realtime _ _ _ (.transfer ..) => none
  | .realtime _ _ _ (.event payload) => payload.triggerId

/-- One message that left the system, with the event it is about, the endpoint object it was built
for, the block of the event and the block height its producing step observed. -/
structure Emission where
  event : EventId
  endpoint : Endpoint
  message : Message
  blockNumber : ℤ
  height : Option ℤ
  deriving DecidableEq

/-- The execution block of an emission. -/
def Emission.execution (e : Emission) : ExecutionBlock := e.message.execution

/-! ### The world -/

/-- The database and the log of what left the system. -/
structure World where
  events : KeyedTable EventRow.id := .empty
  eventEndpoints : List (EventId × EndpointId) := []
  nonces : KeyedTable NonceRow.key := .empty
  endpoints : KeyedTable Endpoint.id := .empty
  subscriptions : List Subscription := []
  deliveries : List DeliveryRow := []
  outbox : List Emission := []
  /-- The `policy_rejected` log lines of ingestion: the event and the endpoint turned away. -/
  policyLog : List (EventId × EndpointId) := []
  /-- The next value of `uuid4`. -/
  uuids : ℕ := 0

/-! ### The environment of a step -/

/-- A call that leaves the process and may raise. -/
inductive Call where
  | recordNonce
  | recordTriggerNonce (triggerId : String)
  | resolveIdentity
  | blockNumber
  | fetchEndpoints
  | insertEvent (event : EventId)
  | linkEndpoints (event : EventId)
  | send (event : EventId) (endpoint : EndpointId)
  | recordDelivery (event : EventId) (endpoint : EndpointId)
  | fetchSubscriptions (endpoint : EndpointId)
  | insertRealtime (event : EventId)
  | promoteToConfirmed (event : EventId)
  | getEndpointIds (event : EventId)
  | getEndpoint (event : EventId) (endpoint : EndpointId)
  | acquireLock
  | fetchPending
  | updateFinality (event : EventId)
  | updateStatus (event : EventId)
  | invalidateNonce (event : EventId)
  | fetchStale
  | getTriggerEndpoint (triggerId : String)
  deriving DecidableEq, Repr

/-- The answers of the outside world during one step. -/
structure Env where
  /-- Whether a call raises. -/
  raises : Call → Bool := fun _ => false
  /-- `time.time()` in seconds. -/
  now : ℤ := 0
  /-- `eth_blockNumber` of the chain the step is about. -/
  blockNumber : ℤ := 0
  /-- `get_block_hash`, which answers `None` on any failure. -/
  blockHash : ℤ → Option String := fun _ => none
  /-- The identity registry: `resolve(address, chain_id)`. -/
  resolve : String → ℤ → Option AgentIdentity := fun _ _ => none
  /-- The endpoint list the shared cache holds for the transfer's recipient. -/
  endpointCache : Option (List Endpoint) := none
  /-- The id the webhook provider returns for a message to an endpoint. -/
  messageId : EndpointId → String := fun id => id
  /-- `hashlib.sha256(raw).hexdigest()[:32]`. -/
  sha256 : String → String := fun raw => raw

/-- An environment in which no call raises and the cached endpoints are rows of the table. -/
structure Env.Healthy (env : Env) (w : World) : Prop where
  raises : ∀ c, env.raises c = false
  cache : ∀ eps, env.endpointCache = some eps → ∀ ep ∈ eps, w.endpoints.get? ep.id ≠ none

end TripWire
