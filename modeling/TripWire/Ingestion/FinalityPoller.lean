import TripWire.Ingestion.Processor
import Mathlib.Data.List.Sort

/-!
# The finality poller

One poll cycle (`tripwire/ingestion/finality_poller.py`) reads up to a hundred pending or confirmed
rows of a chain, the block height and the canonical hashes of their blocks, and then works through
the rows it read.  Each row is a snapshot: the statements of the cycle address the table by id, but
everything a webhook says, its finality block included, is read from the snapshot.
-/

namespace TripWire

open Py

/-- `_reconstruct_transfer`: the transfer of a stored row.  A column that is null where the model
wants a value, or an address that does not match the pattern, raises. -/
def reconstructTransfer (row : EventRow) : Option ERC3009Transfer := do
  let chainId ← (ChainId.ofValue row.chainId).toOption
  let txHash ← row.txHash
  let blockNumber ← row.blockNumber
  let blockHash ← row.blockHash
  let logIndex ← row.logIndex
  let fromAddress ← row.fromAddress.bind EthAddress.validate
  let toAddress ← row.toAddress.bind EthAddress.validate
  let authorizer ← row.authorizer.bind EthAddress.validate
  let nonce ← row.nonce
  let token ← row.token
  return {
    chainId, txHash := strip txHash, blockNumber, blockHash := strip blockHash, logIndex,
    fromAddress, toAddress, value := strip (row.amount.getD "None"), authorizer,
    nonce := strip nonce, token := strip token }

/-- `_fetch_pending_events`: `ORDER BY block_number LIMIT 100`. -/
def fetchPendingEvents (w : World) (chain : ChainId) : List EventRow :=
  let due := w.events.rows.filter fun r =>
    (r.status = .pending || r.status = .confirmed) && r.blockNumber.any (0 < ·) &&
      r.chainId = chain.value
  -- `insertionSort` is stable: rows of one block come in the order of the table.
  (due.insertionSort fun r s => r.blockNumber.getD 0 ≤ s.blockNumber.getD 0).take 100

/-- The confirmations of a row at the height the cycle observed. -/
def polledConfirmations (env : Env) (row : EventRow) : ℤ :=
  max 0 (env.blockNumber - row.blockNumber.getD 0)

/-- The `FinalityStatus` of a transition: the depth is the one stored when the row was read. -/
def snapshotFinality (row : EventRow) (chain : ChainId) (newStatus : EventStatus) :
    FinalityStatus where
  confirmations := row.finalityDepth
  requiredConfirmations := finalityDepths chain
  isFinalized := newStatus = .confirmed || newStatus = .finalized

/-- The endpoints the poller and the reorg handler reach: linked and readable, active or not. -/
def polledEndpoints (env : Env) (w : World) (row : EventRow) : List Endpoint :=
  fetchEndpoints env w row.id (linkedEndpointIds env w row)

/-- The webhook call of a transition; `none` when the row does not make a transfer. -/
def transitionDispatch (env : Env) (row : EventRow) (newStatus : EventStatus)
    (type : WebhookEventType) : Option Dispatch :=
  (reconstructTransfer row).map fun t =>
    { event := row.id, transfer := t, type,
      finality := some (snapshotFinality row t.chainId newStatus), height := some env.blockNumber }

/-- `_transition_event`. -/
def transitionEvent (env : Env) (w : World) (row : EventRow) (newStatus : EventStatus)
    (type : WebhookEventType) : World :=
  if env.raises (.updateStatus row.id) then w
  else
    let w₁ := w.updateStatus env.now row.id newStatus
    -- The status is written before the webhook is built: a row that makes no transfer is moved too.
    match transitionDispatch env row newStatus type with
    | none => w₁
    | some d => pushWebhooks env w₁ d (polledEndpoints env w₁ row)

/-- `_process_event`: the depth is stored first, and the transition follows the status of the
snapshot. -/
def processPolledEvent (env : Env) (chain : ChainId) (w : World) (row : EventRow) : World :=
  if env.raises (.updateFinality row.id) then w
  else
    let confirmations := polledConfirmations env row
    let w₁ := w.updateFinality row.id confirmations
    -- One threshold for all endpoints of the event; their own `finality_depth` is not read.
    if finalityDepths chain ≤ confirmations then
      match row.status with
      | .pending => transitionEvent env w₁ row .confirmed .paymentConfirmed
      | .confirmed => transitionEvent env w₁ row .finalized .paymentFinalized
      | _ => w₁
    else w₁

/-- The `payment.reorged` call of a row. -/
def reorgDispatch (env : Env) (row : EventRow) : Option Dispatch :=
  (reconstructTransfer row).map fun t =>
    { event := row.id, transfer := t, type := .paymentReorged, height := some env.blockNumber }

/-- `_handle_reorg`: the deliveries of `payment.reorged` are not recorded. -/
def handleReorg (env : Env) (w : World) (row : EventRow) : World :=
  if env.raises (.updateStatus row.id) then w
  else
    let w₁ := w.updateStatus env.now row.id .reorged
    -- The nonce is found by its `event_id`, which a claim of Goldsky does not carry.
    let w₂ := if env.raises (.invalidateNonce row.id) then w₁
      else w₁.invalidateByEventId env.now row.id
    match reorgDispatch env row with
    | none => w₂
    | some d => { w₂ with outbox := w₂.outbox ++ dispatchEvent env d (polledEndpoints env w₂ row) }

/-- The reorg test: a canonical hash is known, the stored one is not empty, and they differ in more
than case. -/
def isReorged (env : Env) (row : EventRow) : Bool :=
  match env.blockHash (row.blockNumber.getD 0), row.blockHash with
  | some canonical, some stored => canonical ≠ "" && stored ≠ "" && lower canonical ≠ lower stored
  | _, _ => false

/-- The work of a cycle on one row. -/
def pollEvent (env : Env) (chain : ChainId) (w : World) (row : EventRow) : World :=
  if isReorged env row then handleReorg env w row else processPolledEvent env chain w row

/-- The rows a cycle works through: none without the lock, the rows or the block height. -/
def polledRows (env : Env) (w : World) (chain : ChainId) : List EventRow :=
  if env.raises .acquireLock || env.raises .fetchPending || env.raises .blockNumber then []
  else fetchPendingEvents w chain

/-- `_poll_chain`. -/
def pollChain (env : Env) (w : World) (chain : ChainId) : World :=
  (polledRows env w chain).foldl (pollEvent env chain) w

end TripWire
