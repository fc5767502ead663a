import TripWire.Ingestion.Processor

/-!
# The payment handler

Goldsky's delivery of an ERC-3009 log.  The legacy handler (`handlers/payment.py`) and the ERC-3009
branch of the unified loop (`handlers/trigger.py`) differ in two places only, which the flag
`unified` selects: the unified loop asks for no finality when the block number is zero, and it names
the failure of the nonce store `dedup_failed`.

Both branch on `not transfer.authorizer` for plain transfers.  `ERC3009Transfer.authorizer` matches
the address pattern, so it is never empty and the branch is never taken.
-/

namespace TripWire

open Py

/-- The finality lookup of either handler. -/
def paymentFinality (env : Env) (unified : Bool) (t : ERC3009Transfer) : Option FinalityStatus :=
  if unified && t.blockNumber == 0 then none else checkFinality env t.chainId t.blockNumber

/-- A log whose nonce was free: finality and identity, then the generic pipeline. -/
def processNewTransfer (env : Env) (unified : Bool) (w : World) (t : ERC3009Transfer) : Outcome :=
  dispatchForTransfer env w t (paymentFinality env unified t)
    (resolveIdentity env t.authorizer.val t.chainId.value)

/-- What the handlers do with the answer of the nonce store: a free nonce is a new transfer, one the
facilitator holds with its event id is promoted, any other is a duplicate. -/
def processCorrelated (env : Env) (unified : Bool) (t : ERC3009Transfer) (w : World)
    (answer : World.NonceAnswer) : Outcome :=
  if answer.isNew then processNewTransfer env unified w t
  else
    match answer.existingSource, answer.existingEventId with
    | some .facilitator, some id => promotePreConfirmedEvent env w id t
    | _, _ => (w, .ok { status := .duplicate, txHash := some t.txHash })

/-- `_process_erc3009_event`, and `_process_unified` without triggers.  `decoded` is what
`ERC3009Decoder().decode(raw_log)` returned; the nonce is claimed without an event id. -/
def processErc3009Event (env : Env) (unified : Bool) (w : World)
    (decoded : Except PyError ERC3009Transfer) : Outcome :=
  match decoded with
  | .error _ => (w, errorResult "decode_failed")
  | .ok t =>
    if env.raises .recordNonce then
      (w, errorResult (if unified then "dedup_failed" else "nonce_dedup_failed") t.txHash)
    else
      -- No event id here: what the claim is for is not known to the `nonces` table.
      let (w₁, answer) := w.recordNonceOrCorrelate env.now t.nonceKey none .goldsky
      processCorrelated env unified t w₁ answer

end TripWire
