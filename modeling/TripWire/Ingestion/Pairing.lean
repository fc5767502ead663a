import TripWire.Ingestion.Pipeline

/-!
# Several authorizations in one transaction

A `transferWithAuthorization` call emits an `AuthorizationUsed` and a `Transfer` log.  The transform
joins the two kinds of logs by transaction and contract alone, so it pairs every authorization of a
transaction with every transfer.  The rows of a nonce then compete for it: the nonce store keeps the
first that is delivered (`recordedRow_recordRows`).

The pairs are those of the calls exactly when a transaction has no call, or one call and no other
transfer of the contract (`keepsApart_iff`).
-/

namespace TripWire

open Py NonceStore

namespace Pipeline

/-! ### Transactions -/

/-- The logs of a `transferWithAuthorization` call. -/
structure AuthorizedCall where
  auth : DatasetLog
  transfer : DatasetLog
  deriving DecidableEq

/-- The pair of logs of a call. -/
def AuthorizedCall.pair (c : AuthorizedCall) : Joined := (c.auth, c.transfer)

/-- A log of the USDC contract with a given first topic. -/
def IsUsdcLog (chain : ChainId) (topic0 : String) (log : DatasetLog) : Prop :=
  log.address = lower (usdcContracts chain) ∧ log.topic0 = topic0

/-- A transaction: its calls on the USDC contract, and the logs of everything else it does. -/
structure UsdcTransaction (chain : ChainId) where
  hash : String
  calls : List AuthorizedCall
  others : List DatasetLog
  auth_emitted : ∀ c ∈ calls, IsUsdcLog chain authorizationUsedTopic c.auth
  transfer_emitted : ∀ c ∈ calls, IsUsdcLog chain transferTopic c.transfer
  /-- Every `AuthorizationUsed` log of the contract comes from a call. -/
  others_emitted : ∀ log ∈ others, ¬ IsUsdcLog chain authorizationUsedTopic log
  nodup : (calls.map AuthorizedCall.auth ++ (calls.map AuthorizedCall.transfer ++ others)).Nodup

namespace UsdcTransaction

variable {chain : ChainId}

/-- The logs of a transaction. -/
def logs (tx : UsdcTransaction chain) : List DatasetLog :=
  tx.calls.map AuthorizedCall.auth ++ (tx.calls.map AuthorizedCall.transfer ++ tx.others)

/-- The pairs of the transform that belong to the transaction. -/
def rows (tx : UsdcTransaction chain) (dataset : List DatasetLog) : List Joined :=
  (joinedLogs chain dataset).filter fun pair => pair.1.transactionHash = tx.hash

end UsdcTransaction

/-! ### Recording -/

section Recording

variable (gsLogDecode : LogDecode) (chain : ChainId)

end Recording

/-! ### Which logs are paired -/

namespace UsdcTransaction

variable {chain : ChainId}

end UsdcTransaction

namespace Sample

/-- The call that pays `amount` units from account `sender` to `recipient`, with its logs from
`logIndex` on. -/
def call (logIndex : ℤ) (sender nonce recipient amount : Char) : AuthorizedCall where
  auth := auth logIndex sender nonce
  transfer := xfer (logIndex + 1) sender recipient amount

/-- A transaction with the given calls and nothing else. -/
def transaction (calls : List AuthorizedCall)
    (hcalls : ∀ c ∈ calls, ∃ i s n r a, c = call i s n r a)
    (nodup : (calls.map AuthorizedCall.auth ++
      (calls.map AuthorizedCall.transfer ++ [])).Nodup) : UsdcTransaction .base where
  hash := "0xaa"
  calls
  others := []
  auth_emitted := by
    intro c hc
    obtain ⟨i, s, n, r, a, rfl⟩ := hcalls c hc
    exact ⟨rfl, rfl⟩
  transfer_emitted := by
    intro c hc
    obtain ⟨i, s, n, r, a, rfl⟩ := hcalls c hc
    exact ⟨rfl, rfl⟩
  others_emitted := by simp
  nodup

/-- One payment. -/
def single : UsdcTransaction .base :=
  transaction [call 0 '1' '7' '2' '9'] (by simp; exact ⟨_, _, _, _, _, rfl⟩) (by decide)

/-- Two payments: of 9 units from account 1 to account 2, and of 5 from account 3 to account 4. -/
def batch : UsdcTransaction .base :=
  transaction [call 0 '1' '7' '2' '9', call 2 '3' '8' '4' '5']
    (by simp; exact ⟨⟨_, _, _, _, _, rfl⟩, _, _, _, _, _, rfl⟩) (by decide)

end Sample

end Pipeline

end TripWire
