import TripWire.Ingestion.Decoders.Erc3009
import TripWire.Ingestion.Handlers.Payment

/-!
# The two payment paths

A log of an ERC-3009 payment is processed by `_process_erc3009_event` (`handlers/payment.py`) or,
behind a feature flag, by `_process_unified` without triggers (`handlers/trigger.py`).  The one
works on the transfer, the other on a `DecodedEvent` with the transfer inside.

A handler is a script of the calls it makes (`PaymentScript`): the nonce store first, and then, by
its answer, a result, a promotion or a dispatch.  `unified_same_legacy` compares the two scripts
call by call.  Running a script against a world gives the function `processErc3009Event` with which
the pipeline is modelled elsewhere (`runScript_legacy`, `runScript_unified`).
-/

namespace TripWire

open Py

/-! ### Finality -/

/-- `FinalityStatus` with the fields that no later stage reads. -/
structure FinalityReport extends FinalityStatus where
  txHash : String
  chainId : ChainId
  blockNumber : ℤ
  finalizedAt : Option ℤ
  deriving DecidableEq

/-- The services that a payment handler reads from. -/
structure PaymentServices where
  /-- `eth_blockNumber`. -/
  getBlockNumber : ChainId → Except PyError ℤ
  /-- The identity resolver. -/
  resolve : String → ℤ → Except PyError (Option AgentIdentity)

/-- `check_finality_generic`, for a number or a member of `ChainId`. -/
def checkFinalityGeneric (services : PaymentServices) (chainId : ℤ ⊕ ChainId) (blockNumber : ℤ)
    (txHash : String) (currentBlock requiredDepth : Option ℤ := none) :
    Except PyError FinalityReport := do
  let chain ← match chainId with
    | .inl n => ChainId.ofValue n
    | .inr chain => .ok chain
  let current ← match currentBlock with
    | some current => .ok current
    | none => services.getBlockNumber chain
  let required := requiredDepth.getD (finalityDepths chain)
  let confirmations := max 0 (current - blockNumber)
  let isFinalized := decide (required ≤ confirmations)
  return {
    confirmations
    requiredConfirmations := required
    isFinalized
    txHash
    chainId := chain
    blockNumber
    finalizedAt := if isFinalized then some current else none }

/-- `check_finality`. -/
def checkTransferFinality (services : PaymentServices) (t : ERC3009Transfer) :
    Except PyError FinalityReport :=
  checkFinalityGeneric services (.inr t.chainId) t.blockNumber t.txHash

/-! ### The decoder -/

/-- What `ERC3009Decoder` makes of a log: a `DecodedEvent` with a `typed_model`. -/
structure Erc3009Event extends DecodedEvent where
  topic0 : String
  typedModel : ERC3009Transfer

/-- `transfer.model_dump()`, the fields of the model. -/
def ERC3009Transfer.modelDump (t : ERC3009Transfer) : Dict :=
  [("chain_id", .int t.chainId.value), ("tx_hash", .str t.txHash),
    ("block_number", .int t.blockNumber), ("block_hash", .str t.blockHash),
    ("log_index", .int t.logIndex), ("from_address", .str t.fromAddress.val),
    ("to_address", .str t.toAddress.val), ("value", .str t.value),
    ("authorizer", .str t.authorizer.val), ("nonce", .str t.nonce), ("token", .str t.token)]

/-- `s or None`. -/
def orNone (s : String) : Option String := if s = "" then none else some s

/-- `ERC3009Decoder.decode`. -/
def erc3009Decode (lib : Library) (raw : Dict) : Except PyError Erc3009Event := do
  let t ← decodeTransferEvent lib raw
  let topic0 ← firstTopic (parseTopicsValue (raw.getD "topics" (.list [])))
  return {
    txHash := t.txHash
    blockNumber := t.blockNumber
    blockHash := t.blockHash
    logIndex := t.logIndex
    chainId := some t.chainId.value
    contractAddress := t.token
    topic0
    fields := t.modelDump
    typedModel := t
    identityAddress := orNone t.authorizer.val
    dedupKey := some (
      if t.authorizer.val ≠ "" then s!"{t.authorizer.val}:{t.nonce}"
      else s!"{t.txHash}:{t.logIndex}")
    paymentAmount := some t.value
    paymentToken := some t.token
    paymentFrom := some t.fromAddress.val
    paymentTo := some t.toAddress.val }

/-! ### The scripts -/

/-- What a payment handler does, call by call. -/
inductive PaymentScript where
  | done (result : ProcessResult)
  /-- `record_nonce_or_correlate`, and what follows its answer. -/
  | recordNonceOrCorrelate (chainId : ℤ) (nonce authorizer : String) (source : NonceSource)
      (next : Except PyError World.NonceAnswer → PaymentScript)
  /-- `record_nonce`, and what follows its answer. -/
  | recordNonce (chainId : ℤ) (nonce authorizer : String)
    (next : Except PyError Bool → PaymentScript)
  /-- `_promote_pre_confirmed_event`, whose result is returned. -/
  | promote (existingEventId : EventId) (transfer : ERC3009Transfer)
  /-- `_dispatch_for_transfer`, whose result is returned. -/
  | dispatch (transfer : ERC3009Transfer) (finality : Option FinalityReport)
      (identity : Option AgentIdentity)

/-- The result of a failed call. -/
def failedResult (reason : String) (txHash : Option String := none) : ProcessResult :=
  { status := .error, reason := some reason, txHash }

/-- `_process_erc3009_event`. -/
def legacyScript (services : PaymentServices) (lib : Library) (raw : Dict) : PaymentScript :=
  match erc3009Decode lib raw with
  | .error _ => .done (failedResult "decode_failed")
  | .ok decoded =>
    let t := decoded.typedModel
    let isPlainTransfer := decide (t.authorizer.val = "")
    let dedupNonce := if !isPlainTransfer then t.nonce else s!"{t.txHash}:{t.logIndex}"
    let dedupAuthorizer := if !isPlainTransfer then t.authorizer.val else "transfer"
    .recordNonceOrCorrelate t.chainId.value dedupNonce dedupAuthorizer .goldsky fun answer =>
      match answer with
      | .error _ => .done (failedResult "nonce_dedup_failed" t.txHash)
      | .ok answer =>
        if !answer.isNew then
          match answer.existingSource, answer.existingEventId with
          | some .facilitator, some id => .promote id t
          | _, _ => .done { status := .duplicate, txHash := some t.txHash }
        else
          .dispatch t (checkTransferFinality services t).toOption
            (services.resolve t.authorizer.val t.chainId.value).toOption.join

/-- Steps 5 to 7 of `_process_unified` for the one pair of a payment, which has no trigger and so no
reputation gate. -/
def unifiedDispatch (services : PaymentServices) (decoded : Erc3009Event) : PaymentScript :=
  let finality :=
    match decoded.chainId with
    | none => none
    | some n =>
      if decoded.blockNumber = 0 ∨ n = 0 then none
      else (checkFinalityGeneric services (.inl n) decoded.blockNumber decoded.txHash).toOption
  let identity :=
    match decoded.identityAddress.filter (· ≠ "") with
    | none => none
    | some address => (services.resolve address (decoded.chainId.getD 0)).toOption.join
  .dispatch decoded.typedModel finality identity

/-- `_process_unified` without triggers. -/
def unifiedScript (services : PaymentServices) (lib : Library) (raw : Dict) : PaymentScript :=
  match erc3009Decode lib raw with
  | .error _ => .done (failedResult "decode_failed")
  | .ok decoded =>
    let t := decoded.typedModel
    let isPlainTransfer := decide (t.authorizer.val = "")
    let dedupKey := if !isPlainTransfer then t.nonce else s!"{t.txHash}:{t.logIndex}"
    let dedupAuthorizer := if !isPlainTransfer then t.authorizer.val else "transfer"
    -- `chain_id or 0`
    let chainId := decoded.chainId.getD 0
    let duplicate : ProcessResult := { status := .duplicate, txHash := some decoded.txHash }
    if (decoded.identityAddress.filter (· ≠ "")).isSome then
      .recordNonceOrCorrelate chainId dedupKey dedupAuthorizer .goldsky fun answer =>
        match answer with
        | .error _ => .done (failedResult "dedup_failed" decoded.txHash)
        | .ok answer =>
          if !answer.isNew then
            match answer.existingSource, answer.existingEventId with
            | some .facilitator, some id => .promote id t
            -- the pair is dropped, and no pair is left
            | _, _ => .done duplicate
          else unifiedDispatch services decoded
    else
      .recordNonce chainId dedupKey dedupAuthorizer fun answer =>
        match answer with
        | .ok true => unifiedDispatch services decoded
        | _ => .done duplicate

/-! ### The comparison -/

/-- Two results that differ at most in the text of their reason. -/
def SameButReason (r r' : ProcessResult) : Prop :=
  { r with reason := none } = { r' with reason := none }

/-- Two handlers that make the same calls with the same arguments and return the same results, up to
the reason for which deduplication fails. -/
def SameCalls : PaymentScript → PaymentScript → Prop
  | .recordNonceOrCorrelate chainId nonce authorizer source next,
    .recordNonceOrCorrelate chainId' nonce' authorizer' source' next' =>
    chainId = chainId' ∧ nonce = nonce' ∧ authorizer = authorizer' ∧ source = source' ∧
      (∀ answer, next (.ok answer) = next' (.ok answer)) ∧
      ∀ e, ∃ r r', next (.error e) = .done r ∧ next' (.error e) = .done r' ∧ SameButReason r r'
  | script, script' => script = script'

theorem EthAddress.val_ne_empty (address : EthAddress) : address.val ≠ "" := by
  intro h
  have hprop := address.property
  rw [h] at hprop
  cases hprop

theorem ChainId.value_ne_zero (chain : ChainId) : chain.value ≠ 0 := by
  cases chain with
  | ethereum | base | arbitrum => decide

/-- What the decoder copies from the transfer. -/
theorem erc3009Decode_eq_ok {lib : Library} {raw : Dict} {decoded : Erc3009Event}
    (h : erc3009Decode lib raw = .ok decoded) :
    decodeTransferEvent lib raw = .ok decoded.typedModel ∧
      decoded.txHash = decoded.typedModel.txHash ∧
      decoded.blockNumber = decoded.typedModel.blockNumber ∧
      decoded.chainId = some decoded.typedModel.chainId.value ∧
      decoded.identityAddress = some decoded.typedModel.authorizer.val := by
  obtain ⟨t, ht, h⟩ := bind_eq_ok_iff.mp h
  obtain ⟨topic0, -, h⟩ := bind_eq_ok_iff.mp h
  obtain rfl := Except.ok.inj h
  exact ⟨ht, rfl, rfl, rfl, if_neg t.authorizer.val_ne_empty⟩

/-- Looking up the finality by number is looking it up by member. -/
theorem checkFinalityGeneric_value (services : PaymentServices) (chain : ChainId) (blockNumber : ℤ)
    (txHash : String) :
    checkFinalityGeneric services (.inl chain.value) blockNumber txHash =
      checkFinalityGeneric services (.inr chain) blockNumber txHash := by
  unfold checkFinalityGeneric
  simp only [ChainId.ofValue_value]

/-- The last steps of the unified path, where the block number is not zero. -/
theorem unifiedDispatch_eq (services : PaymentServices) {lib : Library} {raw : Dict}
    {decoded : Erc3009Event} (h : erc3009Decode lib raw = .ok decoded)
    (hblock : decoded.typedModel.blockNumber ≠ 0) :
    unifiedDispatch services decoded =
      .dispatch decoded.typedModel (checkTransferFinality services decoded.typedModel).toOption
        (services.resolve decoded.typedModel.authorizer.val
          decoded.typedModel.chainId.value).toOption.join := by
  obtain ⟨-, htx, hnumber, hchain, hidentity⟩ := erc3009Decode_eq_ok h
  have haddress : (some decoded.typedModel.authorizer.val).filter (· ≠ "") =
      some decoded.typedModel.authorizer.val := by
    rw [Option.filter_some, if_pos (by simpa using decoded.typedModel.authorizer.val_ne_empty)]
  unfold unifiedDispatch
  simp only [htx, hnumber, hchain, hidentity, haddress, hblock, ChainId.value_ne_zero, or_self,
    if_false, checkFinalityGeneric_value, Option.getD_some]
  rfl

/-- **The two payment paths are equivalent.** For every raw log whose decoded block number is not
zero, and whatever the nonce store, the RPC node and the identity resolver answer: both handlers
make the same call of the nonce store and then the same promotion or dispatch, and they return the
same result, except for the reason when deduplication itself fails. -/
theorem unified_same_legacy (services : PaymentServices) (lib : Library) (raw : Dict)
    (hblock : ∀ t, decodeTransferEvent lib raw = .ok t → t.blockNumber ≠ 0) :
    SameCalls (unifiedScript services lib raw) (legacyScript services lib raw) := by
  unfold unifiedScript legacyScript
  cases hdecode : erc3009Decode lib raw with
  | error e => rfl
  | ok decoded =>
    obtain ⟨htransfer, htx, -, hchain, hidentity⟩ := erc3009Decode_eq_ok hdecode
    have hdispatch := unifiedDispatch_eq services hdecode (hblock _ htransfer)
    have haddress : ((some decoded.typedModel.authorizer.val).filter (· ≠ "")).isSome = true := by
      rw [Option.filter_some, if_pos (by simpa using decoded.typedModel.authorizer.val_ne_empty)]
      rfl
    simp only [hidentity, haddress, if_true, hchain, Option.getD_some, htx, hdispatch]
    refine ⟨rfl, rfl, rfl, rfl, fun answer => rfl, fun e => ?_⟩
    exact ⟨_, _, rfl, rfl, rfl⟩

/-! ### The scripts in a world -/

/-- The services of an environment. -/
def Env.paymentServices (env : Env) : PaymentServices where
  getBlockNumber := fun _ =>
    if env.raises .blockNumber then .error .infrastructure else .ok env.blockNumber
  resolve := fun address chainId =>
    if env.raises .resolveIdentity then .error .infrastructure
    else .ok (env.resolve address chainId)

/-- A script run against the database. -/
def runScript (env : Env) (w : World) : PaymentScript → Outcome
  | .done result => (w, .ok result)
  | .recordNonceOrCorrelate chainId nonce authorizer source next =>
    if env.raises .recordNonce then runScript env w (next (.error .infrastructure))
    else
      let (w₁, answer) :=
        w.recordNonceOrCorrelate env.now (World.nonceKey chainId nonce authorizer) none source
      runScript env w₁ (next (.ok answer))
  | .recordNonce chainId nonce authorizer next =>
    if env.raises .recordNonce then runScript env w (next (.error .infrastructure))
    else
      let (w₁, isNew) := w.recordNonce env.now (World.nonceKey chainId nonce authorizer) none
      runScript env w₁ (next (.ok isNew))
  | .promote id t => promotePreConfirmedEvent env w id t
  | .dispatch t finality identity =>
    dispatchForTransfer env w t (finality.map FinalityReport.toFinalityStatus) identity

/-- The finality lookup of a handler, with the `try` around it. -/
theorem checkFinality_eq (env : Env) (chain : ChainId) (blockNumber : ℤ) (txHash : String) :
    (checkFinalityGeneric env.paymentServices (.inr chain) blockNumber txHash).toOption.map
        FinalityReport.toFinalityStatus = checkFinality env chain blockNumber := by
  unfold checkFinalityGeneric checkFinality Env.paymentServices
  by_cases hraises : env.raises .blockNumber = true
  · simp only [hraises, if_true]
    rfl
  · simp only [hraises]
    rfl

/-- The identity lookup of a handler, with the `try` around it. -/
theorem resolveIdentity_eq (env : Env) (address : String) (chainId : ℤ) :
    (env.paymentServices.resolve address chainId).toOption.join =
      resolveIdentity env address chainId := by
  unfold Env.paymentServices resolveIdentity
  by_cases hraises : env.raises .resolveIdentity = true
  · simp only [hraises, if_true]
    rfl
  · simp only [hraises]
    rfl

/-- What a handler does with the answer of the nonce store, run against a world. -/
theorem runScript_answer (env : Env) (w : World) (t : ERC3009Transfer) (answer : World.NonceAnswer)
    {unified : Bool} {finality : Option FinalityReport} {identity : Option AgentIdentity}
    (hfinality : finality.map FinalityReport.toFinalityStatus = paymentFinality env unified t)
    (hidentity : identity = resolveIdentity env t.authorizer.val t.chainId.value) :
    runScript env w
        (if !answer.isNew then
          match answer.existingSource, answer.existingEventId with
          | some .facilitator, some id => .promote id t
          | _, _ => .done { status := .duplicate, txHash := some t.txHash }
        else .dispatch t finality identity) =
      processCorrelated env unified t w answer := by
  unfold processCorrelated
  cases answer.isNew with
  | true =>
    simp only [Bool.not_true, Bool.false_eq_true, if_false, if_true, runScript, hfinality,
      hidentity]
    rfl
  | false =>
    simp only [Bool.not_false, if_true, Bool.false_eq_true, if_false]
    cases answer.existingSource with
    | none => rfl
    | some source =>
      cases source with
      | goldsky => rfl
      | facilitator =>
        cases answer.existingEventId with
        | none => rfl
        | some id => rfl

/-- **The legacy script is the legacy handler** of the pipeline's model. -/
theorem runScript_legacy (env : Env) (w : World) (lib : Library) (raw : Dict) :
    runScript env w (legacyScript env.paymentServices lib raw) =
      processErc3009Event env false w ((erc3009Decode lib raw).map Erc3009Event.typedModel) := by
  unfold legacyScript processErc3009Event
  cases hdecode : erc3009Decode lib raw with
  | error e => rfl
  | ok decoded =>
    have hauthorizer := decoded.typedModel.authorizer.val_ne_empty
    simp only [hauthorizer, decide_false, Bool.not_false, if_true, runScript, Except.map]
    by_cases hraises : env.raises .recordNonce = true
    · simp only [hraises, if_true]
      rfl
    · simp only [hraises]
      exact runScript_answer env _ _ _ (checkFinality_eq env _ _ _) (resolveIdentity_eq env _ _)

/-- **The unified script is the unified handler** of the pipeline's model. -/
theorem runScript_unified (env : Env) (w : World) (lib : Library) (raw : Dict) :
    runScript env w (unifiedScript env.paymentServices lib raw) =
      processErc3009Event env true w ((erc3009Decode lib raw).map Erc3009Event.typedModel) := by
  unfold unifiedScript processErc3009Event
  cases hdecode : erc3009Decode lib raw with
  | error e => rfl
  | ok decoded =>
    obtain ⟨-, htx, hnumber, hchain, hidentity⟩ := erc3009Decode_eq_ok hdecode
    have hauthorizer := decoded.typedModel.authorizer.val_ne_empty
    have haddress : (some decoded.typedModel.authorizer.val).filter (· ≠ "") =
        some decoded.typedModel.authorizer.val := by
      rw [Option.filter_some, if_pos (by simpa using hauthorizer)]
    simp only [hauthorizer, decide_false, Bool.not_false, if_true, Except.map, hidentity, haddress,
      Option.isSome_some, hchain, Option.getD_some, htx, runScript]
    by_cases hraises : env.raises .recordNonce = true
    · simp only [hraises, if_true]
      rfl
    · simp only [hraises, unifiedDispatch, hidentity, haddress, hchain, Option.getD_some, htx,
      hnumber]
      refine runScript_answer env _ _ _ ?_ (resolveIdentity_eq env _ _)
      unfold paymentFinality
      -- only the block number decides whether the finality is looked up
      by_cases hzero : decoded.typedModel.blockNumber = 0
      · simp [hzero]
      · simp only [hzero, ChainId.value_ne_zero, or_self, if_false, checkFinalityGeneric_value,
          checkFinality_eq]
        simp [hzero]

namespace Sample

/-- A pre-decoded row of a payment on Base. -/
def paymentLog : Dict :=
  [("address", .str "0x833589fcd6edb6e08f4c7c32d4f71b54bda02913"), ("chain_id", .int 8453),
    ("block_number", .int 100), ("transaction_hash", .str "0xaa"),
    ("decoded", .dict [("authorizer", .str payer.val), ("nonce", .str "0x01")]),
    ("transfer", .dict [("from_address", .str payer.val), ("to_address", .str payee.val),
      ("value", .str "1000")])]

/-- Services that answer. -/
def answering : PaymentServices where
  getBlockNumber := fun _ => .ok 120
  resolve := fun _ _ => .ok none

end Sample

/-- A payment in block 100. -/
theorem unified_same_legacy_base :
    SameCalls (unifiedScript Sample.answering {} Sample.paymentLog)
      (legacyScript Sample.answering {} Sample.paymentLog) := by
  refine unified_same_legacy Sample.answering {} Sample.paymentLog ?_
  intro t ht
  have hnumber : (decodeTransferEvent {} Sample.paymentLog).map ERC3009Transfer.blockNumber =
      .ok 100 := by
    decide +kernel
  rw [ht] at hnumber
  have hblock : t.blockNumber = 100 := Except.ok.inj hnumber
  rw [hblock]
  decide

end TripWire
