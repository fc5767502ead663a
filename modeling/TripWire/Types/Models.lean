import TripWire.Py.Value

/-!
# Shared data model

The models of `tripwire/types/models.py` that the ingestion pipeline reads, with the two functions
every payload goes through: `buildFinalityData` and `deriveExecutionMetadata`.

Constraints that the Pydantic models enforce are carried by the types: an `EthAddress` is a string
that matches its pattern, a `Score` lies between 0 and 100, a `FinalityDepth` between 1 and 64.
Fields that no modelled function reads (timestamps, validity windows, the registration columns of an
endpoint) are left out.
-/

namespace TripWire

open Py

/-! ### Reusable types -/

/-- A hexadecimal digit, in either case. -/
def isHexDigit (c : Char) : Bool :=
  ('0' ≤ c && c ≤ '9') || ('a' ≤ c && c ≤ 'f') || ('A' ≤ c && c ≤ 'F')

/-- The pattern `^0x[a-fA-F0-9]{40}$`. -/
def isEthAddress (s : String) : Bool :=
  match s.toList with
  | '0' :: 'x' :: hs => hs.length == 40 && hs.all isHexDigit
  | _ => false

/-- A string that matches the address pattern. -/
abbrev EthAddress : Type := {s : String // isEthAddress s = true}

/-- Pydantic validation of an address field under `str_strip_whitespace`. -/
def EthAddress.validate (s : String) : Option EthAddress :=
  if h : isEthAddress (strip s) = true then some ⟨strip s, h⟩ else none

theorem isHexDigit_toLower {c : Char} (h : isHexDigit c = true) : isHexDigit c.toLower = true := by
  unfold isHexDigit at *
  unfold Char.toLower
  split_ifs with hu
  · simp only [Bool.or_eq_true, Bool.and_eq_true, decide_eq_true_eq, Char.le_def,
      UInt32.le_iff_toNat_le, UInt32.toNat_add] at h hu ⊢
    simp at h hu ⊢
    omega
  · exact h

theorem isSpace_of_isHexDigit {c : Char} (h : isHexDigit c = true) : isSpace c = false := by
  unfold isHexDigit at h
  unfold isSpace
  simp only [Bool.or_eq_true, Bool.and_eq_true, decide_eq_true_eq, Char.le_def,
    UInt32.le_iff_toNat_le, Char.toNat_val] at h
  simp at h ⊢
  omega

/-- A text matches the pattern of `n` hexadecimal digits after `0x`. -/
theorem hexPattern_iff {n : ℕ} {s : String} :
    (match s.toList with
      | '0' :: 'x' :: hs => hs.length == n && hs.all isHexDigit
      | _ => false) = true ↔
      ∃ hs : List Char, s.toList = '0' :: 'x' :: hs ∧ hs.length = n ∧
        ∀ c ∈ hs, isHexDigit c = true := by
  split
  · rename_i hs htext
    simp [htext]
  · rename_i hno
    constructor
    · intro h
      cases h
    · rintro ⟨hs, htext, -⟩
      exact absurd htext (hno hs)

theorem isEthAddress_iff {s : String} :
    isEthAddress s = true ↔
      ∃ hs : List Char, s.toList = '0' :: 'x' :: hs ∧ hs.length = 40 ∧
        ∀ c ∈ hs, isHexDigit c = true := hexPattern_iff

/-- The pattern accepts both spellings of an address. -/
theorem isEthAddress_lower {s : String} (h : isEthAddress s = true) :
    isEthAddress (lower s) = true := by
  obtain ⟨hs, htext, hlen, hdigits⟩ := isEthAddress_iff.mp h
  refine isEthAddress_iff.mpr ⟨hs.map Char.toLower, ?_, ?_, ?_⟩
  · simp [lower, htext]
  · rw [List.length_map, hlen]
  · intro c hc
    obtain ⟨d, hd, rfl⟩ := List.mem_map.mp hc
    exact isHexDigit_toLower (hdigits d hd)

/-- Hexadecimal text with its mark has no space around it. -/
theorem strip_of_hexText {s : String} {hs : List Char} (htext : s.toList = '0' :: 'x' :: hs)
    (hdigits : ∀ c ∈ hs, isHexDigit c = true) : strip s = s := by
  have hnospace : ∀ c ∈ s.toList, isSpace c = false := by
    intro c hc
    rw [htext, List.mem_cons, List.mem_cons] at hc
    rcases hc with rfl | rfl | hc
    · decide
    · decide
    · exact isSpace_of_isHexDigit (hdigits c hc)
  rw [strip, stripChars_of_forall hnospace, String.ofList_toList]

/-- An address has no space around it. -/
theorem strip_of_isEthAddress {s : String} (h : isEthAddress s = true) : strip s = s := by
  obtain ⟨hs, htext, -, hdigits⟩ := isEthAddress_iff.mp h
  exact strip_of_hexText htext hdigits

theorem EthAddress.validate_of_isEthAddress {s : String} (h : isEthAddress s = true) :
    EthAddress.validate s = some ⟨s, h⟩ := by
  unfold EthAddress.validate
  simp only [strip_of_isEthAddress h]
  rw [dif_pos h]

/-- A score or threshold, `Field(ge=0, le=100)`. -/
abbrev Score : Type := {q : ℚ // 0 ≤ q ∧ q ≤ 100}

/-- A finality depth an endpoint may ask for, `Field(ge=1, le=64)`. -/
abbrev FinalityDepth : Type := {d : ℤ // 1 ≤ d ∧ d ≤ 64}

/-! ### Chains -/

/-- The supported chains. -/
inductive ChainId where
  | ethereum
  | base
  | arbitrum
  deriving DecidableEq, Repr

/-- The EIP-155 number of a chain. -/
def ChainId.value : ChainId → ℤ
  | .ethereum => 1
  | .base => 8453
  | .arbitrum => 42161

/-- `ChainId(n)`, which raises on an unsupported number. -/
def ChainId.ofValue (n : ℤ) : Except PyError ChainId :=
  if n = 1 then .ok .ethereum
  else if n = 8453 then .ok .base
  else if n = 42161 then .ok .arbitrum
  else .error .valueError

theorem ChainId.ofValue_value (chain : ChainId) : ChainId.ofValue chain.value = .ok chain := by
  cases chain with
  | ethereum | base | arbitrum => rfl

theorem ChainId.value_injective : Function.Injective ChainId.value := by
  intro chain chain' h
  have hof := ChainId.ofValue_value chain
  rw [h, ChainId.ofValue_value] at hof
  exact (Except.ok.inj hof).symm

/-- `FINALITY_DEPTHS`: the confirmations after which a chain counts as final. -/
def finalityDepths : ChainId → ℤ
  | .ethereum => 12
  | .base => 3
  | .arbitrum => 1

/-- `USDC_CONTRACTS`. -/
def usdcContracts : ChainId → String
  | .base => "0x833589fCD6eDb6E08f4c7C32D4f71b54bdA02913"
  | .ethereum => "0xA0b86991c6218b36c1d19D4a2e9Eb0cE3606eB48"
  | .arbitrum => "0xaf88d065e77c8cC2239327C5EDb3A432268e5831"

/-! ### Transfers, finality and identity -/

/-- `ERC3009Transfer`: an ERC-3009 payment, decoded or announced by the facilitator. -/
structure ERC3009Transfer where
  chainId : ChainId
  txHash : String
  blockNumber : ℤ
  blockHash : String
  logIndex : ℤ
  fromAddress : EthAddress
  toAddress : EthAddress
  value : String
  authorizer : EthAddress
  nonce : String
  token : String
  deriving DecidableEq

/-- `FinalityStatus`: the confirmations of a block against a required depth. -/
structure FinalityStatus where
  confirmations : ℤ
  requiredConfirmations : ℤ
  isFinalized : Bool
  deriving DecidableEq

/-- `AgentIdentity`: what the identity registry knows about an address. -/
structure AgentIdentity where
  address : EthAddress
  agentClass : String
  reputationScore : Score
  deriving DecidableEq

/-! ### Endpoints -/

/-- `EndpointMode`: push by webhook, or insert for the realtime channel. -/
inductive EndpointMode where
  | notify
  | execute
  deriving DecidableEq, Repr

/-- `EndpointPolicies`: what an endpoint accepts. -/
structure EndpointPolicies where
  minAmount : Option String := none
  maxAmount : Option String := none
  allowedSenders : Option (List EthAddress) := none
  blockedSenders : Option (List EthAddress) := none
  requiredAgentClass : Option String := none
  minReputationScore : Option Score := none
  finalityDepth : Option FinalityDepth := none
  deriving DecidableEq

/-- The primary key of the endpoints table. -/
abbrev EndpointId := String

/-- `Endpoint`: a registered consumer. -/
structure Endpoint where
  id : EndpointId
  url : String := ""
  mode : EndpointMode
  chains : List ℤ
  recipient : EthAddress
  ownerAddress : EthAddress
  policies : EndpointPolicies := {}
  active : Bool := true
  convoyProjectId : Option String := none
  convoyEndpointId : Option String := none
  deriving DecidableEq

/-- `resolve_endpoint_depth`: the endpoint's own depth, `none` for the chain default. -/
def resolveEndpointDepth (ep : Endpoint) : Option ℤ := ep.policies.finalityDepth.map Subtype.val

/-- The depth that applies to an endpoint on a chain. -/
def requiredDepth (ep : Endpoint) (chain : ChainId) : ℤ :=
  (resolveEndpointDepth ep).getD (finalityDepths chain)

/-- `SubscriptionFilter`. -/
structure SubscriptionFilter where
  chains : Option (List ℤ) := none
  senders : Option (List String) := none
  recipients : Option (List String) := none
  minAmount : Option String := none
  agentClass : Option String := none
  deriving DecidableEq

/-- `Subscription`: a filter of a notify-mode endpoint. -/
structure Subscription where
  endpointId : EndpointId
  filters : SubscriptionFilter
  active : Bool := true
  deriving DecidableEq

/-! ### Webhook payloads -/

/-- `ExecutionState`. -/
inductive ExecutionState where
  | provisional
  | confirmed
  | finalized
  | reorged
  deriving DecidableEq, Repr

/-- `TrustSource`. -/
inductive TrustSource where
  | facilitator
  | onchain
  deriving DecidableEq, Repr

/-- `WebhookEventType`: the payment types of Keeper and the trigger types of Pulse. -/
inductive WebhookEventType where
  | paymentConfirmed
  | paymentPending
  | paymentPreConfirmed
  | paymentFailed
  | paymentReorged
  | paymentFinalized
  | triggerMatched
  | triggerConfirmed
  | triggerFinalized
  deriving DecidableEq, Repr

/-- The wire name of an event type. -/
def WebhookEventType.value : WebhookEventType → String
  | .paymentConfirmed => "payment.confirmed"
  | .paymentPending => "payment.pending"
  | .paymentPreConfirmed => "payment.pre_confirmed"
  | .paymentFailed => "payment.failed"
  | .paymentReorged => "payment.reorged"
  | .paymentFinalized => "payment.finalized"
  | .triggerMatched => "trigger.matched"
  | .triggerConfirmed => "trigger.confirmed"
  | .triggerFinalized => "trigger.finalized"

theorem WebhookEventType.value_injective : Function.Injective WebhookEventType.value := by
  intro type type' h
  revert h
  cases type <;> cases type' <;> decide

/-- `TransferData`: the transfer as policies and payloads see it. -/
structure TransferData where
  chainId : ChainId
  txHash : String
  blockNumber : ℤ
  fromAddress : String
  toAddress : String
  amount : String
  nonce : String
  token : String
  deriving DecidableEq

/-- `FinalityData`: the finality block of a payload. -/
structure FinalityData where
  confirmations : ℤ
  requiredConfirmations : ℤ
  isFinalized : Bool
  deriving DecidableEq

/-- `ExecutionBlock`: the execution metadata of a payload (TWSS-1, section 7.2). -/
structure ExecutionBlock where
  state : ExecutionState
  safeToExecute : Bool := false
  trustSource : TrustSource := .onchain
  finality : Option FinalityData := none
  deriving DecidableEq

/-- `build_finality_data`: the finality block for a payload.  A `required` override replaces the
depth of the status, and `isFinalized` is recomputed against the depth that is shown. -/
def buildFinalityData (finality : Option FinalityStatus) (required : Option ℤ) :
    Option FinalityData :=
  finality.map fun f =>
    let req := required.getD f.requiredConfirmations
    { confirmations := f.confirmations
      requiredConfirmations := req
      isFinalized := decide (req ≤ f.confirmations) }

/-- `derive_execution_metadata`: the execution block of an event type and a finality block. -/
def deriveExecutionMetadata (eventType : WebhookEventType) (finality : Option FinalityData) :
    ExecutionBlock :=
  if eventType = .paymentPreConfirmed then
    { state := .provisional, safeToExecute := false, trustSource := .facilitator, finality }
  else if eventType = .paymentReorged ∨ eventType = .paymentFailed then
    { state := .reorged, safeToExecute := false, trustSource := .onchain, finality }
  -- The finalized types are safe whatever the finality block says.
  else if eventType = .paymentFinalized ∨ eventType = .triggerFinalized then
    { state := .finalized, safeToExecute := true, trustSource := .onchain, finality }
  else if finality.any (·.isFinalized) then
    { state := .finalized, safeToExecute := true, trustSource := .onchain, finality }
  else
    { state := .confirmed, safeToExecute := false, trustSource := .onchain, finality }

/-- `WebhookData`: the transfer of a Keeper payload or the decoded event of a Pulse payload. -/
structure WebhookData where
  transfer : Option TransferData := none
  event : Option Dict := none
  finality : Option FinalityData := none
  identity : Option AgentIdentity := none
  deriving DecidableEq

/-- `WebhookPayload`. -/
structure WebhookPayload where
  idempotencyKey : String
  type : WebhookEventType
  mode : EndpointMode
  execution : ExecutionBlock
  data : WebhookData
  triggerId : Option String := none
  deriving DecidableEq

/-! ### A payment to follow through the pipeline -/

namespace Sample

/-- The sender of the sample payment. -/
def payer : EthAddress := ⟨"0x1111111111111111111111111111111111111111", by decide⟩

/-- Its recipient. -/
def payee : EthAddress := ⟨"0x2222222222222222222222222222222222222222", by decide⟩

/-- A payment of 1000 units on Base, as Goldsky reports it from a block. -/
def onchain (blockNumber : ℤ) : ERC3009Transfer where
  chainId := .base
  txHash := "0xaa"
  blockNumber
  blockHash := "0xb1"
  logIndex := 7
  fromAddress := payer
  toAddress := payee
  value := "1000"
  authorizer := payer
  nonce := "0x01"
  token := "0x833589fcd6edb6e08f4c7c32d4f71b54bda02913"

/-- The same payment as the facilitator announces it before it is onchain. -/
def announced : ERC3009Transfer :=
  { onchain 0 with txHash := "0x00", blockHash := "0x00", logIndex := 0 }

/-- An execute endpoint of the recipient. -/
def endpoint (policies : EndpointPolicies) : Endpoint where
  id := "endpoint"
  mode := .execute
  chains := [8453]
  recipient := payee
  ownerAddress := payee
  policies
  convoyProjectId := some "project"

end Sample

end TripWire
