import TripWire.Ingestion.Detection

/-!
# The ERC-3009 decoder

`decode_transfer_event` (`tripwire/ingestion/decoder.py`) turns a row that Goldsky delivers into an
`ERC3009Transfer`.  A row is pre-decoded (it has a `decoded` and a `transfer` dictionary) or raw (it
has `topics` and `data`); the columns may be absent or of any type, so the decoder works on `Dict`
and may raise.

Without the topics of a `Transfer` log the sender, the recipient and the amount come from the
`transfer` dictionary alone (`toAddress_of_decodeTransferEvent`), where they are expected under
`from_address`, `to_address` and `value` (`decodeTransferEvent_preDecoded`).
-/

namespace TripWire

open Py

/-! ### Helpers -/

/-- `ChainId(v)`, which raises on a value that equals no member. -/
def chainIdOfValue (v : Value) : Except PyError ChainId :=
  match [ChainId.ethereum, .base, .arbitrum].find? fun chain => v.eqInt chain.value with
  | some chain => .ok chain
  | none => .error .valueError

/-- `_CONTRACT_TO_CHAIN.get(contract)`. -/
def contractToChain (contract : String) : Option ChainId :=
  [ChainId.base, .ethereum, .arbitrum].find? fun chain => lower (usdcContracts chain) = contract

/-- `_resolve_chain_id`. -/
def resolveChainId (raw : Dict) (contract : String) : Except PyError ChainId :=
  match raw.get? "chain_id", contractToChain contract with
  | some v, _ => chainIdOfValue v
  | none, some chain => .ok chain
  | none, none => .error .valueError

/-- `_validate_contract`, which is called only for a contract that is not empty. -/
def validateContract (contract : String) (chain : ChainId) : Except PyError Unit :=
  if contract = "" ∨ contract = lower (usdcContracts chain) then .ok () else .error .valueError

/-- `_address_from_topic`. -/
def addressFromTopic : Value → Except PyError Value
  | .str topic =>
    let body := dropHexMark topic.toList
    .ok (.str ("0x" ++ String.ofList (body.drop (body.length - 40))))
  | _ => .error .attributeError

/-- The dictionary of which `v.get` is called. -/
def asDict : Value → Except PyError Dict
  | .dict items => .ok items
  | _ => .error .attributeError

/-- `if old in raw_log and new not in raw_log: raw_log[new] = raw_log[old]`. -/
def renameColumn (raw : Dict) (old new : String) : Dict :=
  match raw.get? old, raw.get? new with
  | some v, none => raw.set new v
  | _, _ => raw

/-- `"0x" + "00" * 32`. -/
def zeroNonce : String := "0x" ++ String.ofList (List.replicate 64 '0')

/-! ### The decoder -/

/-- The authorizer and the nonce: of the `decoded` dictionary, or of the topics of a raw
`AuthorizationUsed` log. -/
def decodeAuthorization (decoded : Value) (topics : List Value) (isTransferEvent : Bool) :
    Except PyError (Value × Value) :=
  if decoded.truth then do
    let decoded ← asDict decoded
    return (decoded.getD "authorizer" (.str ""), decoded.getD "nonce" (.str zeroNonce))
  else if isTransferEvent then .ok (.str "", .str zeroNonce)
  else
    match topics with
    | _ :: authorizer :: nonce :: _ => do return (← addressFromTopic authorizer, nonce)
    | [_, authorizer] => do return (← addressFromTopic authorizer, .str zeroNonce)
    | _ => .ok (.str "", .str zeroNonce)

/-- The amount in the data of a raw `Transfer` log; every exception on the way makes it `"0"`. -/
def decodeAmount (lib : Library) : Value → String
  | .str data =>
    if data = "" ∨ data = "0x" then "0"
    else
      match fromHexChars (dropHexMark data.toList) with
      | .error _ => "0"
      | .ok bytes =>
        match lib.abiDecode ["uint256"] bytes with
        | .ok [.value v] => lib.str v
        | _ => "0"
  | _ => "0"

/-- The sender, the recipient and the amount: of a raw `Transfer` log, or of the `transfer`
dictionary of a joined row. -/
def decodeTransferFields (lib : Library) (raw : Dict) (topics : List Value) (isTransferEvent : Bool)
    (authorizer : Value) : Except PyError (Value × Value × String) :=
  match isTransferEvent, topics with
  | true, _ :: sender :: recipient :: _ => do
    return (← addressFromTopic sender, ← addressFromTopic recipient,
      decodeAmount lib (raw.getD "data" (.str "0x")))
  | _, _ => do
    let transfer ← asDict (raw.getD "transfer" (.dict []))
    let sender := transfer.getD "from_address" (.str "")
    return (if sender.truth then sender else authorizer, transfer.getD "to_address" (.str ""),
      lib.str (transfer.getD "value" (.str "0")))

/-- Pydantic validation of a text under `str_strip_whitespace`. -/
def textField : Value → Except PyError String
  | .str s => .ok (strip s)
  | _ => .error .valueError

/-- Pydantic validation of an `EthAddress`. -/
def addressField : Value → Except PyError EthAddress
  | .str s =>
    match EthAddress.validate s with
    | some address => .ok address
    | none => .error .valueError
  | _ => .error .valueError

/-- The first topic, in lower case; `""` without topics. -/
def firstTopic : List Value → Except PyError String
  | [] => .ok ""
  | topic :: _ => lowerValue topic

/-- `decode_transfer_event` on a row whose columns are renamed. -/
def decodeRow (lib : Library) (raw : Dict) : Except PyError ERC3009Transfer := do
  let contract ← lowerValue (raw.getD "address" (.str ""))
  let chainId ← resolveChainId raw contract
  validateContract contract chainId
  let blockNumber ← toInt (raw.getD "block_number" (.int 0))
  let logIndex ← toInt (raw.getD "log_index" (.int 0))
  let _timestamp ← toInt (raw.getD "block_timestamp" (.int 0))
  let topics := parseTopicsValue (raw.getD "topics" (.list []))
  let topic0 ← firstTopic topics
  let isTransferEvent := decide (topic0 = lower transferTopic)
  let (authorizer, nonce) ←
    decodeAuthorization (raw.getD "decoded" (.dict [])) topics isTransferEvent
  let (sender, recipient, value) ← decodeTransferFields lib raw topics isTransferEvent authorizer
  return {
    chainId
    txHash := ← textField (raw.getD "transaction_hash" (.str ""))
    blockNumber
    blockHash := ← textField (raw.getD "block_hash" (.str ""))
    logIndex
    fromAddress := ← addressField sender
    toAddress := ← addressField recipient
    value := strip value
    authorizer := ← addressField authorizer
    nonce := ← textField nonce
    token := strip (if contract = "" then usdcContracts chainId else contract) }

/-- `decode_transfer_event`. -/
def decodeTransferEvent (lib : Library) (raw : Dict) : Except PyError ERC3009Transfer :=
  decodeRow lib (renameColumn (renameColumn raw "from" "from_address") "to" "to_address")

/-! ### What the decoder reads -/

theorem get?_renameColumn_of_ne {raw : Dict} {old new k : String} (hne : k ≠ new) :
    (renameColumn raw old new).get? k = raw.get? k := by
  unfold renameColumn
  split
  · exact Dict.get?_set_of_ne hne _
  · rfl

/-- Renaming touches no column that the decoder reads. -/
theorem decodeTransferEvent_getD {raw : Dict} {k : String} (hfrom : k ≠ "from_address")
    (hto : k ≠ "to_address") (default : Value) :
    Dict.getD (renameColumn (renameColumn raw "from" "from_address") "to" "to_address") k default =
      raw.getD k default := by
  rw [Dict.getD, get?_renameColumn_of_ne hto, get?_renameColumn_of_ne hfrom]
  rfl

theorem addressField_eq_ok_iff {v : Value} {address : EthAddress} :
    addressField v = .ok address ↔ ∃ s, v = .str s ∧ EthAddress.validate s = some address := by
  cases v with
  | str s =>
    simp only [addressField]
    cases hvalid : EthAddress.validate s <;> simp [hvalid]
  | _ => simp [addressField]

/-- Without the topics of a `Transfer` log, the three fields are those of the dictionary. -/
theorem decodeTransferFields_of_joined {lib : Library} {raw : Dict} {topics : List Value}
    {authorizer sender recipient : Value} {value : String}
    (h : decodeTransferFields lib raw topics false authorizer = .ok (sender, recipient, value)) :
    ∃ transfer : Dict, raw.getD "transfer" (.dict []) = .dict transfer ∧
      recipient = transfer.getD "to_address" (.str "") := by
  unfold decodeTransferFields at h
  obtain ⟨transfer, htransfer, h⟩ := bind_eq_ok_iff.mp h
  cases hv : raw.getD "transfer" (.dict []) with
  | dict items =>
    rw [hv] at htransfer
    cases htransfer
    cases h
    exact ⟨transfer, rfl, rfl⟩
  | _ =>
    rw [hv] at htransfer
    cases htransfer

/-- **The recipient of a joined row** is the `to_address` of its `transfer` dictionary. -/
theorem toAddress_of_decodeTransferEvent {lib : Library} {raw : Dict} {t : ERC3009Transfer}
    (htopics : firstTopic (parseTopicsValue (raw.getD "topics" (.list []))) ≠
      .ok (lower transferTopic))
    (h : decodeTransferEvent lib raw = .ok t) :
    ∃ (transfer : Dict) (recipient : String), raw.getD "transfer" (.dict []) = .dict transfer ∧
      transfer.getD "to_address" (.str "") = .str recipient ∧
      EthAddress.validate recipient = some t.toAddress := by
  unfold decodeTransferEvent decodeRow at h
  simp only [bind_eq_ok_iff] at h
  obtain ⟨contract, -, chainId, -, -, -, blockNumber, -, logIndex, -, timestamp, -, topic0, htopic0,
    ⟨authorizer, nonce⟩, -, ⟨sender, recipient, value⟩, hfields, txHash, -, blockHash, -, from', -,
    to', hto, authorizer', -, nonce', -, h⟩ := h
  rw [decodeTransferEvent_getD (by decide) (by decide)] at htopic0
  have hraw : decide (topic0 = lower transferTopic) = false := by
    rw [decide_eq_false_iff_not]
    rintro rfl
    exact htopics htopic0
  rw [hraw] at hfields
  obtain ⟨transfer, htransfer, rfl⟩ := decodeTransferFields_of_joined hfields
  rw [decodeTransferEvent_getD (by decide) (by decide)] at htransfer
  obtain ⟨text, htext, hvalid⟩ := addressField_eq_ok_iff.mp hto
  cases h
  exact ⟨transfer, text, htransfer, htext, hvalid⟩

/-- The columns of a row, other than the two dictionaries, as the decoder wants them. -/
structure PlainColumns (raw : Dict) (chain : ChainId) : Prop where
  address : raw.getD "address" (.str "") = .str (lower (usdcContracts chain))
  chainId : raw.get? "chain_id" = some (.int chain.value)
  blockNumber : ∃ n, toInt (raw.getD "block_number" (.int 0)) = .ok n
  logIndex : ∃ n, toInt (raw.getD "log_index" (.int 0)) = .ok n
  blockTimestamp : ∃ n, toInt (raw.getD "block_timestamp" (.int 0)) = .ok n
  transactionHash : ∃ s, raw.getD "transaction_hash" (.str "") = .str s
  blockHash : ∃ s, raw.getD "block_hash" (.str "") = .str s
  topics : parseTopicsValue (raw.getD "topics" (.list [])) = []

theorem chainIdOfValue_value (chain : ChainId) : chainIdOfValue (.int chain.value) = .ok chain := by
  cases chain <;> rfl

theorem addressField_of_address (address : EthAddress) :
    addressField (.str address.val) = .ok address := by
  rw [addressField_eq_ok_iff]
  exact ⟨address.val, rfl, EthAddress.validate_of_isEthAddress address.property⟩

/-- **Pre-decoded rows**: what the decoder makes of a row whose `transfer` dictionary has the names
it expects. -/
theorem decodeTransferEvent_preDecoded {lib : Library} {raw : Dict} {chain : ChainId}
    {authorizer sender recipient : EthAddress} {nonce : String} {amount : Value}
    (hplain : PlainColumns raw chain)
    (hdecoded : raw.get? "decoded" =
      some (.dict [("authorizer", .str authorizer.val), ("nonce", .str nonce)]))
    (htransfer : raw.get? "transfer" =
      some (.dict [("from_address", .str sender.val), ("to_address", .str recipient.val),
        ("value", amount)])) :
    ∃ t, decodeTransferEvent lib raw = .ok t ∧ t.chainId = chain ∧ t.authorizer = authorizer ∧
      t.nonce = strip nonce ∧ t.fromAddress = sender ∧ t.toAddress = recipient ∧
      t.value = strip (lib.str amount) := by
  obtain ⟨blockNumber, hblock⟩ := hplain.blockNumber
  obtain ⟨logIndex, hindex⟩ := hplain.logIndex
  obtain ⟨timestamp, htime⟩ := hplain.blockTimestamp
  obtain ⟨txHash, htx⟩ := hplain.transactionHash
  obtain ⟨blockHash, hhash⟩ := hplain.blockHash
  have hsender : sender.val ≠ "" := by
    intro he
    have := sender.property
    rw [he] at this
    cases this
  refine ⟨⟨chain, strip txHash, blockNumber, strip blockHash, logIndex, sender, recipient,
    strip (lib.str amount), authorizer, strip nonce, strip (lower (usdcContracts chain))⟩,
    ?_, rfl, rfl, rfl, rfl, rfl, rfl⟩
  unfold decodeTransferEvent decodeRow
  simp only [bind_eq_ok_iff]
  refine ⟨lower (usdcContracts chain), ?_, chain, ?_, (), ?_, blockNumber, ?_, logIndex, ?_,
    timestamp, ?_, "", ?_, (.str authorizer.val, .str nonce), ?_,
    (.str sender.val, .str recipient.val, lib.str amount), ?_, strip txHash, ?_, strip blockHash,
    ?_, sender, addressField_of_address sender, recipient, addressField_of_address recipient,
    authorizer, addressField_of_address authorizer, strip nonce, rfl, ?_⟩
  · rw [decodeTransferEvent_getD (by decide) (by decide), hplain.address, lowerValue, lower_lower]
  · rw [resolveChainId, get?_renameColumn_of_ne (by decide), get?_renameColumn_of_ne (by decide),
      hplain.chainId]
    exact chainIdOfValue_value chain
  · rw [validateContract, if_pos (Or.inr rfl)]
  · rw [decodeTransferEvent_getD (by decide) (by decide), hblock]
  · rw [decodeTransferEvent_getD (by decide) (by decide), hindex]
  · rw [decodeTransferEvent_getD (by decide) (by decide), htime]
  · rw [decodeTransferEvent_getD (by decide) (by decide), hplain.topics]
    rfl
  · rw [decodeTransferEvent_getD (by decide) (by decide), Dict.getD, hdecoded]
    rfl
  · have hraw : decide ("" = lower transferTopic) = false := by decide
    rw [hraw]
    refine bind_eq_ok_iff.mpr ⟨[("from_address", .str sender.val), ("to_address",
      .str recipient.val), ("value", amount)], ?_, ?_⟩
    · rw [decodeTransferEvent_getD (by decide) (by decide), Dict.getD, htransfer]
      rfl
    · simp [Dict.getD, Dict.get?, Value.truth, hsender, pure, Except.pure]
  · rw [decodeTransferEvent_getD (by decide) (by decide), htx]
    rfl
  · rw [decodeTransferEvent_getD (by decide) (by decide), hhash]
    rfl
  · have hcontract : lower (usdcContracts chain) ≠ "" := by cases chain <;> decide
    rw [if_neg hcontract]
    rfl

end TripWire
