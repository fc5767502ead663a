import Mathlib
import TripWire.Ingestion.Decoders.AbiLogs
import TripWire.Ingestion.PaymentPaths

/-!
# Raw `Transfer` logs

`decode_transfer_event` has a branch for a raw `Transfer` log: the sender and the recipient are
topics, the amount is in the data, and the authorizer is the empty text, by which both payment
handlers recognize a plain transfer.  `ERC3009Transfer` wants an address as the authorizer.  So
every such log is read up to the model and then rejected (`rawTransfer_never_processed`), and no
handler reaches its branch for plain transfers.
-/

namespace TripWire

open Py Abi

/-- The bytes of an address. -/
abbrev AddressBytes : Type := {bs : List UInt8 // bs.length = 20}

/-- The amounts of a `Transfer`. -/
abbrev Uint256 : Type := {v : ℕ // v < 2 ^ 256}

/-- `keccak256("Transfer(address,address,uint256)")`. -/
def transferSignature : List UInt8 :=
  [0xdd, 0xf2, 0x52, 0xad, 0x1b, 0xe2, 0xc8, 0x9b, 0x69, 0xc2, 0xb0, 0x68, 0xfc, 0x37, 0x8d, 0xaa,
    0x95, 0x2b, 0xa7, 0xf1, 0x63, 0xc4, 0xa1, 0x16, 0x28, 0xf5, 0x5a, 0x4d, 0xf5, 0x23, 0xb3, 0xef]

/-- `Transfer(address indexed from, address indexed to, uint256 value)` with its arguments. -/
def transferEvent (sender recipient : AddressBytes) (value : Uint256) : List EventParameter :=
  [⟨"from", true, .address sender.val sender.property⟩,
    ⟨"to", true, .address recipient.val recipient.property⟩,
    ⟨"value", false, .uint ⟨256, width_256⟩ value.val value.property⟩]

/-- A row with the raw `Transfer` log of the USDC contract of a chain.  Columns that the decoder has
a default for may be absent. -/
structure IsRawTransfer (raw : Dict) (chain : ChainId) (sender recipient : AddressBytes)
    (value : Uint256) : Prop where
  topics :
    let topics := eventTopics transferSignature (transferEvent sender recipient value)
    raw.get? "topics" = some (.list (topics.map .str)) ∨
      raw.get? "topics" = some (.str (",".intercalate topics))
  data : raw.get? "data" =
    some (.str (hexText (encode (dataArguments (transferEvent sender recipient value)))))
  decoded : raw.get? "decoded" = none
  address : ∃ s, raw.get? "address" = some (.str s) ∧ lower s = lower (usdcContracts chain)
  chainId : raw.get? "chain_id" = none ∨ raw.get? "chain_id" = some (.int chain.value)
  blockNumber : ∃ n, toInt (raw.getD "block_number" (.int 0)) = .ok n
  logIndex : ∃ n, toInt (raw.getD "log_index" (.int 0)) = .ok n
  blockTimestamp : ∃ n, toInt (raw.getD "block_timestamp" (.int 0)) = .ok n
  transactionHash : ∃ s, raw.getD "transaction_hash" (.str "") = .str s
  blockHash : ∃ s, raw.getD "block_hash" (.str "") = .str s

/-- The first call of a script claims a nonce of an authorizer. -/
def PaymentScript.Claims (nonce authorizer : String) : PaymentScript → Prop
  | .recordNonceOrCorrelate _ nonce' authorizer' _ _ => nonce' = nonce ∧ authorizer' = authorizer
  | .recordNonce _ nonce' authorizer' _ => nonce' = nonce ∧ authorizer' = authorizer
  | _ => False

/-- What the branches for plain transfers are for: the log is decoded, and both handlers claim
`tx_hash:log_index` for it. -/
def ProcessedAsPlain (services : PaymentServices) (lib : Library) (raw : Dict)
    (sender recipient : AddressBytes) (value : Uint256) : Prop :=
  ∃ t, decodeTransferEvent lib raw = .ok t ∧ t.fromAddress.val = hexText sender.val ∧
    t.toAddress.val = hexText recipient.val ∧ t.value = toString value.val ∧
    (legacyScript services lib raw).Claims s!"{t.txHash}:{t.logIndex}" "transfer" ∧
    (unifiedScript services lib raw).Claims s!"{t.txHash}:{t.logIndex}" "transfer"

/-! ### The steps before the model -/

theorem hexText_transferSignature : hexText transferSignature = transferTopic := by decide +kernel

/-- The three topics, as a list or as a text. -/
theorem parseTopicsValue_transfer {topics : Value} {ps : List EventParameter}
    (h : topics = .list ((eventTopics transferSignature ps).map .str) ∨
      topics = .str (",".intercalate (eventTopics transferSignature ps))) :
    parseTopicsValue topics = (eventTopics transferSignature ps).map .str := by
  rcases h with rfl | rfl
  · rfl
  · rw [parseTopicsValue, parseTopics_eventTopics (.inr rfl)]

theorem addressFromTopic_topicOf (account : AddressBytes) :
    addressFromTopic (.str (topicOf (.address account.val account.property))) =
      .ok (.str (hexText account.val)) := by
  have hbody := drop_topicOf_address account.property
  simp only [addressFromTopic, hbody, String.ofList_toList]
  rfl

/-- The model accepts the text of an address. -/
theorem addressField_hexText (account : AddressBytes) :
    ∃ address, addressField (.str (hexText account.val)) = .ok address := by
  have hdigit : ∀ d : Fin 16, isHexDigit (hexDigit d) = true := by decide +kernel
  have haddress : isEthAddress (hexText account.val) = true := by
    refine isEthAddress_iff.mpr ⟨(toHex account.val).toList, toList_hexText _, ?_, ?_⟩
    · rw [length_toList_toHex, account.property]
    · intro c hc
      obtain ⟨d, hd, rfl⟩ := hexDigit_of_mem hc
      exact hdigit ⟨d, hd⟩
  exact ⟨_, addressField_of_address ⟨_, haddress⟩⟩

/-- The model does not accept the empty text. -/
theorem addressField_empty : addressField (.str "") = .error .valueError := by
  have hnone : EthAddress.validate "" = none := by decide +kernel
  rw [addressField, hnone]

/-- **What the branch reads**: the sender, the recipient, and whatever `eth_abi` makes of the data.
-/
theorem decodeTransferFields_transfer (lib : Library) (raw : Dict) (sender recipient : AddressBytes)
    (value : Uint256) (authorizer : Value) :
    decodeTransferFields lib raw
        ((eventTopics transferSignature (transferEvent sender recipient value)).map .str) true
        authorizer =
      .ok (.str (hexText sender.val), .str (hexText recipient.val),
        decodeAmount lib (raw.getD "data" (.str "0x"))) := by
  have htopics : (eventTopics transferSignature (transferEvent sender recipient value)).map
      Value.str = [.str (hexText transferSignature),
        .str (topicOf (.address sender.val sender.property)),
        .str (topicOf (.address recipient.val recipient.property))] := rfl
  rw [htopics]
  simp only [decodeTransferFields, addressFromTopic_topicOf]
  rfl

/-- The contract of the log decides its chain. -/
theorem resolveChainId_transfer {raw : Dict} {chain : ChainId}
    (h : raw.get? "chain_id" = none ∨ raw.get? "chain_id" = some (.int chain.value)) :
    resolveChainId raw (lower (usdcContracts chain)) = .ok chain := by
  have hcontract : contractToChain (lower (usdcContracts chain)) = some chain := by
    cases chain with
    | ethereum | base | arbitrum => decide +kernel
  rcases h with h | h
  · rw [resolveChainId, h, hcontract]
  · rw [resolveChainId, h]
    exact chainIdOfValue_value chain

/-- **The decoder rejects the log** at the authorizer, the last address that the model checks. -/
theorem decodeTransferEvent_transfer (lib : Library) {raw : Dict} {chain : ChainId}
    {sender recipient : AddressBytes} {value : Uint256}
    (h : IsRawTransfer raw chain sender recipient value) :
    decodeTransferEvent lib raw = .error .valueError := by
  obtain ⟨contract, haddress, hcontract⟩ := h.address
  obtain ⟨blockNumber, hblock⟩ := h.blockNumber
  obtain ⟨logIndex, hindex⟩ := h.logIndex
  obtain ⟨timestamp, htime⟩ := h.blockTimestamp
  obtain ⟨txHash, htx⟩ := h.transactionHash
  obtain ⟨blockHash, hhash⟩ := h.blockHash
  obtain ⟨sender', hsender⟩ := addressField_hexText sender
  obtain ⟨recipient', hrecipient⟩ := addressField_hexText recipient
  -- the columns after renaming
  set renamed := renameColumn (renameColumn raw "from" "from_address") "to" "to_address"
    with hrenamed
  have hcolumn {k : String} (hfrom : k ≠ "from_address") (hto : k ≠ "to_address")
      (default : Value) : renamed.getD k default = raw.getD k default :=
    decodeTransferEvent_getD hfrom hto default
  have hlower :
      lowerValue (renamed.getD "address" (.str "")) = .ok (lower (usdcContracts chain)) := by
    rw [hcolumn (by decide) (by decide), Dict.getD, haddress]
    exact congrArg Except.ok hcontract
  have hchain : resolveChainId renamed (lower (usdcContracts chain)) = .ok chain := by
    apply resolveChainId_transfer
    rw [hrenamed, get?_renameColumn_of_ne (by decide), get?_renameColumn_of_ne (by decide)]
    exact h.chainId
  have hvalid : validateContract (lower (usdcContracts chain)) chain = .ok () := by
    rw [validateContract, if_pos (.inr rfl)]
  have htopics : parseTopicsValue (renamed.getD "topics" (.list [])) =
      (eventTopics transferSignature (transferEvent sender recipient value)).map .str := by
    apply parseTopicsValue_transfer
    rw [hcolumn (by decide) (by decide), Dict.getD]
    rcases h.topics with htopics | htopics
    · exact .inl (by rw [htopics]; rfl)
    · exact .inr (by rw [htopics]; rfl)
  have htopic0 : firstTopic ((eventTopics transferSignature
      (transferEvent sender recipient value)).map .str) = .ok (lower transferTopic) := by
    rw [← hexText_transferSignature]
    rfl
  have hdecoded : renamed.getD "decoded" (.dict []) = .dict [] := by
    rw [hcolumn (by decide) (by decide), Dict.getD, h.decoded]
    rfl
  have hauth (topics : List Value) : decodeAuthorization (.dict []) topics true =
      .ok (.str "", .str zeroNonce) := rfl
  have hok {α β : Type} (a : α) (f : α → Except PyError β) : (Except.ok a >>= f) = f a := rfl
  rw [decodeTransferEvent, ← hrenamed, decodeRow]
  simp only [hlower, hok, hchain, hvalid, hcolumn (k := "block_number") (by decide) (by decide),
    hblock, hcolumn (k := "log_index") (by decide) (by decide), hindex,
    hcolumn (k := "block_timestamp") (by decide) (by decide), htime, htopics, htopic0, hdecoded,
    decide_true, hauth, decodeTransferFields_transfer,
    hcolumn (k := "transaction_hash") (by decide) (by decide), htx,
    hcolumn (k := "block_hash") (by decide) (by decide), hhash, textField, hsender, hrecipient,
    addressField_empty]
  rfl

/-- **No raw `Transfer` log is processed.** For every chain, every two addresses and every amount,
and whatever the services and `eth_abi` answer: the decoder raises on the raw `Transfer` log of the
USDC contract, both handlers return an error without a call of the nonce store, and so the log is
never processed as a plain transfer. -/
theorem rawTransfer_never_processed (services : PaymentServices) (lib : Library) {raw : Dict}
    {chain : ChainId} {sender recipient : AddressBytes} {value : Uint256}
    (h : IsRawTransfer raw chain sender recipient value) :
    ¬ProcessedAsPlain services lib raw sender recipient value ∧
      decodeTransferEvent lib raw = .error .valueError ∧
      legacyScript services lib raw = .done (failedResult "decode_failed") ∧
      unifiedScript services lib raw = .done (failedResult "decode_failed") := by
  have hdecode := decodeTransferEvent_transfer lib h
  have hevent : erc3009Decode lib raw = .error .valueError := by
    rw [erc3009Decode, hdecode]
    rfl
  refine ⟨?_, hdecode, ?_, ?_⟩
  · rintro ⟨t, ht, -⟩
    rw [hdecode] at ht
    cases ht
  · rw [legacyScript, hevent]
  · rw [unifiedScript, hevent]

namespace Sample

theorem length_payer : (List.replicate 20 (0x11 : UInt8)).length = 20 := rfl

/-- The bytes of the payer and of the payee. -/
def payerBytes : AddressBytes := ⟨List.replicate 20 0x11, length_payer⟩

def payeeBytes : AddressBytes := ⟨List.replicate 20 0x22, rfl⟩

/-- One USDC. -/
def oneUsdc : Uint256 := ⟨1000000, by norm_num⟩

/-- A row of Goldsky Turbo with the log of a plain transfer on Base. -/
def plainTransferRow : Dict :=
  [("address", .str (usdcContracts .base)), ("chain_id", .int 8453), ("block_number", .int 100),
    ("log_index", .int 5), ("transaction_hash", .str "0xaa"), ("block_hash", .str "0xb1"),
    ("topics", .str (",".intercalate
      (eventTopics transferSignature (transferEvent payerBytes payeeBytes oneUsdc)))),
    ("data", .str (hexText (encode (dataArguments (transferEvent payerBytes payeeBytes oneUsdc)))))]

/-- A library whose `eth_abi.decode` reads a `uint256`. -/
def amountLibrary : Library where
  abiDecode := fun _ data => .ok [.value (.int (natBE data))]

/-- Services that answer. -/
def answeringServices : PaymentServices where
  getBlockNumber := fun _ => .ok 110
  resolve := fun _ _ => .ok none

theorem isRawTransfer_plainTransferRow :
    IsRawTransfer plainTransferRow .base payerBytes payeeBytes oneUsdc where
  topics := .inr rfl
  data := rfl
  decoded := rfl
  address := ⟨_, rfl, rfl⟩
  chainId := .inr rfl
  blockNumber := ⟨100, rfl⟩
  logIndex := ⟨5, rfl⟩
  blockTimestamp := ⟨0, rfl⟩
  transactionHash := ⟨_, rfl⟩
  blockHash := ⟨_, rfl⟩

end Sample

/-- One USDC from the payer to the payee is not processed. -/
theorem rawTransfer_never_processed_row :
    ¬ProcessedAsPlain Sample.answeringServices Sample.amountLibrary Sample.plainTransferRow
      Sample.payerBytes Sample.payeeBytes Sample.oneUsdc :=
  (rawTransfer_never_processed _ _ Sample.isRawTransfer_plainTransferRow).1

/-- The log of a plain transfer whose amount is readable is not decoded. -/
theorem plain_transfer_rejected :
    IsRawTransfer Sample.plainTransferRow .base Sample.payerBytes Sample.payeeBytes Sample.oneUsdc ∧
      decodeAmount Sample.amountLibrary (Sample.plainTransferRow.getD "data" (.str "0x")) =
        "1000000" ∧
      ¬ProcessedAsPlain Sample.answeringServices Sample.amountLibrary Sample.plainTransferRow
        Sample.payerBytes Sample.payeeBytes Sample.oneUsdc := by
  refine ⟨Sample.isRawTransfer_plainTransferRow, by decide +kernel, ?_⟩
  rintro ⟨t, ht, -⟩
  rw [decodeTransferEvent_transfer Sample.amountLibrary Sample.isRawTransfer_plainTransferRow] at ht
  cases ht

end TripWire
