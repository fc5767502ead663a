import TripWire.Db.NonceStore
import TripWire.Ingestion.Decoders.Erc3009
import TripWire.Ingestion.Decoders.TopicText

/-!
# The Goldsky pipeline

`build_pipeline_config` (`tripwire/ingestion/pipeline.py`) gives Goldsky a SQL transform over the
raw logs of a chain: `AuthorizationUsed` logs of the USDC contract, joined with the `Transfer` logs
of the same transaction and contract.  Each joined pair becomes one row, which the webhook sink
posts to the ingestion endpoint.

Neither consumer of a row finds what it looks for: `_detect_event_type` wants `topics`, which no row
has, and `decode_transfer_event` wants a `to_address` in the `transfer` struct, where the recipient
is called `to` (`transform_never_fits`).
-/

namespace TripWire

open Py

namespace Pipeline

/-! ### The transform -/

/-- A row of the `raw_logs` dataset of a chain. -/
structure DatasetLog where
  id : String
  blockNumber : Value
  blockHash : String
  transactionHash : String
  logIndex : Value
  blockTimestamp : Value
  address : String
  topic0 : String
  topics : String
  data : String
  deriving DecidableEq

/-- `_AUTHORIZATION_USED_ABI`. -/
def authorizationUsedAbi : String :=
  "event AuthorizationUsed(address indexed authorizer, bytes32 indexed nonce)"

/-- `_TRANSFER_ABI`. -/
def transferAbi : String :=
  "event Transfer(address indexed from, address indexed to, uint256 value)"

/-- Goldsky's `_gs_log_decode(abi, topics, data)`: the fields of the struct. -/
abbrev LogDecode := String → String → String → Dict

/-- The struct is keyed by the parameter names of the ABI. -/
structure LogDecode.KeyedByNames (gsLogDecode : LogDecode) : Prop where
  authorization : ∀ topics data,
    (gsLogDecode authorizationUsedAbi topics data).map Prod.fst = ["authorizer", "nonce"]
  transfer : ∀ topics data,
    (gsLogDecode transferAbi topics data).map Prod.fst = ["from", "to", "value"]

/-- The `ON` and `WHERE` conditions. -/
def joins (chain : ChainId) (auth xfer : DatasetLog) : Bool :=
  auth.transactionHash = xfer.transactionHash && auth.address = xfer.address &&
    auth.address = lower (usdcContracts chain) && auth.topic0 = authorizationUsedTopic &&
    xfer.topic0 = transferTopic

/-- A pair of logs that the transform joins. -/
abbrev Joined := DatasetLog × DatasetLog

/-- `FROM logs AS auth INNER JOIN logs AS xfer ON ... WHERE ...`. -/
def joinedLogs (chain : ChainId) (logs : List DatasetLog) : List Joined :=
  logs.flatMap fun auth => (logs.filter (joins chain auth)).map fun xfer => (auth, xfer)

/-- The `decoded` struct of a pair. -/
def decodedStruct (gsLogDecode : LogDecode) (pair : Joined) : Dict :=
  gsLogDecode authorizationUsedAbi pair.1.topics pair.1.data

/-- The `transfer` struct of a pair. -/
def transferStruct (gsLogDecode : LogDecode) (pair : Joined) : Dict :=
  gsLogDecode transferAbi pair.2.topics pair.2.data

/-- The `SELECT` list. -/
def selectRow (gsLogDecode : LogDecode) (chain : ChainId) (pair : Joined) : Dict :=
  [("id", .str pair.1.id),
   ("block_number", pair.1.blockNumber),
   ("block_hash", .str pair.1.blockHash),
   ("transaction_hash", .str pair.1.transactionHash),
   ("log_index", pair.1.logIndex),
   ("block_timestamp", pair.1.blockTimestamp),
   ("address", .str pair.1.address),
   ("chain_id", .int chain.value),
   ("decoded", .dict (decodedStruct gsLogDecode pair)),
   ("from_address", (transferStruct gsLogDecode pair).getD "from" .none),
   ("to_address", (transferStruct gsLogDecode pair).getD "to" .none),
   ("transfer", .dict (transferStruct gsLogDecode pair))]

/-- The rows that the transform delivers. -/
def transform (gsLogDecode : LogDecode) (chain : ChainId) (logs : List DatasetLog) : List Dict :=
  (joinedLogs chain logs).map (selectRow gsLogDecode chain)

theorem mem_joinedLogs {chain : ChainId} {logs : List DatasetLog} {pair : Joined} :
    pair ∈ joinedLogs chain logs ↔
      pair.1 ∈ logs ∧ pair.2 ∈ logs ∧ joins chain pair.1 pair.2 = true := by
  obtain ⟨auth, xfer⟩ := pair
  simp [joinedLogs]

/-! ### The consumers of a row -/

/-- The authorizer, the nonce, the sender, the recipient and the amount of `t` are those of the
logs. -/
structure Carries (lib : Library) (gsLogDecode : LogDecode) (pair : Joined)
    (t : ERC3009Transfer) : Prop where
  authorizer : (decodedStruct gsLogDecode pair).get? "authorizer" = some (.str t.authorizer.val)
  nonce : (decodedStruct gsLogDecode pair).get? "nonce" = some (.str t.nonce)
  fromAddress : (transferStruct gsLogDecode pair).get? "from" = some (.str t.fromAddress.val)
  toAddress : (transferStruct gsLogDecode pair).get? "to" = some (.str t.toAddress.val)
  value : ((transferStruct gsLogDecode pair).get? "value").map lib.str = some t.value

/-- The row of a pair is detected as a transfer and decoded into one that carries the logs. -/
def FitsDecoder (lib : Library) (sources : TriggerSources) (gsLogDecode : LogDecode)
    (chain : ChainId) (pair : Joined) : Prop :=
  detectEventType sources (selectRow gsLogDecode chain pair) = .ok .erc3009Transfer ∧
    ∃ t, decodeTransferEvent lib (selectRow gsLogDecode chain pair) = .ok t ∧
      Carries lib gsLogDecode pair t

theorem getD_topics_selectRow (gsLogDecode : LogDecode) (chain : ChainId) (pair : Joined) :
    (selectRow gsLogDecode chain pair).getD "topics" (.list []) = .list [] := by
  simp [selectRow, Dict.getD, Dict.get?]

theorem getD_transfer_selectRow (gsLogDecode : LogDecode) (chain : ChainId) (pair : Joined) :
    (selectRow gsLogDecode chain pair).getD "transfer" (.dict []) =
      .dict (transferStruct gsLogDecode pair) := by
  simp [selectRow, Dict.getD, Dict.get?]

/-- A row has no topics, so nothing is detected. -/
theorem detectEventType_selectRow (sources : TriggerSources) (gsLogDecode : LogDecode)
    (chain : ChainId) (pair : Joined) :
    detectEventType sources (selectRow gsLogDecode chain pair) = .ok .unknown := by
  unfold detectEventType
  rw [getD_topics_selectRow]
  rfl

/-- The struct has no `to_address`, and the default is not an address. -/
theorem decodeTransferEvent_selectRow_ne {gsLogDecode : LogDecode}
    (hkeys : gsLogDecode.KeyedByNames) (lib : Library) (chain : ChainId) (pair : Joined)
    (t : ERC3009Transfer) : decodeTransferEvent lib (selectRow gsLogDecode chain pair) ≠ .ok t := by
  intro h
  have htopics : firstTopic (parseTopicsValue
      ((selectRow gsLogDecode chain pair).getD "topics" (.list []))) ≠
        .ok (lower transferTopic) := by
    rw [getD_topics_selectRow]
    decide
  obtain ⟨transfer, recipient, htransfer, hrecipient, hvalid⟩ :=
    toAddress_of_decodeTransferEvent htopics h
  rw [getD_transfer_selectRow] at htransfer
  cases htransfer
  have hnone : (transferStruct gsLogDecode pair).get? "to_address" = none := by
    apply Dict.get?_eq_none_of_not_mem
    rw [transferStruct, hkeys.transfer]
    decide
  rw [Dict.getD, hnone] at hrecipient
  cases hrecipient
  have hempty : EthAddress.validate "" = none := rfl
  rw [hempty] at hvalid
  cases hvalid

theorem not_fitsDecoder (lib : Library) (sources : TriggerSources) (gsLogDecode : LogDecode)
    (chain : ChainId) (pair : Joined) : ¬ FitsDecoder lib sources gsLogDecode chain pair := by
  rintro ⟨hdetected, -⟩
  rw [detectEventType_selectRow] at hdetected
  cases hdetected

/-- **No row fits its consumers**: every row of the transform is unknown to the detection, and none
can be decoded. -/
theorem transform_never_fits {gsLogDecode : LogDecode} (hkeys : gsLogDecode.KeyedByNames)
    (lib : Library) (sources : TriggerSources) (chain : ChainId) (logs : List DatasetLog) :
    (∀ row ∈ transform gsLogDecode chain logs,
      detectEventType sources row = .ok .unknown ∧ ∀ t, decodeTransferEvent lib row ≠ .ok t) ∧
    ∀ pair ∈ joinedLogs chain logs, ¬ FitsDecoder lib sources gsLogDecode chain pair := by
  constructor
  · intro row hrow
    obtain ⟨pair, -, rfl⟩ := List.mem_map.mp hrow
    exact ⟨detectEventType_selectRow sources gsLogDecode chain pair,
      decodeTransferEvent_selectRow_ne hkeys lib chain pair⟩
  · intro pair _
    exact not_fitsDecoder lib sources gsLogDecode chain pair

namespace Sample

/-- `_gs_log_decode` on the two ABIs of the transform. -/
def gsLogDecode : LogDecode := fun abi topics data =>
  let topics := parseTopicsValue (.str topics)
  let address (n : ℕ) : Value := ((addressFromTopic (topics.getD n .none)).toOption).getD .none
  if abi = authorizationUsedAbi then [("authorizer", address 1), ("nonce", topics.getD 2 .none)]
  else
    [("from", address 1), ("to", address 2),
     ("value", ((int16 data).toOption.map Value.int).getD .none)]

theorem gsLogDecode_keyedByNames : LogDecode.KeyedByNames gsLogDecode where
  authorization topics data := by simp [gsLogDecode]
  transfer topics data := by
    have hne : transferAbi ≠ authorizationUsedAbi := by decide
    simp [gsLogDecode, hne]

/-- A topic or data word: `digit` in the last place. -/
def word (digit : Char) : String := "0x" ++ String.ofList (List.replicate 63 '0' ++ [digit])

/-- A log of the USDC contract on Base. -/
def log (logIndex : ℤ) (topic0 topic1 topic2 data : String) : DatasetLog where
  id := "log_" ++ toString logIndex
  blockNumber := .int 100
  blockHash := "0xb1"
  transactionHash := "0xaa"
  logIndex := .int logIndex
  blockTimestamp := .int 1700000000
  address := lower (usdcContracts .base)
  topic0
  topics := topic0 ++ "," ++ topic1 ++ "," ++ topic2
  data

/-- The `AuthorizationUsed` log of a payment from account `sender` with nonce `nonce`. -/
def auth (logIndex : ℤ) (sender nonce : Char) : DatasetLog :=
  log logIndex authorizationUsedTopic (word sender) (word nonce) "0x"

/-- The `Transfer` log of a payment of `amount` units from account `sender` to `recipient`. -/
def xfer (logIndex : ℤ) (sender recipient amount : Char) : DatasetLog :=
  log logIndex transferTopic (word sender) (word recipient) (word amount)

end Sample

namespace Sample

/-- The address of account `digit`. -/
def account (digit : Char) : String := "0x" ++ String.ofList (List.replicate 39 '0' ++ [digit])

/-- The payment of 9 units from account 1 to account 2, as a transfer. -/
def payment : ERC3009Transfer where
  chainId := .base
  txHash := "0xaa"
  blockNumber := 100
  blockHash := "0xb1"
  logIndex := 0
  fromAddress := ⟨account '1', by decide⟩
  toAddress := ⟨account '2', by decide⟩
  value := "9"
  authorizer := ⟨account '1', by decide⟩
  nonce := word '7'
  token := lower (usdcContracts .base)

/-- The two logs of the payment. -/
def paymentLogs : Joined := (auth 0 '1' '7', xfer 1 '1' '2' '9')

theorem paymentLogs_joined :
    paymentLogs ∈ joinedLogs .base [paymentLogs.1, paymentLogs.2] := by
  rw [mem_joinedLogs]
  simp [joins, paymentLogs, auth, xfer, log]

theorem parseTopicsValue_of_isTopic {a b c : String} (ha : IsTopic a) (hb : IsTopic b)
    (hc : IsTopic c) :
    parseTopicsValue (.str (a ++ "," ++ b ++ "," ++ c)) = [.str a, .str b, .str c] := by
  have htext : a ++ "," ++ b ++ "," ++ c = ",".intercalate [a, b, c] := by
    simp [String.intercalate_cons_cons, String.append_assoc]
  have htopics : ∀ t ∈ [a, b, c], IsTopic t := by simp [ha, hb, hc]
  rw [htext, parseTopicsValue, parseTopics_intercalate htopics (List.cons_ne_nil _ _)]
  rfl

theorem toList_word (digit : Char) :
    (word digit).toList = '0' :: 'x' :: (List.replicate 63 '0' ++ [digit]) := by
  simp only [word, String.toList_append, String.toList_ofList]
  rfl

theorem isTopic_word {digit : Char} (hcomma : digit ≠ ',') (hspace : isSpace digit = false) :
    IsTopic (word digit) where
  noComma := by
    rw [toList_word]
    simp [hcomma.symm]
  stripped := by
    have hzero : isSpace '0' = false := by decide
    rw [toList_word, stripChars, List.dropWhile_cons_of_neg (by simp [hzero])]
    rw [List.reverse_cons, List.reverse_cons, List.reverse_append]
    simp [hspace]
  ne_nil := by
    rw [toList_word]
    exact List.cons_ne_nil _ _

theorem addressFromTopic_word (digit : Char) :
    addressFromTopic (.str (word digit)) = .ok (.str (account digit)) := by
  have hbody : (List.replicate 63 '0' ++ [digit]).drop 24 = List.replicate 39 '0' ++ [digit] := rfl
  simp only [addressFromTopic, toList_word, dropHexMark]
  rw [account, ← hbody]
  simp

theorem isTopic_authorizationUsedTopic : IsTopic authorizationUsedTopic :=
  ⟨by decide +kernel, by decide +kernel, by decide +kernel⟩

theorem isTopic_transferTopic : IsTopic transferTopic :=
  ⟨by decide +kernel, by decide +kernel, by decide +kernel⟩

theorem decodedStruct_auth (logIndex : ℤ) {sender nonce : Char}
    (hsender : IsTopic (word sender)) (hnonce : IsTopic (word nonce)) (xfer : DatasetLog) :
    decodedStruct gsLogDecode (auth logIndex sender nonce, xfer) =
      [("authorizer", .str (account sender)), ("nonce", .str (word nonce))] := by
  simp only [decodedStruct, gsLogDecode, auth, log, if_true]
  rw [parseTopicsValue_of_isTopic isTopic_authorizationUsedTopic hsender hnonce]
  simp [addressFromTopic_word, Except.toOption]

theorem transferStruct_xfer (logIndex : ℤ) {sender recipient amount : Char} {n : ℤ}
    (hsender : IsTopic (word sender)) (hrecipient : IsTopic (word recipient))
    (hamount : int16 (word amount) = .ok n) (auth : DatasetLog) :
    transferStruct gsLogDecode (auth, xfer logIndex sender recipient amount) =
      [("from", .str (account sender)), ("to", .str (account recipient)), ("value", .int n)] := by
  have hne : transferAbi ≠ authorizationUsedAbi := by decide
  simp only [transferStruct, gsLogDecode, xfer, log, if_neg hne, hamount]
  rw [parseTopicsValue_of_isTopic isTopic_transferTopic hsender hrecipient]
  simp [addressFromTopic_word, Except.toOption]

theorem paymentLogs_carries : Carries {} gsLogDecode paymentLogs payment := by
  have hone : IsTopic (word '1') := isTopic_word (by decide) (by decide)
  have htwo : IsTopic (word '2') := isTopic_word (by decide) (by decide)
  have hseven : IsTopic (word '7') := isTopic_word (by decide) (by decide)
  have hnine : int16 (word '9') = .ok 9 := by decide +kernel
  have hauth := decodedStruct_auth 0 hone hseven (xfer 1 '1' '2' '9')
  have hxfer := transferStruct_xfer 1 hone htwo hnine (auth 0 '1' '7')
  constructor
  · rw [paymentLogs, hauth]
    rfl
  · rw [paymentLogs, hauth]
    rfl
  · rw [paymentLogs, hxfer]
    rfl
  · rw [paymentLogs, hxfer]
    rfl
  · rw [paymentLogs, hxfer]
    rfl

end Sample

/-- The rows of one payment. -/
theorem transform_never_fits_payment :
    Sample.paymentLogs ∈ joinedLogs .base [Sample.paymentLogs.1, Sample.paymentLogs.2] ∧
      (∀ row ∈ transform Sample.gsLogDecode .base [Sample.paymentLogs.1, Sample.paymentLogs.2],
        detectEventType {} row = .ok .unknown ∧ ∀ t, decodeTransferEvent {} row ≠ .ok t) ∧
      ∀ pair ∈ joinedLogs .base [Sample.paymentLogs.1, Sample.paymentLogs.2],
        ¬ FitsDecoder {} {} Sample.gsLogDecode .base pair :=
  ⟨Sample.paymentLogs_joined,
    transform_never_fits Sample.gsLogDecode_keyedByNames {} {} .base _⟩

/-- The logs of a payment carry a transfer, and their row fits neither consumer. -/
theorem payment_row_does_not_fit :
    Sample.gsLogDecode.KeyedByNames ∧
      Sample.paymentLogs ∈ joinedLogs .base [Sample.paymentLogs.1, Sample.paymentLogs.2] ∧
      Carries {} Sample.gsLogDecode Sample.paymentLogs Sample.payment ∧
      ¬ FitsDecoder {} {} Sample.gsLogDecode .base Sample.paymentLogs :=
  ⟨Sample.gsLogDecode_keyedByNames, Sample.paymentLogs_joined, Sample.paymentLogs_carries,
    not_fitsDecoder {} {} Sample.gsLogDecode .base Sample.paymentLogs⟩

end Pipeline

end TripWire
