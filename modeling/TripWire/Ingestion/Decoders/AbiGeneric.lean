import TripWire.Ingestion.FilterEngine

/-!
# The generic ABI decoder

`AbiGenericDecoder.decode` (`tripwire/ingestion/decoders/abi_generic.py`) turns a raw log into a
`DecodedEvent` with the ABI fragment of a trigger, through `decode_event_with_abi`
(`generic_decoder.py`) and the helpers of `decoder.py`.

A raw log is the row that a Goldsky pipeline delivers; an absent column has the default that the
code passes to `raw_log.get`.  Everything the decoder takes from the columns themselves is the same
for every ABI (`AbiGenericDecoder.decode_shared`): the fields, the identity address and the payment
metadata are what an ABI decides.
-/

namespace TripWire

open Py

/-- The topics of a raw log: a list (Mirror) or a text with commas (Turbo). -/
inductive RawTopics where
  | list (topics : List String)
  | text (s : String)
  deriving DecidableEq

/-- A raw log. -/
structure RawLog where
  topics : RawTopics := .list []
  data : String := "0x"
  address : String := ""
  chainId : Option ℤ := none
  transactionHash : String := ""
  blockNumber : Value := .int 0
  blockHash : String := ""
  logIndex : Value := .int 0

/-- `_parse_topics`. -/
def parseTopics : RawTopics → List String
  | .list topics => topics
  | .text s => (((splitCommas s.toList).map stripChars).filter (· ≠ [])).map String.ofList

/-- `_to_int`. -/
def toInt : Value → Except PyError ℤ
  | .int n => .ok n
  | .bool b => .ok (if b then 1 else 0)
  | .str s => if hasHexMark s then int16 s else int s
  -- `int(x)` of a float rounds towards zero.
  | .float q => .ok (Int.tdiv q.num q.den)
  | _ => .error .typeError

/-! ### `decode_event_with_abi` -/

/-- `inp[key]` for a key whose value has to be a string. -/
def inputText (inp : Dict) (key : String) : Except PyError String :=
  match inp.get? key with
  | some (.str s) => .ok s
  | _ => .error .typeError

/-- The `inputs` of an event entry, as a list of dictionaries. -/
def abiInputs (entry : Dict) : Except PyError (List Dict) :=
  match entry.getD "inputs" (.list []) with
  | .list xs => xs.mapM fun x =>
    match x with
    | .dict items => .ok items
    | _ => .error .attributeError
  | .str "" => .ok []
  | .dict [] => .ok []
  | _ => .error .typeError

/-- Whether an input is indexed. -/
def isIndexed (inp : Dict) : Bool := (inp.getD "indexed" (.bool false)).truth

/-- The value of an indexed parameter of type `typ` whose topic is `topic`. -/
def topicValue (typ topic : String) : Except PyError Value :=
  if typ = "address" then
    -- The last forty digits of the padded word.
    let body := dropHexMark topic.toList
    .ok (.str ("0x" ++ String.ofList (body.drop (body.length - 40))))
  else if typ = "bytes32" ∨ typ = "bytes" then .ok (.str topic)
  else if startsWith typ "uint" ∨ startsWith typ "int" then (int16 topic).map Value.int
  else if typ = "bool" then (int16 topic).map fun n => .bool (n ≠ 0)
  else .ok (.str topic)

/-- The loop over the indexed parameters.  A parameter without a topic is left out. -/
def decodeIndexed : List Dict → List String → Dict → Except PyError Dict
  | [], _, decoded => .ok decoded
  -- `topic_idx >= len(topics)`: the log has fewer topics than the ABI has indexed inputs.
  | _ :: _, [], decoded => .ok decoded
  | inp :: inputs, topic :: topics, decoded => do
    let value ← topicValue (← inputText inp "type") topic
    decodeIndexed inputs topics (decoded.set (← inputText inp "name") value)

/-- The loop over the decoded parameters of the data; an input without a name ends it. -/
def decodeValues : List Dict → List AbiValue → Dict → Dict
  | inp :: inputs, value :: values, decoded =>
    match inputText inp "name" with
    | .error _ => decoded
    | .ok name =>
      decodeValues inputs values (decoded.set name
        (match value with
          | .bytes bs => .str ("0x" ++ toHex bs)
          | .value v => v))
  | _, _, decoded => decoded

/-- The parameters in the data of the log; a failure of `eth_abi` is logged and leaves them out. -/
def decodeData (lib : Library) (inputs : List Dict) (data : List UInt8) (decoded : Dict) :
    Except PyError Dict :=
  if inputs.isEmpty || data.isEmpty then .ok decoded
  else do
    let types ← inputs.mapM fun inp => inputText inp "type"
    match lib.abiDecode types data with
    | .error _ => return decoded
    | .ok values => return decodeValues inputs values decoded

/-- The metadata that `decode_event_with_abi` attaches last. -/
def attachMetadata (raw : RawLog) (blockNumber logIndex : ℤ) (decoded : Dict) : Dict :=
  let d := decoded.set "_tx_hash" (.str raw.transactionHash)
  let d := d.set "_block_number" (.int blockNumber)
  let d := d.set "_block_hash" (.str raw.blockHash)
  let d := d.set "_log_index" (.int logIndex)
  let d := d.set "_address" (.str raw.address)
  d.set "_chain_id" (match raw.chainId with
    | some n => .int n
    | none => .none)

/-- The bytes of the data column. -/
def logData (raw : RawLog) : Except PyError (List UInt8) :=
  if raw.data = "" ∨ raw.data = "0x" then .ok [] else fromHexChars (dropHexMark raw.data.toList)

/-- `decode_event_with_abi`, with the block number and the log index it computes. -/
def decodeEventWithAbi (lib : Library) (raw : RawLog) (abi : List Dict) :
    Except PyError (Dict × ℤ × ℤ) :=
  match abi.find? fun entry => entry.get? "type" = some (.str "event") with
  | none => .error .valueError
  | some entry => do
    let topics := parseTopics raw.topics
    let data ← logData raw
    let inputs ← abiInputs entry
    let decoded ← decodeIndexed (inputs.filter isIndexed) topics.tail []
    let decoded ← decodeData lib (inputs.filter fun inp => !isIndexed inp) data decoded
    let blockNumber ← toInt raw.blockNumber
    let logIndex ← toInt raw.logIndex
    return (attachMetadata raw blockNumber logIndex decoded, blockNumber, logIndex)

/-! ### The envelope -/

/-- `DecodedEvent`, as the generic decoder fills it. -/
structure DecodedEvent where
  txHash : String
  blockNumber : ℤ
  blockHash : String
  logIndex : ℤ
  chainId : Option ℤ
  contractAddress : String
  fields : Dict
  identityAddress : Option String := none
  dedupKey : Option String := none
  paymentAmount : Option String := none
  paymentToken : Option String := none
  paymentFrom : Option String := none
  paymentTo : Option String := none
  deriving DecidableEq

/-- `_is_address`: the string, if the value looks like an address. -/
def asAddress : Value → Option String
  | .str s => if s.toList.length = 42 ∧ hasHexMark s = true then some s else none
  | _ => none

/-- The first address among the fields whose name does not start with an underscore. -/
def findIdentityAddress (decoded : Dict) : Option String :=
  decoded.findSome? fun kv => if startsWith kv.1 "_" then none else asAddress kv.2

/-- The value of the first field with one of the names. -/
def firstNamed {α : Type} (names : List String) (read : Value → Option α) (decoded : Dict) :
    Option α :=
  decoded.findSome? fun kv => if lower kv.1 ∈ names then read kv.2 else none

/-- `_extract_payment_fields`: the amount, the token, the sender and the recipient. -/
def extractPaymentFields (lib : Library) (decoded : Dict) (raw : RawLog) :
    Option String × Option String × Option String × Option String :=
  match firstNamed ["value", "amount", "_value", "_amount"] (fun v => some (lib.str v)) decoded with
  | none => (none, none, none, none)
  | some amount =>
    (some amount, asAddress (.str raw.address),
      firstNamed ["from", "sender", "_from"] asAddress decoded,
      firstNamed ["to", "recipient", "_to"] asAddress decoded)

/-- `AbiGenericDecoder(abi_fragment=abi).decode(raw_log)`.  The metadata was written last, so what
the source reads back from the dictionary are the columns of the log. -/
def AbiGenericDecoder.decode (lib : Library) (abi : List Dict) (raw : RawLog) :
    Except PyError DecodedEvent := do
  let (decoded, blockNumber, logIndex) ← decodeEventWithAbi lib raw abi
  let (amount, token, sender, recipient) := extractPaymentFields lib decoded raw
  return {
    txHash := raw.transactionHash
    blockNumber
    blockHash := raw.blockHash
    logIndex
    chainId := raw.chainId
    contractAddress := raw.address
    fields := decoded
    identityAddress := findIdentityAddress decoded
    paymentAmount := amount
    paymentToken := token
    paymentFrom := sender
    paymentTo := recipient }

/-- What the columns of the log alone decide about a decoded event. -/
structure DecodedFrom (raw : RawLog) (d : DecodedEvent) : Prop where
  txHash : d.txHash = raw.transactionHash
  blockHash : d.blockHash = raw.blockHash
  chainId : d.chainId = raw.chainId
  contractAddress : d.contractAddress = raw.address
  blockNumber : toInt raw.blockNumber = .ok d.blockNumber
  logIndex : toInt raw.logIndex = .ok d.logIndex

theorem decodeEventWithAbi_ok {lib : Library} {raw : RawLog} {abi : List Dict} {decoded : Dict}
    {blockNumber logIndex : ℤ}
    (h : decodeEventWithAbi lib raw abi = .ok (decoded, blockNumber, logIndex)) :
    toInt raw.blockNumber = .ok blockNumber ∧ toInt raw.logIndex = .ok logIndex := by
  unfold decodeEventWithAbi at h
  split at h
  · cases h
  · simp only [bind_eq_ok_iff] at h
    obtain ⟨data, -, inputs, -, d₁, -, d₂, -, block, hblock, index, hindex, h⟩ := h
    cases h
    exact ⟨hblock, hindex⟩

/-- **The columns of the log are shared.** -/
theorem AbiGenericDecoder.decode_shared {lib : Library} {abi : List Dict} {raw : RawLog}
    {d : DecodedEvent} (h : AbiGenericDecoder.decode lib abi raw = .ok d) : DecodedFrom raw d := by
  unfold AbiGenericDecoder.decode at h
  obtain ⟨⟨decoded, blockNumber, logIndex⟩, hdecoded, h⟩ := bind_eq_ok_iff.mp h
  obtain ⟨hblock, hindex⟩ := decodeEventWithAbi_ok hdecoded
  cases h
  exact ⟨rfl, rfl, rfl, rfl, hblock, hindex⟩

end TripWire
