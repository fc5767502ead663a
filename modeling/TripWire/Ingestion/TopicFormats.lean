import Mathlib
import TripWire.Ingestion.Decoders.Erc3009
import TripWire.Ingestion.Decoders.TopicText
import TripWire.Ingestion.Streams

/-!
# Topics as a list and as a text

Four consumers read the topics of a row: `_stream_key_for`, `_detect_event_type`,
`decode_transfer_event` and `decode_event_with_abi`.  Each reads them through `_parse_topics`, and
the other columns by their names, so that rows which `_parse_topics` takes for the same and whose
other columns agree (`SameLog`) are the same to all four; there is one such lemma for each.  A list
of topics and a text that joins them are a case of it (`sameLog_of_formats`).

`decodeEventWithAbi` works on the typed columns of a `RawLog`.  For rows with columns of any type
`decodeRowWithAbi` is the same function; `decodeRowWithAbi_toRow` is the comparison.
-/

namespace TripWire

open Py

/-! ### `decode_event_with_abi` on a row -/

/-- `topicValue` for a topic of any type: what a list of topics may contain. -/
def topicValueOf (typ : String) : Value → Except PyError Value
  | .str topic => topicValue typ topic
  | topic =>
    -- `removeprefix` is a method of texts; `int(x, 16)` takes nothing else
    if typ = "address" then .error .attributeError
    else if typ = "bytes32" ∨ typ = "bytes" then .ok topic
    else if startsWith typ "uint" ∨ startsWith typ "int" ∨ typ = "bool" then .error .typeError
    else .ok topic

/-- The loop over the indexed parameters. -/
def decodeIndexedRow : List Dict → List Value → Dict → Except PyError Dict
  | [], _, decoded => .ok decoded
  | _ :: _, [], decoded => .ok decoded
  | inp :: inputs, topic :: topics, decoded => do
    let value ← topicValueOf (← inputText inp "type") topic
    decodeIndexedRow inputs topics (decoded.set (← inputText inp "name") value)

/-- The bytes of a data column of any type. -/
def rowData : Value → Except PyError (List UInt8)
  | .str data =>
    if data = "" ∨ data = "0x" then .ok [] else fromHexChars (dropHexMark data.toList)
  | data => if data.truth then .error .attributeError else .ok []

/-- The metadata of a row. -/
def attachRowMetadata (raw : Dict) (blockNumber logIndex : ℤ) (decoded : Dict) : Dict :=
  let d := decoded.set "_tx_hash" (raw.getD "transaction_hash" (.str ""))
  let d := d.set "_block_number" (.int blockNumber)
  let d := d.set "_block_hash" (raw.getD "block_hash" (.str ""))
  let d := d.set "_log_index" (.int logIndex)
  let d := d.set "_address" (raw.getD "address" (.str ""))
  d.set "_chain_id" (raw.getD "chain_id" .none)

/-- `decode_event_with_abi`. -/
def decodeRowWithAbi (lib : Library) (raw : Dict) (abi : List Dict) : Except PyError Dict :=
  match abi.find? fun entry => entry.get? "type" = some (.str "event") with
  | none => .error .valueError
  | some entry => do
    let topics := parseTopicsValue (raw.getD "topics" (.list []))
    let data ← rowData (raw.getD "data" (.str "0x"))
    let inputs ← abiInputs entry
    let decoded ← decodeIndexedRow (inputs.filter isIndexed) topics.tail []
    let decoded ← decodeData lib (inputs.filter fun inp => !isIndexed inp) data decoded
    let blockNumber ← toInt (raw.getD "block_number" (.int 0))
    let logIndex ← toInt (raw.getD "log_index" (.int 0))
    return attachRowMetadata raw blockNumber logIndex decoded

/-- The row of a log whose columns have their types. -/
def RawLog.toRow (raw : RawLog) : Dict :=
  [("topics", match raw.topics with
      | .list topics => .list (topics.map .str)
      | .text s => .str s),
    ("data", .str raw.data),
    ("address", .str raw.address),
    ("chain_id", match raw.chainId with
      | some n => .int n
      | none => .none),
    ("transaction_hash", .str raw.transactionHash),
    ("block_number", raw.blockNumber),
    ("block_hash", .str raw.blockHash),
    ("log_index", raw.logIndex)]

theorem parseTopicsValue_toRow (raw : RawLog) :
    parseTopicsValue (raw.toRow.getD "topics" (.list [])) = (parseTopics raw.topics).map .str := by
  show parseTopicsValue (match raw.topics with
    | .list topics => .list (topics.map .str)
    | .text s => .str s) = _
  cases raw.topics with
  | list topics => rfl
  | text s => rfl

theorem decodeIndexedRow_map (inputs : List Dict) (topics : List String) (decoded : Dict) :
    decodeIndexedRow inputs (topics.map .str) decoded = decodeIndexed inputs topics decoded := by
  induction inputs generalizing topics decoded with
  | nil => rfl
  | cons inp inputs ih =>
    cases topics with
    | nil => rfl
    | cons topic topics =>
      rw [List.map_cons, decodeIndexedRow, decodeIndexed]
      simp only [ih]
      rfl

theorem attachRowMetadata_toRow (raw : RawLog) :
    attachRowMetadata raw.toRow = attachMetadata raw := by
  obtain ⟨topics, data, address, chainId, transactionHash, blockNumber, blockHash, logIndex⟩ := raw
  cases chainId with
  | none => rfl
  | some n => rfl

/-- **On typed columns** the two agree. -/
theorem decodeRowWithAbi_toRow (lib : Library) (raw : RawLog) (abi : List Dict) :
    decodeRowWithAbi lib raw.toRow abi = (decodeEventWithAbi lib raw abi).map Prod.fst := by
  have hdata : rowData (raw.toRow.getD "data" (.str "0x")) = logData raw := rfl
  have hblock : raw.toRow.getD "block_number" (.int 0) = raw.blockNumber := rfl
  have hindex : raw.toRow.getD "log_index" (.int 0) = raw.logIndex := rfl
  unfold decodeRowWithAbi decodeEventWithAbi
  cases abi.find? fun entry => entry.get? "type" = some (.str "event") with
  | none => rfl
  | some entry =>
    show _ = Prod.fst <$> _
    simp only [map_bind, map_pure, parseTopicsValue_toRow, ← List.map_tail, decodeIndexedRow_map,
      hdata, hblock, hindex, attachRowMetadata_toRow]

/-! ### Rows that are the same up to the format of their topics -/

/-- Two rows with the same topics, as `_parse_topics` reads them, and the same other columns. -/
structure SameLog (raw raw' : Dict) : Prop where
  topics : parseTopicsValue (raw.getD "topics" (.list [])) =
    parseTopicsValue (raw'.getD "topics" (.list []))
  column : ∀ {k}, k ≠ "topics" → raw.get? k = raw'.get? k

namespace SameLog

variable {raw raw' : Dict}

theorem getD (h : SameLog raw raw') {k : String} (hk : k ≠ "topics") (default : Value) :
    raw.getD k default = raw'.getD k default := by
  rw [Dict.getD, Dict.getD, h.column hk]

/-- Renaming a column leaves them the same. -/
theorem renameColumn (h : SameLog raw raw') {old new : String} (hold : old ≠ "topics")
    (hnew : new ≠ "topics") :
    SameLog (TripWire.renameColumn raw old new) (TripWire.renameColumn raw' old new) where
  topics := by
    rw [Dict.getD, Dict.getD, get?_renameColumn_of_ne hnew.symm, get?_renameColumn_of_ne hnew.symm]
    exact h.topics
  column := by
    intro k hk
    by_cases hkey : k = new
    · subst hkey
      unfold TripWire.renameColumn
      rw [← h.column hold, ← h.column hnew]
      split
      · rw [Dict.get?_set_self, Dict.get?_set_self]
      · exact h.column hnew
    · rw [get?_renameColumn_of_ne hkey, get?_renameColumn_of_ne hkey, h.column hk]

/-! ### The four consumers -/

theorem streamKeyFor_eq (h : SameLog raw raw') : streamKeyFor raw = streamKeyFor raw' := by
  rw [streamKeyFor, streamKeyFor, h.topics]

theorem detectEventType_eq (h : SameLog raw raw') (sources : TriggerSources) :
    detectEventType sources raw = detectEventType sources raw' := by
  have hdynamic : detectDynamic sources raw = detectDynamic sources raw' := by
    funext topic0
    unfold detectDynamic matchedTriggers
    rw [h.getD (by decide), h.getD (by decide)]
  rw [detectEventType, detectEventType, h.topics, hdynamic]

theorem decodeRow_eq (h : SameLog raw raw') (lib : Library) :
    decodeRow lib raw = decodeRow lib raw' := by
  have hchain : resolveChainId raw = resolveChainId raw' := by
    funext contract
    rw [resolveChainId, resolveChainId, h.column (by decide)]
  have hfields : decodeTransferFields lib raw = decodeTransferFields lib raw' := by
    funext topics isTransferEvent authorizer
    unfold decodeTransferFields
    rw [h.getD (by decide), h.getD (by decide)]
  unfold decodeRow
  -- the address, the three numbers, `decoded` and the two hashes
  rw [h.topics, hchain, hfields, h.getD (by decide), h.getD (by decide), h.getD (by decide),
    h.getD (by decide), h.getD (by decide), h.getD (by decide), h.getD (by decide)]

theorem decodeTransferEvent_eq (h : SameLog raw raw') (lib : Library) :
    decodeTransferEvent lib raw = decodeTransferEvent lib raw' :=
  ((h.renameColumn (by decide) (by decide)).renameColumn (by decide) (by decide)).decodeRow_eq lib

theorem decodeRowWithAbi_eq (h : SameLog raw raw') (lib : Library) (abi : List Dict) :
    decodeRowWithAbi lib raw abi = decodeRowWithAbi lib raw' abi := by
  have hmeta : attachRowMetadata raw = attachRowMetadata raw' := by
    funext blockNumber logIndex decoded
    unfold attachRowMetadata
    rw [h.getD (by decide), h.getD (by decide), h.getD (by decide), h.getD (by decide)]
  unfold decodeRowWithAbi
  -- the data and the two numbers
  rw [h.topics, hmeta, h.getD (by decide), h.getD (by decide), h.getD (by decide)]

end SameLog

/-- A list of topics and a text that joins them, with any spaces around the commas. -/
theorem sameLog_of_formats {topics parts : List String} (hne : topics ≠ [])
    (htopics : ∀ t ∈ topics, IsTopic t) (hparts : List.Forall₂ IsPadded topics parts)
    {raw raw' : Dict} (hlist : raw.get? "topics" = some (.list (topics.map .str)))
    (htext : raw'.get? "topics" = some (.str (",".intercalate parts)))
    (hcolumns : ∀ k, k ≠ "topics" → raw.get? k = raw'.get? k) : SameLog raw raw' where
  topics := by
    rw [Dict.getD, Dict.getD, hlist, htext]
    exact congrArg (List.map Value.str) (parseTopics_padded htopics hparts hne).symm
  column := fun {k} => hcolumns k

/-- **The formats of the topics are interchangeable.**  A list of topics that are not empty, contain
no comma and have no spaces around them, and a text that joins them with commas and any spaces
around these, are the same to the four consumers, in logs whose other columns agree. -/
theorem topicFormats_interchangeable (lib : Library) (sources : TriggerSources) (abi : List Dict)
    {topics parts : List String} (hne : topics ≠ []) (htopics : ∀ t ∈ topics, IsTopic t)
    (hparts : List.Forall₂ IsPadded topics parts) {raw raw' : Dict}
    (hlist : raw.get? "topics" = some (.list (topics.map .str)))
    (htext : raw'.get? "topics" = some (.str (",".intercalate parts)))
    (hcolumns : ∀ k, k ≠ "topics" → raw.get? k = raw'.get? k) :
    streamKeyFor raw = streamKeyFor raw' ∧
      detectEventType sources raw = detectEventType sources raw' ∧
      decodeTransferEvent lib raw = decodeTransferEvent lib raw' ∧
      decodeRowWithAbi lib raw abi = decodeRowWithAbi lib raw' abi := by
  have hsame := sameLog_of_formats hne htopics hparts hlist htext hcolumns
  exact ⟨hsame.streamKeyFor_eq, hsame.detectEventType_eq sources, hsame.decodeTransferEvent_eq lib,
    hsame.decodeRowWithAbi_eq lib abi⟩

namespace Sample

/-- A log as a Mirror pipeline delivers it. -/
def mirrorRow : Dict :=
  [("address", .str "0xpool"), ("topics", .list [.str "0xAB", .str "0x07"])]

/-- The same log as a Turbo pipeline delivers it. -/
def turboRow : Dict := [("topics", .str "0xAB ,\t0x07"), ("address", .str "0xpool")]

/-- An event with one indexed number. -/
def countedAbi : List Dict :=
  [[("type", .str "event"),
    ("inputs", .list [.dict [("name", .str "id"), ("type", .str "uint256"),
      ("indexed", .bool true)]])]]

theorem columns_mirrorRow {k : String} (hk : k ≠ "topics") :
    mirrorRow.get? k = turboRow.get? k := by
  have hkey : ("topics" == k) = false := by simpa using hk.symm
  simp [mirrorRow, turboRow, Dict.get?, List.find?_cons, hkey]

end Sample

theorem topicFormats_interchangeable_row :
    streamKeyFor Sample.mirrorRow = streamKeyFor Sample.turboRow ∧
      detectEventType {} Sample.mirrorRow = detectEventType {} Sample.turboRow ∧
      decodeTransferEvent {} Sample.mirrorRow = decodeTransferEvent {} Sample.turboRow ∧
      decodeRowWithAbi {} Sample.mirrorRow Sample.countedAbi =
        decodeRowWithAbi {} Sample.turboRow Sample.countedAbi := by
  have htopic (s : String) (h : ',' ∉ s.toList ∧ stripChars s.toList = s.toList ∧ s.toList ≠ []) :
      IsTopic s := ⟨h.1, h.2.1, h.2.2⟩
  have htopics : ∀ t ∈ ["0xAB", "0x07"], IsTopic t := by
    simp only [List.forall_mem_cons]
    exact ⟨htopic _ (by decide), htopic _ (by decide), by simp⟩
  have hparts : List.Forall₂ IsPadded ["0xAB", "0x07"] ["0xAB ", "\t0x07"] :=
    .cons ⟨[], [' '], by simp, List.forall_mem_singleton.mpr rfl, by decide⟩
      (.cons ⟨['\t'], [], List.forall_mem_singleton.mpr rfl, by simp, by decide⟩ .nil)
  exact topicFormats_interchangeable {} {} Sample.countedAbi (List.cons_ne_nil _ _) htopics hparts
    rfl rfl fun _ => Sample.columns_mirrorRow

/-- What both formats give. -/
example : (decodeRowWithAbi {} Sample.turboRow Sample.countedAbi).map (·.get? "id") =
    .ok (some (.int 7)) := by decide +kernel

end TripWire
