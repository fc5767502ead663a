import TripWire.Ingestion.TriggerRegistry

/-!
# Event type detection

`EventProcessor._detect_event_type` (`tripwire/ingestion/processor.py`) decides what a raw log is:
one of the built-in payment events, the event of some registered triggers, or unknown.  The triggers
come from the in-memory index or from the `triggers` table, and are then filtered by chain and
contract.

A raw log is a dictionary whose columns may be absent or of any type, so detection works on `Dict`
and may raise.  It raises as well when the table holds a row of the topic that `Trigger` refuses.
-/

namespace TripWire

open Py

/-! ### Detection -/

/-- `AUTHORIZATION_USED_TOPIC`. -/
def authorizationUsedTopic : String :=
  "0x98de503528ee59b575ef0c0a2576a82497bfc029a5685b209e9ec333479b10a5"

/-- `TRANSFER_TOPIC`. -/
def transferTopic : String :=
  "0xddf252ad1be2c89b69c2b068fc378daa952ba7f163c4a11628f55a4df523b3ef"

/-- The keys of `_EVENT_SIGNATURES`; both are mapped to `erc3009_transfer`. -/
def eventSignatures : List String := [lower authorizationUsedTopic, lower transferTopic]

/-- What `_detect_event_type` returns. -/
inductive Detection where
  | erc3009Transfer
  | dynamic (triggers : List TriggerRow)
  | unknown
  deriving DecidableEq

/-- A `TriggerRepository`. -/
structure TriggerRepository where
  model : TriggerModel
  table : TriggerTable

/-- Where a processor looks for triggers. -/
structure TriggerSources where
  triggerIndex : Option TriggerIndex := none
  triggerRepo : Option TriggerRepository := none

/-- The lookup of a topic: the index is preferred to the table.  `none` without either. -/
def TriggerSources.find (sources : TriggerSources) (topic0 : String) :
    Option (Except PyError (List TriggerRow)) :=
  match sources.triggerIndex with
  | some index => some (.ok (index.matchTopic topic0))
  | none => sources.triggerRepo.map fun repo => repo.table.findByTopic repo.model topic0

/-- `_parse_topics` on any value. -/
def parseTopicsValue : Value → List Value
  | .list topics => topics
  | .str s => (parseTopics (.text s)).map Value.str
  | _ => []

/-- `v.lower()`, which only texts have. -/
def lowerValue : Value → Except PyError String
  | .str s => .ok (lower s)
  | _ => .error .attributeError

/-- `v == n` for an integer `n`. -/
def Py.Value.eqInt (n : ℤ) : Value → Bool
  | .int m => m = n
  | .bool b => (if b then 1 else 0) = n
  | .float q => q = n
  | _ => false

/-- The chain filter: `t.chain_ids and chain_id is not None and chain_id not in t.chain_ids` skips.
-/
def keepsChain (chainId : Value) (t : TriggerRow) : Bool :=
  t.chainIds.isEmpty || decide (chainId = .none) || t.chainIds.any fun n => chainId.eqInt n

/-- The contract filter: `t.contract_address and contract and t.contract_address.lower() !=
contract` skips. -/
def keepsContract (contract : String) (t : TriggerRow) : Bool :=
  match t.contractAddress.filter (· ≠ "") with
  | none => true
  | some address => contract = "" || lower address = contract

/-- The triggers of `triggers` that a log passes both filters of. -/
def matchedTriggers (raw : Dict) (contract : String) (triggers : List TriggerRow) :
    List TriggerRow :=
  triggers.filter fun t => keepsChain (raw.getD "chain_id" .none) t && keepsContract contract t

/-- The fallback of `_detect_event_type`: the trigger registry. -/
def detectDynamic (sources : TriggerSources) (raw : Dict) (topic0 : String) :
    Except PyError Detection :=
  match sources.find topic0 with
  | none => .ok .unknown
  | some found => do
    let contract ← lowerValue (raw.getD "address" (.str ""))
    let triggers ← found
    let matched := matchedTriggers raw contract triggers
    return if matched = [] then .unknown else .dynamic matched

/-- `_detect_event_type`. -/
def detectEventType (sources : TriggerSources) (raw : Dict) : Except PyError Detection :=
  match parseTopicsValue (raw.getD "topics" (.list [])) with
  | [] => .ok .unknown
  | topic :: _ => do
    let topic0 ← lowerValue topic
    if topic0 ∈ eventSignatures then return .erc3009Transfer else detectDynamic sources raw topic0

/-! ### What detection does -/

theorem lowerValue_eq_ok_iff {v : Value} {s : String} :
    lowerValue v = .ok s ↔ ∃ text, v = .str text ∧ lower text = s := by
  cases v <;> simp [lowerValue]

theorem detectDynamic_eq_dynamic_iff {sources : TriggerSources} {raw : Dict} {topic0 : String}
    {ts : List TriggerRow} :
    detectDynamic sources raw topic0 = .ok (.dynamic ts) ↔
      ∃ triggers contract, sources.find topic0 = some (.ok triggers) ∧
        lowerValue (raw.getD "address" (.str "")) = .ok contract ∧
        ts = matchedTriggers raw contract triggers ∧ ts ≠ [] := by
  unfold detectDynamic
  cases hfind : sources.find topic0 with
  | none => simp
  | some found =>
    simp only [bind_eq_ok_iff]
    constructor
    · rintro ⟨contract, hcontract, triggers, rfl, hts⟩
      have hres := Except.ok.inj hts
      split_ifs at hres with hempty
      obtain rfl := Detection.dynamic.inj hres
      exact ⟨triggers, contract, rfl, hcontract, rfl, hempty⟩
    · rintro ⟨triggers, contract, hfound, hcontract, rfl, hne⟩
      refine ⟨contract, hcontract, triggers, Option.some.inj hfound, ?_⟩
      rw [if_neg hne]
      rfl

/-- Detection returns triggers only for a topic that is not built in, and then those that pass both
filters. -/
theorem detectEventType_eq_dynamic_iff {sources : TriggerSources} {raw : Dict}
    {ts : List TriggerRow} :
    detectEventType sources raw = .ok (.dynamic ts) ↔
      ∃ topic rest, parseTopicsValue (raw.getD "topics" (.list [])) = .str topic :: rest ∧
        lower topic ∉ eventSignatures ∧
        detectDynamic sources raw (lower topic) = .ok (.dynamic ts) := by
  unfold detectEventType
  cases parseTopicsValue (raw.getD "topics" (.list [])) with
  | nil => simp
  | cons topic rest =>
    simp only [bind_eq_ok_iff, lowerValue_eq_ok_iff]
    constructor
    · rintro ⟨topic0, ⟨text, rfl, rfl⟩, hres⟩
      by_cases hbuiltin : lower text ∈ eventSignatures
      · rw [if_pos hbuiltin] at hres
        cases hres
      · rw [if_neg hbuiltin] at hres
        exact ⟨text, rest, rfl, hbuiltin, hres⟩
    · rintro ⟨text, rest', htopics, hbuiltin, hres⟩
      obtain ⟨rfl, -⟩ := List.cons.inj htopics
      exact ⟨lower text, ⟨text, rfl, rfl⟩, by rw [if_neg hbuiltin]; exact hres⟩

/-- A built-in topic is decided before any trigger is looked up. -/
theorem detectEventType_of_builtin {raw : Dict} {topic : String} {rest : List Value}
    (htopics : parseTopicsValue (raw.getD "topics" (.list [])) = .str topic :: rest)
    (hbuiltin : lower topic ∈ eventSignatures) (sources : TriggerSources) :
    detectEventType sources raw = .ok .erc3009Transfer := by
  unfold detectEventType
  rw [htopics]
  refine bind_eq_ok_iff.mpr ⟨lower topic, lowerValue_eq_ok_iff.mpr ⟨topic, rfl, rfl⟩, ?_⟩
  rw [if_pos hbuiltin]
  rfl

/-! ### Completeness -/

/-- A processor that looks triggers up in the table, or in an index that was just refreshed from
it. -/
def freshSources (model : TriggerModel) (keccak256 : List UInt8 → List UInt8) (useIndex : Bool)
    (table : TriggerTable) (index : TriggerIndex) : TriggerSources where
  triggerIndex := if useIndex then some (table.refresh model keccak256 index) else none
  triggerRepo := some ⟨model, table⟩

namespace TriggerTable

variable {model : TriggerModel} {keccak256 : List UInt8 → List UInt8} {table : TriggerTable}
  {row : StoredTrigger} {t : TriggerRow} {topic topic0 : String}

/-- A refresh that succeeds files every active trigger of a topic, in whatever case the topic is
stored; one that fails keeps those that were filed. -/
theorem mem_refresh_iff (index : TriggerIndex) (hrow : row ∈ table.activeRows)
    (ht : model.construct row = some t) (htopic0 : row.topic0 = some topic0)
    (hne : strip topic0 ≠ "") (hlower : lower (strip topic0) = lower topic) :
    t ∈ (table.refresh model keccak256 index).matchTopic topic ↔
      table.Accepted model ∨ t ∈ index.matchTopic topic := by
  by_cases h : table.Accepted model
  · refine iff_of_true ((mem_matchTopic_refresh h index).mpr ⟨row, hrow, ?_, ht⟩) (.inl h)
    rw [StoredTrigger.indexKey_of_topic0 htopic0 hne, hlower]
  · rw [refresh_of_not_accepted h]
    exact (or_iff_right h).symm

/-- The query returns a trigger of the topic if its column is the topic in lower case and no row of
the topic is refused. -/
theorem mem_findByTopic_iff (hrow : row ∈ table.activeRows) (ht : model.construct row = some t) :
    (∃ triggers, table.findByTopic model topic = .ok triggers ∧ t ∈ triggers) ↔
      row.topic0 = some (lower topic) ∧
        ∀ row' ∈ table.rowsOfTopic topic, model.construct row' ≠ none := by
  unfold findByTopic
  by_cases h : ∀ row' ∈ table.rowsOfTopic topic, model.construct row' ≠ none
  · obtain ⟨triggers, hload, hmem⟩ := mapM_load h
    constructor
    · rintro ⟨triggers', htriggers', hin⟩
      obtain rfl := Except.ok.inj (hload.symm.trans htriggers')
      obtain ⟨row', hrow', ht'⟩ := (hmem t).mp hin
      obtain ⟨hactive', hstored⟩ := mem_rowsOfTopic.mp hrow'
      rw [← eq_of_construct hrow ht hactive' ht']
      exact ⟨hstored, h⟩
    · rintro ⟨hstored, -⟩
      exact ⟨triggers, hload, (hmem t).mpr ⟨row, mem_rowsOfTopic.mpr ⟨hrow, hstored⟩, ht⟩⟩
  · obtain ⟨e, he⟩ := mapM_load_error h
    refine iff_of_false ?_ fun hall => h hall.2
    rintro ⟨triggers, htriggers, -⟩
    rw [he] at htriggers
    cases htriggers

end TriggerTable

theorem keepsChain_of_mem {raw : Dict} {t : TriggerRow} {chainId : ℤ}
    (hchain : raw.get? "chain_id" = some (.int chainId))
    (h : t.chainIds = [] ∨ chainId ∈ t.chainIds) :
    keepsChain (raw.getD "chain_id" .none) t = true := by
  rw [Dict.getD, hchain, Option.getD_some, keepsChain]
  rcases h with hempty | hmem
  · simp [hempty]
  · have hany : t.chainIds.any (fun n => (Value.int chainId).eqInt n) = true :=
      List.any_eq_true.mpr ⟨chainId, hmem, by simp [Value.eqInt]⟩
    rw [hany, Bool.or_true]

theorem keepsContract_of_eq {t : TriggerRow} {address : String}
    (h : t.contractAddress = none ∨
      ∃ contract, t.contractAddress = some contract ∧ lower contract = lower address) :
    keepsContract (lower address) t = true := by
  rcases h with hnone | ⟨contract, hcontract, heq⟩
  · simp [keepsContract, hnone]
  · rw [keepsContract, hcontract]
    by_cases hempty : contract = ""
    · simp [Option.filter_some, hempty]
    · simp [Option.filter_some, hempty, heq]

/-- **Which triggers a log finds.** For every raw log with a topic, a chain and an address, and
every active row of the table that its topic selects and, if it is a trigger, its chain and contract
select too, detection returns the trigger of the row if and only if the topic is neither
`AuthorizationUsed` nor `Transfer` and the lookup succeeds: where the index is searched, `Trigger`
accepts every active row, or the index held the trigger before the refresh; where the table is
searched, the row's `topic0` is stored in lower case and `Trigger` accepts every row of the topic.
-/
theorem detectEventType_complete_iff (model : TriggerModel) (keccak256 : List UInt8 → List UInt8)
    (useIndex : Bool) (table : TriggerTable) (index : TriggerIndex) (row : StoredTrigger)
    (raw : Dict) (topic address : String) (rest : List Value) (chainId : ℤ)
    (hrow : row ∈ table.activeRows)
    (htopics : parseTopicsValue (raw.getD "topics" (.list [])) = .str topic :: rest)
    (hne : topic ≠ "") (hchain : raw.get? "chain_id" = some (.int chainId))
    (haddress : raw.get? "address" = some (.str address))
    (htopic0 : ∃ topic0, row.topic0 = some topic0 ∧ lower (strip topic0) = lower topic)
    (hchains : ∀ t, model.construct row = some t → t.chainIds = [] ∨ chainId ∈ t.chainIds)
    (hcontract : ∀ t, model.construct row = some t → t.contractAddress = none ∨
      ∃ contract, t.contractAddress = some contract ∧ lower contract = lower address) :
    (∃ triggers, detectEventType (freshSources model keccak256 useIndex table index) raw =
        .ok (.dynamic triggers) ∧ ∃ t ∈ triggers, model.construct row = some t) ↔
      lower topic ∉ eventSignatures ∧
        (useIndex = true → table.Accepted model ∨
          ∃ t ∈ index.matchTopic topic, model.construct row = some t) ∧
        (useIndex = false → row.topic0 = some (lower topic) ∧
          ∀ row' ∈ table.rowsOfTopic topic, model.construct row' ≠ none) := by
  cases hload : model.construct row with
  | none =>
    -- the row itself is refused, and with it the lookup
    refine iff_of_false (by simp) ?_
    rintro ⟨-, hindex, htable⟩
    cases useIndex with
    | true =>
      rcases hindex rfl with haccepted | ⟨t, -, ht⟩
      · exact haccepted row hrow hload
      · cases ht
    | false =>
      obtain ⟨hstored, haccepted⟩ := htable rfl
      exact haccepted row (TriggerTable.mem_rowsOfTopic.mpr ⟨hrow, hstored⟩) hload
  | some t =>
    obtain ⟨topic0, htopic0, hlower⟩ := htopic0
    have hne0 : strip topic0 ≠ "" := by
      intro hempty
      rw [hempty] at hlower
      exact hne (lower_eq_empty_iff.mp hlower.symm)
    obtain ⟨found, hfind, hmem⟩ : ∃ found,
        (freshSources model keccak256 useIndex table index).find (lower topic) = some found ∧
          ((∃ triggers, found = .ok triggers ∧ t ∈ triggers) ↔
            (useIndex = true → table.Accepted model ∨ t ∈ index.matchTopic topic) ∧
              (useIndex = false → row.topic0 = some (lower topic) ∧
                ∀ row' ∈ table.rowsOfTopic topic, model.construct row' ≠ none)) := by
      cases useIndex with
      | true =>
        refine ⟨_, rfl, ?_⟩
        have hmatch : t ∈ (table.refresh model keccak256 index).matchTopic topic ↔ _ :=
          TriggerTable.mem_refresh_iff index hrow hload htopic0 hne0 hlower
        simpa [TriggerIndex.matchTopic] using hmatch
      | false =>
        refine ⟨_, rfl, ?_⟩
        have hquery : (∃ triggers, table.findByTopic model (lower topic) = .ok triggers ∧
            t ∈ triggers) ↔ _ := TriggerTable.mem_findByTopic_iff hrow hload
        simpa [TriggerTable.rowsOfTopic] using hquery
    have hcontract' : lowerValue (raw.getD "address" (.str "")) = .ok (lower address) := by
      rw [Dict.getD, haddress, Option.getD_some, lowerValue]
    -- the trigger passes both filters, so whether it is returned is whether it is found
    have hkeep (triggers : List TriggerRow) :
        t ∈ matchedTriggers raw (lower address) triggers ↔ t ∈ triggers := by
      rw [matchedTriggers, List.mem_filter, keepsChain_of_mem hchain (hchains t hload),
        keepsContract_of_eq (hcontract t hload)]
      simp
    simp only [Option.some.injEq, exists_eq_right', ← hmem]
    constructor
    · rintro ⟨ts, hts, hin⟩
      obtain ⟨topic', rest', htopics', hbuiltin, hdyn⟩ := detectEventType_eq_dynamic_iff.mp hts
      rw [htopics] at htopics'
      obtain rfl : topic = topic' := by cases htopics'; rfl
      obtain ⟨triggers, contract', hfind', hc', rfl, -⟩ := detectDynamic_eq_dynamic_iff.mp hdyn
      obtain rfl := Option.some.inj (hfind.symm.trans hfind')
      obtain rfl := Except.ok.inj (hcontract'.symm.trans hc')
      exact ⟨hbuiltin, triggers, rfl, (hkeep triggers).mp hin⟩
    · rintro ⟨hbuiltin, triggers, rfl, hin⟩
      have hin := (hkeep triggers).mpr hin
      refine ⟨_, ?_, hin⟩
      refine detectEventType_eq_dynamic_iff.mpr ⟨topic, rest, htopics, hbuiltin, ?_⟩
      exact detectDynamic_eq_dynamic_iff.mpr
        ⟨triggers, lower address, hfind, hcontract', rfl, List.ne_nil_of_mem hin⟩

namespace Sample

/-- The contract a trigger of the samples watches. -/
def watched : String := "0x833589fCD6eDb6E08f4c7C32D4f71b54bdA02913"

/-- A trigger on `topic0` at the watched contract on Base. -/
def triggerRow (topic0 : String) : TriggerRow where
  id := "trigger"
  endpointId := "endpoint"
  eventSignature := topic0
  topic0 := some topic0
  contractAddress := some watched
  chainIds := [8453]

/-- The row of this trigger. -/
def storedTrigger (topic0 : String) : StoredTrigger where
  id := "trigger"
  endpointId := "endpoint"
  eventSignature := topic0
  topic0 := some topic0
  columns :=
    [("owner_address", .str "0x833589fcd6edb6e08f4c7c32d4f71b54bda02913"), ("abi", .list []),
      ("webhook_event_type", .str "transfer"), ("contract_address", .str watched),
      ("chain_ids", .list [.int 8453])]

/-- The table that holds this row alone. -/
def triggerTable (topic0 : String) : TriggerTable where
  rows := [storedTrigger topic0]
  keys_nodup := List.nodup_singleton _

/-- A log of the watched contract. -/
def watchedLog (topic0 : String) : Dict :=
  [("topics", .list [.str topic0]), ("chain_id", .int 8453), ("address", .str (lower watched))]

/-- The topic of `Swap(address,address,int256,int256,uint160,uint128,int24)`. -/
def swapTopic : String := "0xc42079f94a6350d7e6235f29174924f928cc2ac818eb64fed8004e115fbcca67"

/-- A processor whose index holds the trigger on swaps alone. -/
def swapSources : TriggerSources where
  triggerIndex := some [(swapTopic, [triggerRow swapTopic])]

theorem lower_swapTopic : lower swapTopic = swapTopic := lower_of_chars rfl rfl

theorem lower_swapTopic_notMem : lower swapTopic ∉ eventSignatures := by
  have hused : lower authorizationUsedTopic = authorizationUsedTopic := lower_of_chars rfl rfl
  have htransfer : lower transferTopic = transferTopic := lower_of_chars rfl rfl
  rw [lower_swapTopic, eventSignatures, hused, htransfer]
  simp [swapTopic, authorizationUsedTopic, transferTopic]

/-- The trigger of the row, if nothing has to be stripped from its topic. -/
theorem construct_storedTrigger {topic0 : String} (h : strip topic0 = topic0) :
    triggerModel.construct (storedTrigger topic0) = some (triggerRow topic0) := by
  have hwatched : strip watched = watched := strip_of_chars rfl rfl
  have hchains : chainIdsOf (storedTrigger topic0) = some [8453] := by
    simp [chainIdsOf, storedTrigger, Dict.getD, Dict.get?, Value.ints?]
  have hcontract : contractAddressOf (storedTrigger topic0) = some (some watched) := by
    simp [contractAddressOf, storedTrigger, Dict.getD, Dict.get?, hwatched]
  have howner : (storedTrigger topic0).columns.get? "owner_address" =
      some (.str "0x833589fcd6edb6e08f4c7c32d4f71b54bda02913") := by
    simp [storedTrigger, Dict.get?]
  have habi : (storedTrigger topic0).columns.get? "abi" = some (.list []) := by
    simp [storedTrigger, Dict.get?]
  have htype : (storedTrigger topic0).columns.get? "webhook_event_type" =
      some (.str "transfer") := by
    simp [storedTrigger, Dict.get?]
  simp only [triggerModel, hchains, hcontract, howner, habi, htype]
  simp [storedTrigger, h, triggerRow]

theorem construct_storedTrigger_swap :
    triggerModel.construct (storedTrigger swapTopic) = some (triggerRow swapTopic) :=
  construct_storedTrigger (strip_of_chars rfl rfl)

/-- What the processor with the index of the samples makes of a log of a swap. -/
theorem detectEventType_swapSources {raw : Dict} {contract : String}
    (htopics : parseTopicsValue (raw.getD "topics" (.list [])) = [.str swapTopic])
    (hcontract : lowerValue (raw.getD "address" (.str "")) = .ok contract)
    (hchain : keepsChain (raw.getD "chain_id" .none) (triggerRow swapTopic) = true)
    (hkeeps : keepsContract contract (triggerRow swapTopic) = true) :
    detectEventType swapSources raw = .ok (.dynamic [triggerRow swapTopic]) := by
  have hfind : swapSources.find (lower swapTopic) = some (.ok [triggerRow swapTopic]) := by
    simp [TriggerSources.find, swapSources, TriggerIndex.matchTopic, TriggerIndex.get,
      lower_swapTopic]
  refine detectEventType_eq_dynamic_iff.mpr ⟨_, _, htopics, lower_swapTopic_notMem, ?_⟩
  refine detectDynamic_eq_dynamic_iff.mpr ⟨_, _, hfind, hcontract, ?_, List.cons_ne_nil _ _⟩
  simp [matchedTriggers, hchain, hkeeps]

end Sample

/-- A swap finds its trigger. -/
theorem detectEventType_complete_swap :
    ∃ triggers, detectEventType (freshSources Sample.triggerModel (fun _ => []) false
        (Sample.triggerTable Sample.swapTopic) []) (Sample.watchedLog Sample.swapTopic) =
          .ok (.dynamic triggers) ∧
      ∃ t ∈ triggers,
        Sample.triggerModel.construct (Sample.storedTrigger Sample.swapTopic) = some t := by
  have hload := Sample.construct_storedTrigger_swap
  have hstrip : strip Sample.swapTopic = Sample.swapTopic := strip_of_chars rfl rfl
  refine (detectEventType_complete_iff Sample.triggerModel _ false _ []
    (Sample.storedTrigger Sample.swapTopic) _ Sample.swapTopic (lower Sample.watched) [] 8453
    List.mem_cons_self rfl (by decide) rfl rfl
    ⟨Sample.swapTopic, rfl, by rw [hstrip]⟩ ?_ ?_).mpr
    ⟨Sample.lower_swapTopic_notMem, nofun, fun _ => ⟨by rw [Sample.lower_swapTopic]; rfl, ?_⟩⟩
  · intro t ht
    obtain rfl := Option.some.inj (hload.symm.trans ht)
    exact .inr List.mem_cons_self
  · intro t ht
    obtain rfl := Option.some.inj (hload.symm.trans ht)
    exact .inr ⟨Sample.watched, rfl, (lower_lower _).symm⟩
  · intro row hrow
    obtain ⟨hactive, -⟩ := TriggerTable.mem_rowsOfTopic.mp hrow
    obtain rfl := List.mem_singleton.mp (List.mem_of_mem_filter hactive)
    rw [hload]
    exact Option.some_ne_none _

/-- A `Transfer` of the watched contract is taken for a payment, and the active trigger on it, which
topic, chain and contract select, is not found. -/
theorem detectEventType_transfer_trigger_missed :
    Sample.storedTrigger transferTopic ∈ (Sample.triggerTable transferTopic).activeRows ∧
      Sample.triggerModel.construct (Sample.storedTrigger transferTopic) =
        some (Sample.triggerRow transferTopic) ∧
      (Sample.triggerRow transferTopic).topic0 = some transferTopic ∧
      (Sample.triggerRow transferTopic).chainIds = [8453] ∧
      (Sample.triggerRow transferTopic).contractAddress = some Sample.watched ∧
      ∀ useIndex, detectEventType (freshSources Sample.triggerModel (fun _ => []) useIndex
          (Sample.triggerTable transferTopic) [])
        [("topics", .list [.str transferTopic]), ("chain_id", .int 8453),
          ("address", .str Sample.watched)] = .ok .erc3009Transfer := by
  have hstrip : strip transferTopic = transferTopic := strip_of_chars rfl rfl
  refine ⟨List.mem_cons_self, Sample.construct_storedTrigger hstrip, rfl, rfl, rfl,
    fun useIndex => ?_⟩
  have hbuiltin : lower transferTopic ∈ eventSignatures := by simp [eventSignatures]
  exact detectEventType_of_builtin rfl hbuiltin _

/-! ### Soundness -/

/-- The log names no contract: `raw_log.get("address", "")` is empty. -/
def LacksAddress (raw : Dict) : Prop := raw.getD "address" (.str "") = .str ""

/-- The log names no chain: `raw_log.get("chain_id")` is `None`. -/
def LacksChain (raw : Dict) : Prop := raw.getD "chain_id" .none = .none

/-- **What a returned trigger allows.** Whatever the sources hold: a trigger that is returned and
restricted to a contract was matched by a log of that contract or one that names no contract, and a
trigger restricted to some chains by a log of one of them or one that names no chain. -/
theorem detectEventType_sound (sources : TriggerSources) (raw : Dict) (triggers : List TriggerRow)
    (h : detectEventType sources raw = .ok (.dynamic triggers)) (t : TriggerRow)
    (ht : t ∈ triggers) :
    (∀ contract, t.contractAddress = some contract → contract ≠ "" →
      LacksAddress raw ∨
        ∃ address, raw.get? "address" = some (.str address) ∧ lower address = lower contract) ∧
      (t.chainIds ≠ [] →
        LacksChain raw ∨
          ∃ v n, raw.get? "chain_id" = some v ∧ n ∈ t.chainIds ∧ v.eqInt n = true) := by
  obtain ⟨topic, rest, -, -, hdyn⟩ := detectEventType_eq_dynamic_iff.mp h
  obtain ⟨found, contract, -, hcontract, rfl, -⟩ := detectDynamic_eq_dynamic_iff.mp hdyn
  obtain ⟨-, hkeep⟩ := List.mem_filter.mp ht
  rw [Bool.and_eq_true] at hkeep
  obtain ⟨text, htext, rfl⟩ := lowerValue_eq_ok_iff.mp hcontract
  refine ⟨?_, ?_⟩
  · intro c hc hne
    have hcond := hkeep.2
    simp only [keepsContract, hc, Option.filter_some, hne, ne_eq, not_false_eq_true, decide_true,
      if_true, Bool.or_eq_true, decide_eq_true_eq] at hcond
    rcases hcond with hempty | heq
    · left
      rw [LacksAddress, htext, lower_eq_empty_iff.mp hempty]
    · by_cases hlacks : text = ""
      · left
        rw [LacksAddress, htext, hlacks]
      · right
        cases hget : raw.get? "address" with
        | none =>
          rw [Dict.getD, hget, Option.getD_none] at htext
          exact absurd (Value.str.inj htext).symm hlacks
        | some v =>
          rw [Dict.getD, hget, Option.getD_some] at htext
          exact ⟨text, by rw [htext], heq.symm⟩
  · intro hchains
    have hcond := hkeep.1
    simp only [keepsChain, Bool.or_eq_true, List.isEmpty_iff, hchains, false_or,
      decide_eq_true_eq, List.any_eq_true] at hcond
    rcases hcond with hnone | ⟨n, hn, heq⟩
    · exact .inl hnone
    · cases hget : raw.get? "chain_id" with
      | none => exact .inl (by rw [LacksChain, Dict.getD, hget, Option.getD_none])
      | some v =>
        rw [Dict.getD, hget, Option.getD_some] at heq
        exact .inr ⟨v, n, rfl, hn, heq⟩

/-- The trigger of a swap was matched by a log of its contract and chain. -/
theorem detectEventType_sound_swap :
    ∃ address, (Sample.watchedLog Sample.swapTopic).get? "address" = some (.str address) ∧
      lower address = lower Sample.watched := by
  have hdetect : detectEventType Sample.swapSources (Sample.watchedLog Sample.swapTopic) =
      .ok (.dynamic [Sample.triggerRow Sample.swapTopic]) :=
    Sample.detectEventType_swapSources rfl rfl
      (keepsChain_of_mem rfl (.inr List.mem_cons_self))
      (keepsContract_of_eq (.inr ⟨Sample.watched, rfl, (lower_lower _).symm⟩))
  have hsound := detectEventType_sound Sample.swapSources _ _ hdetect
    (Sample.triggerRow Sample.swapTopic) List.mem_cons_self
  refine (hsound.1 Sample.watched rfl (by decide)).resolve_left fun hlacks => ?_
  have hempty : lower Sample.watched = "" := Value.str.inj hlacks
  exact absurd (lower_eq_empty_iff.mp hempty) (by decide)

/-- A log without an address or a chain matches a trigger that is restricted to one contract and
one chain. -/
theorem detectEventType_unrestricted_log :
    detectEventType Sample.swapSources [("topics", .list [.str Sample.swapTopic])] =
      .ok (.dynamic [Sample.triggerRow Sample.swapTopic]) ∧
    (Sample.triggerRow Sample.swapTopic).contractAddress = some Sample.watched ∧
    (Sample.triggerRow Sample.swapTopic).chainIds = [8453] :=
  ⟨Sample.detectEventType_swapSources rfl rfl rfl rfl, rfl, rfl⟩

end TripWire
