import TripWire.Ingestion.TriggerRegistry
import TripWire.Lib.Machine
import TripWire.Py.Hex

/-!
# The two lookups of a topic

A trigger is found by its topic in two ways: in the index that `TriggerIndex.refresh`
(`trigger_worker.py`) builds from `TriggerRepository.list_active`, and by the query of
`TriggerRepository.find_by_topic` (`db/repositories/triggers.py`), which compares the column
`topic0` of migration 017.  The index computes a missing `topic0`, the query does not; both build a
`Trigger` from every row they read, and raise at a row that `Trigger` refuses.

For a topic a row is *settled* if its column says what the index would compute.  The two lookups
agree if and only if every active row is settled (`sameTriggers_iff`); after a failed refresh they
agree if the index did before.  `TriggerRepository.create` stores the topic it computes, so along a
run from rows older than the migration only those are not (`settled_run_iff`).
-/

namespace TripWire

open Py Machine

/-! ### The operations -/

/-- The dictionary that `TriggerRepository.create` is given, with the id of the new row. -/
structure TriggerData where
  id : String
  endpointId : EndpointId
  /-- `none` when the key is missing. -/
  eventSignature : Option String
  /-- `none` when the key is missing. -/
  topic0 : Option (Option String) := none
  active : Bool := true
  columns : Dict := []

/-- The row that `create` inserts: `topic0` is computed if the key is missing.  The column
`event_signature` is `NOT NULL`. -/
def TriggerData.row (keccak256 : List UInt8 → List UInt8) (data : TriggerData) :
    Option StoredTrigger :=
  data.eventSignature.map fun eventSignature =>
    { id := data.id
      endpointId := data.endpointId
      eventSignature := eventSignature
      topic0 := data.topic0.getD (some (computeTopic0 keccak256 eventSignature))
      active := data.active
      columns := data.columns }

/-- What is done to the `triggers` table. -/
inductive TriggerOp where
  /-- `TriggerRepository.create`.  The row stays when `Trigger(**row)` raises afterwards. -/
  | create (data : TriggerData)
  /-- `TriggerRepository.deactivate`. -/
  | deactivate (triggerId : String)
  /-- The deletion of an endpoint, with its triggers (`ON DELETE CASCADE`). -/
  | deleteEndpoint (endpointId : EndpointId)

/-- The `triggers` table after an operation; an insert under a taken id is refused. -/
def TriggerTable.step (keccak256 : List UInt8 → List UInt8) (table : TriggerTable) :
    TriggerOp → TriggerTable
  | .create data =>
    match data.row keccak256 with
    | none => table
    | some row => table.insertOrSkip row
  | .deactivate triggerId =>
    table.updateWhere (fun row => row.id = triggerId) StoredTrigger.deactivated
      StoredTrigger.rowKey_deactivated
  | .deleteEndpoint endpointId => table.deleteWhere fun row => row.endpointId = endpointId

/-! ### The topic of a signature -/

theorem isSpace_toLower_of_isHexDigit {c : Char} (h : isHexDigit c = true) :
    isSpace c.toLower = false := by
  have hascii : c.toNat < 128 := by
    simp only [isHexDigit, Bool.or_eq_true, Bool.and_eq_true, decide_eq_true_eq,
      Char.le_def, UInt32.le_iff_toNat_le] at h
    simp only [Char.toNat]
    rcases h with (⟨-, h⟩ | ⟨-, h⟩) | ⟨-, h⟩ <;> exact lt_of_le_of_lt h (by decide)
  have hall : ∀ n < 128, isHexDigit (Char.ofNat n) = true →
      isSpace (Char.ofNat n).toLower = false := by decide +kernel
  have hc := hall c.toNat hascii
  rw [Char.ofNat_toNat] at hc
  exact hc h

/-- The characters of a computed topic are in lower case, and none is a space. -/
theorem computeTopic0_char (keccak256 : List UInt8 → List UInt8) (eventSignature : String)
    {c : Char} (h : c ∈ (computeTopic0 keccak256 eventSignature).toList) :
    c.toLower = c ∧ isSpace c = false := by
  have hmark : ∀ c ∈ ['0', 'x'], c.toLower = c ∧ isSpace c = false := by
    simp only [List.forall_mem_cons, List.not_mem_nil, false_implies, implies_true, and_true]
    exact ⟨⟨rfl, rfl⟩, rfl, rfl⟩
  rw [computeTopic0] at h
  by_cases hhex : isHexTopic (strip eventSignature) = true
  · -- the signature is a topic already, and is lowered
    rw [if_pos hhex, lower, String.toList_ofList, List.mem_map] at h
    obtain ⟨c, hc, rfl⟩ := h
    refine ⟨toLower_toLower c, ?_⟩
    unfold isHexTopic at hhex
    split at hhex
    · rename_i hs hchars
      rw [hchars, List.mem_cons, List.mem_cons] at hc
      rcases hc with rfl | rfl | hc
      · decide
      · decide
      · simp only [Bool.and_eq_true, List.all_eq_true] at hhex
        exact isSpace_toLower_of_isHexDigit (hhex.2 c hc)
    · cases hhex
  · rw [if_neg hhex, String.toList_append, List.mem_append] at h
    rcases h with h | h
    · exact hmark c h
    · obtain ⟨d, hd, rfl⟩ := hexDigit_of_mem h
      have hall : ∀ d : Fin 16,
          (hexDigit d).toLower = hexDigit d ∧ isSpace (hexDigit d) = false := by
        decide +kernel
      exact hall ⟨d, hd⟩

/-- A computed topic is a key of the index. -/
theorem lower_computeTopic0 (keccak256 : List UInt8 → List UInt8) (eventSignature : String) :
    lower (computeTopic0 keccak256 eventSignature) = computeTopic0 keccak256 eventSignature := by
  have hmap : (computeTopic0 keccak256 eventSignature).toList.map Char.toLower =
      (computeTopic0 keccak256 eventSignature).toList.map id :=
    List.map_congr_left fun c hc => (computeTopic0_char keccak256 eventSignature hc).1
  rw [lower, hmap, List.map_id, String.ofList_toList]

theorem strip_computeTopic0 (keccak256 : List UInt8 → List UInt8) (eventSignature : String) :
    strip (computeTopic0 keccak256 eventSignature) = computeTopic0 keccak256 eventSignature := by
  rw [strip, stripChars_of_forall fun c hc => (computeTopic0_char keccak256 eventSignature hc).2,
    String.ofList_toList]

theorem computeTopic0_ne_empty (keccak256 : List UInt8 → List UInt8) (eventSignature : String) :
    computeTopic0 keccak256 eventSignature ≠ "" := by
  rw [computeTopic0]
  intro h
  by_cases hhex : isHexTopic (strip eventSignature) = true
  · rw [if_pos hhex, lower_eq_empty_iff] at h
    rw [h] at hhex
    exact absurd hhex (by decide)
  · rw [if_neg hhex] at h
    have hchars := congrArg String.toList h
    rw [String.toList_append] at hchars
    cases hchars

/-! ### Settled rows -/

namespace StoredTrigger

/-- The column `topic0` of a row says of a topic what the index says: a `topic0` is the topic in
lower case or of another one, and where it is missing or blank, the topic is not the one of the
signature. -/
def Settled (keccak256 : List UInt8 → List UInt8) (topic : String) (row : StoredTrigger) : Prop :=
  match (row.topic0.map strip).filter (· ≠ "") with
  | some topic0 => lower topic0 = lower topic ↔ row.topic0 = some (lower topic)
  | none => computeTopic0 keccak256 row.eventSignature ≠ lower topic ∧
      row.topic0 ≠ some (lower topic)

theorem settled_iff {keccak256 : List UInt8 → List UInt8} {topic : String} {row : StoredTrigger} :
    row.Settled keccak256 topic ↔
      (row.indexKey keccak256 = lower topic ↔ row.topic0 = some (lower topic)) := by
  unfold Settled indexKey
  cases hcolumn : (row.topic0.map strip).filter (· ≠ "") with
  | some topic0 => exact Iff.rfl
  | none =>
    rw [Option.getD_none, lower_computeTopic0]
    by_cases hstored : row.topic0 = some (lower topic)
    · -- a blank column is not a topic that is computed
      have hcompute : computeTopic0 keccak256 row.eventSignature ≠ lower topic := by
        intro hcompute
        rw [hstored, Option.map_some, ← hcompute, strip_computeTopic0, Option.filter_some,
          if_pos (decide_eq_true (computeTopic0_ne_empty keccak256 row.eventSignature))] at hcolumn
        cases hcolumn
      exact ⟨fun h => absurd hstored h.2, fun h => absurd (h.mpr hstored) hcompute⟩
    · exact ⟨fun h => ⟨fun hc => absurd hc h.1, fun hs => absurd hs hstored⟩,
        fun h => ⟨fun hc => hstored (h.mp hc), hstored⟩⟩

end StoredTrigger

/-! ### The two lookups -/

/-- A lookup that may raise returns the same set of triggers as another one. -/
def SameTriggers (found : Except PyError (List TriggerRow)) (matched : List TriggerRow) : Prop :=
  ∃ triggers, found = .ok triggers ∧ ∀ t, t ∈ matched ↔ t ∈ triggers

namespace TriggerTable

variable {model : TriggerModel} {table : TriggerTable}

/-- The query returns the triggers of the rows it selects, and raises if one of them is refused. -/
theorem sameTriggers_findByTopic_iff {topic : String} {matched : List TriggerRow} :
    SameTriggers (table.findByTopic model topic) matched ↔
      (∀ row ∈ table.rowsOfTopic topic, model.construct row ≠ none) ∧
        ∀ t, t ∈ matched ↔ ∃ row ∈ table.rowsOfTopic topic, model.construct row = some t := by
  unfold SameTriggers findByTopic
  by_cases h : ∀ row ∈ table.rowsOfTopic topic, model.construct row ≠ none
  · obtain ⟨triggers, hload, hmem⟩ := mapM_load h
    constructor
    · rintro ⟨triggers', htriggers', hsame⟩
      obtain rfl := Except.ok.inj (hload.symm.trans htriggers')
      exact ⟨h, fun t => (hsame t).trans (hmem t)⟩
    · rintro ⟨-, hsame⟩
      exact ⟨triggers, hload, fun t => (hsame t).trans (hmem t).symm⟩
  · obtain ⟨e, he⟩ := mapM_load_error h
    constructor
    · rintro ⟨triggers, htriggers, -⟩
      rw [he] at htriggers
      cases htriggers
    · rintro ⟨hall, -⟩
      exact absurd hall h

/-- With every active row accepted, the lookups agree if and only if every active row is settled. -/
theorem sameTriggers_iff (keccak256 : List UInt8 → List UInt8) (h : table.Accepted model)
    (index : TriggerIndex) (topic : String) :
    SameTriggers (table.findByTopic model topic)
        ((table.refresh model keccak256 index).matchTopic topic) ↔
      ∀ row ∈ table.activeRows, row.Settled keccak256 topic := by
  rw [sameTriggers_findByTopic_iff]
  constructor
  · rintro ⟨-, hsame⟩ row hrow
    obtain ⟨t, ht⟩ := Option.ne_none_iff_exists'.mp (h row hrow)
    rw [StoredTrigger.settled_iff]
    have hrow_same := hsame t
    rw [mem_matchTopic_refresh h] at hrow_same
    constructor
    · intro hkey
      obtain ⟨row', hrow', ht'⟩ := hrow_same.mp ⟨row, hrow, hkey, ht⟩
      obtain ⟨hactive', hstored⟩ := mem_rowsOfTopic.mp hrow'
      rw [← eq_of_construct hrow ht hactive' ht', hstored]
    · intro hstored
      obtain ⟨row', hrow', hkey, ht'⟩ :=
        hrow_same.mpr ⟨row, mem_rowsOfTopic.mpr ⟨hrow, hstored⟩, ht⟩
      rw [← eq_of_construct hrow ht hrow' ht', hkey]
  · intro hsettled
    refine ⟨fun row hrow => h row (mem_rowsOfTopic.mp hrow).1, fun t => ?_⟩
    rw [mem_matchTopic_refresh h]
    constructor
    · rintro ⟨row, hrow, hkey, ht⟩
      have hstored := (StoredTrigger.settled_iff.mp (hsettled row hrow)).mp hkey
      exact ⟨row, mem_rowsOfTopic.mpr ⟨hrow, hstored⟩, ht⟩
    · rintro ⟨row, hrow, ht⟩
      obtain ⟨hactive, hstored⟩ := mem_rowsOfTopic.mp hrow
      exact ⟨row, hactive, (StoredTrigger.settled_iff.mp (hsettled row hactive)).mpr hstored, ht⟩

end TriggerTable

/-! ### Runs -/

/-- A `create` is given no topic, or the one of the signature; the tools give that one. -/
def TriggerOp.ComputesTopic (keccak256 : List UInt8 → List UInt8) : TriggerOp → Prop
  | .create data => data.topic0 = none ∨
      data.topic0 = data.eventSignature.map fun s => some (computeTopic0 keccak256 s)
  | _ => True

namespace TriggerTable

/-- Every `topic0` that is stored is the one of the signature. -/
def TopicsComputed (keccak256 : List UInt8 → List UInt8) (table : TriggerTable) : Prop :=
  ∀ row ∈ table.rows, row.topic0 = none ∨
    row.topic0 = some (computeTopic0 keccak256 row.eventSignature)

/-- A row after an operation was inserted by it, or was there with the same topic and signature. -/
theorem mem_step {keccak256 : List UInt8 → List UInt8} {table : TriggerTable} {op : TriggerOp}
    {row : StoredTrigger} (h : row ∈ (table.step keccak256 op).rows) :
    (∃ data, op = .create data ∧ data.row keccak256 = some row) ∨
      ∃ old ∈ table.rows, row.topic0 = old.topic0 ∧ row.eventSignature = old.eventSignature := by
  cases op with
  | create data =>
    unfold step at h
    cases hdata : data.row keccak256 with
    | none =>
      simp only [hdata] at h
      exact .inr ⟨row, h, rfl, rfl⟩
    | some new =>
      simp only [hdata] at h
      rcases KeyedTable.mem_or_eq_of_mem_insertOrSkip h with hold | rfl
      · exact .inr ⟨row, hold, rfl, rfl⟩
      · exact .inl ⟨data, rfl, hdata⟩
  | deactivate triggerId =>
    obtain ⟨old, hold, rfl⟩ := List.mem_map.mp h
    refine .inr ⟨old, hold, ?_⟩
    split_ifs
    · exact ⟨rfl, rfl⟩
    · exact ⟨rfl, rfl⟩
  | deleteEndpoint endpointId =>
    exact .inr ⟨row, (KeyedTable.mem_deleteWhere.mp h).1, rfl, rfl⟩

/-- The row of a `create` that computes its topic has the topic of its signature. -/
theorem topic0_of_computesTopic {keccak256 : List UInt8 → List UInt8} {data : TriggerData}
    {row : StoredTrigger} (hdata : (TriggerOp.create data).ComputesTopic keccak256)
    (h : data.row keccak256 = some row) :
    row.topic0 = some (computeTopic0 keccak256 row.eventSignature) := by
  obtain ⟨eventSignature, hsignature, rfl⟩ := Option.map_eq_some_iff.mp h
  have hcases : data.topic0 = none ∨
      data.topic0 = data.eventSignature.map fun s => some (computeTopic0 keccak256 s) := hdata
  rw [hsignature, Option.map_some] at hcases
  show data.topic0.getD _ = _
  rcases hcases with hnone | hsome
  · rw [hnone, Option.getD_none]
  · rw [hsome, Option.getD_some]

theorem topicsComputed_step {keccak256 : List UInt8 → List UInt8} (table : TriggerTable)
    (op : TriggerOp) (htable : table.TopicsComputed keccak256) (hop : op.ComputesTopic keccak256) :
    (table.step keccak256 op).TopicsComputed keccak256 := by
  intro row hrow
  rcases mem_step hrow with ⟨data, rfl, hdata⟩ | ⟨old, hold, htopic0, hsignature⟩
  · exact .inr (topic0_of_computesTopic hop hdata)
  · rw [htopic0, hsignature]
    exact htable old hold

/-- From rows older than the migration, every stored topic is computed. -/
theorem topicsComputed_run {keccak256 : List UInt8 → List UInt8} {legacy : TriggerTable}
    (hlegacy : ∀ row ∈ legacy.rows, row.topic0 = none) {ops : List TriggerOp}
    (hops : ∀ op ∈ ops, op.ComputesTopic keccak256) :
    (run (step keccak256) legacy ops).TopicsComputed keccak256 :=
  run_induction topicsComputed_step (fun row hrow => .inl (hlegacy row hrow))
    (meets_of_forall hops legacy)

/-- **Which rows are settled.** In every run from rows older than the migration whose `create`s
store computed topics, the active rows are settled for a topic if and only if the topic is not the
one of the signature of an active row without `topic0`. -/
theorem settled_run_iff {keccak256 : List UInt8 → List UInt8} {legacy : TriggerTable}
    (hlegacy : ∀ row ∈ legacy.rows, row.topic0 = none) {ops : List TriggerOp}
    (hops : ∀ op ∈ ops, op.ComputesTopic keccak256) (topic : String) :
    (∀ row ∈ (run (step keccak256) legacy ops).activeRows, row.Settled keccak256 topic) ↔
      ∀ row ∈ (run (step keccak256) legacy ops).activeRows, row.topic0 = none →
        computeTopic0 keccak256 row.eventSignature ≠ lower topic := by
  refine forall₂_congr fun row hrow => ?_
  have hcomputed := topicsComputed_run hlegacy hops row (List.mem_of_mem_filter hrow)
  rw [StoredTrigger.settled_iff, StoredTrigger.indexKey]
  rcases hcomputed with hnone | hsome
  · rw [hnone]
    simp [lower_computeTopic0]
  · rw [hsome, Option.map_some, strip_computeTopic0, Option.filter_some,
      if_pos (decide_eq_true (computeTopic0_ne_empty keccak256 row.eventSignature)),
      Option.getD_some, lower_computeTopic0]
    simp

end TriggerTable

/-! ### The theorem -/

/-- **The lookups agree.** In every state that the operations lead to, from any rows, and for every
topic, the index after a refresh and the table return the same set of triggers if and only if every
active row is settled for the topic, or, where the refresh fails because some active row is refused,
no row of the topic is and the index returned their triggers before. -/
theorem lookups_agree_iff (model : TriggerModel) (keccak256 : List UInt8 → List UInt8)
    (rows : TriggerTable) (ops : List TriggerOp) (index : TriggerIndex) (topic : String) :
    SameTriggers ((run (TriggerTable.step keccak256) rows ops).findByTopic model topic)
        (((run (TriggerTable.step keccak256) rows ops).refresh model keccak256 index).matchTopic
          topic) ↔
      ((run (TriggerTable.step keccak256) rows ops).Accepted model ∧
          ∀ row ∈ (run (TriggerTable.step keccak256) rows ops).activeRows,
            row.Settled keccak256 topic) ∨
        (¬(run (TriggerTable.step keccak256) rows ops).Accepted model ∧
          (∀ row ∈ (run (TriggerTable.step keccak256) rows ops).rowsOfTopic topic,
            model.construct row ≠ none) ∧
          ∀ t, t ∈ index.matchTopic topic ↔
            ∃ row ∈ (run (TriggerTable.step keccak256) rows ops).rowsOfTopic topic,
              model.construct row = some t) := by
  set table := run (TriggerTable.step keccak256) rows ops
  by_cases h : table.Accepted model
  · rw [TriggerTable.sameTriggers_iff keccak256 h index topic]
    simp [h]
  · rw [TriggerTable.refresh_of_not_accepted h, TriggerTable.sameTriggers_findByTopic_iff]
    simp [h]

namespace Sample

/-- The hash of `Approval(address,address,uint256)`. -/
def approvalHash (_ : List UInt8) : List UInt8 :=
  [0x8c, 0x5b, 0xe1, 0xe5, 0xeb, 0xec, 0x7d, 0x5b, 0xd1, 0x4f, 0x71, 0x42, 0x7d, 0x1e, 0x84, 0xf3,
    0xdd, 0x03, 0x14, 0xc0, 0xf7, 0xb2, 0x29, 0x1e, 0x5b, 0x20, 0x0a, 0xc8, 0xc7, 0xc3, 0xb9, 0x25]

/-- A table with one active row, older than the migration. -/
def legacyTable : TriggerTable where
  rows :=
    [{ id := "trigger"
       endpointId := "endpoint"
       eventSignature := "Approval(address,address,uint256)"
       columns :=
         [("owner_address", .str "0x833589fcd6edb6e08f4c7c32d4f71b54bda02913"), ("abi", .list []),
           ("webhook_event_type", .str "approval")] }]
  keys_nodup := List.nodup_singleton _

/-- The topic of an `Approval` log. -/
def approvalTopic : String := "0x8c5be1e5ebec7d5bd14f71427d1e84f3dd0314c0f7b2291e5b200ac8c7c3b925"

end Sample

/-- A row older than the migration is matched by the index and not found by the query. -/
theorem lookups_disagree_legacy :
    ¬SameTriggers
      ((run (TriggerTable.step Sample.approvalHash) Sample.legacyTable []).findByTopic
        Sample.triggerModel Sample.approvalTopic)
      (((run (TriggerTable.step Sample.approvalHash) Sample.legacyTable []).refresh
        Sample.triggerModel Sample.approvalHash []).matchTopic Sample.approvalTopic) := by
  have hfound : (run (TriggerTable.step Sample.approvalHash) Sample.legacyTable []).findByTopic
      Sample.triggerModel Sample.approvalTopic = .ok [] := by rfl
  have hmatched : ((run (TriggerTable.step Sample.approvalHash) Sample.legacyTable []).refresh
      Sample.triggerModel Sample.approvalHash []).matchTopic Sample.approvalTopic ≠ [] := by
    decide +kernel
  rintro ⟨triggers, htriggers, hsame⟩
  obtain rfl := Except.ok.inj (hfound.symm.trans htriggers)
  exact hmatched (List.eq_nil_iff_forall_not_mem.mpr fun t ht => List.not_mem_nil ((hsame t).mp ht))

end TripWire
