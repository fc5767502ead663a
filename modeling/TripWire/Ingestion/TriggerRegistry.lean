import TripWire.Ingestion.Handlers.Trigger

/-!
# The trigger registry

Triggers are rows of the `triggers` table.  `TriggerRepository.list_active` and `find_by_topic`
(`db/repositories/triggers.py`) build a `Trigger` from every row they read, and raise at a row that
`Trigger` refuses; no tool checks what it stores.  `TriggerIndex` (`trigger_worker.py`) files the
active triggers by topic, computes a missing `topic0`, and keeps what it has when a load fails:
`mem_matchTopic_refresh`, `refresh_of_not_accepted`.
-/

namespace TripWire

open Py

deriving instance DecidableEq for Trigger

/-! ### Triggers and their rows -/

/-- A `Trigger` (`types/models.py`): what the handler reads, and the columns by which it is found.
-/
structure TriggerRow extends Trigger where
  eventSignature : String
  topic0 : Option String := none
  contractAddress : Option String := none
  chainIds : List ℤ := []
  active : Bool := true
  deriving DecidableEq

/-- The pattern `^0x[0-9a-fA-F]{64}$`. -/
def isHexTopic (s : String) : Bool :=
  match s.toList with
  | '0' :: 'x' :: hs => hs.length == 64 && hs.all isHexDigit
  | _ => false

/-- `compute_topic0`; `keccak256` is the hash of the `pycryptodome` package. -/
def computeTopic0 (keccak256 : List UInt8 → List UInt8) (eventSignature : String) : String :=
  let sig := strip eventSignature
  if isHexTopic sig then lower sig else "0x" ++ toHex (keccak256 sig.toUTF8.toList)

/-- A row of `triggers` as it is stored; `columns` are those that no query compares. -/
structure StoredTrigger where
  id : String
  endpointId : EndpointId
  eventSignature : String
  topic0 : Option String := none
  active : Bool := true
  columns : Dict := []

/-- The primary key of the `triggers` table. -/
def StoredTrigger.rowKey (row : StoredTrigger) : String := row.id

/-- `active = FALSE`. -/
def StoredTrigger.deactivated (row : StoredTrigger) : StoredTrigger := { row with active := false }

theorem StoredTrigger.rowKey_deactivated (row : StoredTrigger) :
    row.deactivated.rowKey = row.rowKey := rfl

/-- The `triggers` table. -/
abbrev TriggerTable := KeyedTable StoredTrigger.rowKey

/-- `Trigger` of `types/models.py`: what `pydantic` makes of a row, and that it strips the texts
(`str_strip_whitespace`). -/
structure TriggerModel where
  /-- `Trigger(**row)`, or `none` for a row that it refuses. -/
  construct : StoredTrigger → Option TriggerRow
  id_construct : ∀ {row t}, construct row = some t → t.id = row.id
  eventSignature_construct : ∀ {row t}, construct row = some t →
    t.eventSignature = strip row.eventSignature
  topic0_construct : ∀ {row t}, construct row = some t → t.topic0 = row.topic0.map strip

/-- `Trigger(**row)`; a `ValidationError` is a `ValueError`. -/
def TriggerModel.load (model : TriggerModel) (row : StoredTrigger) : Except PyError TriggerRow :=
  match model.construct row with
  | some t => .ok t
  | none => .error .valueError

/-! ### The table -/

namespace TriggerTable

/-- The rows that are active. -/
def activeRows (table : TriggerTable) : List StoredTrigger :=
  table.rows.filter fun row => row.active

/-- The active rows with a topic in the column `topic0`. -/
def rowsOfTopic (table : TriggerTable) (topic : String) : List StoredTrigger :=
  table.activeRows.filter fun row => row.topic0 = some (lower topic)

/-- `TriggerRepository.list_active` with an empty cache. -/
def listActive (model : TriggerModel) (table : TriggerTable) : Except PyError (List TriggerRow) :=
  table.activeRows.mapM model.load

/-- `TriggerRepository.find_by_topic` with an empty cache. -/
def findByTopic (model : TriggerModel) (table : TriggerTable) (topic : String) :
    Except PyError (List TriggerRow) :=
  (table.rowsOfTopic topic).mapM model.load

end TriggerTable

/-! ### The index -/

/-- The dictionary of a `TriggerIndex`. -/
abbrev TriggerIndex := List (String × List TriggerRow)

/-- `index.setdefault(key, []).append(trigger)`. -/
def TriggerIndex.add (index : TriggerIndex) (key : String) (trigger : TriggerRow) : TriggerIndex :=
  if index.any fun entry => entry.1 = key then
    index.map fun entry => if entry.1 = key then (entry.1, entry.2 ++ [trigger]) else entry
  else index ++ [(key, [trigger])]

/-- The key of a trigger in the index: its `topic0`, or the hash of its signature. -/
def TriggerIndex.keyOf (keccak256 : List UInt8 → List UInt8) (trigger : TriggerRow) : String :=
  lower (match trigger.topic0.filter (· ≠ "") with
    | some topic0 => topic0
    | none => computeTopic0 keccak256 trigger.eventSignature)

/-- `TriggerIndex.refresh`, from the active triggers. -/
def TriggerIndex.refresh (keccak256 : List UInt8 → List UInt8) (triggers : List TriggerRow) :
    TriggerIndex :=
  triggers.foldl (fun index t => index.add (TriggerIndex.keyOf keccak256 t) t) []

/-- `self._index.get(key, [])`. -/
def TriggerIndex.get (index : TriggerIndex) (key : String) : List TriggerRow :=
  ((index.find? fun entry => entry.1 = key).map Prod.snd).getD []

/-- `TriggerIndex.match`. -/
def TriggerIndex.matchTopic (index : TriggerIndex) (topic0 : String) : List TriggerRow :=
  index.get (lower topic0)

namespace TriggerTable

/-- The index after `TriggerIndex.refresh`, from the index before it. -/
def refresh (model : TriggerModel) (keccak256 : List UInt8 → List UInt8) (table : TriggerTable)
    (index : TriggerIndex) : TriggerIndex :=
  match table.listActive model with
  | .ok triggers => TriggerIndex.refresh keccak256 triggers
  -- a failed load leaves the old index
  | .error _ => index

end TriggerTable

namespace TriggerIndex

/-- Adding a trigger extends the list of its key. -/
theorem get_add (index : TriggerIndex) (key k : String) (t : TriggerRow) :
    (index.add key t).get k = index.get k ++ if key = k then [t] else [] := by
  unfold add get
  by_cases hany : index.any (fun entry => entry.1 = key) = true
  · rw [if_pos hany, List.find?_map]
    have hkeys : (fun entry : String × List TriggerRow => decide (entry.1 = k)) ∘
        (fun entry => if entry.1 = key then (entry.1, entry.2 ++ [t]) else entry) =
          fun entry : String × List TriggerRow => decide (entry.1 = k) := by
      funext entry
      by_cases he : entry.1 = key <;> simp [he]
    rw [hkeys]
    cases hfind : index.find? (fun entry => entry.1 = k) with
    | none =>
      have hne : key ≠ k := by
        rintro rfl
        obtain ⟨entry, hmem, he⟩ := List.any_eq_true.mp hany
        exact List.find?_eq_none.mp hfind entry hmem he
      simp [hne]
    | some entry =>
      have hentry : entry.1 = k := by simpa using List.find?_some hfind
      by_cases hk : key = k
      · simp [hentry, hk]
      · have hne : ¬ k = key := fun h => hk h.symm
        simp [hentry, hk, hne]
  · rw [if_neg hany, List.find?_append]
    by_cases hk : key = k
    · have hnone : index.find? (fun entry => entry.1 = k) = none := by
        rw [List.find?_eq_none]
        intro entry hmem he
        exact hany (List.any_eq_true.mpr ⟨entry, hmem, by simpa [hk] using he⟩)
      simp [hk, hnone]
    · simp [hk]

/-- A fresh index holds, under each key, the triggers of that key. -/
theorem get_refresh (keccak256 : List UInt8 → List UInt8) (triggers : List TriggerRow)
    (k : String) :
    (refresh keccak256 triggers).get k = triggers.filter fun t => keyOf keccak256 t = k := by
  suffices h : ∀ index : TriggerIndex,
      (triggers.foldl (fun index t => index.add (keyOf keccak256 t) t) index).get k =
        index.get k ++ triggers.filter fun t => keyOf keccak256 t = k from h []
  induction triggers with
  | nil => intro index; simp
  | cons t triggers ih =>
    intro index
    rw [List.foldl_cons, ih, get_add, List.append_assoc, List.filter_cons]
    by_cases hk : keyOf keccak256 t = k <;> simp [hk]

end TriggerIndex

@[simp]
theorem computeTopic0_strip (keccak256 : List UInt8 → List UInt8) (eventSignature : String) :
    computeTopic0 keccak256 (strip eventSignature) = computeTopic0 keccak256 eventSignature := by
  simp only [computeTopic0, strip_strip]

namespace StoredTrigger

/-- The key of a row in the index. -/
def indexKey (keccak256 : List UInt8 → List UInt8) (row : StoredTrigger) : String :=
  lower (((row.topic0.map strip).filter (· ≠ "")).getD
    (computeTopic0 keccak256 row.eventSignature))

/-- A row that has a `topic0` is filed under it. -/
theorem indexKey_of_topic0 {keccak256 : List UInt8 → List UInt8} {row : StoredTrigger}
    {topic0 : String} (h : row.topic0 = some topic0) (hne : strip topic0 ≠ "") :
    row.indexKey keccak256 = lower (strip topic0) := by
  rw [indexKey, h, Option.map_some, Option.filter_some, if_pos (decide_eq_true hne),
    Option.getD_some]

/-- The row of a trigger has its key. -/
theorem keyOf_construct (keccak256 : List UInt8 → List UInt8) {model : TriggerModel}
    {row : StoredTrigger} {t : TriggerRow} (h : model.construct row = some t) :
    TriggerIndex.keyOf keccak256 t = row.indexKey keccak256 := by
  unfold TriggerIndex.keyOf indexKey
  rw [model.topic0_construct h, model.eventSignature_construct h, computeTopic0_strip]
  cases (row.topic0.map strip).filter (· ≠ "") with
  | some topic0 => rw [Option.getD_some]
  | none => rw [Option.getD_none]

end StoredTrigger

/-! ### Loading -/

namespace TriggerTable

variable {model : TriggerModel} {table : TriggerTable}

/-- `pydantic` accepts every active row. -/
def Accepted (model : TriggerModel) (table : TriggerTable) : Prop :=
  ∀ row ∈ table.activeRows, model.construct row ≠ none

/-- The trigger of a row is that of no other row, as it has the id. -/
theorem eq_of_construct {row row' : StoredTrigger} {t : TriggerRow}
    (hrow : row ∈ table.activeRows) (ht : model.construct row = some t)
    (hrow' : row' ∈ table.activeRows) (ht' : model.construct row' = some t) : row' = row := by
  refine table.eq_of_key_eq (List.mem_of_mem_filter hrow') (List.mem_of_mem_filter hrow) ?_
  exact (model.id_construct ht').symm.trans (model.id_construct ht)

theorem mem_rowsOfTopic {topic : String} {row : StoredTrigger} :
    row ∈ table.rowsOfTopic topic ↔ row ∈ table.activeRows ∧ row.topic0 = some (lower topic) := by
  rw [rowsOfTopic, List.mem_filter, decide_eq_true_eq]

/-- Loading rows that are all accepted returns their triggers. -/
theorem mapM_load {rows : List StoredTrigger} (h : ∀ row ∈ rows, model.construct row ≠ none) :
    ∃ triggers, rows.mapM model.load = .ok triggers ∧
      ∀ t, t ∈ triggers ↔ ∃ row ∈ rows, model.construct row = some t := by
  refine mapM_eq_ok (fun row t ht => ?_) h
  rw [TriggerModel.load, ht]

/-- Loading rows of which one is refused raises. -/
theorem mapM_load_error {rows : List StoredTrigger}
    (h : ¬∀ row ∈ rows, model.construct row ≠ none) :
    ∃ e, rows.mapM model.load = .error e := by
  obtain ⟨row, hrow, hnone⟩ : ∃ row ∈ rows, model.construct row = none := by simpa using h
  exact mapM_eq_error hrow (by rw [TriggerModel.load, hnone])

/-- What a fresh index matches: the active rows whose key is the topic. -/
theorem mem_matchTopic_refresh {keccak256 : List UInt8 → List UInt8} (h : table.Accepted model)
    (index : TriggerIndex) {topic : String} {t : TriggerRow} :
    t ∈ (table.refresh model keccak256 index).matchTopic topic ↔
      ∃ row ∈ table.activeRows, row.indexKey keccak256 = lower topic ∧
        model.construct row = some t := by
  obtain ⟨triggers, hload, hmem⟩ := mapM_load h
  have hrefresh :
      table.refresh model keccak256 index = TriggerIndex.refresh keccak256 triggers := by
    rw [refresh, listActive, hload]
  rw [hrefresh, TriggerIndex.matchTopic, TriggerIndex.get_refresh, List.mem_filter,
    decide_eq_true_eq, hmem]
  constructor
  · rintro ⟨⟨row, hrow, ht⟩, hkey⟩
    exact ⟨row, hrow, by rw [← StoredTrigger.keyOf_construct keccak256 ht, hkey], ht⟩
  · rintro ⟨row, hrow, hkey, ht⟩
    exact ⟨⟨row, hrow, ht⟩, by rw [StoredTrigger.keyOf_construct keccak256 ht, hkey]⟩

/-- A refresh that meets a row that is refused leaves the index as it was. -/
theorem refresh_of_not_accepted {keccak256 : List UInt8 → List UInt8} (h : ¬table.Accepted model)
    (index : TriggerIndex) : table.refresh model keccak256 index = index := by
  obtain ⟨e, he⟩ := mapM_load_error h
  rw [refresh, listActive, he]

end TriggerTable

namespace Sample

/-- `chain_ids` of a row whose column is missing or a list of integers. -/
def chainIdsOf (row : StoredTrigger) : Option (List ℤ) :=
  (row.columns.getD "chain_ids" (.list [])).ints?

/-- `contract_address` of a row whose column is missing, null or a text. -/
def contractAddressOf (row : StoredTrigger) : Option (Option String) :=
  match row.columns.getD "contract_address" .none with
  | .none => some none
  | .str s => some (some (strip s))
  | _ => none

/-- `Trigger(**row)` of the rows with an owner, an empty ABI, a webhook event type and no columns
besides those above. -/
def triggerModel : TriggerModel where
  construct row :=
    match row.columns.get? "owner_address", row.columns.get? "abi",
      row.columns.get? "webhook_event_type", chainIdsOf row, contractAddressOf row with
    | some (.str _), some (.list []), some (.str _), some chainIds, some contractAddress =>
      some
        { id := row.id
          endpointId := row.endpointId
          eventSignature := strip row.eventSignature
          topic0 := row.topic0.map strip
          contractAddress
          chainIds
          active := row.active }
    | _, _, _, _, _ => none
  id_construct := by
    intro row t h
    split at h
    · cases h
      rfl
    · cases h
  eventSignature_construct := by
    intro row t h
    split at h
    · cases h
      rfl
    · cases h
  topic0_construct := by
    intro row t h
    split at h
    · cases h
      rfl
    · cases h

end Sample

end TripWire
