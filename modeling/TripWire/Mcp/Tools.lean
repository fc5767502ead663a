import Mathlib
import TripWire.Api.Endpoints
import TripWire.Ingestion.TriggerRegistry
import TripWire.Mcp.Auth

/-!
# The tool `register_middleware`

`register_middleware` (`tripwire/mcp/tools.py`) creates an endpoint and then, one after the other,
the triggers of some templates and some custom triggers.  Each insert is committed at once, and the
function undoes its work in two places only: `_create_endpoint_core` deletes its row when the
webhook provider fails, and the loop over the triggers deletes the endpoint when a quota stops it
with an `HTTPException`.  Deleting an endpoint deletes its triggers (`ON DELETE CASCADE`).

The foreign key of the `triggers` table is a field of `RegistryTables`, so every operation keeps it.
-/

namespace TripWire

open Py

/-! ### The tables -/

/-- A row of the `triggers` table with the columns that a registration writes.  Those of type
`JSONB` hold any JSON value. -/
structure RegisteredTrigger where
  id : String
  ownerAddress : String
  endpointId : EndpointId
  name : Option String := none
  eventSignature : String
  topic0 : Option String := none
  abi : Value := .list []
  contractAddress : Option String := none
  chainIds : Value := .list []
  filterRules : Value := .list []
  webhookEventType : String
  reputationThreshold : ℚ := 0
  active : Bool := true
  deriving DecidableEq

/-- The primary key of the `triggers` table. -/
def RegisteredTrigger.rowId (t : RegisteredTrigger) : String := t.id

/-- The `endpoints` and `triggers` tables. -/
structure RegistryTables where
  endpoints : EndpointTable
  triggers : KeyedTable RegisteredTrigger.rowId
  /-- `endpoint_id TEXT NOT NULL REFERENCES endpoints (id)`. -/
  references : ∀ t ∈ triggers.rows, endpoints.get? t.endpointId ≠ none

@[ext]
theorem RegistryTables.ext {t u : RegistryTables} (hendpoints : t.endpoints = u.endpoints)
    (htriggers : t.triggers = u.triggers) : t = u := by
  cases t
  cases u
  cases hendpoints
  cases htriggers
  rfl

namespace RegistryTables

/-- The tables with another endpoints table, in which no endpoint is missing. -/
def withEndpoints (tables : RegistryTables) (endpoints : EndpointTable)
    (h : ∀ id, tables.endpoints.get? id ≠ none → endpoints.get? id ≠ none) : RegistryTables where
  endpoints := endpoints
  triggers := tables.triggers
  references := fun t ht => h t.endpointId (tables.references t ht)

/-- A row that an insertion adds refers to an endpoint too. -/
theorem references_insert? {tables : RegistryTables} {row : RegisteredTrigger}
    {triggers : KeyedTable RegisteredTrigger.rowId}
    (h : tables.endpoints.get? row.endpointId ≠ none)
    (hins : tables.triggers.insert? row = some triggers) :
    ∀ t ∈ triggers.rows, tables.endpoints.get? t.endpointId ≠ none := by
  intro t ht
  rw [KeyedTable.rows_of_insert? hins, List.mem_append, List.mem_singleton] at ht
  rcases ht with ht | rfl
  · exact tables.references t ht
  · exact h

/-- `INSERT INTO triggers`, which fails on a taken id and on a missing endpoint.  The types and
checks of the columns are left out: a row that they refuse, such as one whose id is no `UUID`, is an
insert that raises (`TriggerEnv.insertRaises`). -/
def insertTrigger? (tables : RegistryTables) (row : RegisteredTrigger) : Option RegistryTables :=
  if h : tables.endpoints.get? row.endpointId ≠ none then
    match hins : tables.triggers.insert? row with
    | none => none
    | some triggers => some ⟨tables.endpoints, triggers, references_insert? h hins⟩
  else none

/-- The triggers that stay behind a deleted endpoint belong to others. -/
theorem references_deleteEndpoint (tables : RegistryTables) (id : EndpointId) :
    ∀ t ∈ (tables.triggers.deleteWhere fun t => t.endpointId = id).rows,
      (EndpointTable.delete tables.endpoints id).get? t.endpointId ≠ none := by
  intro t ht
  obtain ⟨hmem, hother⟩ := List.mem_filter.mp ht
  rw [Bool.not_eq_true', decide_eq_false_iff_not] at hother
  obtain ⟨row, hrow⟩ := Option.ne_none_iff_exists'.mp (tables.references t hmem)
  have hid : row.id = t.endpointId := KeyedTable.key_of_get? hrow
  rw [EndpointTable.delete, KeyedTable.get?_deleteWhere, hrow, Option.filter_some]
  simp [hid, hother]

/-- `DELETE FROM endpoints WHERE id = ...`, with the triggers of the endpoint. -/
def deleteEndpoint (tables : RegistryTables) (id : EndpointId) : RegistryTables where
  endpoints := EndpointTable.delete tables.endpoints id
  triggers := tables.triggers.deleteWhere fun t => t.endpointId = id
  references := references_deleteEndpoint tables id

/-- The count of `check_trigger_quota`. -/
def countTriggers (tables : RegistryTables) (walletAddress : String) : ℕ :=
  (tables.triggers.rows.filter fun t =>
    decide (t.ownerAddress = lower walletAddress) && t.active).length

end RegistryTables

/-- `check_trigger_quota`; `limit` is `settings.max_triggers_per_wallet`. -/
def checkTriggerQuota (limit : ℕ) (tables : RegistryTables) (walletAddress : String) :
    Except HttpException Unit :=
  let count := tables.countTriggers walletAddress
  if limit ≤ count then
    .error ⟨429, s!"Trigger quota exceeded: {count}/{limit} active triggers"⟩
  else .ok ()

/-! ### The arguments -/

/-- `TriggerTemplate`, the columns that a registration reads. -/
structure TriggerTemplate where
  name : String
  slug : String
  eventSignature : String
  abi : List Dict := []
  defaultChains : List ℤ := []
  defaultFilters : List TriggerFilter := []
  webhookEventType : String
  reputationThreshold : ℚ := 0

/-- The column `abi` of a trigger from the template. -/
def TriggerTemplate.abiValue (template : TriggerTemplate) : Value :=
  .list (template.abi.map .dict)

/-- `[f.model_dump() for f in template.default_filters]`. -/
def TriggerTemplate.filterRules (template : TriggerTemplate) : Value :=
  .list (template.defaultFilters.map fun f =>
    .dict [("field", .str f.field), ("op", .str f.op), ("value", f.value)])

/-- An entry of `custom_triggers`; nothing checks it. -/
structure CustomTrigger where
  name : Option String := none
  /-- `ct["event_signature"]`, which raises when it is missing. -/
  eventSignature : Option String
  abi : Value := .list []
  contractAddress : Option String := none
  chainIds : Option Value := none
  filterRules : Value := .list []
  webhookEventType : String := "payment.confirmed"
  reputationThreshold : ℚ := 0

/-- What a trigger is made from. -/
inductive TriggerSource where
  | template (slug : String)
  | custom (ct : CustomTrigger)

/-- The arguments of `register_middleware`. -/
structure MiddlewareParams where
  /-- Those of `_create_endpoint_core`; `none` when `url` is missing, which raises. -/
  core : Option CreateEndpointParams
  templateSlugs : List String := []
  customTriggers : List CustomTrigger := []

/-- The templates come first. -/
def MiddlewareParams.sources (params : MiddlewareParams) : List TriggerSource :=
  params.templateSlugs.map .template ++ params.customTriggers.map .custom

/-- What the outside world answers while one trigger is created. -/
structure TriggerEnv where
  /-- `nanoid(size=21)`. -/
  triggerId : String
  countRaises : Bool := false
  templateRaises : Bool := false
  /-- The insert raises, and no row is written. -/
  insertRaises : Bool := false
  /-- The row is written, and `Trigger(**row)` raises. -/
  resultRaises : Bool := false

/-- What the outside world answers to a call of `register_middleware`. -/
structure MiddlewareEnv where
  core : RegistrationEnv
  /-- The text of the `ValueError` of `validate_endpoint_url`. -/
  urlError : String := ""
  /-- `secrets.token_hex(32)`. -/
  webhookSecret : String := ""
  /-- The `trigger_templates` table. -/
  templates : List TriggerTemplate := []
  /-- The answers to the `n`-th trigger. -/
  trigger : ℕ → TriggerEnv
  /-- The deletion of the orphan endpoint raises. -/
  cleanupRaises : Bool := false

/-- The settings that a registration reads. -/
structure RegistryLimits where
  endpoints : ℕ := 20
  triggers : ℕ := 50

/-- An exception inside the loop over the triggers. -/
inductive LoopError where
  | http (exception : HttpException)
  | other
  deriving DecidableEq

/-! ### The function -/

section Register

variable (keccak256 : List UInt8 → List UInt8) (limits : RegistryLimits) (env : MiddlewareEnv)
  (provider : Bool) (agent : EthAddress)

/-- The row of a trigger; `none` for a template that does not exist. -/
def TriggerSource.row (chains : Value) (triggerEnv : TriggerEnv) :
    TriggerSource → Except LoopError (Option RegisteredTrigger)
  | .template slug =>
    if triggerEnv.templateRaises then .error .other
    else
      match env.templates.find? fun t => t.slug = slug with
      | none => .ok none
      | some t =>
        .ok (some
          { id := triggerEnv.triggerId
            endpointId := env.core.endpointId
            abi := t.abiValue
            filterRules := t.filterRules
            reputationThreshold := t.reputationThreshold
            eventSignature := t.eventSignature
            topic0 := some (computeTopic0 keccak256 t.eventSignature)
            contractAddress := none
            -- `chains or template.default_chains`
            chainIds := if chains.truth then chains else .ofInts t.defaultChains
            ownerAddress := lower agent.val
            name := some t.name
            webhookEventType := t.webhookEventType })
  | .custom ct =>
    match ct.eventSignature with
    | none => .error .other
    | some eventSignature =>
      .ok (some
        { id := triggerEnv.triggerId
          endpointId := env.core.endpointId
          abi := ct.abi
          filterRules := ct.filterRules
          reputationThreshold := ct.reputationThreshold
          eventSignature := eventSignature
          topic0 := some (computeTopic0 keccak256 eventSignature)
          contractAddress := ct.contractAddress
          chainIds := ct.chainIds.getD chains
          ownerAddress := lower agent.val
          name := ct.name
          webhookEventType := ct.webhookEventType })

/-- One turn of the loops: the quota, the row and its insert. -/
def createTrigger (chains : Value) (triggerEnv : TriggerEnv) (source : TriggerSource)
    (tables : RegistryTables) : RegistryTables × Except LoopError (Option String) :=
  if triggerEnv.countRaises then (tables, .error .other)
  else
    match checkTriggerQuota limits.triggers tables agent with
    | .error e => (tables, .error (.http e))
    | .ok _ =>
      match source.row keccak256 env agent chains triggerEnv with
      | .error e => (tables, .error e)
      | .ok none => (tables, .ok none)
      | .ok (some row) =>
        if triggerEnv.insertRaises then (tables, .error .other)
        else
          match tables.insertTrigger? row with
          | none => (tables, .error .other)
          | some tables' =>
            if triggerEnv.resultRaises then (tables', .error .other)
            else (tables', .ok (some triggerEnv.triggerId))

/-- The two loops, from the `n`-th trigger on. -/
def createTriggers (chains : Value) :
    List TriggerSource → ℕ → RegistryTables → RegistryTables × Except LoopError (List String)
  | [], _, tables => (tables, .ok [])
  | source :: sources, n, tables =>
    match createTrigger keccak256 limits env agent chains (env.trigger n) source tables with
    | (tables', .error e) => (tables', .error e)
    | (tables', .ok id?) =>
      match createTriggers chains sources (n + 1) tables' with
      | (tables'', .error e) => (tables'', .error e)
      | (tables'', .ok ids) => (tables'', .ok (id?.toList ++ ids))

end Register

/-- `_create_endpoint_core` leaves every endpoint in its place. -/
theorem get?_createEndpointCore (limit : ℕ) (env : RegistrationEnv) (agent : EthAddress)
    (provider : Bool) (params : CreateEndpointParams) (table : EndpointTable) (id : EndpointId)
    (h : table.get? id ≠ none) :
    (createEndpointCore limit env agent provider params table).1.get? id ≠ none := by
  obtain ⟨policies, hadds⟩ := createEndpointCore_adds limit env agent provider params table
  rcases hadds with hsame | ⟨-, -, row, -, hrows⟩
  · rw [hsame]
    exact h
  · obtain ⟨r, hr⟩ := Option.ne_none_iff_exists'.mp h
    obtain ⟨hmem, hid⟩ := KeyedTable.get?_eq_some_iff.mp hr
    have hget := KeyedTable.get?_eq_some_iff.mpr
      ⟨hrows ▸ List.mem_append_left [row] hmem, hid⟩
    rw [hget]
    exact Option.some_ne_none r

/-- The message of an error of `_create_endpoint_core`. -/
def endpointErrorText (urlError code : String) : String :=
  if code = "INVALID_URL" then urlError
  else "Webhook provider setup failed. Endpoint was not created."

/-- `EndpointMode.value`. -/
def EndpointMode.value : EndpointMode → String
  | .notify => "notify"
  | .execute => "execute"

section Register

variable (keccak256 : List UInt8 → List UInt8) (limits : RegistryLimits) (env : MiddlewareEnv)
  (provider : Bool) (agent : EthAddress)

/-- `register_middleware` behind `_create_endpoint_core`, with the endpoint created. -/
def registerTriggers (core : CreateEndpointParams) (sources : List TriggerSource)
    (tables : RegistryTables) : RegistryTables × HandlerOutcome :=
  match createTriggers keccak256 limits env agent core.chains sources 0 tables with
  | (tables', .ok ids) =>
    (tables', .returns
      [("endpoint_id", .str env.core.endpointId), ("webhook_secret", .str env.webhookSecret),
        ("trigger_ids", .list (ids.map .str)), ("mode", .str core.mode.value),
        ("url", .str core.url), ("_deprecated", .bool true),
        ("migration_hint", .str "Use register_endpoint + create_trigger separately")])
  -- only an `HTTPException` is cleaned up after
  | (tables', .error (.http _)) =>
    (if env.cleanupRaises then tables' else tables'.deleteEndpoint env.core.endpointId, .raises)
  | (tables', .error .other) => (tables', .raises)

/-- The tables after `_create_endpoint_core`. -/
def RegistryTables.afterCore (core : CreateEndpointParams) (tables : RegistryTables) :
    RegistryTables :=
  tables.withEndpoints
    (createEndpointCore limits.endpoints env.core agent provider core tables.endpoints).1
    (get?_createEndpointCore limits.endpoints env.core agent provider core tables.endpoints)

/-- `register_middleware`. -/
def registerMiddleware (params : MiddlewareParams) (tables : RegistryTables) :
    RegistryTables × HandlerOutcome :=
  match params.core with
  | none => (tables, .raises)
  | some core =>
    let tables' := RegistryTables.afterCore limits env provider agent core tables
    match (createEndpointCore limits.endpoints env.core agent provider core tables.endpoints).2 with
    | .raised _ => (tables', .raises)
    | .error code =>
      (tables', .returns [("error", .str (endpointErrorText env.urlError code)),
        ("code", .str code)])
    | .created _ => registerTriggers keccak256 limits env agent core params.sources tables'

end Register

end TripWire
