import TripWire.Mcp.Tools

/-!
# The trigger tools

`create_trigger`, `delete_trigger` and `activate_template` (`tripwire/mcp/tools.py`) over the
`endpoints` and `triggers` tables.  The two that create a trigger check the quota first, then that
the endpoint exists and belongs to the calling agent, and insert one active row under the lower-case
spelling of the agent's address; `delete_trigger` checks the owner of the trigger itself and sets
`active` to false.  No tool sets it back.

What is read from the database goes through `Endpoint(**row)` and `Trigger(**row)` first, which
strip the texts.
-/

namespace TripWire

open Py

/-! ### Answers -/

/-- `{"error": ..., "code": ...}`. -/
def toolError (text code : String) : HandlerOutcome :=
  .returns [("error", .str text), ("code", .str code)]

/-- What the outside world answers to a trigger tool. -/
structure TriggerToolEnv extends TriggerEnv where
  /-- The read of the endpoint or of the trigger raises. -/
  readRaises : Bool := false
  /-- The update of `delete_trigger` raises, and nothing is written. -/
  updateRaises : Bool := false
  /-- The `trigger_templates` table. -/
  templates : List TriggerTemplate := []
  reader : ChainReader := .strict

/-- `endpoint_repo.get_by_id` and the check of the owner. -/
def fetchAgentEndpoint (env : TriggerToolEnv) (agent : EthAddress) (id : EndpointId)
    (table : EndpointTable) : Except HandlerOutcome Endpoint :=
  if env.readRaises then .error .raises
  else
    match table.get? id with
    | none => .error (toolError "Endpoint not found" "NOT_FOUND")
    | some row =>
      match row.load env.reader with
      | .error _ => .error .raises
      | .ok endpoint =>
        if lower endpoint.ownerAddress.val ≠ lower agent.val then
          .error (toolError "Not authorized" "FORBIDDEN")
        else .ok endpoint

/-! ### Creating a trigger -/

section Create

variable (keccak256 : List UInt8 → List UInt8) (limit : ℕ) (env : TriggerToolEnv)
  (agent : EthAddress)

/-- `trigger_repo.create`, and the answer that `result` makes of the stored row. -/
def insertTrigger (row : RegisteredTrigger) (result : Dict) (tables : RegistryTables) :
    RegistryTables × HandlerOutcome :=
  if env.insertRaises then (tables, .raises)
  else
    match tables.insertTrigger? row with
    | none => (tables, .raises)
    | some tables' => (tables', if env.resultRaises then .raises else .returns result)

/-- The quota check before a trigger is created. -/
def passesTriggerQuota (tables : RegistryTables) : Bool :=
  !env.countRaises && (checkTriggerQuota limit tables agent).isOk

/-- The arguments of `create_trigger`. -/
structure CreateTriggerParams extends CustomTrigger where
  /-- `params["endpoint_id"]`, which raises when it is missing. -/
  endpointId : Option EndpointId

/-- The row that `create_trigger` inserts. -/
def CreateTriggerParams.row (params : CreateTriggerParams) (endpointId : EndpointId)
    (eventSignature : String) (endpoint : Endpoint) : RegisteredTrigger where
  id := env.triggerId
  endpointId := endpointId
  abi := params.abi
  filterRules := params.filterRules
  reputationThreshold := params.reputationThreshold
  eventSignature := eventSignature
  topic0 := some (computeTopic0 keccak256 eventSignature)
  contractAddress := params.contractAddress
  chainIds := params.chainIds.getD (.ofInts endpoint.chains)
  ownerAddress := lower agent.val
  name := params.name
  webhookEventType := params.webhookEventType

/-- `create_trigger`. -/
def createTriggerTool (params : CreateTriggerParams) (tables : RegistryTables) :
    RegistryTables × HandlerOutcome :=
  if !passesTriggerQuota limit env agent tables then (tables, .raises)
  else
    match params.endpointId with
    | none => (tables, .raises)
    | some endpointId =>
      match fetchAgentEndpoint env agent endpointId tables.endpoints with
      | .error outcome => (tables, outcome)
      | .ok endpoint =>
        match params.eventSignature with
        | none => (tables, .raises)
        | some eventSignature =>
          insertTrigger env (params.row keccak256 env agent endpointId eventSignature endpoint)
            [("trigger_id", .str (strip env.triggerId)), ("endpoint_id", .str endpointId),
              ("event_signature", .str (strip eventSignature)), ("active", .bool true)] tables

/-- The arguments of `activate_template`. -/
structure ActivateTemplateParams where
  /-- `params["slug"]` and `params["endpoint_id"]`, which raise when they are missing. -/
  slug : Option String
  endpointId : Option EndpointId
  /-- The entries of `params["params"]` that are read. -/
  filterRules : Option Value := none
  chainIds : Option Value := none
  contractAddress : Option String := none

/-- The row that `activate_template` inserts. -/
def ActivateTemplateParams.row (params : ActivateTemplateParams) (endpointId : EndpointId)
    (template : TriggerTemplate) : RegisteredTrigger where
  id := env.triggerId
  endpointId := endpointId
  abi := template.abiValue
  filterRules := params.filterRules.getD template.filterRules
  reputationThreshold := template.reputationThreshold
  eventSignature := template.eventSignature
  topic0 := some (computeTopic0 keccak256 template.eventSignature)
  contractAddress := params.contractAddress
  chainIds := params.chainIds.getD (.ofInts template.defaultChains)
  ownerAddress := lower agent.val
  name := some s!"{template.name} (from template)"
  webhookEventType := template.webhookEventType

/-- `activate_template`.  The template is looked up before the endpoint. -/
def activateTemplate (params : ActivateTemplateParams) (tables : RegistryTables) :
    RegistryTables × HandlerOutcome :=
  if !passesTriggerQuota limit env agent tables then (tables, .raises)
  else
    match params.slug, params.endpointId with
    | some slug, some endpointId =>
      if env.templateRaises then (tables, .raises)
      else
        match env.templates.find? fun t => t.slug = slug with
        | none => (tables, toolError "Template not found" "NOT_FOUND")
        | some template =>
          match fetchAgentEndpoint env agent endpointId tables.endpoints with
          | .error outcome => (tables, outcome)
          | .ok _ =>
            insertTrigger env (params.row keccak256 env agent endpointId template)
              [("trigger_id", .str (strip env.triggerId)), ("template_slug", .str slug),
                ("endpoint_id", .str endpointId),
                ("event_signature", .str (strip template.eventSignature)), ("active", .bool true)]
              tables
    | _, _ => (tables, .raises)

end Create

/-! ### Deleting a trigger -/

/-- `{"active": False}`. -/
def RegisteredTrigger.deactivated (t : RegisteredTrigger) : RegisteredTrigger :=
  { t with active := false }

@[simp]
theorem RegisteredTrigger.rowId_deactivated (t : RegisteredTrigger) :
    t.deactivated.rowId = t.rowId := rfl

/-- `UPDATE triggers SET active = FALSE WHERE id = ...`. -/
def RegistryTables.deactivateTrigger (tables : RegistryTables) (id : String) : RegistryTables where
  endpoints := tables.endpoints
  triggers := tables.triggers.updateWhere (fun t => t.rowId = id) RegisteredTrigger.deactivated
    RegisteredTrigger.rowId_deactivated
  references := by
    intro t ht
    rw [KeyedTable.rows_updateWhere, List.mem_map] at ht
    obtain ⟨t', ht', rfl⟩ := ht
    have href := tables.references t' ht'
    split_ifs
    · exact href
    · exact href

/-- `delete_trigger`; `triggerId` is `params["trigger_id"]`.  `Trigger(**row)` strips the owner. -/
def deleteTrigger (env : TriggerToolEnv) (agent : EthAddress) (triggerId : Option String)
    (tables : RegistryTables) : RegistryTables × HandlerOutcome :=
  match triggerId with
  | none => (tables, .raises)
  | some id =>
    if env.readRaises then (tables, .raises)
    else
      match tables.triggers.get? id with
      | none => (tables, toolError "Trigger not found" "NOT_FOUND")
      | some t =>
        if lower (strip t.ownerAddress) ≠ lower agent.val then
          (tables, toolError "Not authorized" "FORBIDDEN")
        else if env.updateRaises then (tables, .raises)
        else
          (tables.deactivateTrigger id,
            if env.resultRaises then .raises
            else .returns [("trigger_id", .str id), ("active", .bool false)])

end TripWire
