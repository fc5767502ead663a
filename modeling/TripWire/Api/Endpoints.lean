import TripWire.Ingestion.Processor

/-!
# Registering and changing endpoints

The writers of the `endpoints` table: the REST routes `register_endpoint`, `update_endpoint` and
`deactivate_endpoint` (`tripwire/api/routes/endpoints.py`), the MCP function `_create_endpoint_core`
(`tripwire/mcp/tools.py`) and `check_endpoint_quota`, which both registrations call first.

A row holds texts and, in `chains`, any JSON value; `Endpoint(**row)` checks them on the way out
(`EndpointRow.validate`).  The two registrations spell addresses differently: REST stores the
recipient of the request and the recovered wallet address as they are, MCP stores both in lower
case, and the readers compare with the lower-case spelling.  REST checks the chains before it stores
them, MCP does not.
-/

namespace TripWire

open Py

/-! ### Rows -/

/-- A row of the `endpoints` table. -/
structure EndpointRow where
  id : EndpointId
  url : String
  mode : EndpointMode
  chains : Value
  recipient : String
  ownerAddress : String
  policies : EndpointPolicies := {}
  active : Bool := true
  convoyProjectId : Option String := none
  convoyEndpointId : Option String := none
  deriving DecidableEq

/-- The `endpoints` table. -/
abbrev EndpointTable := KeyedTable EndpointRow.id

/-- How `pydantic` reads a field of type `list[int]`: a list of integers as it is.  Other values it
converts or refuses. -/
structure ChainReader where
  read : Value → Option (List ℤ)
  read_ofInts : ∀ ns, read (.ofInts ns) = some ns

/-- The reader that converts nothing. -/
def ChainReader.strict : ChainReader where
  read := Value.ints?
  read_ofInts := Value.ints?_ofInts

/-- `Endpoint(**row)` when both addresses are well-formed and the chains can be read. -/
def EndpointRow.validate (reader : ChainReader) (row : EndpointRow) : Option Endpoint := do
  let chains ← reader.read row.chains
  let recipient ← EthAddress.validate row.recipient
  let ownerAddress ← EthAddress.validate row.ownerAddress
  return { row with url := strip row.url, chains, recipient, ownerAddress }

/-- `Endpoint(**row)`, which raises a `ValidationError`, a kind of `ValueError`. -/
def EndpointRow.load (reader : ChainReader) (row : EndpointRow) : Except PyError Endpoint :=
  match row.validate reader with
  | some e => .ok e
  | none => .error .valueError

/-- The active rows whose recipient is stored as the lower-case spelling. -/
def EndpointTable.rowsOfRecipient (table : EndpointTable) (recipient : String) :
    List EndpointRow :=
  table.rows.filter fun row => decide (row.recipient = lower recipient) && row.active

/-- `EndpointRepository.list_by_recipient`.  One row that does not validate makes the call raise. -/
def EndpointTable.listByRecipient (reader : ChainReader) (table : EndpointTable)
    (recipient : String) : Except PyError (List Endpoint) :=
  (table.rowsOfRecipient recipient).mapM (EndpointRow.load reader)

/-! ### The quota -/

/-- An `HTTPException`. -/
structure HttpException where
  statusCode : ℕ
  detail : String
  deriving DecidableEq

/-- The count of `check_endpoint_quota`: the active rows under the lower-case spelling. -/
def EndpointTable.countOwned (table : EndpointTable) (walletAddress : String) : ℕ :=
  (table.rows.filter fun row =>
    decide (row.ownerAddress = lower walletAddress) && row.active).length

/-- `check_endpoint_quota`; `limit` is `settings.max_endpoints_per_wallet`. -/
def checkEndpointQuota (limit : ℕ) (table : EndpointTable) (walletAddress : String) :
    Except HttpException Unit :=
  let count := table.countOwned walletAddress
  if limit ≤ count then
    .error ⟨429, s!"Endpoint quota exceeded: {count}/{limit} active endpoints"⟩
  else .ok ()

/-! ### Registration -/

/-- A call of a registration that leaves the process. -/
inductive RegistrationCall where
  | count
  | insert
  | recordPayment
  | createApp
  | createEndpoint
  | persistIds
  | cleanup
  deriving DecidableEq

/-- The answers of the outside world during a registration. -/
structure RegistrationEnv where
  /-- Whether a call raises. -/
  raises : RegistrationCall → Bool := fun _ => false
  /-- `nanoid(size=21)`. -/
  endpointId : EndpointId
  /-- The ids that the webhook provider gives the application and the endpoint. -/
  convoyProjectId : String := ""
  convoyEndpointId : String := ""

/-- The insert of a row with these chains raises; the column is `JSONB NOT NULL`. -/
def RegistrationEnv.insertRaises (env : RegistrationEnv) (chains : Value) : Bool :=
  env.raises .insert || decide (chains = .none)

@[simp]
theorem RegistrationEnv.insertRaises_ofInts (env : RegistrationEnv) (chains : List ℤ) :
    env.insertRaises (.ofInts chains) = env.raises .insert := by
  rw [insertRaises, decide_eq_false (Value.ofInts_ne_none chains), Bool.or_false]

/-- The provider setup succeeds: the application and the endpoint are created and their ids stored.
-/
def RegistrationEnv.providerReady (env : RegistrationEnv) : Bool :=
  !env.raises .createApp && !env.raises .createEndpoint && !env.raises .persistIds

/-- The row with the ids of the provider. -/
def EndpointRow.wired (env : RegistrationEnv) (row : EndpointRow) : EndpointRow :=
  { row with
    convoyProjectId := some env.convoyProjectId
    convoyEndpointId := some env.convoyEndpointId }

@[simp]
theorem EndpointRow.id_wired (env : RegistrationEnv) (row : EndpointRow) :
    (row.wired env).id = row.id := rfl

/-- `UPDATE endpoints SET convoy_project_id, convoy_endpoint_id WHERE id = ...`. -/
def EndpointTable.persistIds (env : RegistrationEnv) (table : EndpointTable) : EndpointTable :=
  table.updateWhere (fun row => row.id = env.endpointId) (EndpointRow.wired env)
    (EndpointRow.id_wired env)

/-- `DELETE FROM endpoints WHERE id = ...`. -/
def EndpointTable.delete (table : EndpointTable) (id : EndpointId) : EndpointTable :=
  table.deleteWhere fun row => row.id = id

/-- `RegisterEndpointRequest`, after validation. -/
structure RegisterEndpointRequest where
  url : String
  mode : EndpointMode
  chains : {chains : List ℤ // chains ≠ []}
  recipient : EthAddress
  policies : Option EndpointPolicies := none

/-- The row that `register_endpoint` inserts: recipient and owner as they come. -/
def RegisterEndpointRequest.row (env : RegistrationEnv) (wallet : EthAddress)
    (body : RegisterEndpointRequest) : EndpointRow where
  id := env.endpointId
  url := body.url
  mode := body.mode
  chains := .ofInts body.chains
  recipient := body.recipient
  ownerAddress := wallet
  policies := body.policies.getD {}

/-- The end of `register_endpoint`: the webhook provider of an execute endpoint.  A failure takes
the row out again, unless the deletion fails too. -/
def wireEndpoint (env : RegistrationEnv) (mode : EndpointMode) (table : EndpointTable) :
    EndpointTable × Except HttpException EndpointId :=
  if mode = .execute then
    if env.providerReady then (table.persistIds env, .ok env.endpointId)
    else
      (if env.raises .cleanup then table else table.delete env.endpointId,
        .error ⟨502, "Webhook provider setup failed. Endpoint was not created."⟩)
  else (table, .ok env.endpointId)

/-- An exception that no handler of the route catches. -/
def internalError : HttpException := ⟨500, "Internal Server Error"⟩

/-- `register_endpoint` (REST).  `paid` says whether the request carries an x402 payment, whose
details are then stored in the row. -/
def registerEndpoint (limit : ℕ) (env : RegistrationEnv) (wallet : EthAddress) (paid : Bool)
    (body : RegisterEndpointRequest) (table : EndpointTable) :
    EndpointTable × Except HttpException EndpointId :=
  if env.raises .count then (table, .error internalError)
  else
    match checkEndpointQuota limit table wallet with
    | .error e => (table, .error e)
    | .ok _ =>
      if env.raises .insert then (table, .error internalError)
      else
        match table.insert? (body.row env wallet) with
        | none => (table, .error ⟨409, "Endpoint already exists"⟩)
        | some table' =>
          if paid && env.raises .recordPayment then (table', .error internalError)
          else wireEndpoint env body.mode table'

/-- The arguments of `_create_endpoint_core`.  Nothing checks them but `validate_endpoint_url`,
`EndpointPolicies` and the columns: `mode` is one of two texts, or the insert raises. -/
structure CreateEndpointParams where
  /-- `validate_endpoint_url(url)` accepts the url. -/
  urlAccepted : Bool := true
  url : String
  mode : EndpointMode := .execute
  chains : Value := .ofInts [8453]
  recipient : Option String := none
  /-- `EndpointPolicies(**policies)`. -/
  policies : Except PyError EndpointPolicies := .ok {}

/-- `params.get("recipient", ctx.agent_address)`. -/
def CreateEndpointParams.requested (agent : EthAddress) (params : CreateEndpointParams) : String :=
  params.recipient.getD agent

/-- The row that `_create_endpoint_core` inserts: recipient and owner in lower case. -/
def CreateEndpointParams.row (env : RegistrationEnv) (agent : EthAddress)
    (params : CreateEndpointParams) (policies : EndpointPolicies) : EndpointRow where
  id := env.endpointId
  url := params.url
  mode := params.mode
  chains := params.chains
  recipient := lower (params.requested agent)
  ownerAddress := lower agent.val
  policies := policies

/-- What an MCP tool answers with: a result, an error dictionary, or an exception. -/
inductive ToolAnswer where
  | created (endpointId : EndpointId)
  | error (code : String)
  | raised (exception : HttpException)
  deriving DecidableEq

/-- `_create_endpoint_core` (MCP).  `provider` says whether a webhook provider is configured. -/
def createEndpointCore (limit : ℕ) (env : RegistrationEnv) (agent : EthAddress) (provider : Bool)
    (params : CreateEndpointParams) (table : EndpointTable) : EndpointTable × ToolAnswer :=
  if !params.urlAccepted then (table, .error "INVALID_URL")
  else if env.raises .count then (table, .raised internalError)
  else
    match checkEndpointQuota limit table agent, params.policies with
    | .error e, _ => (table, .raised e)
    | .ok _, .error _ => (table, .raised internalError)
    | .ok _, .ok policies =>
      if env.insertRaises params.chains then (table, .raised internalError)
      else
        match table.insert? (params.row env agent policies) with
        | none => (table, .raised internalError)
        | some table' =>
          if decide (params.mode = .execute) && provider then
            if env.providerReady then
              (EndpointTable.persistIds env table', .created env.endpointId)
            else if env.raises .cleanup then (table', .raised internalError)
            else (EndpointTable.delete table' env.endpointId, .error "WEBHOOK_SETUP_FAILED")
          else (table', .created env.endpointId)

/-! ### Changes -/

/-- `_verify_ownership`, which compares the addresses without their case. -/
def verifyOwnership (row : EndpointRow) (wallet : EthAddress) : Except HttpException Unit :=
  if lower row.ownerAddress ≠ lower wallet.val then
    .error ⟨403, "Not authorized to access this endpoint"⟩
  else .ok ()

/-- `UpdateEndpointRequest`, after validation. -/
structure UpdateEndpointRequest where
  url : Option String := none
  mode : Option EndpointMode := none
  chains : Option (List ℤ) := none
  policies : Option EndpointPolicies := none
  active : Option Bool := none
  deriving DecidableEq

/-- The row with the fields that the request names. -/
def EndpointRow.updated (body : UpdateEndpointRequest) (row : EndpointRow) : EndpointRow :=
  { row with
    url := body.url.getD row.url
    mode := body.mode.getD row.mode
    chains := (body.chains.map Value.ofInts).getD row.chains
    policies := body.policies.getD row.policies
    active := body.active.getD row.active }

@[simp]
theorem EndpointRow.id_updated (body : UpdateEndpointRequest) (row : EndpointRow) :
    (row.updated body).id = row.id := rfl

/-- `UPDATE endpoints SET ... WHERE id = ...`. -/
def EndpointTable.update (table : EndpointTable) (id : EndpointId) (body : UpdateEndpointRequest) :
    EndpointTable :=
  table.updateWhere (fun row => row.id = id) (EndpointRow.updated body)
    (EndpointRow.id_updated body)

/-- What both changing routes do first: fetch the row and verify that the wallet owns it. -/
def fetchOwned (wallet : EthAddress) (id : EndpointId) (table : EndpointTable) :
    Except HttpException EndpointRow := do
  match table.get? id with
  | none => .error ⟨404, "Endpoint not found"⟩
  | some row =>
    verifyOwnership row wallet
    return row

/-- `update_endpoint` (PATCH); `raises` says whether the update fails.  No quota is checked. -/
def updateEndpoint (raises : Bool) (wallet : EthAddress) (id : EndpointId)
    (body : UpdateEndpointRequest) (table : EndpointTable) :
    EndpointTable × Except HttpException EndpointId :=
  match fetchOwned wallet id table with
  | .error e => (table, .error e)
  | .ok _ =>
    if body = {} then (table, .error ⟨400, "No fields to update"⟩)
    else if raises then (table, .error internalError)
    else (table.update id body, .ok id)

/-- `deactivate_endpoint` (DELETE), which keeps the row. -/
def deactivateEndpoint (raises : Bool) (wallet : EthAddress) (id : EndpointId)
    (table : EndpointTable) : EndpointTable × Except HttpException Unit :=
  match fetchOwned wallet id table with
  | .error e => (table, .error e)
  | .ok _ =>
    if raises then (table, .error internalError)
    else (table.update id { active := some false }, .ok ())

/-! ### What a registration does to the table -/

/-- A registration that would insert `base` for `wallet` leaves the table alone, or passes the quota
check and adds the row, possibly with the ids of the provider. -/
def Adds (limit : ℕ) (env : RegistrationEnv) (wallet : String) (base : EndpointRow)
    (table table' : EndpointTable) : Prop :=
  table' = table ∨
    table.countOwned wallet < limit ∧ table.get? base.id = none ∧
      ∃ row, (row = base ∨ row = base.wired env) ∧ table'.rows = table.rows ++ [row]

theorem checkEndpointQuota_eq_ok {limit : ℕ} {table : EndpointTable} {wallet : String} {u : Unit}
    (h : checkEndpointQuota limit table wallet = .ok u) : table.countOwned wallet < limit := by
  unfold checkEndpointQuota at h
  by_cases hlimit : limit ≤ table.countOwned wallet
  · simp [hlimit] at h
  · omega

/-- The row stays as inserted. -/
theorem Adds.insert {limit : ℕ} {env : RegistrationEnv} {wallet : String} {base : EndpointRow}
    {table table' : EndpointTable} (hquota : table.countOwned wallet < limit)
    (hins : table.insert? base = some table') : Adds limit env wallet base table table' :=
  .inr ⟨hquota, KeyedTable.get?_key_of_insert? hins, base, .inl rfl,
    KeyedTable.rows_of_insert? hins⟩

/-- The provider is set up. -/
theorem Adds.persistIds {limit : ℕ} {env : RegistrationEnv} {wallet : String} {base : EndpointRow}
    {table table' : EndpointTable} (hquota : table.countOwned wallet < limit)
    (hid : base.id = env.endpointId) (hins : table.insert? base = some table') :
    Adds limit env wallet base table (EndpointTable.persistIds env table') := by
  have hrows := KeyedTable.rows_updateWhere_insert? hins (EndpointRow.id_wired env)
  rw [hid] at hrows
  exact .inr ⟨hquota, KeyedTable.get?_key_of_insert? hins, base.wired env, .inr rfl, hrows⟩

/-- The provider is not set up, and the row is taken out again. -/
theorem Adds.delete {limit : ℕ} {env : RegistrationEnv} {wallet : String} {base : EndpointRow}
    {table table' : EndpointTable} (hid : base.id = env.endpointId)
    (hins : table.insert? base = some table') :
    Adds limit env wallet base table (EndpointTable.delete table' env.endpointId) := by
  have hdel := KeyedTable.deleteWhere_insert? hins
  rw [hid] at hdel
  exact .inl hdel

theorem registerEndpoint_adds (limit : ℕ) (env : RegistrationEnv) (wallet : EthAddress)
    (paid : Bool)
    (body : RegisterEndpointRequest) (table : EndpointTable) :
    Adds limit env wallet (body.row env wallet) table
      (registerEndpoint limit env wallet paid body table).1 := by
  unfold registerEndpoint
  split
  · exact .inl rfl
  split
  · exact .inl rfl
  rename_i u hquota
  have hlt := checkEndpointQuota_eq_ok hquota
  split
  · exact .inl rfl
  split
  · exact .inl rfl
  rename_i table' hins
  split
  · exact .insert hlt hins
  unfold wireEndpoint
  split_ifs
  · exact .persistIds hlt rfl hins
  · exact .insert hlt hins
  · exact .delete rfl hins
  · exact .insert hlt hins

theorem createEndpointCore_adds (limit : ℕ) (env : RegistrationEnv) (agent : EthAddress)
    (provider : Bool) (params : CreateEndpointParams) (table : EndpointTable) :
    ∃ policies, Adds limit env agent (params.row env agent policies) table
      (createEndpointCore limit env agent provider params table).1 := by
  unfold createEndpointCore
  split
  · exact ⟨{}, .inl rfl⟩
  split
  · exact ⟨{}, .inl rfl⟩
  split
  · exact ⟨{}, .inl rfl⟩
  · exact ⟨{}, .inl rfl⟩
  rename_i u policies hquota hpolicies
  have hlt := checkEndpointQuota_eq_ok hquota
  refine ⟨policies, ?_⟩
  split
  · exact .inl rfl
  split
  · exact .inl rfl
  rename_i table' hins
  split_ifs
  · exact .persistIds hlt rfl hins
  · exact .insert hlt hins
  · exact .delete rfl hins
  · exact .insert hlt hins

/-- The chains of an endpoint that listens on Base alone. -/
def Sample.onBase : {chains : List ℤ // chains ≠ []} := ⟨[8453], by decide⟩

end TripWire
