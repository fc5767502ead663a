import Mathlib
import TripWire.Mcp.Tools

/-!
# What an unpaid registration leaves behind

A paid tool runs before its payment is settled.  When the settlement fails or the handler raises,
the executor withholds the result; what `register_middleware` has written until then is another
matter.  `registration_undone_iff` says exactly when the tables are as before: when the insert of
the endpoint was not reached, when `_create_endpoint_core` took its row out again, or when it was a
quota that stopped the loop over the triggers and the endpoint could be deleted.  In particular a
failed settlement always leaves the endpoint and its triggers active.
-/

namespace TripWire

open Py

section Undo

variable (keccak256 : List UInt8 → List UInt8) (limits : RegistryLimits) (env : MiddlewareEnv)
  (provider : Bool) (agent : EthAddress)

/-! ### The endpoint -/

/-- `_create_endpoint_core` comes as far as inserting its row. -/
def insertsEndpoint (core : CreateEndpointParams) (table : EndpointTable) : Bool :=
  core.urlAccepted && !env.core.raises .count &&
    decide (table.countOwned agent < limits.endpoints) && core.policies.toOption.isSome &&
    !env.core.insertRaises core.chains && (table.get? env.core.endpointId).isNone

/-- The webhook provider has to be set up, and that fails. -/
def setupFails (core : CreateEndpointParams) : Bool :=
  decide (core.mode = .execute) && provider && !env.core.providerReady

/-- Without the insert `_create_endpoint_core` changes nothing and creates nothing. -/
theorem createEndpointCore_of_not_inserts {core : CreateEndpointParams} {table : EndpointTable}
    (h : insertsEndpoint limits env agent core table = false) :
    (createEndpointCore limits.endpoints env.core agent provider core table).1 = table ∧
      ∀ id, (createEndpointCore limits.endpoints env.core agent provider core table).2 ≠
        .created id := by
  unfold insertsEndpoint at h
  unfold createEndpointCore
  split
  · exact ⟨rfl, fun id hid => by cases hid⟩
  rename_i hurl
  split
  · exact ⟨rfl, fun id hid => by cases hid⟩
  rename_i hcount
  split
  · exact ⟨rfl, fun id hid => by cases hid⟩
  · exact ⟨rfl, fun id hid => by cases hid⟩
  rename_i u policies hquota hpolicies
  split
  · exact ⟨rfl, fun id hid => by cases hid⟩
  rename_i hinsert
  split
  · exact ⟨rfl, fun id hid => by cases hid⟩
  · -- all of the checks have passed
    rename_i table' hins
    have hfree : table.get? env.core.endpointId = none := KeyedTable.get?_key_of_insert? hins
    have hlt := checkEndpointQuota_eq_ok hquota
    simp [hcount, hinsert, hpolicies, hfree, hlt, Except.toOption] at h
    simp [h] at hurl

/-- With the insert the row stays, unless the provider fails and the row is deleted. -/
theorem createEndpointCore_of_inserts {core : CreateEndpointParams} {table : EndpointTable}
    (h : insertsEndpoint limits env agent core table = true) :
    table.get? env.core.endpointId = none ∧
    if setupFails env provider core then
      if env.core.raises .cleanup then
        (∃ row, (createEndpointCore limits.endpoints env.core agent provider core table).1.rows =
          table.rows ++ [row]) ∧
        ∃ e, (createEndpointCore limits.endpoints env.core agent provider core table).2 = .raised e
      else
        (createEndpointCore limits.endpoints env.core agent provider core table).1 = table ∧
        ∃ code, (createEndpointCore limits.endpoints env.core agent provider core table).2 =
          .error code
    else
      (∃ row, row.id = env.core.endpointId ∧
        (createEndpointCore limits.endpoints env.core agent provider core table).1.rows =
          table.rows ++ [row]) ∧
      ∃ id, (createEndpointCore limits.endpoints env.core agent provider core table).2 =
        .created id := by
  unfold insertsEndpoint at h
  simp only [Bool.and_eq_true, Bool.not_eq_true', decide_eq_true_eq, Option.isNone_iff_eq_none] at h
  obtain ⟨⟨⟨⟨⟨hurl, hcount⟩, hlt⟩, hpolicies⟩, hinsert⟩, hfree⟩ := h
  refine ⟨hfree, ?_⟩
  have hquota : checkEndpointQuota limits.endpoints table agent = .ok () := by
    unfold checkEndpointQuota
    rw [if_neg (not_le.mpr hlt)]
  cases hp : core.policies with
  | error e => simp [hp, Except.toOption] at hpolicies
  | ok policies =>
    cases hins : table.insert? (core.row env.core agent policies) with
    | none => exact absurd hfree (KeyedTable.insert?_eq_none_iff.mp hins)
    | some table' =>
      have hrows := KeyedTable.rows_of_insert? hins
      unfold createEndpointCore setupFails
      simp only [hurl, hcount, hquota, hp, hinsert, hins, Bool.not_true, Bool.false_eq_true,
        if_false]
      cases hwired : decide (core.mode = .execute) && provider with
      | false => exact ⟨⟨_, rfl, hrows⟩, _, rfl⟩
      | true =>
        cases hready : env.core.providerReady with
        | true =>
          refine ⟨⟨(core.row env.core agent policies).wired env.core, rfl, ?_⟩, _, rfl⟩
          exact KeyedTable.rows_updateWhere_insert? hins (EndpointRow.id_wired env.core)
        | false =>
          cases hcleanup : env.core.raises .cleanup with
          | true => exact ⟨⟨_, hrows⟩, _, rfl⟩
          | false => exact ⟨KeyedTable.deleteWhere_insert? hins, _, rfl⟩

/-! ### The triggers -/

/-- The tables differ from `tables` by triggers of the new endpoint, at the end of the table. -/
def AddsTriggers (tables tables' : RegistryTables) : Prop :=
  tables'.endpoints = tables.endpoints ∧
    ∃ new, tables'.triggers.rows = tables.triggers.rows ++ new ∧
      ∀ t ∈ new, t.endpointId = env.core.endpointId

theorem AddsTriggers.refl (tables : RegistryTables) : AddsTriggers env tables tables :=
  ⟨rfl, [], (List.append_nil _).symm, fun t ht => by cases ht⟩

variable {env} in
theorem AddsTriggers.trans {tables tables' tables'' : RegistryTables}
    (h : AddsTriggers env tables tables') (h' : AddsTriggers env tables' tables'') :
    AddsTriggers env tables tables'' := by
  obtain ⟨hendpoints, new, hrows, hnew⟩ := h
  obtain ⟨hendpoints', new', hrows', hnew'⟩ := h'
  refine ⟨hendpoints'.trans hendpoints, new ++ new', ?_, ?_⟩
  · rw [hrows', hrows, List.append_assoc]
  · intro t ht
    rcases List.mem_append.mp ht with ht | ht
    · exact hnew t ht
    · exact hnew' t ht

/-- The row of a trigger belongs to the new endpoint. -/
theorem endpointId_of_row {source : TriggerSource} {chains : Value} {triggerEnv : TriggerEnv}
    {row : RegisteredTrigger}
    (h : source.row keccak256 env agent chains triggerEnv = .ok (some row)) :
    row.endpointId = env.core.endpointId := by
  unfold TriggerSource.row at h
  split at h
  · split at h
    · cases h
    split at h
    · cases h
    · obtain rfl := Option.some.inj (Except.ok.inj h)
      rfl
  · split at h
    · cases h
    · obtain rfl := Option.some.inj (Except.ok.inj h)
      rfl

/-- An insert adds one trigger. -/
theorem addsTriggers_insertTrigger? {tables tables' : RegistryTables} {row : RegisteredTrigger}
    (hrow : row.endpointId = env.core.endpointId) (h : tables.insertTrigger? row = some tables') :
    AddsTriggers env tables tables' := by
  unfold RegistryTables.insertTrigger? at h
  split_ifs at h
  split at h
  · cases h
  · rename_i triggers hins
    obtain rfl := Option.some.inj h
    refine ⟨rfl, [row], KeyedTable.rows_of_insert? hins, ?_⟩
    intro t ht
    rw [List.mem_singleton] at ht
    rw [ht]
    exact hrow

/-- One turn of the loops adds at most one trigger. -/
theorem addsTriggers_createTrigger (chains : Value) (triggerEnv : TriggerEnv)
    (source : TriggerSource) (tables : RegistryTables) :
    AddsTriggers env tables
      (createTrigger keccak256 limits env agent chains triggerEnv source tables).1 := by
  unfold createTrigger
  split
  · exact .refl env tables
  split
  · exact .refl env tables
  split
  · exact .refl env tables
  · exact .refl env tables
  rename_i row hrow
  split
  · exact .refl env tables
  split
  · exact .refl env tables
  rename_i tables' hins
  split
  · exact addsTriggers_insertTrigger? env (endpointId_of_row keccak256 env agent hrow) hins
  · exact addsTriggers_insertTrigger? env (endpointId_of_row keccak256 env agent hrow) hins

/-- **The loops only add triggers of the new endpoint**, however they end. -/
theorem addsTriggers_createTriggers (chains : Value) (sources : List TriggerSource) (n : ℕ)
    (tables : RegistryTables) :
    AddsTriggers env tables
      (createTriggers keccak256 limits env agent chains sources n tables).1 := by
  induction sources generalizing n tables with
  | nil => exact .refl env tables
  | cons source sources ih =>
    have hturn :=
      addsTriggers_createTrigger keccak256 limits env agent chains (env.trigger n) source
      tables
    unfold createTriggers
    cases hcreate :
      createTrigger keccak256 limits env agent chains (env.trigger n) source tables with
    | mk tables' answer =>
      rw [hcreate] at hturn
      cases answer with
      | error e => exact hturn
      | ok id? =>
        have hrest := ih (n + 1) tables'
        cases hloop : createTriggers keccak256 limits env agent chains sources (n + 1) tables' with
        | mk tables'' answer' =>
          rw [hloop] at hrest
          cases answer' with
          | error e => simpa only [hloop] using hturn.trans hrest
          | ok ids => simpa only [hloop] using hturn.trans hrest

/-- Deleting the new endpoint takes out everything that was added to the tables. -/
theorem deleteEndpoint_of_adds {tables tables' : RegistryTables} {row : EndpointRow}
    (hfree : tables.endpoints.get? env.core.endpointId = none) (hid : row.id = env.core.endpointId)
    (hrows : tables'.endpoints.rows = tables.endpoints.rows ++ [row])
    (htriggers : ∃ new, tables'.triggers.rows = tables.triggers.rows ++ new ∧
      ∀ t ∈ new, t.endpointId = env.core.endpointId) :
    tables'.deleteEndpoint env.core.endpointId = tables := by
  have hothers := KeyedTable.get?_eq_none_iff.mp hfree
  ext1
  · apply KeyedTable.ext
    show tables'.endpoints.rows.filter _ = tables.endpoints.rows
    rw [hrows, List.filter_append]
    have hkeep : tables.endpoints.rows.filter (fun r => !decide (r.id = env.core.endpointId)) =
        tables.endpoints.rows := by
      rw [List.filter_eq_self]
      intro r hr
      simp [hothers r hr]
    rw [hkeep]
    simp [hid]
  · obtain ⟨new, hnewrows, hnew⟩ := htriggers
    apply KeyedTable.ext
    show tables'.triggers.rows.filter _ = tables.triggers.rows
    rw [hnewrows, List.filter_append]
    have hkeep : tables.triggers.rows.filter
        (fun t => !decide (t.endpointId = env.core.endpointId)) = tables.triggers.rows := by
      rw [List.filter_eq_self]
      intro t ht
      -- the foreign key: no trigger belonged to the endpoint before it was there
      have hne : t.endpointId ≠ env.core.endpointId := by
        intro heq
        have href := tables.references t ht
        rw [heq] at href
        exact href hfree
      simp [hne]
    have hdrop : new.filter (fun t => !decide (t.endpointId = env.core.endpointId)) = [] := by
      rw [List.filter_eq_nil_iff]
      intro t ht
      simp [hnew t ht]
    rw [hkeep, hdrop, List.append_nil]

/-! ### The whole call -/

/-- What the inputs must be for `register_middleware` to leave nothing behind: its endpoint is not
inserted, or the provider fails and the row can be deleted, or a quota stops the loop over the
triggers and the endpoint can be deleted. -/
def Undone (params : MiddlewareParams) (tables : RegistryTables) : Prop :=
  ∀ core, params.core = some core →
    insertsEndpoint limits env agent core tables.endpoints = true →
    if setupFails env provider core then env.core.raises .cleanup = false
    else env.cleanupRaises = false ∧
      ∃ e, (createTriggers keccak256 limits env agent core.chains params.sources 0
        (RegistryTables.afterCore limits env provider agent core tables)).2 = .error (.http e)

/-- More endpoints than before are not the same tables. -/
theorem ne_of_rows_append {tables tables' : RegistryTables} {row : EndpointRow}
    (h : tables'.endpoints.rows = tables.endpoints.rows ++ [row]) : tables' ≠ tables := by
  intro heq
  rw [heq] at h
  simpa using congrArg List.length h

/-- Where the loop over the triggers has started, only the cleanup restores the tables. -/
theorem registerTriggers_restores_iff {core : CreateEndpointParams} {sources : List TriggerSource}
    {tables created : RegistryTables} {row : EndpointRow}
    (hfree : tables.endpoints.get? env.core.endpointId = none) (hid : row.id = env.core.endpointId)
    (hrows : created.endpoints.rows = tables.endpoints.rows ++ [row])
    (hsame : created.triggers = tables.triggers) :
    (registerTriggers keccak256 limits env agent core sources created).1 = tables ↔
      env.cleanupRaises = false ∧
        ∃ e, (createTriggers keccak256 limits env agent core.chains sources 0 created).2 =
          .error (.http e) := by
  have hadds := addsTriggers_createTriggers keccak256 limits env agent core.chains sources 0 created
  unfold registerTriggers
  cases hloop : createTriggers keccak256 limits env agent core.chains sources 0 created with
  | mk tables' answer =>
    rw [hloop] at hadds
    obtain ⟨hendpoints, hnew⟩ := hadds
    have hrows' : tables'.endpoints.rows = tables.endpoints.rows ++ [row] := by
      rw [hendpoints, hrows]
    have hne : tables' ≠ tables := ne_of_rows_append hrows'
    cases answer with
    | ok ids => simp [hne]
    | error e =>
      cases e with
      | other => simp [hne]
      | http e =>
        cases hcleanup : env.cleanupRaises with
        | true => simp [hne]
        | false =>
          rw [hsame] at hnew
          simp [deleteEndpoint_of_adds env hfree hid hrows' hnew]

/-- **When `register_middleware` leaves nothing behind.** -/
theorem registerMiddleware_restores_iff (params : MiddlewareParams) (tables : RegistryTables) :
    (registerMiddleware keccak256 limits env provider agent params tables).1 = tables ↔
      Undone keccak256 limits env provider agent params tables := by
  unfold registerMiddleware Undone
  cases hcore : params.core with
  | none => simp
  | some core =>
    simp only [Option.some.injEq, forall_eq']
    cases hinserts : insertsEndpoint limits env agent core tables.endpoints with
    | false =>
      obtain ⟨hsame, hnot⟩ := createEndpointCore_of_not_inserts limits env provider agent hinserts
      have htables : RegistryTables.afterCore limits env provider agent core tables = tables :=
        RegistryTables.ext hsame rfl
      simp only [Bool.false_eq_true, false_implies, iff_true]
      split
      · exact htables
      · exact htables
      · rename_i id hcreated
        exact absurd hcreated (hnot id)
    | true =>
      obtain ⟨hfree, hcases⟩ := createEndpointCore_of_inserts limits env provider agent hinserts
      simp only [forall_const]
      cases hsetup : setupFails env provider core with
      | true =>
        rw [hsetup] at hcases
        simp only [if_true] at hcases ⊢
        cases hcleanup : env.core.raises .cleanup with
        | true =>
          rw [hcleanup] at hcases
          simp only [if_true] at hcases
          obtain ⟨⟨row, hrows⟩, e, hraised⟩ := hcases
          simp only [hraised, Bool.true_eq_false, iff_false]
          exact ne_of_rows_append hrows
        | false =>
          rw [hcleanup] at hcases
          simp only [Bool.false_eq_true, if_false] at hcases
          obtain ⟨hsame, code, herror⟩ := hcases
          simp only [herror, iff_true]
          exact RegistryTables.ext hsame rfl
      | false =>
        rw [hsetup] at hcases
        simp only [Bool.false_eq_true, if_false] at hcases ⊢
        obtain ⟨⟨row, hid, hrows⟩, id, hcreated⟩ := hcases
        simp only [hcreated]
        exact registerTriggers_restores_iff keccak256 limits env agent hfree hid hrows rfl

/-- The handler of the tool.  The payer of an x402 payment is an address. -/
def middlewareHandler (params : MiddlewareParams) (ctx : MCPAuthContext) (tables : RegistryTables) :
    RegistryTables × HandlerOutcome :=
  match ctx.agentAddress.bind EthAddress.validate with
  | none => (tables, .raises)
  | some agent => registerMiddleware keccak256 limits env provider agent params tables

/-- An x402 call of `register_middleware`. -/
def middlewareCall (params : MiddlewareParams) (paymentHeader : String) (tool : X402Tool)
    (services : X402Services) : X402Call RegistryTables where
  paymentHeader := paymentHeader
  tool := tool
  services := services
  handler := middlewareHandler keccak256 limits env provider params

end Undo

/-- The handler was called, and the call does not deliver: the handler raised or returned an error,
or the settlement failed. -/
def X402State.FailsServed (state : X402State) : Prop :=
  ∃ answer settled, state = .ended answer settled ∧ answer.isException = false ∧
    (handleX402ToolCall answer).delivers = false

/-- **What an unpaid registration leaves behind.** For every x402 call of `register_middleware`, by
a payer that is an address, that ends in a failed settlement or in a failure of the handler: the
tables are as before the call if and only if the endpoint was not inserted, or its row was taken out
when the provider failed, or a quota stopped the loop over the triggers and the endpoint was
deleted. -/
theorem registration_undone_iff (sha256 : String → String) (keccak256 : List UInt8 → List UInt8)
    (limits : RegistryLimits) (env : MiddlewareEnv) (provider : Bool) (params : MiddlewareParams)
    (paymentHeader : String) (tool : X402Tool) (services : X402Services) (agent : EthAddress)
    (keys : List String) (tables : RegistryTables)
    (hpayer : ∀ r, services.verify = .ok r → r.payerAddress = agent.val)
    (hfails : (x402ToolExecutor sha256
      (middlewareCall keccak256 limits env provider params paymentHeader tool services) keys
      tables).2.2.FailsServed) :
    (x402ToolExecutor sha256
      (middlewareCall keccak256 limits env provider params paymentHeader tool services) keys
      tables).2.1 = tables ↔ Undone keccak256 limits env provider agent params tables := by
  obtain ⟨answer, settled, hended, hserved, -⟩ := hfails
  rcases x402ToolExecutor_cases sha256
      (middlewareCall keccak256 limits env provider params paymentHeader tool services) keys tables
    with ⟨-, answer', hended', hexception⟩ |
      ⟨payer, ctx, keys', settled', ⟨-, r, hverify, -, rfl⟩, haddress, hrun⟩
  · -- a refused call has not reached its handler
    obtain ⟨rfl, -⟩ := X402State.ended.inj (hended.symm.trans hended')
    rw [hserved] at hexception
    cases hexception
  · have hagent : ctx.agentAddress.bind EthAddress.validate = some agent := by
      rw [haddress, hpayer r hverify, Option.bind_some]
      exact EthAddress.validate_of_isEthAddress agent.property
    rw [hrun]
    simp only [middlewareCall, middlewareHandler, hagent]
    exact registerMiddleware_restores_iff keccak256 limits env provider agent params tables

namespace Sample

/-- A registration of an endpoint. -/
def middlewareParams : MiddlewareParams where
  core := some { url := "https://example.com/hook", mode := .notify }

/-- The same with one custom trigger. -/
def registrationWithTrigger : MiddlewareParams :=
  { middlewareParams with
    customTriggers := [{ eventSignature := some "Transfer(address,address,uint256)" }] }

/-- Nothing fails on the way. -/
def middlewareEnv : MiddlewareEnv where
  core := { endpointId := "endpoint" }
  trigger := fun n => { triggerId := s!"trigger-{n}" }

/-- A valid payment of `payer`, which settles or not. -/
def payment (settleRaises : Bool) : X402Services where
  verify := .ok { payer := some payer.val }
  identityResolver := some reputable
  settleRaises := settleRaises

/-- The entry of the price list. -/
def middlewareTool : X402Tool where
  cost := 3000
  minReputation := 10
  name := "register_middleware"

/-- Empty tables. -/
def noTables : RegistryTables where
  endpoints := .empty
  triggers := .empty
  references := fun t ht => by cases ht

/-- A call of `register_middleware` under a limit of triggers. -/
def middlewareRun (maxTriggers : ℕ) (params : MiddlewareParams) (settleRaises : Bool) :
    List String × RegistryTables × X402State :=
  x402ToolExecutor id (middlewareCall id { triggers := maxTriggers } middlewareEnv true params
    "payment" middlewareTool (payment settleRaises)) [] noTables

end Sample

/-- A wallet that may have no trigger: the quota stops the loop, and the endpoint is gone. -/
theorem registration_undone_quota :
    (Sample.middlewareRun 0 Sample.registrationWithTrigger false).2.1 = Sample.noTables := by
  refine (registration_undone_iff id id { triggers := 0 } Sample.middlewareEnv true
    Sample.registrationWithTrigger "payment" Sample.middlewareTool (Sample.payment false)
    Sample.payer [] Sample.noTables ?_ ?_).mpr ?_
  · intro r hr
    obtain rfl := Except.ok.inj hr
    decide +kernel
  · exact ⟨.error "Tool execution failed" "INTERNAL_ERROR", false, by decide +kernel, rfl, rfl⟩
  · intro core hcore _
    obtain rfl := Option.some.inj hcore
    exact ⟨rfl, ⟨429, "Trigger quota exceeded: 0/0 active triggers"⟩, by decide +kernel⟩

/-- The settlement fails: the result is withheld, and the endpoint is active. -/
theorem registration_kept_settlement_failed :
    (Sample.middlewareRun 50 Sample.middlewareParams true).2.2 =
        .ended (.error "Payment settlement failed -- tool result withheld" "SETTLEMENT_FAILED")
          false ∧
      (Sample.middlewareRun 50 Sample.middlewareParams true).2.1.endpoints.rows.map
          (fun row => (row.id, row.active)) = [("endpoint", true)] ∧
      (Sample.middlewareRun 50 Sample.middlewareParams true).2.1 ≠ Sample.noTables := by
  have hrows : (Sample.middlewareRun 50 Sample.middlewareParams true).2.1.endpoints.rows.map
      (fun row => (row.id, row.active)) = [("endpoint", true)] := by
    decide +kernel
  refine ⟨by decide +kernel, hrows, ?_⟩
  intro heq
  rw [heq] at hrows
  cases hrows

end TripWire
