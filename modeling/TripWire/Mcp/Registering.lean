import TripWire.Api.Quota
import TripWire.Lib.TablePart
import TripWire.Mcp.Compensation
import TripWire.Mcp.TriggerTools

/-!
# What a registration depends on

A registration reads the shared tables in three places: it counts the active rows of its own wallet,
it looks up an endpoint it has to own, and its insert fails on a taken id.  So two tables in which
the wallet has the same count and the new ids are free get the same new rows
(`registerEndpoint_same`, `createEndpointCore_same`, `createTriggers_same`), and the answers are the
same.
-/

namespace TripWire

open Py KeyedTable

/-! ### Endpoints -/

/-- The check sees nothing of a table but the count. -/
theorem checkEndpointQuota_congr {limit : ℕ} {t u : EndpointTable} {wallet : String}
    (h : u.countOwned wallet = t.countOwned wallet) :
    checkEndpointQuota limit u wallet = checkEndpointQuota limit t wallet := by
  rw [checkEndpointQuota, checkEndpointQuota, h]

/-- The new row with the ids of the provider. -/
theorem rows_persistIds {env : RegistrationEnv} {base : EndpointRow} {t t' : EndpointTable}
    (hid : base.id = env.endpointId) (hins : t.insert? base = some t') :
    (EndpointTable.persistIds env t').rows = t.rows ++ [base.wired env] := by
  have hrows := rows_updateWhere_insert? hins (EndpointRow.id_wired env)
  rwa [hid] at hrows

/-- The new row is gone again. -/
theorem delete_inserted {env : RegistrationEnv} {base : EndpointRow} {t t' : EndpointTable}
    (hid : base.id = env.endpointId) (hins : t.insert? base = some t') :
    EndpointTable.delete t' env.endpointId = t := by
  have hdel := KeyedTable.deleteWhere_insert? hins
  rwa [hid] at hdel

section SameNew

variable {env : RegistrationEnv} {base : EndpointRow} {t u t' u' : EndpointTable}

/-- The row of a wallet. -/
def EndpointRow.OwnedBy (owner : String) (row : EndpointRow) : Prop := row.ownerAddress = owner

theorem sameNew_insert (ht : t.insert? base = some t') (hu : u.insert? base = some u') :
    SameNew (EndpointRow.OwnedBy base.ownerAddress) t u t' u' :=
  .single rfl (rows_of_insert? ht) (rows_of_insert? hu)

theorem sameNew_persistIds (hid : base.id = env.endpointId) (ht : t.insert? base = some t')
    (hu : u.insert? base = some u') :
    SameNew (EndpointRow.OwnedBy base.ownerAddress) t u (EndpointTable.persistIds env t')
      (EndpointTable.persistIds env u') :=
  .single (r := base.wired env) rfl (rows_persistIds hid ht) (rows_persistIds hid hu)

theorem sameNew_delete (hid : base.id = env.endpointId) (ht : t.insert? base = some t')
    (hu : u.insert? base = some u') :
    SameNew (EndpointRow.OwnedBy base.ownerAddress) t u (EndpointTable.delete t' env.endpointId)
      (EndpointTable.delete u' env.endpointId) := by
  rw [delete_inserted hid ht, delete_inserted hid hu]
  exact .refl _ t u

end SameNew

/-- **A REST registration depends on the count alone**, and on whether the new id is free. -/
theorem registerEndpoint_same (limit : ℕ) (env : RegistrationEnv) (wallet : EthAddress)
    (paid : Bool) (body : RegisterEndpointRequest) {t u : EndpointTable}
    (hcount : u.countOwned wallet = t.countOwned wallet)
    (hid : u.get? env.endpointId = none ↔ t.get? env.endpointId = none) :
    SameNew (EndpointRow.OwnedBy wallet) t u (registerEndpoint limit env wallet paid body t).1
      (registerEndpoint limit env wallet paid body u).1 := by
  unfold registerEndpoint
  rw [checkEndpointQuota_congr hcount]
  cases hraises : env.raises .count with
  | true => exact .refl _ t u
  | false =>
    cases hquota : checkEndpointQuota limit t wallet with
    | error e => exact .refl _ t u
    | ok _ =>
      cases hinsert : env.raises .insert with
      | true => exact .refl _ t u
      | false =>
        simp only [Bool.false_eq_true, if_false]
        rcases insert?_same (r := body.row env wallet) hid with ⟨ht, hu⟩ | ⟨t', u', ht, hu⟩
        · simp only [ht, hu]
          exact .refl _ t u
        · simp only [ht, hu]
          unfold wireEndpoint
          split_ifs
          · exact sameNew_insert ht hu
          · exact sameNew_persistIds rfl ht hu
          · exact sameNew_insert ht hu
          · exact sameNew_delete rfl ht hu
          · exact sameNew_insert ht hu

/-- **So does `_create_endpoint_core`**, and the answers are the same. -/
theorem createEndpointCore_same (limit : ℕ) (env : RegistrationEnv) (agent : EthAddress)
    (provider : Bool) (params : CreateEndpointParams) {t u : EndpointTable}
    (hcount : u.countOwned agent = t.countOwned agent)
    (hid : u.get? env.endpointId = none ↔ t.get? env.endpointId = none) :
    SameNew (EndpointRow.OwnedBy (lower agent.val)) t u
        (createEndpointCore limit env agent provider params t).1
        (createEndpointCore limit env agent provider params u).1 ∧
      (createEndpointCore limit env agent provider params u).2 =
        (createEndpointCore limit env agent provider params t).2 := by
  unfold createEndpointCore
  rw [checkEndpointQuota_congr hcount]
  cases haccepted : params.urlAccepted with
  | false => exact ⟨.refl _ t u, rfl⟩
  | true =>
    cases hraises : env.raises .count with
    | true => exact ⟨.refl _ t u, rfl⟩
    | false =>
      cases hquota : checkEndpointQuota limit t agent with
      | error e => exact ⟨.refl _ t u, rfl⟩
      | ok _ =>
        cases hpolicies : params.policies with
        | error e => exact ⟨.refl _ t u, rfl⟩
        | ok policies =>
          cases hinsert : env.insertRaises params.chains with
          | true => exact ⟨.refl _ t u, rfl⟩
          | false =>
            simp only [Bool.not_true, Bool.false_eq_true, if_false]
            rcases insert?_same (r := params.row env agent policies) hid with
              ⟨ht, hu⟩ | ⟨t', u', ht, hu⟩
            · simp only [ht, hu]
              exact ⟨.refl _ t u, trivial⟩
            · simp only [ht, hu]
              split_ifs
              · exact ⟨sameNew_persistIds rfl ht hu, rfl⟩
              · exact ⟨sameNew_insert ht hu, rfl⟩
              · exact ⟨sameNew_delete rfl ht hu, rfl⟩
              · exact ⟨sameNew_insert ht hu, rfl⟩

/-! ### Triggers -/

/-- A trigger of an agent, as the tools store it. -/
def RegisteredTrigger.OwnedBy (agent : EthAddress) (row : RegisteredTrigger) : Prop :=
  row.ownerAddress = lower agent.val

/-- Two registries that look the same to an agent that creates triggers with these ids: the agent
has the same number of active triggers, the same ids are free, and the endpoint is in both. -/
structure AlikeFor (agent : EthAddress) (ids : Set String) (endpointId : EndpointId)
    (t u : RegistryTables) : Prop where
  count : u.countTriggers agent = t.countTriggers agent
  free : ∀ id ∈ ids, u.triggers.get? id = none ↔ t.triggers.get? id = none
  endpoint : t.endpoints.get? endpointId ≠ none
  endpoint' : u.endpoints.get? endpointId ≠ none

/-- Both registries get the same new triggers of the agent, and keep their endpoints. -/
structure SameNewTriggers (agent : EthAddress) (t u t' u' : RegistryTables) : Prop where
  endpoints : t'.endpoints = t.endpoints
  endpoints' : u'.endpoints = u.endpoints
  triggers : SameNew (RegisteredTrigger.OwnedBy agent) t.triggers u.triggers t'.triggers u'.triggers

section Triggers

variable {agent : EthAddress} {ids : Set String} {endpointId : EndpointId}
  {t u t' u' t'' u'' : RegistryTables}

theorem SameNewTriggers.refl (agent : EthAddress) (t u : RegistryTables) :
    SameNewTriggers agent t u t u :=
  ⟨rfl, rfl, .refl _ t.triggers u.triggers⟩

theorem SameNewTriggers.trans (h : SameNewTriggers agent t u t' u')
    (h' : SameNewTriggers agent t' u' t'' u'') : SameNewTriggers agent t u t'' u'' :=
  ⟨h'.endpoints.trans h.endpoints, h'.endpoints'.trans h.endpoints', h.triggers.trans h'.triggers⟩

/-- The registries stay alike. -/
theorem AlikeFor.next (h : AlikeFor agent ids endpointId t u)
    (hnew : SameNewTriggers agent t u t' u') : AlikeFor agent ids endpointId t' u' where
  count := by
    obtain ⟨new, ht, hu, -⟩ := hnew.triggers
    have hcount := h.count
    unfold RegistryTables.countTriggers at hcount ⊢
    rw [ht, hu, List.filter_append, List.filter_append, List.length_append, List.length_append,
      hcount]
  free := fun id hid => hnew.triggers.free_iff (h.free id hid)
  endpoint := hnew.endpoints ▸ h.endpoint
  endpoint' := hnew.endpoints' ▸ h.endpoint'

theorem checkTriggerQuota_congr {limit : ℕ} {wallet : String}
    (h : u.countTriggers wallet = t.countTriggers wallet) :
    checkTriggerQuota limit u wallet = checkTriggerQuota limit t wallet := by
  rw [checkTriggerQuota, checkTriggerQuota, h]

/-- An insert for an endpoint that exists is an insert into the table of triggers. -/
theorem insertTrigger?_of_insert? {row : RegisteredTrigger}
    {triggers : KeyedTable RegisteredTrigger.rowId}
    (hendpoint : t.endpoints.get? row.endpointId ≠ none)
    (hins : t.triggers.insert? row = some triggers) :
    ∃ t', t.insertTrigger? row = some t' ∧ t'.endpoints = t.endpoints ∧ t'.triggers = triggers := by
  unfold RegistryTables.insertTrigger?
  rw [dif_pos hendpoint]
  split
  · rename_i hnone
    rw [hins] at hnone
    cases hnone
  · rename_i triggers' hsome
    rw [hins] at hsome
    obtain rfl := Option.some.inj hsome
    exact ⟨_, rfl, rfl, rfl⟩

theorem insertTrigger?_eq_none {row : RegisteredTrigger} (hins : t.triggers.insert? row = none) :
    t.insertTrigger? row = none := by
  unfold RegistryTables.insertTrigger?
  split_ifs
  · split
    · rfl
    · rename_i hsome
      rw [hins] at hsome
      cases hsome
  · rfl

/-- The insert succeeds in both registries or in neither. -/
theorem insertTrigger?_same {row : RegisteredTrigger} (h : AlikeFor agent ids row.endpointId t u)
    (hid : row.rowId ∈ ids) (howner : row.OwnedBy agent) :
    (t.insertTrigger? row = none ∧ u.insertTrigger? row = none) ∨
      ∃ t' u', t.insertTrigger? row = some t' ∧ u.insertTrigger? row = some u' ∧
        SameNewTriggers agent t u t' u' := by
  rcases insert?_same (r := row) (h.free row.rowId hid) with
    ⟨ht, hu⟩ | ⟨triggers, triggers', ht, hu⟩
  · exact .inl ⟨insertTrigger?_eq_none ht, insertTrigger?_eq_none hu⟩
  · obtain ⟨t', ht', hendpoints, rfl⟩ := insertTrigger?_of_insert? h.endpoint ht
    obtain ⟨u', hu', hendpoints', rfl⟩ := insertTrigger?_of_insert? h.endpoint' hu
    refine .inr ⟨t', u', ht', hu', hendpoints, hendpoints', ?_⟩
    exact .single howner (rows_of_insert? ht) (rows_of_insert? hu)

/-! ### The loop of `register_middleware` -/

section Loop

variable (keccak256 : List UInt8 → List UInt8) (limits : RegistryLimits) (env : MiddlewareEnv)

/-- What the rows of the loop have in common. -/
theorem row_of_source {source : TriggerSource} {chains : Value} {triggerEnv : TriggerEnv}
    {row : RegisteredTrigger}
    (h : source.row keccak256 env agent chains triggerEnv = .ok (some row)) :
    row.rowId = triggerEnv.triggerId ∧ row.OwnedBy agent := by
  unfold TriggerSource.row at h
  split at h
  · split at h
    · cases h
    split at h
    · cases h
    · obtain rfl := Option.some.inj (Except.ok.inj h)
      exact ⟨rfl, rfl⟩
  · split at h
    · cases h
    · obtain rfl := Option.some.inj (Except.ok.inj h)
      exact ⟨rfl, rfl⟩

/-- One turn does the same to both registries. -/
theorem createTrigger_same (h : AlikeFor agent ids env.core.endpointId t u) (chains : Value)
    {triggerEnv : TriggerEnv} (hid : triggerEnv.triggerId ∈ ids) (source : TriggerSource) :
    SameNewTriggers agent t u
        (createTrigger keccak256 limits env agent chains triggerEnv source t).1
        (createTrigger keccak256 limits env agent chains triggerEnv source u).1 ∧
      (createTrigger keccak256 limits env agent chains triggerEnv source u).2 =
        (createTrigger keccak256 limits env agent chains triggerEnv source t).2 := by
  unfold createTrigger
  rw [checkTriggerQuota_congr h.count]
  cases hraises : triggerEnv.countRaises with
  | true => exact ⟨.refl agent t u, rfl⟩
  | false =>
    cases hquota : checkTriggerQuota limits.triggers t agent with
    | error e => exact ⟨.refl agent t u, rfl⟩
    | ok _ =>
      cases hsource : source.row keccak256 env agent chains triggerEnv with
      | error e => exact ⟨.refl agent t u, rfl⟩
      | ok row? =>
        cases row? with
        | none => exact ⟨.refl agent t u, rfl⟩
        | some row =>
          cases hinsert : triggerEnv.insertRaises with
          | true => exact ⟨.refl agent t u, rfl⟩
          | false =>
            obtain ⟨hrow, howner⟩ := row_of_source keccak256 env hsource
            rw [← endpointId_of_row keccak256 env agent hsource] at h
            simp only [Bool.false_eq_true, if_false]
            rcases insertTrigger?_same h (hrow ▸ hid) howner with ⟨ht, hu⟩ | ⟨t', u', ht, hu, hnew⟩
            · simp only [ht, hu]
              exact ⟨.refl agent t u, trivial⟩
            · simp only [ht, hu]
              split_ifs
              · exact ⟨hnew, rfl⟩
              · exact ⟨hnew, rfl⟩

/-- **The loop does the same to both registries**, however it ends. -/
theorem createTriggers_same (chains : Value) (hids : ∀ n, (env.trigger n).triggerId ∈ ids)
    (sources : List TriggerSource) (n : ℕ) (h : AlikeFor agent ids env.core.endpointId t u) :
    SameNewTriggers agent t u
        (createTriggers keccak256 limits env agent chains sources n t).1
        (createTriggers keccak256 limits env agent chains sources n u).1 ∧
      (createTriggers keccak256 limits env agent chains sources n u).2 =
        (createTriggers keccak256 limits env agent chains sources n t).2 := by
  induction sources generalizing n t u with
  | nil => exact ⟨.refl agent t u, rfl⟩
  | cons source sources ih =>
    obtain ⟨hturn, hanswer⟩ :=
      createTrigger_same keccak256 limits env h chains (hids n) source
    unfold createTriggers
    cases ht : createTrigger keccak256 limits env agent chains (env.trigger n) source t with
    | mk t' answer =>
      cases hu : createTrigger keccak256 limits env agent chains (env.trigger n) source u with
      | mk u' answer' =>
        rw [ht, hu] at hturn hanswer
        obtain rfl : answer' = answer := hanswer
        cases answer' with
        | error e => exact ⟨hturn, rfl⟩
        | ok id? =>
          obtain ⟨hrest, hanswers⟩ := ih (n + 1) (h.next hturn)
          dsimp only
          cases htr : createTriggers keccak256 limits env agent chains sources (n + 1) t' with
          | mk t'' answers =>
            cases hur : createTriggers keccak256 limits env agent chains sources (n + 1) u' with
            | mk u'' answers' =>
              rw [htr, hur] at hrest hanswers
              obtain rfl : answers' = answers := hanswers
              cases answers' with
              | error e => exact ⟨hturn.trans hrest, rfl⟩
              | ok ids => exact ⟨hturn.trans hrest, rfl⟩

/-! ### The whole call -/

variable (provider : Bool)

/-- A created endpoint is a new row at the end of the table. -/
theorem rows_of_created {core : CreateEndpointParams} {table : EndpointTable} {id : EndpointId}
    (h : (createEndpointCore limits.endpoints env.core agent provider core table).2 =
      .created id) :
    table.get? env.core.endpointId = none ∧ ∃ row : EndpointRow, row.id = env.core.endpointId ∧
      (createEndpointCore limits.endpoints env.core agent provider core table).1.rows =
        table.rows ++ [row] := by
  cases hinserts : insertsEndpoint limits env agent core table with
  | false =>
    exact absurd h ((createEndpointCore_of_not_inserts limits env provider agent hinserts).2 id)
  | true =>
    obtain ⟨hfree, hcases⟩ := createEndpointCore_of_inserts limits env provider agent hinserts
    refine ⟨hfree, ?_⟩
    split_ifs at hcases
    · obtain ⟨-, e, he⟩ := hcases
      rw [h] at he
      cases he
    · obtain ⟨-, code, he⟩ := hcases
      rw [h] at he
      cases he
    · exact hcases.1

/-- Both registries get the same new endpoints and triggers of the agent. -/
structure SameNewRegistry (agent : EthAddress) (t u t' u' : RegistryTables) : Prop where
  endpoints : SameNew (EndpointRow.OwnedBy (lower agent.val)) t.endpoints u.endpoints t'.endpoints
    u'.endpoints
  triggers : SameNew (RegisteredTrigger.OwnedBy agent) t.triggers u.triggers t'.triggers u'.triggers

theorem SameNewRegistry.refl (agent : EthAddress) (t u : RegistryTables) :
    SameNewRegistry agent t u t u :=
  ⟨.refl _ t.endpoints u.endpoints, .refl _ t.triggers u.triggers⟩

/-- The endpoint is in the tables that the loop starts from. -/
theorem get?_afterCore {core : CreateEndpointParams} {id : EndpointId}
    (h : (createEndpointCore limits.endpoints env.core agent provider core t.endpoints).2 =
      .created id) :
    (RegistryTables.afterCore limits env provider agent core t).endpoints.get?
      env.core.endpointId ≠ none := by
  obtain ⟨-, row, hid, hrows⟩ := rows_of_created limits env provider h
  intro hnone
  refine get?_eq_none_iff.mp hnone row ?_ hid
  show row ∈ (createEndpointCore limits.endpoints env.core agent provider core t.endpoints).1.rows
  rw [hrows]
  exact List.mem_append_right _ (List.mem_singleton_self row)

/-- The cleanup takes out everything the call has added. -/
theorem deleteEndpoint_afterLoop {core : CreateEndpointParams} {id : EndpointId}
    (h : (createEndpointCore limits.endpoints env.core agent provider core t.endpoints).2 =
      .created id) (sources : List TriggerSource) :
    (createTriggers keccak256 limits env agent core.chains sources 0
        (RegistryTables.afterCore limits env provider agent core t)).1.deleteEndpoint
      env.core.endpointId = t := by
  obtain ⟨hfree, row, hid, hrows⟩ := rows_of_created limits env provider h
  obtain ⟨hendpoints, hnew⟩ := addsTriggers_createTriggers keccak256 limits env agent core.chains
    sources 0 (RegistryTables.afterCore limits env provider agent core t)
  refine deleteEndpoint_of_adds env hfree hid ?_ hnew
  rw [hendpoints]
  exact hrows

/-- **`register_middleware` does the same to both registries**, also where it cleans up. -/
theorem registerMiddleware_same (params : MiddlewareParams)
    (hendpoints : u.endpoints.countOwned agent = t.endpoints.countOwned agent)
    (hid : u.endpoints.get? env.core.endpointId = none ↔
      t.endpoints.get? env.core.endpointId = none)
    (htriggers : u.countTriggers agent = t.countTriggers agent)
    (hids : ∀ n, u.triggers.get? (env.trigger n).triggerId = none ↔
      t.triggers.get? (env.trigger n).triggerId = none) :
    SameNewRegistry agent t u (registerMiddleware keccak256 limits env provider agent params t).1
      (registerMiddleware keccak256 limits env provider agent params u).1 := by
  unfold registerMiddleware
  cases hparams : params.core with
  | none => exact .refl agent t u
  | some core =>
    obtain ⟨hcore, hanswer⟩ :=
      createEndpointCore_same limits.endpoints env.core agent provider core hendpoints hid
    have hregistered : SameNewRegistry agent t u
        (RegistryTables.afterCore limits env provider agent core t)
        (RegistryTables.afterCore limits env provider agent core u) :=
      ⟨hcore, .refl _ t.triggers u.triggers⟩
    dsimp only
    cases ht : (createEndpointCore limits.endpoints env.core agent provider core t.endpoints).2 with
    | raised e =>
      rw [hanswer, ht]
      exact hregistered
    | error code =>
      rw [hanswer, ht]
      exact hregistered
    | created id =>
      have hu := hanswer.trans ht
      rw [hu]
      have halike : AlikeFor agent (Set.range fun n => (env.trigger n).triggerId)
          env.core.endpointId (RegistryTables.afterCore limits env provider agent core t)
          (RegistryTables.afterCore limits env provider agent core u) :=
        ⟨htriggers, by rintro _ ⟨n, rfl⟩; exact hids n, get?_afterCore limits env provider ht,
          get?_afterCore limits env provider hu⟩
      obtain ⟨hloop, hanswers⟩ := createTriggers_same keccak256 limits env core.chains
        (fun n => Set.mem_range_self n) params.sources 0 halike
      have hclean := deleteEndpoint_afterLoop keccak256 limits env provider ht params.sources
      have hclean' := deleteEndpoint_afterLoop keccak256 limits env provider hu params.sources
      unfold registerTriggers
      cases htl : createTriggers keccak256 limits env agent core.chains params.sources 0
          (RegistryTables.afterCore limits env provider agent core t) with
      | mk t' answer =>
        cases hul : createTriggers keccak256 limits env agent core.chains params.sources 0
            (RegistryTables.afterCore limits env provider agent core u) with
        | mk u' answer' =>
          rw [htl, hul] at hloop hanswers
          rw [htl] at hclean
          rw [hul] at hclean'
          obtain rfl : answer' = answer := hanswers
          have hkept : SameNewRegistry agent t u t' u' := by
            refine ⟨?_, hregistered.triggers.trans hloop.triggers⟩
            rw [hloop.endpoints, hloop.endpoints']
            exact hregistered.endpoints
          cases answer' with
          | ok ids => exact hkept
          | error e =>
            cases e with
            | other => exact hkept
            | http e =>
              dsimp only
              split_ifs
              · exact hkept
              · rw [hclean, hclean']
                exact .refl agent t u

end Loop

/-! ### The trigger tools -/

section Tools

variable (keccak256 : List UInt8 → List UInt8) (limit : ℕ) (env : TriggerToolEnv)

/-- The endpoint of a tool is in the table, and its owner is the agent. -/
theorem fetchAgentEndpoint_eq_ok {id : EndpointId} {table : EndpointTable} {endpoint : Endpoint}
    (h : fetchAgentEndpoint env agent id table = .ok endpoint) :
    ∃ row, table.get? id = some row ∧ lower (strip row.ownerAddress) = lower agent.val := by
  unfold fetchAgentEndpoint at h
  split_ifs at h
  cases hget : table.get? id with
  | none => simp [hget] at h
  | some row =>
    refine ⟨row, rfl, ?_⟩
    simp only [hget, EndpointRow.load] at h
    cases hvalidate : row.validate env.reader with
    | none => simp [hvalidate] at h
    | some e =>
      simp only [hvalidate] at h
      split_ifs at h with howner
      have hstrip : e.ownerAddress.val = strip row.ownerAddress := by
        unfold EndpointRow.validate at hvalidate
        simp only [Option.bind_eq_bind, Option.bind_eq_some_iff, Option.pure_def,
          Option.some.injEq] at hvalidate
        obtain ⟨chains, -, recipient, -, owner, hval, rfl⟩ := hvalidate
        unfold EthAddress.validate at hval
        split_ifs at hval
        rw [← Option.some.inj hval]
      rw [← hstrip]
      exact not_not.mp howner

/-- The two registries agree on the endpoints that the tool may use. -/
def SameFetch (agent : EthAddress) (t u : RegistryTables) : Prop :=
  ∀ id endpoint, fetchAgentEndpoint env agent id u.endpoints = .ok endpoint ↔
    fetchAgentEndpoint env agent id t.endpoints = .ok endpoint

variable {env} in
/-- Both fetches are refused, or both find the same endpoint. -/
theorem SameFetch.cases (h : SameFetch env agent t u) (id : EndpointId) :
    (∃ outcome outcome', fetchAgentEndpoint env agent id t.endpoints = .error outcome ∧
        fetchAgentEndpoint env agent id u.endpoints = .error outcome') ∨
      ∃ endpoint, fetchAgentEndpoint env agent id t.endpoints = .ok endpoint ∧
        fetchAgentEndpoint env agent id u.endpoints = .ok endpoint ∧
          t.endpoints.get? id ≠ none ∧ u.endpoints.get? id ≠ none := by
  cases ht : fetchAgentEndpoint env agent id t.endpoints with
  | ok endpoint =>
    have hu := (h id endpoint).mpr ht
    obtain ⟨row, hrow, -⟩ := fetchAgentEndpoint_eq_ok env ht
    obtain ⟨row', hrow', -⟩ := fetchAgentEndpoint_eq_ok env hu
    refine .inr ⟨endpoint, rfl, hu, ?_, ?_⟩
    · rw [hrow]
      exact Option.some_ne_none row
    · rw [hrow']
      exact Option.some_ne_none row'
  | error outcome =>
    cases hu : fetchAgentEndpoint env agent id u.endpoints with
    | error outcome' => exact .inl ⟨outcome, outcome', rfl, rfl⟩
    | ok endpoint =>
      rw [(h id endpoint).mp hu] at ht
      cases ht

/-- The insert of a tool does the same to both registries. -/
theorem insertTrigger_same {row : RegisteredTrigger} (h : AlikeFor agent ids row.endpointId t u)
    (hid : row.rowId ∈ ids) (howner : row.OwnedBy agent) (result : Dict) :
    SameNewTriggers agent t u (insertTrigger env row result t).1
      (insertTrigger env row result u).1 := by
  unfold insertTrigger
  cases hinsert : env.insertRaises with
  | true => exact .refl agent t u
  | false =>
    rcases insertTrigger?_same h hid howner with ⟨ht, hu⟩ | ⟨t', u', ht, hu, hnew⟩
    · simp only [ht, hu]
      exact .refl agent t u
    · simp only [ht, hu]
      exact hnew

theorem passesTriggerQuota_congr (h : u.countTriggers agent = t.countTriggers agent) :
    passesTriggerQuota limit env agent u = passesTriggerQuota limit env agent t := by
  rw [passesTriggerQuota, passesTriggerQuota, checkTriggerQuota_congr h]

/-- **`create_trigger` does the same to both registries.** -/
theorem createTriggerTool_same (params : CreateTriggerParams)
    (hcount : u.countTriggers agent = t.countTriggers agent) (hfetch : SameFetch env agent t u)
    (hid : u.triggers.get? env.triggerId = none ↔ t.triggers.get? env.triggerId = none) :
    SameNewTriggers agent t u (createTriggerTool keccak256 limit env agent params t).1
      (createTriggerTool keccak256 limit env agent params u).1 := by
  unfold createTriggerTool
  rw [passesTriggerQuota_congr limit env hcount]
  split_ifs
  · exact .refl agent t u
  cases params.endpointId with
  | none => exact .refl agent t u
  | some endpointId =>
    rcases hfetch.cases endpointId with
      ⟨outcome, outcome', ht, hu⟩ | ⟨endpoint, ht, hu, hmem, hmem'⟩
    · simp only [ht, hu]
      exact .refl agent t u
    simp only [ht, hu]
    cases params.eventSignature with
    | none => exact .refl agent t u
    | some eventSignature =>
      have halike : AlikeFor agent {env.triggerId} endpointId t u :=
        ⟨hcount, by rintro _ rfl; exact hid, hmem, hmem'⟩
      refine insertTrigger_same env halike ?_ ?_ _
      · exact Set.mem_singleton _
      · exact rfl

/-- **So does `activate_template`.** -/
theorem activateTemplate_same (params : ActivateTemplateParams)
    (hcount : u.countTriggers agent = t.countTriggers agent) (hfetch : SameFetch env agent t u)
    (hid : u.triggers.get? env.triggerId = none ↔ t.triggers.get? env.triggerId = none) :
    SameNewTriggers agent t u (activateTemplate keccak256 limit env agent params t).1
      (activateTemplate keccak256 limit env agent params u).1 := by
  unfold activateTemplate
  rw [passesTriggerQuota_congr limit env hcount]
  cases hquota : passesTriggerQuota limit env agent t with
  | false => exact .refl agent t u
  | true =>
    cases params.slug with
    | none => exact .refl agent t u
    | some slug =>
      cases params.endpointId with
      | none => exact .refl agent t u
      | some endpointId =>
        cases htemplate : env.templateRaises with
        | true => exact .refl agent t u
        | false =>
          simp only [Bool.not_true, Bool.false_eq_true, if_false]
          cases hfind : env.templates.find? fun template => template.slug = slug with
          | none => exact .refl agent t u
          | some template =>
            rcases hfetch.cases endpointId with
              ⟨outcome, outcome', ht, hu⟩ | ⟨endpoint, ht, hu, hmem, hmem'⟩
            · simp only [ht, hu]
              exact .refl agent t u
            · simp only [ht, hu]
              have halike : AlikeFor agent {env.triggerId} endpointId t u :=
                ⟨hcount, by rintro _ rfl; exact hid, hmem, hmem'⟩
              refine insertTrigger_same env halike ?_ ?_ _
              · exact Set.mem_singleton _
              · exact rfl

end Tools

end Triggers

end TripWire
