import Mathlib
import TripWire.Api.Quota

/-!
# Endpoints and the webhook provider

An execute endpoint is delivered through the webhook provider: both registrations create an
application and an endpoint there, with the url of the row, and store the two ids in the row
(`tripwire/api/routes/endpoints.py`, `tripwire/mcp/tools.py`).  `dispatch_event` sends to the ids
that it finds in the row.  The table and the provider are `InStep` when every active execute row has
both ids and the provider has the url of the row for its endpoint id.

`update_endpoint` changes the row alone.  `inStep_step_iff` says which operations keep the two in
step, and `provider_in_step` concludes for runs.
-/

namespace TripWire

open Py Machine

/-- An endpoint at the provider. -/
structure ProviderEndpoint where
  id : String
  projectId : String
  url : String
  deriving DecidableEq

/-- The endpoints at the provider. -/
abbrev Provider := KeyedTable ProviderEndpoint.id

/-- `create_app`, and `create_endpoint` when it has returned. -/
def RegistrationEnv.createAtProvider (env : RegistrationEnv) (url : String) (provider : Provider) :
    Provider :=
  if env.raises .createApp || env.raises .createEndpoint then provider
  else provider.put { id := env.convoyEndpointId, projectId := env.convoyProjectId, url }

/-- A registration of `row` for `wallet` gets as far as to insert its row. -/
def RegistrationEnv.inserts (limit : ℕ) (env : RegistrationEnv) (wallet : EthAddress)
    (row : EndpointRow) (table : EndpointTable) : Bool :=
  !env.raises .count && decide (table.countOwned wallet < limit) &&
    !env.insertRaises row.chains && (table.insert? row).isSome

/-- The payment details of a registration that carries an x402 payment cannot be stored. -/
def RegistrationEnv.paymentLost (env : RegistrationEnv) (paid : Bool) : Bool :=
  paid && env.raises .recordPayment

/-- The `endpoints` table and the provider. -/
structure ProviderSystem where
  endpoints : EndpointTable := .empty
  provider : Provider := .empty

/-- An operation on endpoints, or the deletion with which `register_middleware` takes an endpoint
back. -/
inductive ProviderOp where
  | operate (op : EndpointOp)
  | compensate (id : EndpointId)

namespace ProviderSystem

/-- `register_endpoint` (REST). -/
def register (limit : ℕ) (env : RegistrationEnv) (wallet : EthAddress) (paid : Bool)
    (body : RegisterEndpointRequest) (s : ProviderSystem) : ProviderSystem where
  endpoints := (registerEndpoint limit env wallet paid body s.endpoints).1
  provider :=
    if env.inserts limit wallet (body.row env wallet) s.endpoints && !env.paymentLost paid &&
        decide (body.mode = .execute) then
      env.createAtProvider body.url s.provider
    else s.provider

/-- `_create_endpoint_core` (MCP). -/
def create (limit : ℕ) (env : RegistrationEnv) (agent : EthAddress) (provider : Bool)
    (params : CreateEndpointParams) (s : ProviderSystem) : ProviderSystem where
  endpoints := (createEndpointCore limit env agent provider params s.endpoints).1
  provider :=
    match params.policies with
    | .error _ => s.provider
    | .ok policies =>
      if params.urlAccepted &&
          env.inserts limit agent (params.row env agent policies) s.endpoints &&
          (decide (params.mode = .execute) && provider) then
        env.createAtProvider params.url s.provider
      else s.provider

/-- One operation.  The changing routes do not call the provider. -/
def step (limit : ℕ) (s : ProviderSystem) : ProviderOp → ProviderSystem
  | .operate (.register env wallet paid body) => s.register limit env wallet paid body
  | .operate (.create env agent provider params) => s.create limit env agent provider params
  | .operate op => { s with endpoints := endpointStep limit s.endpoints op }
  | .compensate id => { s with endpoints := s.endpoints.delete id }

end ProviderSystem

/-! ### Being in step -/

/-- `dispatch_event` is to deliver to the row. -/
def EndpointRow.delivers (row : EndpointRow) : Bool := row.active && decide (row.mode = .execute)

/-- The row has both ids, and the provider has `url` for its endpoint id. -/
def Provider.Registered (provider : Provider) (row : EndpointRow) (url : String) : Prop :=
  row.convoyProjectId.isSome = true ∧
    (row.convoyEndpointId.bind provider.get?).map ProviderEndpoint.url = some url

instance (provider : Provider) (row : EndpointRow) (url : String) :
    Decidable (provider.Registered row url) := inferInstanceAs (Decidable (_ ∧ _))

namespace ProviderSystem

/-- Every active execute row is registered at the provider, with its url. -/
def InStep (s : ProviderSystem) : Prop :=
  ∀ row ∈ s.endpoints.rows, row.delivers = true → s.provider.Registered row row.url

instance (s : ProviderSystem) : Decidable s.InStep :=
  inferInstanceAs (Decidable (∀ row ∈ s.endpoints.rows, _))

/-- An update of `row` keeps it in step: where the row is delivered to before and after, its url
stays, and where the row is delivered to from now on, it is registered with the url that it then
has. -/
def UpdateKeeps (s : ProviderSystem) (row : EndpointRow) (body : UpdateEndpointRequest) : Prop :=
  (body.active.getD row.active && decide (body.mode.getD row.mode = .execute)) = true →
    if row.delivers then body.url.getD row.url = row.url
    else s.provider.Registered row (body.url.getD row.url)

instance (s : ProviderSystem) (row : EndpointRow) (body : UpdateEndpointRequest) :
    Decidable (s.UpdateKeeps row body) :=
  inferInstanceAs (Decidable (_ = true → if row.delivers then _ else _))

/-- The operations that keep the table and the provider in step. -/
def Keeps (limit : ℕ) (s : ProviderSystem) : ProviderOp → Prop
  | .operate (.register env wallet paid body) =>
    (env.inserts limit wallet (body.row env wallet) s.endpoints && env.paymentLost paid) = true →
      body.mode ≠ .execute
  | .operate (.update raises wallet id body) =>
    match fetchOwned wallet id s.endpoints with
    | .error _ => True
    | .ok row => raises = false → s.UpdateKeeps row body
  | _ => True

instance (limit : ℕ) (s : ProviderSystem) : (op : ProviderOp) → Decidable (s.Keeps limit op)
  | .operate (.register ..) => inferInstanceAs (Decidable (_ → _))
  | .operate (.update raises wallet id body) =>
    match hfetch : fetchOwned wallet id s.endpoints with
    | .error _ => isTrue (by simp only [Keeps, hfetch])
    | .ok row =>
      decidable_of_iff (raises = false → s.UpdateKeeps row body) (by simp only [Keeps, hfetch])
  | .operate (.create ..) | .operate (.deactivate ..) | .compensate _ => isTrue trivial

/-- The provider is configured, no cleanup fails, and `create_endpoint` returns an id that it has
not given before. -/
def Configured (s : ProviderSystem) : ProviderOp → Prop
  | .operate (.register env _ _ _) =>
    env.raises .cleanup = false ∧ s.provider.get? env.convoyEndpointId = none
  | .operate (.create env _ provider _) =>
    provider = true ∧ env.raises .cleanup = false ∧ s.provider.get? env.convoyEndpointId = none
  | _ => True

instance (s : ProviderSystem) : (op : ProviderOp) → Decidable (s.Configured op)
  | .operate (.register ..) | .operate (.create ..) => inferInstanceAs (Decidable (_ ∧ _))
  | .operate (.update ..) | .operate (.deactivate ..) | .compensate _ => isTrue trivial

end ProviderSystem

/-! ### Registering -/

/-- A new id at the provider leaves the registered rows registered. -/
theorem Provider.Registered.put {provider : Provider} {row : EndpointRow} {url : String}
    (h : provider.Registered row url) {entry : ProviderEndpoint}
    (hfresh : provider.get? entry.id = none) : Registered (provider.put entry) row url := by
  obtain ⟨hproject, hurl⟩ := h
  refine ⟨hproject, ?_⟩
  cases hid : row.convoyEndpointId with
  | none =>
    rw [hid] at hurl
    cases hurl
  | some id =>
    rw [hid, Option.bind_some] at hurl
    have hne : entry.id ≠ id := by
      rintro rfl
      rw [hfresh] at hurl
      cases hurl
    rw [Option.bind_some, KeyedTable.get?_put, if_neg hne]
    exact hurl

theorem Provider.Registered.create {provider : Provider} {row : EndpointRow} {url : String}
    (h : provider.Registered row url) {env : RegistrationEnv}
    (hfresh : provider.get? env.convoyEndpointId = none) (new : String) :
    Registered (env.createAtProvider new provider) row url := by
  unfold RegistrationEnv.createAtProvider
  split
  · exact h
  · exact h.put hfresh

/-- A row is registered with one url at most. -/
theorem Provider.Registered.url_iff {provider : Provider} {row : EndpointRow} {url url' : String}
    (h : provider.Registered row url) : provider.Registered row url' ↔ url' = url := by
  constructor
  · intro h'
    exact Option.some.inj (h'.2.symm.trans h.2)
  · rintro rfl
    exact h

/-- A row that gets the ids of the provider is registered with the url that it was given. -/
theorem Provider.registered_wired {env : RegistrationEnv} (hready : env.providerReady = true)
    (row : EndpointRow) (provider : Provider) (url : String) :
    Registered (env.createAtProvider url provider) (row.wired env) url := by
  rw [RegistrationEnv.providerReady, Bool.and_eq_true, Bool.and_eq_true, Bool.not_eq_true',
    Bool.not_eq_true', Bool.not_eq_true'] at hready
  obtain ⟨⟨happ, hendpoint⟩, -⟩ := hready
  refine ⟨rfl, ?_⟩
  show (Option.bind (some env.convoyEndpointId) _).map _ = _
  rw [RegistrationEnv.createAtProvider, happ, hendpoint, Option.bind_some]
  show ((provider.put _).get? _).map _ = _
  rw [KeyedTable.get?_put, if_pos rfl]
  rfl

theorem registerEndpoint_fst (limit : ℕ) (env : RegistrationEnv) (wallet : EthAddress) (paid : Bool)
    (body : RegisterEndpointRequest) (table : EndpointTable) :
    (registerEndpoint limit env wallet paid body table).1 =
      if env.inserts limit wallet (body.row env wallet) table then
        if env.paymentLost paid then (table.insert? (body.row env wallet)).getD table
        else (wireEndpoint env body.mode ((table.insert? (body.row env wallet)).getD table)).1
      else table := by
  unfold registerEndpoint RegistrationEnv.inserts RegistrationEnv.paymentLost checkEndpointQuota
  by_cases hcount : env.raises .count = true
  · simp [hcount]
  by_cases hlimit : limit ≤ table.countOwned wallet
  · simp [hcount, hlimit]
  have hbelow : table.countOwned wallet < limit := Nat.lt_of_not_le hlimit
  have hchains : env.insertRaises (body.row env wallet).chains = env.raises .insert :=
    env.insertRaises_ofInts body.chains
  rw [hchains]
  by_cases hinsert : env.raises .insert = true
  · simp [hcount, hlimit, hinsert]
  cases hrow : table.insert? (body.row env wallet) with
  | none => simp [hcount, hlimit, hinsert]
  | some table' =>
    simp only [hcount, hlimit, hbelow, hinsert]
    by_cases hlost : (paid && env.raises .recordPayment) = true <;> simp [hlost]

theorem createEndpointCore_fst_error (limit : ℕ) (env : RegistrationEnv) (agent : EthAddress)
    {params : CreateEndpointParams} {e : PyError} (hpolicies : params.policies = .error e)
    (table : EndpointTable) : (createEndpointCore limit env agent true params table).1 = table := by
  unfold createEndpointCore
  rw [hpolicies]
  by_cases hurl : (!params.urlAccepted) = true
  · rw [if_pos hurl]
  by_cases hcount : env.raises .count = true
  · rw [if_neg hurl, if_pos hcount]
  rw [if_neg hurl, if_neg hcount]
  cases checkEndpointQuota limit table agent with
  | error _ => rfl
  | ok _ => rfl

theorem createEndpointCore_fst (limit : ℕ) (env : RegistrationEnv) (agent : EthAddress)
    (params : CreateEndpointParams) {policies : EndpointPolicies}
    (hpolicies : params.policies = .ok policies) (table : EndpointTable) :
    (createEndpointCore limit env agent true params table).1 =
      if params.urlAccepted && env.inserts limit agent (params.row env agent policies) table then
        (wireEndpoint env params.mode
          ((table.insert? (params.row env agent policies)).getD table)).1
      else table := by
  unfold createEndpointCore RegistrationEnv.inserts checkEndpointQuota
  by_cases hurl : params.urlAccepted = true
  swap
  · simp [hurl]
  by_cases hcount : env.raises .count = true
  · simp [hurl, hcount]
  by_cases hlimit : limit ≤ table.countOwned agent
  · simp [hurl, hcount, hlimit]
  have hbelow : table.countOwned agent < limit := Nat.lt_of_not_le hlimit
  have hchains : (params.row env agent policies).chains = params.chains := rfl
  rw [hchains]
  by_cases hinsert : env.insertRaises params.chains = true
  · simp [hurl, hcount, hlimit, hpolicies, hinsert]
  cases hrow : table.insert? (params.row env agent policies) with
  | none => simp [hurl, hcount, hlimit, hpolicies, hinsert, hrow]
  | some table' =>
    simp only [hurl, hcount, hlimit, hbelow, hpolicies, hinsert, wireEndpoint]
    by_cases hmode : params.mode = .execute
    · by_cases hready : env.providerReady = true
      · simp [hrow, hmode, hready]
      · by_cases hcleanup : env.raises .cleanup = true <;> simp [hrow, hmode, hready, hcleanup]
    · simp [hrow, hmode]

namespace ProviderSystem

theorem InStep.create {table : EndpointTable} {provider : Provider} (h : InStep ⟨table, provider⟩)
    {env : RegistrationEnv} (hfresh : provider.get? env.convoyEndpointId = none) (url : String) :
    InStep ⟨table, env.createAtProvider url provider⟩ :=
  fun row hrow hdelivers => (h row hrow hdelivers).create hfresh url

/-- A table with one more row is in step exactly when it was and the row is. -/
theorem inStep_append_iff {table table' : EndpointTable} {provider : Provider} {row : EndpointRow}
    (hrows : table'.rows = table.rows ++ [row]) :
    InStep ⟨table', provider⟩ ↔
      InStep ⟨table, provider⟩ ∧ (row.delivers = true → provider.Registered row row.url) := by
  show (∀ r ∈ table'.rows, _) ↔ _
  rw [hrows, List.forall_mem_append, List.forall_mem_singleton]
  rfl

/-- The end of a registration keeps the table and the provider in step. -/
theorem InStep.wire {table table' : EndpointTable} {provider : Provider}
    (h : InStep ⟨table, provider⟩) {env : RegistrationEnv} (row : EndpointRow)
    (hid : row.id = env.endpointId) (hins : table.insert? row = some table')
    (hcleanup : env.raises .cleanup = false)
    (hfresh : provider.get? env.convoyEndpointId = none) :
    InStep ⟨(wireEndpoint env row.mode table').1,
      if row.mode = .execute then env.createAtProvider row.url provider else provider⟩ := by
  unfold wireEndpoint
  by_cases hmode : row.mode = .execute
  · rw [if_pos hmode, if_pos hmode]
    by_cases hready : env.providerReady = true
    · rw [if_pos hready]
      have hrows := KeyedTable.rows_updateWhere_insert? hins (EndpointRow.id_wired env)
      rw [hid] at hrows
      refine (inStep_append_iff hrows).mpr ⟨h.create hfresh row.url, fun _ => ?_⟩
      exact Provider.registered_wired hready row provider row.url
    · have hdelete := KeyedTable.deleteWhere_insert? hins
      rw [hid] at hdelete
      rw [if_neg hready, hcleanup, if_neg Bool.false_ne_true]
      show InStep ⟨EndpointTable.delete table' env.endpointId, _⟩
      rw [EndpointTable.delete, hdelete]
      exact h.create hfresh row.url
  · rw [if_neg hmode, if_neg hmode]
    refine (inStep_append_iff (KeyedTable.rows_of_insert? hins)).mpr ⟨h, fun hdelivers => ?_⟩
    -- a notify row is not delivered to
    rw [EndpointRow.delivers, decide_eq_false hmode, Bool.and_false] at hdelivers
    cases hdelivers

/-- A registration through REST keeps the two in step unless it leaves an execute row behind whose
payment details could not be stored. -/
theorem inStep_register_iff {s : ProviderSystem} (h : s.InStep) (limit : ℕ)
    {env : RegistrationEnv} {wallet : EthAddress} {paid : Bool} {body : RegisterEndpointRequest}
    (hcleanup : env.raises .cleanup = false)
    (hfresh : s.provider.get? env.convoyEndpointId = none) :
    (s.register limit env wallet paid body).InStep ↔
      ((env.inserts limit wallet (body.row env wallet) s.endpoints && env.paymentLost paid) = true →
        body.mode ≠ .execute) := by
  rw [register, registerEndpoint_fst]
  by_cases hinserts : env.inserts limit wallet (body.row env wallet) s.endpoints = true
  swap
  · rw [Bool.not_eq_true] at hinserts
    simpa [hinserts] using h
  have hsome : (s.endpoints.insert? (body.row env wallet)).isSome = true :=
    (Bool.and_eq_true_iff.mp hinserts).2
  obtain ⟨table', hins⟩ := Option.isSome_iff_exists.mp hsome
  by_cases hlost : env.paymentLost paid = true
  · simp only [hinserts, hlost, hins, if_true, Option.getD_some, Bool.not_true, Bool.and_false,
      Bool.false_and, Bool.false_eq_true, if_false, Bool.and_true, true_implies]
    rw [inStep_append_iff (KeyedTable.rows_of_insert? hins), and_iff_right h]
    constructor
    · intro hrow hmode
      have hdelivers : (body.row env wallet).delivers = true := decide_eq_true hmode
      exact absurd (hrow hdelivers).1 Bool.false_ne_true
    · intro hmode hdelivers
      exact absurd (of_decide_eq_true hdelivers) hmode
  · have hwire := h.wire (body.row env wallet) rfl hins hcleanup hfresh
    rw [Bool.not_eq_true] at hlost
    simp only [hinserts, hlost, hins, if_true, Option.getD_some, Bool.not_false, Bool.and_true,
      Bool.true_and, Bool.false_eq_true, if_false, Bool.and_false, false_implies, iff_true,
      decide_eq_true_eq]
    exact hwire

/-- A registration through MCP keeps the two in step. -/
theorem InStep.createCore {s : ProviderSystem} (h : s.InStep) (limit : ℕ) {env : RegistrationEnv}
    {agent : EthAddress} {params : CreateEndpointParams} (hcleanup : env.raises .cleanup = false)
    (hfresh : s.provider.get? env.convoyEndpointId = none) :
    (s.create limit env agent true params).InStep := by
  unfold ProviderSystem.create
  cases hpolicies : params.policies with
  | error e =>
    rw [createEndpointCore_fst_error limit env agent hpolicies]
    exact h
  | ok policies =>
    rw [createEndpointCore_fst limit env agent params hpolicies]
    by_cases hinserts : (params.urlAccepted &&
        env.inserts limit agent (params.row env agent policies) s.endpoints) = true
    · have hsome : (s.endpoints.insert? (params.row env agent policies)).isSome = true :=
        (Bool.and_eq_true_iff.mp (Bool.and_eq_true_iff.mp hinserts).2).2
      obtain ⟨table', hins⟩ := Option.isSome_iff_exists.mp hsome
      have hwire := h.wire (params.row env agent policies) rfl hins hcleanup hfresh
      simp only [hinserts, hins, if_true, Option.getD_some, Bool.true_and, Bool.and_true,
        decide_eq_true_eq]
      exact hwire
    · rw [Bool.not_eq_true] at hinserts
      simp only [hinserts, Bool.false_eq_true, if_false, Bool.false_and]
      exact h

/-! ### Changing -/

/-- An update keeps the two in step exactly when it keeps its row in step. -/
theorem inStep_update_iff {s : ProviderSystem} (h : s.InStep) {id : EndpointId} {row : EndpointRow}
    (hget : s.endpoints.get? id = some row) (body : UpdateEndpointRequest) :
    InStep ⟨s.endpoints.update id body, s.provider⟩ ↔ s.UpdateKeeps row body := by
  obtain ⟨before, rest, hrows, hrows'⟩ :=
    KeyedTable.rows_updateWhere_key hget (EndpointRow.id_updated body)
  have hold := h
  rw [InStep, hrows, List.forall_mem_append, List.forall_mem_cons] at hold
  obtain ⟨hbefore, hrow, hrest⟩ := hold
  have hnew : InStep ⟨s.endpoints.update id body, s.provider⟩ ↔
      ((row.updated body).delivers = true →
        s.provider.Registered row (row.updated body).url) := by
    show (∀ r ∈ (s.endpoints.update id body).rows, _) ↔ _
    rw [EndpointTable.update, hrows', List.forall_mem_append, List.forall_mem_cons]
    exact ⟨fun hall => hall.2.1, fun hupdated => ⟨hbefore, hupdated, hrest⟩⟩
  rw [hnew, UpdateKeeps]
  refine imp_congr_right fun _ => ?_
  by_cases hdelivers : row.delivers = true
  · rw [if_pos hdelivers]
    exact (hrow hdelivers).url_iff
  · rw [if_neg hdelivers]
    exact Iff.rfl

theorem inStep_updateEndpoint_iff {s : ProviderSystem} (h : s.InStep) (limit : ℕ) (raises : Bool)
    (wallet : EthAddress) (id : EndpointId) (body : UpdateEndpointRequest) :
    InStep ⟨(updateEndpoint raises wallet id body s.endpoints).1, s.provider⟩ ↔
      s.Keeps limit (.operate (.update raises wallet id body)) := by
  unfold updateEndpoint
  show _ ↔ match fetchOwned wallet id s.endpoints with
    | .error _ => True
    | .ok row => raises = false → s.UpdateKeeps row body
  cases hfetch : fetchOwned wallet id s.endpoints with
  | error e => exact iff_of_true h trivial
  | ok row =>
    have hupdate := inStep_update_iff h (fetchOwned_eq_ok hfetch).1 body
    dsimp only
    by_cases hempty : body = {}
    · subst hempty
      rw [if_pos rfl]
      refine iff_of_true h fun _ hdelivers => ?_
      -- nothing is changed
      change row.delivers = true at hdelivers
      rw [if_pos hdelivers]
      rfl
    · rw [if_neg hempty]
      cases raises with
      | true => exact iff_of_true h nofun
      | false => exact hupdate.trans ⟨fun hkeeps _ => hkeeps, fun hkeeps => hkeeps rfl⟩

theorem InStep.deactivate {s : ProviderSystem} (h : s.InStep) (raises : Bool) (wallet : EthAddress)
    (id : EndpointId) :
    InStep ⟨(deactivateEndpoint raises wallet id s.endpoints).1, s.provider⟩ := by
  unfold deactivateEndpoint
  cases hfetch : fetchOwned wallet id s.endpoints with
  | error e => exact h
  | ok row =>
    cases raises with
    | true => exact h
    | false => exact (inStep_update_iff h (fetchOwned_eq_ok hfetch).1 _).mpr nofun

/-! ### Runs -/

/-- **What keeps the two in step.** Of the operations with a configured provider exactly those that
`Keeps` describes keep the table and the provider in step. -/
theorem inStep_step_iff {s : ProviderSystem} (h : s.InStep) (limit : ℕ) {op : ProviderOp}
    (hop : s.Configured op) : (s.step limit op).InStep ↔ s.Keeps limit op := by
  cases op with
  | operate op =>
    cases op with
    | register env wallet paid body => exact inStep_register_iff h limit hop.1 hop.2
    | create env agent provider params =>
      obtain ⟨rfl, hcleanup, hfresh⟩ := hop
      exact iff_of_true (h.createCore limit hcleanup hfresh) trivial
    | update raises wallet id body => exact inStep_updateEndpoint_iff h limit raises wallet id body
    | deactivate raises wallet id => exact iff_of_true (h.deactivate raises wallet id) trivial
  | compensate id =>
    refine iff_of_true ?_ trivial
    exact fun row hrow => h row (KeyedTable.mem_deleteWhere.mp hrow).1

end ProviderSystem

namespace Sample

/-- A REST registration of an endpoint that gets its own ids at the provider. -/
def wiredRegister (mode : EndpointMode) : EndpointOp :=
  .register
    { endpointId := "first", convoyProjectId := "project", convoyEndpointId := "endpoint" }
    wallet false { url := "https://example.com/hook", mode, chains := onBase, recipient := payee }

end Sample

namespace ProviderSystem

/-- **The provider is in step with the endpoints** in every state that a run reaches, from one in
which they are in step, where the provider is configured and every operation keeps them in step. -/
theorem provider_in_step (limit : ℕ) {s : ProviderSystem} (h : s.InStep) (ops : List ProviderOp)
    (hops : Meets (step limit) (fun s op => s.Configured op ∧ s.Keeps limit op) s ops) :
    (run (step limit) s ops).InStep :=
  run_induction (I := InStep) (fun _ _ hs hop => (inStep_step_iff hs limit hop.1).mpr hop.2) h hops

/-- An execute endpoint is registered, changed, deactivated and activated again. -/
theorem provider_in_step_reactivated :
    (run (step 5) {} [.operate (Sample.wiredRegister .execute),
      .operate (.update false Sample.wallet "first" { chains := some [1], mode := some .notify }),
      .operate (.update false Sample.wallet "first" { mode := some .execute }),
      .operate (.deactivate false Sample.wallet "first"),
      .operate (.update false Sample.wallet "first" { active := some true })]).InStep :=
  provider_in_step 5 (by decide) _ (by decide +kernel)

end ProviderSystem

/-- An execute endpoint whose url is changed, a notify endpoint that becomes an execute endpoint,
and an execute registration whose payment details are not stored: none is in step. -/
theorem provider_out_of_step :
    ¬ (run (ProviderSystem.step 5) {} [.operate (Sample.wiredRegister .execute),
        .operate (.update false Sample.wallet "first"
          { url := some "https://example.org/moved" })]).InStep ∧
      ¬ (run (ProviderSystem.step 5) {} [.operate (Sample.wiredRegister .notify),
        .operate (.update false Sample.wallet "first" { mode := some .execute })]).InStep ∧
      ¬ (run (ProviderSystem.step 5) {} [.operate (.register
        { endpointId := "first", raises := fun call => call = .recordPayment } Sample.wallet true
        { url := "https://example.com/hook", mode := .execute, chains := Sample.onBase,
          recipient := Sample.payee })]).InStep := by
  decide +kernel

end TripWire
