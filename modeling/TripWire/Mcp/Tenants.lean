import TripWire.Api.Subscriptions
import TripWire.Mcp.Registering
import TripWire.Py.DecimalText

/-!
# Endpoints and triggers of a wallet

The tables of endpoints, triggers and subscriptions are shared by all wallets, and every route and
tool that writes to them checks on its own whose row it touches: the REST routes compare the owner
of the endpoint, `delete_trigger` that of the trigger, and the others insert rows under the address
of the caller.  The database enforces none of this, since the server connects with the service role.

`TenantTables.view wallet` is what a wallet owns, whatever the spelling of its address, and
`tenantStep` are the calls that write to the tables.  This module follows the endpoints and triggers
through a call: one of another wallet is not seen (`registryStep_others`), and one of the wallet is
seen as the same in any two registries in which the wallet has the same rows
(`registryStep_mine`).
-/

namespace TripWire

open Py KeyedTable

/-! ### What a wallet owns -/

/-- The address in a row is that of the wallet, as the models read it. -/
def isAddressOf (wallet : EthAddress) (text : String) : Bool :=
  decide (lower (strip text) = lower wallet.val)

/-- The endpoint is the wallet's. -/
def EndpointRow.ofWallet (wallet : EthAddress) (row : EndpointRow) : Bool :=
  isAddressOf wallet row.ownerAddress

/-- The trigger is the wallet's. -/
def RegisteredTrigger.ofWallet (wallet : EthAddress) (t : RegisteredTrigger) : Bool :=
  isAddressOf wallet t.ownerAddress

/-- The subscription is one of the wallet's endpoints. -/
def SubscriptionRow.ofWallet (wallet : EthAddress) (table : EndpointTable) (s : SubscriptionRow) :
    Bool :=
  ((table.get? s.endpointId).filter (EndpointRow.ofWallet wallet)).isSome

/-- The rows of a wallet. -/
structure TenantView where
  endpoints : List EndpointRow
  triggers : List RegisteredTrigger
  subscriptions : List SubscriptionRow
  deriving DecidableEq

/-- What a wallet owns. -/
def TenantTables.view (tables : TenantTables) (wallet : EthAddress) : TenantView where
  endpoints := tables.endpoints.part (EndpointRow.ofWallet wallet)
  triggers := tables.triggers.part (RegisteredTrigger.ofWallet wallet)
  subscriptions := tables.subscriptions.part (SubscriptionRow.ofWallet wallet tables.endpoints)

/-! ### Calls -/

/-- A call that writes to the tables. -/
inductive TenantOp where
  | endpoint (op : EndpointOp)
  | registerMiddleware (env : MiddlewareEnv) (provider : Bool) (agent : EthAddress)
      (params : MiddlewareParams)
  | createTrigger (env : TriggerToolEnv) (agent : EthAddress) (params : CreateTriggerParams)
  | activateTemplate (env : TriggerToolEnv) (agent : EthAddress) (params : ActivateTemplateParams)
  | deleteTrigger (env : TriggerToolEnv) (agent : EthAddress) (triggerId : Option String)
  | subscribe (env : SubscriptionEnv) (wallet : EthAddress) (endpointId : EndpointId)
      (filters : SubscriptionFilter)
  | unsubscribe (raises : Bool) (wallet : EthAddress) (id : String)

/-- The wallet that an endpoint operation is authenticated as. -/
def EndpointOp.wallet : EndpointOp → EthAddress
  | .register _ wallet _ _ => wallet
  | .create _ agent _ _ => agent
  | .update _ wallet _ _ => wallet
  | .deactivate _ wallet _ => wallet

/-- The wallet that a call is authenticated as. -/
def TenantOp.wallet : TenantOp → EthAddress
  | .endpoint op => op.wallet
  | .registerMiddleware _ _ agent _ => agent
  | .createTrigger _ agent _ => agent
  | .activateTemplate _ agent _ => agent
  | .deleteTrigger _ agent _ => agent
  | .subscribe _ wallet _ _ => wallet
  | .unsubscribe _ wallet _ => wallet

/-- The call is authenticated as the wallet. -/
def TenantOp.isBy (wallet : EthAddress) (op : TenantOp) : Bool :=
  decide (lower op.wallet.val = lower wallet.val)

/-! ### Changes of endpoints -/

/-- Every endpoint is still there, with its owner. -/
def OwnersKept (t t' : EndpointTable) : Prop :=
  ∀ id row, t.get? id = some row →
    ∃ row', t'.get? id = some row' ∧ row'.ownerAddress = row.ownerAddress

theorem OwnersKept.refl (t : EndpointTable) : OwnersKept t t := fun _ row h => ⟨row, h, rfl⟩

theorem OwnersKept.sameNew {P : EndpointRow → Prop} {t u t' u' : EndpointTable}
    (h : SameNew P t u t' u') : OwnersKept t t' := by
  obtain ⟨new, ht, -, -⟩ := h
  intro id row hrow
  obtain ⟨hmem, hid⟩ := get?_eq_some_iff.mp hrow
  exact ⟨row, get?_eq_some_iff.mpr ⟨ht ▸ List.mem_append_left new hmem, hid⟩, rfl⟩

theorem OwnersKept.update (t : EndpointTable) (id : EndpointId) (body : UpdateEndpointRequest) :
    OwnersKept t (t.update id body) := by
  intro id' row hrow
  rw [EndpointTable.update, get?_updateWhere, hrow, Option.map_some]
  refine ⟨_, rfl, ?_⟩
  split_ifs
  · rfl
  · rfl

theorem OwnersKept.free {t t' : EndpointTable} (h : OwnersKept t t') {id : EndpointId}
    (hid : t'.get? id = none) : t.get? id = none := by
  by_contra hne
  obtain ⟨row, hrow⟩ := Option.ne_none_iff_exists'.mp hne
  obtain ⟨row', hrow', -⟩ := h id row hrow
  rw [hrow'] at hid
  cases hid

/-- The wallet owns the endpoint, as the routes that change it see it. -/
def ownsEndpoint (wallet : EthAddress) (id : EndpointId) (table : EndpointTable) : Bool :=
  (fetchOwned wallet id table).isOk

theorem ownsEndpoint_iff {wallet : EthAddress} {id : EndpointId} {table : EndpointTable} :
    ownsEndpoint wallet id table = true ↔
      ∃ row, table.get? id = some row ∧ lower row.ownerAddress = lower wallet.val := by
  unfold ownsEndpoint fetchOwned
  cases hget : table.get? id with
  | none => simp [Except.isOk, Except.toBool]
  | some row =>
    unfold verifyOwnership
    by_cases howner : lower row.ownerAddress = lower wallet.val
    · simp [howner, Except.isOk, Except.toBool, bind, Except.bind, pure, Except.pure]
    · simp [howner, Except.isOk, Except.toBool, bind, Except.bind]

/-- An update of an endpoint that is the wallet's. -/
def updateIf (changes : Bool) (id : EndpointId) (body : UpdateEndpointRequest)
    (table : EndpointTable) : EndpointTable :=
  if changes then table.update id body else table

theorem updateEndpoint_eq (raises : Bool) (wallet : EthAddress) (id : EndpointId)
    (body : UpdateEndpointRequest) (table : EndpointTable) :
    (updateEndpoint raises wallet id body table).1 =
      updateIf (ownsEndpoint wallet id table && decide (body ≠ {}) && !raises) id body table := by
  unfold updateEndpoint ownsEndpoint updateIf
  cases hfetch : fetchOwned wallet id table with
  | error e => rfl
  | ok row =>
    by_cases hbody : body = {}
    · simp [hbody]
    · cases raises <;> simp [hbody, Except.isOk, Except.toBool]

theorem deactivateEndpoint_eq (raises : Bool) (wallet : EthAddress) (id : EndpointId)
    (table : EndpointTable) :
    (deactivateEndpoint raises wallet id table).1 =
      updateIf (ownsEndpoint wallet id table && !raises) id { active := some false } table := by
  unfold deactivateEndpoint ownsEndpoint updateIf
  cases hfetch : fetchOwned wallet id table with
  | error e => rfl
  | ok row => cases raises <;> simp [Except.isOk, Except.toBool]

theorem OwnersKept.updateIf (changes : Bool) (id : EndpointId) (body : UpdateEndpointRequest)
    (table : EndpointTable) : OwnersKept table (updateIf changes id body table) := by
  unfold TripWire.updateIf
  split_ifs
  · exact .update table id body
  · exact .refl table

theorem ownersKept_endpointStep (limit : ℕ) (table : EndpointTable) (op : EndpointOp) :
    OwnersKept table (endpointStep limit table op) := by
  cases op with
  | register env wallet paid body =>
    exact .sameNew (registerEndpoint_same limit env wallet paid body rfl Iff.rfl)
  | create env agent provider params =>
    exact .sameNew (createEndpointCore_same limit env agent provider params rfl Iff.rfl).1
  | update raises wallet id body =>
    show OwnersKept table (updateEndpoint raises wallet id body table).1
    rw [updateEndpoint_eq]
    exact .updateIf _ id body table
  | deactivate raises wallet id =>
    show OwnersKept table (deactivateEndpoint raises wallet id table).1
    rw [deactivateEndpoint_eq]
    exact .updateIf _ id _ table

/-! ### The step -/

section Step

variable (keccak256 : List UInt8 → List UInt8) (limits : RegistryLimits)

/-- The endpoints and triggers after a call that writes to them. -/
def registryStep (tables : RegistryTables) : TenantOp → RegistryTables
  | .endpoint op =>
    tables.withEndpoints (endpointStep limits.endpoints tables.endpoints op) fun _ h hnone =>
      h ((ownersKept_endpointStep limits.endpoints tables.endpoints op).free hnone)
  | .registerMiddleware env provider agent params =>
    (registerMiddleware keccak256 limits env provider agent params tables).1
  | .createTrigger env agent params =>
    (createTriggerTool keccak256 limits.triggers env agent params tables).1
  | .activateTemplate env agent params =>
    (activateTemplate keccak256 limits.triggers env agent params tables).1
  | .deleteTrigger env agent triggerId => (deleteTrigger env agent triggerId tables).1
  | .subscribe .. => tables
  | .unsubscribe .. => tables

/-- The tables after a call. -/
def tenantStep (tables : TenantTables) : TenantOp → TenantTables
  | .subscribe env wallet endpointId filters =>
    (createSubscription env wallet endpointId filters tables).1
  | .unsubscribe raises wallet id => (removeSubscription raises wallet id tables).1
  | op => tables.withRegistry (registryStep keccak256 limits tables.toRegistryTables op)

end Step

/-! ### Whose rows a call touches -/

/-- A text that is the address of an agent up to case is read as its address. -/
theorem isAddressOf_eq {agent : EthAddress} {text : String} (h : lower text = lower agent.val)
    (wallet : EthAddress) :
    isAddressOf wallet text = decide (lower agent.val = lower wallet.val) := by
  have hstrip : lower (strip text) = lower agent.val := by
    rw [← strip_lower, h]
    exact strip_of_isEthAddress (isEthAddress_lower agent.property)
  rw [isAddressOf, hstrip]

section Owners

variable {wallet agent : EthAddress}

theorem EndpointRow.ofWallet_of_ownedBy {row : EndpointRow} {owner : String}
    (howner : lower owner = lower agent.val) (h : row.OwnedBy owner) :
    row.ofWallet wallet = decide (lower agent.val = lower wallet.val) := by
  rw [EndpointRow.ofWallet, show row.ownerAddress = owner from h]
  exact isAddressOf_eq howner wallet

theorem RegisteredTrigger.ofWallet_of_ownedBy {row : RegisteredTrigger} (h : row.OwnedBy agent) :
    row.ofWallet wallet = decide (lower agent.val = lower wallet.val) := by
  rw [RegisteredTrigger.ofWallet, show row.ownerAddress = lower agent.val from h]
  exact isAddressOf_eq (lower_lower agent.val) wallet

end Owners

/-- What a wallet sees of the endpoints and triggers: its rows are the same in `u` as in `t`, and no
id that is free in `t` is taken in `u`. -/
structure RegistrySeen (wallet : EthAddress) (u t : RegistryTables) : Prop where
  endpoints : Within (EndpointRow.ofWallet wallet) u.endpoints t.endpoints
  triggers : Within (RegisteredTrigger.ofWallet wallet) u.triggers t.triggers

section Registry

variable {wallet agent : EthAddress} {t u t' u' : RegistryTables}

theorem RegistrySeen.refl (wallet : EthAddress) (t : RegistryTables) : RegistrySeen wallet t t :=
  ⟨.refl _ t.endpoints, .refl _ t.triggers⟩

theorem SameNewTriggers.registry (h : SameNewTriggers agent t u t' u') :
    SameNewRegistry agent t u t' u' where
  endpoints := by
    rw [h.endpoints, h.endpoints']
    exact .refl _ t.endpoints u.endpoints
  triggers := h.triggers

/-- The same new rows are seen as the same. -/
theorem RegistrySeen.both (h : RegistrySeen wallet u t) (hnew : SameNewRegistry agent t u t' u') :
    RegistrySeen wallet u' t' :=
  ⟨h.endpoints.sameNew hnew.endpoints, h.triggers.sameNew hnew.triggers⟩

/-- New rows of another agent are not seen. -/
theorem RegistrySeen.others (hother : lower agent.val ≠ lower wallet.val)
    (hnew : SameNewRegistry agent t t t' t') : RegistrySeen wallet t t' where
  endpoints := by
    apply Within.append hnew.endpoints
    intro row hrow
    rw [EndpointRow.ofWallet_of_ownedBy (lower_lower agent.val) hrow]
    exact decide_eq_false hother
  triggers := by
    apply Within.append hnew.triggers
    intro row hrow
    rw [RegisteredTrigger.ofWallet_of_ownedBy hrow]
    exact decide_eq_false hother

/-- The endpoint quota counts rows of the wallet only. -/
theorem RegistrySeen.countOwned (h : RegistrySeen wallet u t)
    (hmine : lower agent.val = lower wallet.val) :
    u.endpoints.countOwned agent = t.endpoints.countOwned agent := by
  rw [EndpointTable.countOwned, EndpointTable.countOwned, h.endpoints.filter_eq]
  intro row hrow
  obtain ⟨howner, -⟩ := Bool.and_eq_true_iff.mp hrow
  have hagent : row.ownerAddress = lower agent.val := of_decide_eq_true howner
  rw [EndpointRow.ofWallet_of_ownedBy (lower_lower agent.val) hagent]
  exact decide_eq_true hmine

/-- So does the trigger quota. -/
theorem RegistrySeen.countTriggers (h : RegistrySeen wallet u t)
    (hmine : lower agent.val = lower wallet.val) :
    u.countTriggers agent = t.countTriggers agent := by
  rw [RegistryTables.countTriggers, RegistryTables.countTriggers, h.triggers.filter_eq]
  intro row hrow
  obtain ⟨howner, -⟩ := Bool.and_eq_true_iff.mp hrow
  have hagent : row.ownerAddress = lower agent.val := of_decide_eq_true howner
  rw [RegisteredTrigger.ofWallet_of_ownedBy hagent]
  exact decide_eq_true hmine

theorem fetchAgentEndpoint_congr {env : TriggerToolEnv} {id : EndpointId}
    {table table' : EndpointTable} (h : table'.get? id = table.get? id) :
    fetchAgentEndpoint env agent id table' = fetchAgentEndpoint env agent id table := by
  rw [fetchAgentEndpoint, fetchAgentEndpoint, h]

/-- The tools find the same endpoints of the wallet. -/
theorem RegistrySeen.sameFetch (h : RegistrySeen wallet u t)
    (hmine : lower agent.val = lower wallet.val) (env : TriggerToolEnv) :
    SameFetch env agent t u := by
  have hwallet {table : EndpointTable} {id : EndpointId} {endpoint : Endpoint}
      (hfetch : fetchAgentEndpoint env agent id table = .ok endpoint) :
      ∃ row, table.get? id = some row ∧ row.ofWallet wallet = true := by
    obtain ⟨row, hrow, howner⟩ := fetchAgentEndpoint_eq_ok env hfetch
    refine ⟨row, hrow, ?_⟩
    rw [EndpointRow.ofWallet, isAddressOf, howner]
    exact decide_eq_true hmine
  intro id endpoint
  constructor
  · intro hu
    obtain ⟨row, hrow, hown⟩ := hwallet hu
    have hrow' : t.endpoints.get? id = some row := (h.endpoints.get?_eq_some hown).mp hrow
    exact (fetchAgentEndpoint_congr (hrow'.trans hrow.symm)).trans hu
  · intro ht
    obtain ⟨row, hrow, hown⟩ := hwallet ht
    have hrow' : u.endpoints.get? id = some row := (h.endpoints.get?_eq_some hown).mpr hrow
    exact (fetchAgentEndpoint_congr (hrow'.trans hrow.symm)).trans ht

end Registry

/-! ### Endpoints -/

section Endpoints

variable {wallet agent : EthAddress} {t u : EndpointTable}

theorem EndpointRow.ofWallet_updated (body : UpdateEndpointRequest) (row : EndpointRow) :
    (row.updated body).ofWallet wallet = row.ofWallet wallet := rfl

/-- An update by another wallet is not seen. -/
theorem within_updateIf_others (hother : lower agent.val ≠ lower wallet.val) {changes : Bool}
    {id : EndpointId} (hchanges : changes = true → ownsEndpoint agent id t = true)
    (body : UpdateEndpointRequest) :
    Within (EndpointRow.ofWallet wallet) t (updateIf changes id body t) := by
  unfold updateIf
  split_ifs with h
  · obtain ⟨row, hrow, howner⟩ := ownsEndpoint_iff.mp (hchanges h)
    have hnot : row.ofWallet wallet = false := by
      rw [EndpointRow.ofWallet_of_ownedBy howner rfl]
      exact decide_eq_false hother
    exact .updateKey (EndpointRow.id_updated body) hrow hnot hnot
  · exact .refl _ t

/-- The same update of both tables is seen as the same. -/
theorem within_updateIf_both (h : Within (EndpointRow.ofWallet wallet) u t) (changes : Bool)
    (id : EndpointId) (body : UpdateEndpointRequest) :
    Within (EndpointRow.ofWallet wallet) (updateIf changes id body u)
      (updateIf changes id body t) := by
  unfold updateIf
  split_ifs
  · exact h.updateWhere_both (EndpointRow.id_updated body)
      fun row _ => EndpointRow.ofWallet_updated body row
  · exact h

/-- The wallet owns the same endpoints in both tables. -/
theorem ownsEndpoint_within (h : Within (EndpointRow.ofWallet wallet) u t)
    (hmine : lower agent.val = lower wallet.val) (id : EndpointId) :
    ownsEndpoint agent id u = ownsEndpoint agent id t := by
  rw [Bool.eq_iff_iff, ownsEndpoint_iff, ownsEndpoint_iff]
  have hwallet (row : EndpointRow) (howner : lower row.ownerAddress = lower agent.val) :
      row.ofWallet wallet = true := by
    rw [EndpointRow.ofWallet_of_ownedBy howner rfl]
    exact decide_eq_true hmine
  constructor
  · rintro ⟨row, hrow, howner⟩
    exact ⟨row, (h.get?_eq_some (hwallet row howner)).mp hrow, howner⟩
  · rintro ⟨row, hrow, howner⟩
    exact ⟨row, (h.get?_eq_some (hwallet row howner)).mpr hrow, howner⟩

/-- The ids that an operation generates are not in use. -/
def EndpointOp.Fresh (table : EndpointTable) : EndpointOp → Prop
  | .register env _ _ _ => table.get? env.endpointId = none
  | .create env _ _ _ => table.get? env.endpointId = none
  | .update .. => True
  | .deactivate .. => True

/-- **Endpoint operations of others are not seen.** -/
theorem endpointStep_others (limit : ℕ) {op : EndpointOp}
    (hother : lower op.wallet.val ≠ lower wallet.val) :
    Within (EndpointRow.ofWallet wallet) t (endpointStep limit t op) := by
  cases op with
  | register env agent paid body =>
    apply Within.append (registerEndpoint_same limit env agent paid body rfl Iff.rfl)
    intro row hrow
    rw [EndpointRow.ofWallet_of_ownedBy rfl hrow]
    exact decide_eq_false hother
  | create env agent provider params =>
    apply Within.append (createEndpointCore_same limit env agent provider params rfl Iff.rfl).1
    intro row hrow
    rw [EndpointRow.ofWallet_of_ownedBy (lower_lower agent.val) hrow]
    exact decide_eq_false hother
  | update raises agent id body =>
    show Within _ t (updateEndpoint raises agent id body t).1
    rw [updateEndpoint_eq]
    refine within_updateIf_others (show lower agent.val ≠ lower wallet.val from hother) ?_ body
    intro h
    simp only [Bool.and_eq_true] at h
    exact h.1.1
  | deactivate raises agent id =>
    show Within _ t (deactivateEndpoint raises agent id t).1
    rw [deactivateEndpoint_eq]
    refine within_updateIf_others (show lower agent.val ≠ lower wallet.val from hother) ?_ _
    intro h
    exact (Bool.and_eq_true_iff.mp h).1

/-- **An endpoint operation of the wallet is seen as the same in both tables.** -/
theorem endpointStep_mine (limit : ℕ) {op : EndpointOp}
    (hmine : lower op.wallet.val = lower wallet.val)
    (hcount : u.countOwned op.wallet = t.countOwned op.wallet)
    (h : Within (EndpointRow.ofWallet wallet) u t) (hfresh : op.Fresh t) :
    Within (EndpointRow.ofWallet wallet) (endpointStep limit u op) (endpointStep limit t op) := by
  cases op with
  | register env agent paid body =>
    have hid : u.get? env.endpointId = none ↔ t.get? env.endpointId = none :=
      iff_of_true (h.free _ hfresh) hfresh
    exact h.sameNew (registerEndpoint_same limit env agent paid body hcount hid)
  | create env agent provider params =>
    have hid : u.get? env.endpointId = none ↔ t.get? env.endpointId = none :=
      iff_of_true (h.free _ hfresh) hfresh
    exact h.sameNew (createEndpointCore_same limit env agent provider params hcount hid).1
  | update raises agent id body =>
    have howns : ownsEndpoint agent id u = ownsEndpoint agent id t := ownsEndpoint_within h hmine id
    show Within _ (updateEndpoint raises agent id body u).1
      (updateEndpoint raises agent id body t).1
    rw [updateEndpoint_eq, updateEndpoint_eq, howns]
    exact within_updateIf_both h _ id body
  | deactivate raises agent id =>
    have howns : ownsEndpoint agent id u = ownsEndpoint agent id t := ownsEndpoint_within h hmine id
    show Within _ (deactivateEndpoint raises agent id u).1 (deactivateEndpoint raises agent id t).1
    rw [deactivateEndpoint_eq, deactivateEndpoint_eq, howns]
    exact within_updateIf_both h _ id _

end Endpoints

/-! ### Deleting a trigger -/

/-- The agent owns the trigger, as `delete_trigger` sees it. -/
def ownsTrigger (agent : EthAddress) (id : String) (tables : RegistryTables) : Bool :=
  ((tables.triggers.get? id).filter (RegisteredTrigger.ofWallet agent)).isSome

/-- `delete_trigger` deactivates a trigger of the agent or does nothing. -/
theorem deleteTrigger_eq (env : TriggerToolEnv) (agent : EthAddress) (id : String)
    (tables : RegistryTables) :
    (deleteTrigger env agent (some id) tables).1 =
      if ownsTrigger agent id tables && !env.readRaises && !env.updateRaises then
        tables.deactivateTrigger id else tables := by
  unfold deleteTrigger ownsTrigger
  cases hread : env.readRaises with
  | true => simp
  | false =>
    cases hget : tables.triggers.get? id with
    | none => simp [hget]
    | some t =>
      by_cases howner : lower (strip t.ownerAddress) = lower agent.val
      · cases hupdate : env.updateRaises <;>
          simp [hget, howner, RegisteredTrigger.ofWallet, isAddressOf]
      · simp [hget, howner, RegisteredTrigger.ofWallet, isAddressOf]

section Triggers

variable {wallet agent : EthAddress} {t u : RegistryTables}

theorem RegisteredTrigger.ofWallet_iff {row : RegisteredTrigger} :
    row.ofWallet wallet = true ↔ lower (strip row.ownerAddress) = lower wallet.val := by
  rw [RegisteredTrigger.ofWallet, isAddressOf, decide_eq_true_iff]

theorem RegisteredTrigger.ofWallet_congr (h : lower agent.val = lower wallet.val) :
    RegisteredTrigger.ofWallet agent = RegisteredTrigger.ofWallet wallet := by
  funext row
  rw [RegisteredTrigger.ofWallet, RegisteredTrigger.ofWallet, isAddressOf, isAddressOf, h]

theorem deleteTrigger_others (hother : lower agent.val ≠ lower wallet.val) (env : TriggerToolEnv)
    (id : String) : RegistrySeen wallet t (deleteTrigger env agent (some id) t).1 := by
  rw [deleteTrigger_eq]
  split_ifs with h
  · simp only [Bool.and_eq_true] at h
    obtain ⟨row, hrow⟩ := Option.isSome_iff_exists.mp h.1.1
    obtain ⟨hget, hagent⟩ := Option.filter_eq_some_iff.mp hrow
    have hnot : row.ofWallet wallet = false := by
      rw [RegisteredTrigger.ofWallet, isAddressOf, RegisteredTrigger.ofWallet_iff.mp hagent]
      exact decide_eq_false hother
    exact ⟨.refl _ t.endpoints,
      .updateKey RegisteredTrigger.rowId_deactivated hget hnot hnot⟩
  · exact .refl wallet t

theorem deleteTrigger_mine (hmine : lower agent.val = lower wallet.val) (env : TriggerToolEnv)
    (id : String) (h : RegistrySeen wallet u t) :
    RegistrySeen wallet (deleteTrigger env agent (some id) u).1
      (deleteTrigger env agent (some id) t).1 := by
  have howns : ownsTrigger agent id u = ownsTrigger agent id t := by
    rw [ownsTrigger, ownsTrigger, RegisteredTrigger.ofWallet_congr hmine, h.triggers.get?]
  rw [deleteTrigger_eq, deleteTrigger_eq, howns]
  split_ifs
  · exact ⟨h.endpoints, h.triggers.updateWhere_both RegisteredTrigger.rowId_deactivated
      fun _ _ => rfl⟩
  · exact h

end Triggers

/-! ### Endpoints and triggers -/

section Registry

variable (keccak256 : List UInt8 → List UInt8) (limits : RegistryLimits) {wallet : EthAddress}
  {t u : RegistryTables}

/-- The ids that a call generates are not in use. -/
def TenantOp.Fresh (tables : TenantTables) : TenantOp → Prop
  | .endpoint op => op.Fresh tables.endpoints
  | .registerMiddleware env _ _ _ =>
    tables.endpoints.get? env.core.endpointId = none ∧
      ∀ n, tables.triggers.get? (env.trigger n).triggerId = none
  | .createTrigger env _ _ => tables.triggers.get? env.triggerId = none
  | .activateTemplate env _ _ => tables.triggers.get? env.triggerId = none
  | .deleteTrigger .. => True
  | .subscribe env _ _ _ => tables.subscriptions.get? env.subscriptionId = none
  | .unsubscribe .. => True

/-- The tools see a registry as themselves. -/
theorem SameFetch.refl (env : TriggerToolEnv) (agent : EthAddress) (t : RegistryTables) :
    SameFetch env agent t t := fun _ _ => Iff.rfl

/-- **Calls of others are not seen.** -/
theorem registryStep_others {op : TenantOp} (hother : op.isBy wallet = false) :
    RegistrySeen wallet t (registryStep keccak256 limits t op) := by
  have hne : lower op.wallet.val ≠ lower wallet.val := of_decide_eq_false hother
  cases op with
  | endpoint op => exact ⟨endpointStep_others limits.endpoints hne, .refl _ t.triggers⟩
  | registerMiddleware env provider agent params =>
    exact .others hne (registerMiddleware_same keccak256 limits env provider params rfl Iff.rfl rfl
      fun _ => Iff.rfl)
  | createTrigger env agent params =>
    exact .others hne (createTriggerTool_same keccak256 limits.triggers env params rfl
      (.refl env agent t) Iff.rfl).registry
  | activateTemplate env agent params =>
    exact .others hne (activateTemplate_same keccak256 limits.triggers env params rfl
      (.refl env agent t) Iff.rfl).registry
  | deleteTrigger env agent triggerId =>
    cases triggerId with
    | none => exact .refl wallet t
    | some id => exact deleteTrigger_others hne env id
  | subscribe env agent endpointId filters => exact .refl wallet t
  | unsubscribe raises agent id => exact .refl wallet t

/-- **A call of the wallet is seen as the same in both registries.** -/
theorem registryStep_mine {op : TenantOp} {tables : TenantTables} (hmine : op.isBy wallet = true)
    (h : RegistrySeen wallet u tables.toRegistryTables) (hfresh : op.Fresh tables) :
    RegistrySeen wallet (registryStep keccak256 limits u op)
      (registryStep keccak256 limits tables.toRegistryTables op) := by
  have heq : lower op.wallet.val = lower wallet.val := of_decide_eq_true hmine
  have hendpoints := h.countOwned heq
  have htriggers := h.countTriggers heq
  cases op with
  | endpoint op =>
    exact ⟨endpointStep_mine limits.endpoints heq hendpoints h.endpoints hfresh, h.triggers⟩
  | registerMiddleware env provider agent params =>
    have hid := iff_of_true (h.endpoints.free _ hfresh.1) hfresh.1
    have hids := fun n => iff_of_true (h.triggers.free _ (hfresh.2 n)) (hfresh.2 n)
    exact h.both (registerMiddleware_same keccak256 limits env provider params hendpoints hid
      htriggers hids)
  | createTrigger env agent params =>
    have hid := iff_of_true (h.triggers.free _ hfresh) hfresh
    exact h.both (createTriggerTool_same keccak256 limits.triggers env params htriggers
      (h.sameFetch heq env) hid).registry
  | activateTemplate env agent params =>
    have hid := iff_of_true (h.triggers.free _ hfresh) hfresh
    exact h.both (activateTemplate_same keccak256 limits.triggers env params htriggers
      (h.sameFetch heq env) hid).registry
  | deleteTrigger env agent triggerId =>
    cases triggerId with
    | none => exact h
    | some id => exact deleteTrigger_mine heq env id h
  | subscribe env agent endpointId filters => exact h
  | unsubscribe raises agent id => exact h

theorem OwnersKept.registry {agent : EthAddress} {t' u' : RegistryTables}
    (h : SameNewRegistry agent t u t' u') : OwnersKept t.endpoints t'.endpoints :=
  .sameNew h.endpoints

/-- No call takes an endpoint away or gives it to somebody else. -/
theorem ownersKept_registryStep (t : RegistryTables) (op : TenantOp) :
    OwnersKept t.endpoints (registryStep keccak256 limits t op).endpoints := by
  cases op with
  | endpoint op => exact ownersKept_endpointStep limits.endpoints t.endpoints op
  | registerMiddleware env provider agent params =>
    exact .registry (registerMiddleware_same keccak256 limits env provider params rfl Iff.rfl rfl
      fun _ => Iff.rfl)
  | createTrigger env agent params =>
    exact .registry (createTriggerTool_same keccak256 limits.triggers env params rfl
      (.refl env agent t) Iff.rfl).registry
  | activateTemplate env agent params =>
    exact .registry (activateTemplate_same keccak256 limits.triggers env params rfl
      (.refl env agent t) Iff.rfl).registry
  | deleteTrigger env agent triggerId =>
    cases triggerId with
    | none => exact .refl t.endpoints
    | some id =>
      show OwnersKept t.endpoints (deleteTrigger env agent (some id) t).1.endpoints
      rw [deleteTrigger_eq]
      split_ifs
      · exact .refl t.endpoints
      · exact .refl t.endpoints
  | subscribe env agent endpointId filters => exact .refl t.endpoints
  | unsubscribe raises agent id => exact .refl t.endpoints

end Registry

end TripWire
