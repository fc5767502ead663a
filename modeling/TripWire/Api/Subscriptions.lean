import TripWire.Mcp.Tools

/-!
# Subscriptions

The routes over the `subscriptions` table (`tripwire/api/routes/subscriptions.py`).  A subscription
has no owner of its own: each route verifies that the wallet owns the endpoint it belongs to.

`TenantTables` are the three tables that the tenants share.  The foreign key of `subscriptions` is a
field, as that of `triggers` is; deleting an endpoint deletes its subscriptions
(`ON DELETE CASCADE`), which is what `TenantTables.withRegistry` does when the registry changes.
-/

namespace TripWire

open Py

/-! ### The tables -/

/-- A row of the `subscriptions` table. -/
structure SubscriptionRow extends Subscription where
  id : String
  deriving DecidableEq

/-- The `subscriptions` table. -/
abbrev SubscriptionTable := KeyedTable SubscriptionRow.id

/-- The `endpoints`, `triggers` and `subscriptions` tables. -/
structure TenantTables extends RegistryTables where
  subscriptions : SubscriptionTable
  /-- `endpoint_id TEXT NOT NULL REFERENCES endpoints (id)`. -/
  subscribed : ∀ s ∈ subscriptions.rows, endpoints.get? s.endpointId ≠ none

namespace TenantTables

/-- The subscriptions of the endpoints that are left. -/
def cascade (subscriptions : SubscriptionTable) (registry : RegistryTables) : SubscriptionTable :=
  subscriptions.deleteWhere fun s => (registry.endpoints.get? s.endpointId).isNone

theorem subscribed_cascade (subscriptions : SubscriptionTable) (registry : RegistryTables) :
    ∀ s ∈ (cascade subscriptions registry).rows, registry.endpoints.get? s.endpointId ≠ none := by
  intro s hs
  obtain ⟨-, hleft⟩ := List.mem_filter.mp hs
  intro hnone
  simp [hnone] at hleft

/-- The tables after a change of the endpoints and triggers. -/
def withRegistry (tables : TenantTables) (registry : RegistryTables) : TenantTables where
  toRegistryTables := registry
  subscriptions := cascade tables.subscriptions registry
  subscribed := subscribed_cascade tables.subscriptions registry

/-- Nothing is deleted with the endpoints where all of them are left. -/
theorem cascade_eq_self {tables : TenantTables} {registry : RegistryTables}
    (h : ∀ id, registry.endpoints.get? id = none → tables.endpoints.get? id = none) :
    cascade tables.subscriptions registry = tables.subscriptions := by
  ext1
  apply List.filter_eq_self.mpr
  intro s hs
  have href := tables.subscribed s hs
  rw [Bool.not_eq_true', Option.isNone_eq_false_iff, Option.isSome_iff_ne_none]
  exact fun hnone => href (h s.endpointId hnone)

/-- A row that an insertion adds refers to an endpoint too. -/
theorem subscribed_insert? {tables : TenantTables} {row : SubscriptionRow}
    {subscriptions : SubscriptionTable} (h : tables.endpoints.get? row.endpointId ≠ none)
    (hins : tables.subscriptions.insert? row = some subscriptions) :
    ∀ s ∈ subscriptions.rows, tables.endpoints.get? s.endpointId ≠ none := by
  intro s hs
  rw [KeyedTable.rows_of_insert? hins, List.mem_append, List.mem_singleton] at hs
  rcases hs with hs | rfl
  · exact tables.subscribed s hs
  · exact h

end TenantTables

/-! ### The routes -/

/-- What the outside world answers to `create_subscription`. -/
structure SubscriptionEnv where
  /-- `nanoid(size=21)`. -/
  subscriptionId : String
  /-- The insert fails for another reason than a taken id. -/
  insertRaises : Bool := false

/-- The endpoint a subscription may be made for: active, of the wallet, and in notify mode. -/
def fetchNotifyEndpoint (wallet : EthAddress) (endpointId : EndpointId) (table : EndpointTable) :
    Except HttpException EndpointRow :=
  match (table.get? endpointId).filter EndpointRow.active with
  | none => .error ⟨404, "Endpoint not found"⟩
  | some row =>
    match verifyOwnership row wallet with
    | .error e => .error e
    | .ok _ =>
      if row.mode ≠ .notify then .error ⟨400, "Subscriptions are only for notify-mode endpoints"⟩
      else .ok row

/-- `INSERT INTO subscriptions`, which fails on a taken id and on a missing endpoint. -/
def TenantTables.insertSubscription? (tables : TenantTables) (row : SubscriptionRow) :
    Option TenantTables :=
  if h : tables.endpoints.get? row.endpointId ≠ none then
    match hins : tables.subscriptions.insert? row with
    | none => none
    | some subscriptions =>
      some ⟨tables.toRegistryTables, subscriptions, TenantTables.subscribed_insert? h hins⟩
  else none

/-- `create_subscription`.  The endpoint is there when its subscription is inserted, so the insert
fails on a taken id only. -/
def createSubscription (env : SubscriptionEnv) (wallet : EthAddress) (endpointId : EndpointId)
    (filters : SubscriptionFilter) (tables : TenantTables) :
    TenantTables × Except HttpException SubscriptionRow :=
  match fetchNotifyEndpoint wallet endpointId tables.endpoints with
  | .error e => (tables, .error e)
  | .ok _ =>
    let row : SubscriptionRow := { id := env.subscriptionId, endpointId, filters }
    if env.insertRaises then (tables, .error internalError)
    else
      match tables.insertSubscription? row with
      | none => (tables, .error ⟨409, "Subscription already exists"⟩)
      | some tables' => (tables', .ok row)

/-- `list_subscriptions`, also for an endpoint that is not active. -/
def listSubscriptions (wallet : EthAddress) (endpointId : EndpointId) (tables : TenantTables) :
    Except HttpException (List SubscriptionRow) := do
  let _ ← fetchOwned wallet endpointId tables.endpoints
  return tables.subscriptions.rows.filter fun s => decide (s.endpointId = endpointId) && s.active

/-- `{"active": False}`. -/
def SubscriptionRow.deactivated (row : SubscriptionRow) : SubscriptionRow :=
  { row with active := false }

@[simp]
theorem SubscriptionRow.id_deactivated (row : SubscriptionRow) : row.deactivated.id = row.id := rfl

@[simp]
theorem SubscriptionRow.endpointId_deactivated (row : SubscriptionRow) :
    row.deactivated.endpointId = row.endpointId := rfl

/-- `UPDATE subscriptions SET active = FALSE WHERE id = ...`. -/
def TenantTables.deactivateSubscription (tables : TenantTables) (id : String) : TenantTables where
  toRegistryTables := tables.toRegistryTables
  subscriptions := tables.subscriptions.updateWhere (fun s => s.id = id) SubscriptionRow.deactivated
    SubscriptionRow.id_deactivated
  subscribed := by
    intro s hs
    rw [KeyedTable.rows_updateWhere, List.mem_map] at hs
    obtain ⟨s', hs', rfl⟩ := hs
    have href := tables.subscribed s' hs'
    split_ifs
    · exact href
    · exact href

/-- `remove_subscription`; `raises` says whether the update fails. -/
def removeSubscription (raises : Bool) (wallet : EthAddress) (id : String) (tables : TenantTables) :
    TenantTables × Except HttpException Unit :=
  match tables.subscriptions.get? id with
  | none => (tables, .error ⟨404, "Subscription not found"⟩)
  | some s =>
    match tables.endpoints.get? s.endpointId with
    | none => (tables, .error ⟨404, "Parent endpoint not found"⟩)
    | some endpoint =>
      match verifyOwnership endpoint wallet with
      | .error e => (tables, .error e)
      | .ok _ =>
        if raises then (tables, .error internalError)
        else (tables.deactivateSubscription id, .ok ())

end TripWire
