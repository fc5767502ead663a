import TripWire.Api.Endpoints
import TripWire.Lib.Machine

/-!
# The endpoint quota

A wallet may own `max_endpoints_per_wallet` active endpoints.  Two of the four operations on
endpoints let it own more:

* the check counts the rows stored under the lower-case spelling of the wallet, and a REST
  registration stores the checksummed one, so it never counts an endpoint registered through REST;
* `update_endpoint` sets `active` back without any check.

`activeOwned_le_of_run` says that these are the only two ways: the quota holds in every run in which
a wallet that has reached it has all its endpoints stored in lower case when it registers another,
and reactivates none.
-/

namespace TripWire

open Py

/-- An operation on endpoints. -/
inductive EndpointOp where
  | register (env : RegistrationEnv) (wallet : EthAddress) (paid : Bool)
      (body : RegisterEndpointRequest)
  | create (env : RegistrationEnv) (agent : EthAddress) (provider : Bool)
      (params : CreateEndpointParams)
  | update (raises : Bool) (wallet : EthAddress) (id : EndpointId) (body : UpdateEndpointRequest)
  | deactivate (raises : Bool) (wallet : EthAddress) (id : EndpointId)

/-- The table after an operation. -/
def endpointStep (limit : ℕ) (table : EndpointTable) : EndpointOp → EndpointTable
  | .register env wallet paid body => (registerEndpoint limit env wallet paid body table).1
  | .create env agent provider params =>
    (createEndpointCore limit env agent provider params table).1
  | .update raises wallet id body => (updateEndpoint raises wallet id body table).1
  | .deactivate raises wallet id => (deactivateEndpoint raises wallet id table).1

/-- An active row that a wallet owns, whatever the spelling. -/
def EndpointRow.ownedBy (wallet : String) (row : EndpointRow) : Bool :=
  row.active && decide (lower row.ownerAddress = lower wallet)

theorem EndpointRow.ownedBy_iff {wallet : String} {row : EndpointRow} :
    row.ownedBy wallet = true ↔ row.active = true ∧ lower row.ownerAddress = lower wallet := by
  simp [ownedBy]

/-- The number of active endpoints a wallet owns. -/
def activeOwned (table : EndpointTable) (wallet : String) : ℕ :=
  table.rows.countP (EndpointRow.ownedBy wallet)

/-- No wallet owns more than `limit` active endpoints. -/
def QuotaHolds (limit : ℕ) (table : EndpointTable) : Prop :=
  ∀ wallet, activeOwned table wallet ≤ limit

/-- The check of a registration sees what it has to: the wallet is below the limit, or its active
endpoints are all stored under the lower-case spelling of its address. -/
def QuotaSeen (limit : ℕ) (table : EndpointTable) (wallet : String) : Prop :=
  activeOwned table wallet < limit ∨
    ∀ row ∈ table.rows, row.ownedBy wallet = true → row.ownerAddress = lower wallet

/-- The operations that keep to the quota: registrations whose check sees the wallet's endpoints,
and updates that do not reactivate an endpoint of a wallet that is at the limit. -/
def KeepsQuota (limit : ℕ) (table : EndpointTable) : EndpointOp → Prop
  | .register _ wallet _ _ => QuotaSeen limit table wallet
  | .create _ agent _ _ => QuotaSeen limit table agent
  | .update _ wallet id body =>
    body.active = some true →
      ∀ row ∈ table.rows, row.id = id → row.active = false →
        lower row.ownerAddress = lower wallet.val → activeOwned table wallet < limit
  | .deactivate .. => True

/-! ### Registrations -/

/-- The count of the check is the number of endpoints where all of them are stored in lower case. -/
theorem countOwned_eq_activeOwned {table : EndpointTable} {wallet : String}
    (h : ∀ row ∈ table.rows, row.ownedBy wallet = true → row.ownerAddress = lower wallet) :
    table.countOwned wallet = activeOwned table wallet := by
  rw [EndpointTable.countOwned, activeOwned, List.countP_eq_length_filter]
  congr 1
  apply List.filter_congr
  intro row hrow
  rw [Bool.eq_iff_iff]
  constructor
  · intro hc
    simp only [Bool.and_eq_true, decide_eq_true_eq] at hc
    exact EndpointRow.ownedBy_iff.mpr ⟨hc.2, by rw [hc.1, lower_lower]⟩
  · intro howned
    have howner := h row hrow howned
    simp [howner, (EndpointRow.ownedBy_iff.mp howned).1]

theorem ownedBy_congr {wallet wallet' : String} (h : lower wallet = lower wallet')
    (row : EndpointRow) : row.ownedBy wallet = row.ownedBy wallet' := by
  rw [EndpointRow.ownedBy, EndpointRow.ownedBy, h]

theorem activeOwned_congr {wallet wallet' : String} (h : lower wallet = lower wallet')
    (table : EndpointTable) : activeOwned table wallet = activeOwned table wallet' := by
  have hsame : EndpointRow.ownedBy wallet = EndpointRow.ownedBy wallet' :=
    funext (ownedBy_congr h)
  rw [activeOwned, activeOwned, hsame]

/-- A registration whose check sees the wallet's endpoints keeps the quota. -/
theorem QuotaHolds.adds {limit : ℕ} {table table' : EndpointTable} (h : QuotaHolds limit table)
    {env : RegistrationEnv} {wallet : EthAddress} {base : EndpointRow}
    (hadds : Adds limit env wallet base table table')
    (howner : lower base.ownerAddress = lower wallet.val) (hseen : QuotaSeen limit table wallet) :
    QuotaHolds limit table' := by
  rcases hadds with rfl | ⟨hcount, -, row, hrow, hrows⟩
  · exact h
  -- the check passed, so the wallet really was below the limit
  have hbelow : activeOwned table wallet < limit := by
    rcases hseen with hlt | hlower
    · exact hlt
    · rw [← countOwned_eq_activeOwned hlower]
      exact hcount
  have hrowOwner : row.ownerAddress = base.ownerAddress := by
    rcases hrow with rfl | rfl <;> rfl
  intro other
  have hother := h other
  rw [activeOwned] at hother ⊢
  rw [hrows, List.countP_append, List.countP_singleton]
  by_cases hmine : lower wallet.val = lower other
  · rw [activeOwned_congr hmine, activeOwned] at hbelow
    split <;> omega
  · -- the new endpoint is somebody else's
    have hnot : ¬ row.ownedBy other = true := by
      rw [EndpointRow.ownedBy_iff, hrowOwner, howner]
      exact fun howned => hmine howned.2
    rw [if_neg hnot]
    exact hother

/-! ### Changes -/

/-- The routes that change an endpoint return only a row that the wallet owns. -/
theorem fetchOwned_eq_ok {wallet : EthAddress} {id : EndpointId} {table : EndpointTable}
    {row : EndpointRow} (h : fetchOwned wallet id table = .ok row) :
    table.get? id = some row ∧ lower row.ownerAddress = lower wallet.val := by
  unfold fetchOwned at h
  cases hget : table.get? id with
  | none => simp [hget] at h
  | some row' =>
    simp only [hget, verifyOwnership] at h
    by_cases howner : lower row'.ownerAddress = lower wallet.val
    · simp only [howner, ne_eq, not_true_eq_false, if_false] at h
      obtain rfl : row' = row := Except.ok.inj h
      exact ⟨rfl, howner⟩
    · simp only [ne_eq, howner, not_false_eq_true, if_true] at h
      cases h

/-- An update moves the count of every wallet by what it does to one row. -/
theorem activeOwned_update {table : EndpointTable} {id : EndpointId} {row : EndpointRow}
    (hget : table.get? id = some row) (body : UpdateEndpointRequest) (wallet : String) :
    activeOwned (table.update id body) wallet + (if row.ownedBy wallet then 1 else 0) =
      activeOwned table wallet + if (row.updated body).ownedBy wallet then 1 else 0 := by
  obtain ⟨before, rest, hrows, hrows'⟩ :=
    KeyedTable.rows_updateWhere_key hget (EndpointRow.id_updated body)
  rw [activeOwned, activeOwned, EndpointTable.update, hrows', hrows, List.countP_append,
    List.countP_append, List.countP_cons, List.countP_cons]
  omega

/-- An update that reactivates nothing of a wallet at the limit keeps the quota. -/
theorem QuotaHolds.update {limit : ℕ} {table : EndpointTable} (h : QuotaHolds limit table)
    {id : EndpointId} {row : EndpointRow} (hget : table.get? id = some row)
    (body : UpdateEndpointRequest)
    (hkeep : body.active = some true → row.active = false →
      activeOwned table row.ownerAddress < limit) :
    QuotaHolds limit (table.update id body) := by
  intro other
  have hcount := activeOwned_update hget body other
  have hother := h other
  by_cases hgain : (row.updated body).ownedBy other = true ∧ row.ownedBy other = false
  · -- the row was inactive and is active now
    obtain ⟨hnew, hold⟩ := hgain
    obtain ⟨hactive, howner⟩ := EndpointRow.ownedBy_iff.mp hnew
    change lower row.ownerAddress = lower other at howner
    have hinactive : row.active = false := by
      by_contra hne
      rw [EndpointRow.ownedBy_iff.mpr ⟨Bool.of_not_eq_false hne, howner⟩] at hold
      cases hold
    have hbody : body.active = some true := by
      change body.active.getD row.active = true at hactive
      rw [hinactive] at hactive
      cases hb : body.active with
      | none => simp [hb] at hactive
      | some b => simpa [hb] using hactive
    have hbelow := hkeep hbody hinactive
    rw [activeOwned_congr howner] at hbelow
    rw [hnew, hold] at hcount
    simp only [if_true, Bool.false_eq_true, if_false] at hcount
    omega
  · have hle : (if (row.updated body).ownedBy other then 1 else 0) ≤
        if row.ownedBy other then 1 else 0 := by
      split <;> split <;> simp_all
    omega

/-! ### The theorem -/

theorem QuotaHolds.step {limit : ℕ} {table : EndpointTable} {op : EndpointOp}
    (h : QuotaHolds limit table) (hop : KeepsQuota limit table op) :
    QuotaHolds limit (endpointStep limit table op) := by
  cases op with
  | register env wallet paid body =>
    exact h.adds (registerEndpoint_adds limit env wallet paid body table) rfl hop
  | create env agent provider params =>
    obtain ⟨policies, hadds⟩ := createEndpointCore_adds limit env agent provider params table
    exact h.adds hadds (lower_lower agent.val) hop
  | update raises wallet id body =>
    show QuotaHolds limit (updateEndpoint raises wallet id body table).1
    unfold updateEndpoint
    split
    · exact h
    · rename_i row hfetch
      obtain ⟨hget, howner⟩ := fetchOwned_eq_ok hfetch
      obtain ⟨hmem, hid⟩ := KeyedTable.get?_eq_some_iff.mp hget
      have hkeep : body.active = some true → row.active = false →
          activeOwned table row.ownerAddress < limit := by
        intro hactive hinactive
        rw [activeOwned_congr howner]
        exact hop hactive row hmem hid hinactive howner
      split_ifs
      · exact h
      · exact h
      · exact h.update hget body hkeep
  | deactivate raises wallet id =>
    show QuotaHolds limit (deactivateEndpoint raises wallet id table).1
    unfold deactivateEndpoint
    split
    · exact h
    · rename_i row hfetch
      obtain ⟨hget, -⟩ := fetchOwned_eq_ok hfetch
      split_ifs
      · exact h
      · exact h.update hget _ (fun hactive => by cases hactive)

/-- **When the endpoint quota holds.** From every table in which it holds, in every run of
registrations, updates and deactivations in which a wallet that has reached the limit registers only
while all its active endpoints are stored in lower case, and reactivates none of its endpoints, no
wallet ever owns more than `limit` active endpoints. -/
theorem activeOwned_le_of_run (limit : ℕ) (table : EndpointTable) (h : QuotaHolds limit table)
    (ops : List EndpointOp)
    (hops : Machine.Meets (endpointStep limit) (KeepsQuota limit) table ops) (wallet : String) :
    activeOwned (Machine.run (endpointStep limit) table ops) wallet ≤ limit :=
  Machine.run_induction (fun _ _ hs hop => hs.step hop) h hops wallet

namespace Sample

/-- A wallet in the spelling that `recover_message` returns. -/
def wallet : EthAddress := ⟨"0xf39Fd6e51aad88F6F4ce6aB8827279cffFb92266", by decide⟩

/-- A REST registration by this wallet. -/
def restRegister (id : EndpointId) : EndpointOp :=
  .register { endpointId := id } wallet false
    { url := "https://example.com/hook", mode := .notify, chains := onBase,
      recipient := payee }

/-- An MCP registration by this wallet. -/
def mcpCreate (id : EndpointId) : EndpointOp :=
  .create { endpointId := id } wallet false { url := "https://example.com/hook", mode := .notify }

end Sample

/-- Registrations through MCP stop at the limit. -/
theorem activeOwned_le_of_run_mcp :
    activeOwned (Machine.run (endpointStep 1) .empty
      [Sample.mcpCreate "first", Sample.mcpCreate "second"]) Sample.wallet.val ≤ 1 :=
  activeOwned_le_of_run 1 .empty (fun _ => Nat.zero_le 1)
    [Sample.mcpCreate "first", Sample.mcpCreate "second"]
    ⟨.inl (by decide +kernel), .inr (by decide +kernel), trivial⟩ Sample.wallet.val

/-- With a limit of one endpoint a wallet owns two after two REST registrations, and likewise after
a deactivation, an MCP registration and a reactivation. -/
theorem activeOwned_exceeds_limit :
    activeOwned (Machine.run (endpointStep 1) .empty
        [Sample.restRegister "first", Sample.restRegister "second"]) Sample.wallet.val = 2 ∧
      activeOwned (Machine.run (endpointStep 1) .empty
        [Sample.mcpCreate "first", .deactivate false Sample.wallet "first",
          Sample.mcpCreate "second",
          .update false Sample.wallet "first" { active := some true }]) Sample.wallet.val = 2 := by
  decide +kernel

end TripWire
