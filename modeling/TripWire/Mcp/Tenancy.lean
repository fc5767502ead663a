import TripWire.Lib.Noninterference
import TripWire.Mcp.Tenants

/-!
# Tenants do not see each other

`tenants_isolated` says that what a wallet owns does not depend on the other wallets: after any run
of calls by any wallets it is the same as after the calls of the wallet alone.  The one assumption
is that the ids generated for the wallet's own rows (`nanoid(size=21)`) are not in use when they are
generated.

The step is that of `Mcp.Tenants` for endpoints and triggers; the subscriptions, which have no owner
of their own, follow the endpoint they belong to.
-/

namespace TripWire

open Py KeyedTable

/-! ### Subscriptions -/

section Subscriptions

variable {wallet agent : EthAddress}

/-- `create_subscription` accepts the endpoint. -/
def subscribes (wallet : EthAddress) (endpointId : EndpointId) (table : EndpointTable) : Bool :=
  (fetchNotifyEndpoint wallet endpointId table).isOk

theorem subscribes_iff {endpointId : EndpointId} {table : EndpointTable} :
    subscribes wallet endpointId table = true ↔
      ∃ row, table.get? endpointId = some row ∧ lower row.ownerAddress = lower wallet.val ∧
        row.active = true ∧ row.mode = .notify := by
  unfold subscribes fetchNotifyEndpoint verifyOwnership
  cases hget : table.get? endpointId with
  | none => simp [Except.isOk, Except.toBool]
  | some row =>
    rw [Option.filter_some]
    cases hactive : row.active with
    | false => simp [hactive, Except.isOk, Except.toBool]
    | true =>
      by_cases howner : lower row.ownerAddress = lower wallet.val
      · by_cases hmode : row.mode = .notify
        · simp [hactive, howner, hmode, Except.isOk, Except.toBool]
        · simp [hactive, howner, hmode, Except.isOk, Except.toBool]
      · simp [hactive, howner, Except.isOk, Except.toBool]

/-- An insert for an endpoint that exists is an insert into the table of subscriptions. -/
theorem insertSubscription?_spec {tables : TenantTables} (row : SubscriptionRow)
    (hendpoint : tables.endpoints.get? row.endpointId ≠ none) :
    (tables.insertSubscription? row = none ∧
        tables.subscriptions.insertOrSkip row = tables.subscriptions) ∨
      ∃ tables', tables.insertSubscription? row = some tables' ∧
        tables'.toRegistryTables = tables.toRegistryTables ∧
          tables'.subscriptions = tables.subscriptions.insertOrSkip row := by
  unfold TenantTables.insertSubscription? KeyedTable.insertOrSkip
  rw [dif_pos hendpoint]
  split
  · rename_i hins
    exact .inl ⟨rfl, by rw [hins, Option.getD_none]⟩
  · rename_i subscriptions hins
    exact .inr ⟨_, rfl, rfl, by simp [hins]⟩

/-- `create_subscription` inserts a row for an endpoint it accepts, or does nothing. -/
theorem createSubscription_spec (wallet : EthAddress) (env : SubscriptionEnv)
    (endpointId : EndpointId) (filters : SubscriptionFilter) (tables : TenantTables) :
    (createSubscription env wallet endpointId filters tables).1.toRegistryTables =
        tables.toRegistryTables ∧
      (createSubscription env wallet endpointId filters tables).1.subscriptions =
        if subscribes wallet endpointId tables.endpoints && !env.insertRaises then
          tables.subscriptions.insertOrSkip { id := env.subscriptionId, endpointId, filters }
        else tables.subscriptions := by
  unfold createSubscription
  cases hsub : subscribes wallet endpointId tables.endpoints with
  | false =>
    cases hfetch : fetchNotifyEndpoint wallet endpointId tables.endpoints with
    | error e => exact ⟨rfl, rfl⟩
    | ok row =>
      rw [subscribes, hfetch] at hsub
      cases hsub
  | true =>
    obtain ⟨row, hrow, -⟩ := subscribes_iff.mp hsub
    have hendpoint : tables.endpoints.get? endpointId ≠ none := by
      rw [hrow]
      exact Option.some_ne_none row
    cases hfetch : fetchNotifyEndpoint wallet endpointId tables.endpoints with
    | error e =>
      rw [subscribes, hfetch] at hsub
      cases hsub
    | ok row =>
      cases hraises : env.insertRaises with
      | true => exact ⟨rfl, rfl⟩
      | false =>
        rcases insertSubscription?_spec { id := env.subscriptionId, endpointId, filters }
            hendpoint with ⟨hnone, hskip⟩ | ⟨tables', hsome, hregistry, hsubs⟩
        · simp only [Bool.false_eq_true, if_false, hnone]
          exact ⟨trivial, hskip.symm⟩
        · simp only [Bool.false_eq_true, if_false, hsome]
          exact ⟨hregistry, hsubs⟩

/-- `remove_subscription` accepts the subscription. -/
def unsubscribes (wallet : EthAddress) (id : String) (tables : TenantTables) : Bool :=
  (tables.subscriptions.get? id).any fun s => ownsEndpoint wallet s.endpointId tables.endpoints

theorem unsubscribes_iff {id : String} {tables : TenantTables} :
    unsubscribes wallet id tables = true ↔ ∃ s row, tables.subscriptions.get? id = some s ∧
      tables.endpoints.get? s.endpointId = some row ∧
        lower row.ownerAddress = lower wallet.val := by
  unfold unsubscribes
  rw [Option.any_eq_true]
  constructor
  · rintro ⟨s, hs, howns⟩
    obtain ⟨row, hrow, howner⟩ := ownsEndpoint_iff.mp howns
    exact ⟨s, row, hs, hrow, howner⟩
  · rintro ⟨s, row, hs, hrow, howner⟩
    exact ⟨s, hs, ownsEndpoint_iff.mpr ⟨row, hrow, howner⟩⟩

/-- `remove_subscription` deactivates a subscription it accepts, or does nothing. -/
theorem removeSubscription_spec (wallet : EthAddress) (raises : Bool) (id : String)
    (tables : TenantTables) :
    (removeSubscription raises wallet id tables).1.toRegistryTables = tables.toRegistryTables ∧
      (removeSubscription raises wallet id tables).1.subscriptions =
        if unsubscribes wallet id tables && !raises then
          tables.subscriptions.updateWhere (fun s => s.id = id) SubscriptionRow.deactivated
            SubscriptionRow.id_deactivated
        else tables.subscriptions := by
  unfold removeSubscription unsubscribes
  cases hget : tables.subscriptions.get? id with
  | none => exact ⟨rfl, rfl⟩
  | some s =>
    -- the foreign key: the endpoint of the subscription is there
    obtain ⟨row, hrow⟩ :=
      Option.ne_none_iff_exists'.mp (tables.subscribed s (get?_eq_some_iff.mp hget).1)
    have howns : ownsEndpoint wallet s.endpointId tables.endpoints =
        (verifyOwnership row wallet).isOk := by
      rw [ownsEndpoint, fetchOwned, hrow]
      dsimp only
      cases verifyOwnership row wallet <;> rfl
    simp only [Option.any_some, hrow, howns]
    cases howner : verifyOwnership row wallet with
    | error e => exact ⟨rfl, rfl⟩
    | ok _ =>
      cases raises with
      | true => exact ⟨rfl, rfl⟩
      | false => exact ⟨rfl, rfl⟩

/-- Where the owners are kept, a subscription stays with its wallet. -/
theorem SubscriptionRow.ofWallet_kept {t t' : EndpointTable} (h : OwnersKept t t')
    {s : SubscriptionRow} (hs : t.get? s.endpointId ≠ none) :
    s.ofWallet wallet t' = s.ofWallet wallet t := by
  obtain ⟨row, hrow⟩ := Option.ne_none_iff_exists'.mp hs
  obtain ⟨row', hrow', howner⟩ := h s.endpointId row hrow
  have hsame : row'.ofWallet wallet = row.ofWallet wallet := by
    rw [EndpointRow.ofWallet, EndpointRow.ofWallet, howner]
  rw [SubscriptionRow.ofWallet, SubscriptionRow.ofWallet, hrow, hrow', Option.filter_some,
    Option.filter_some, hsame]
  split_ifs
  · rfl
  · rfl

theorem SubscriptionRow.ofWallet_within {u t : EndpointTable}
    (h : Within (EndpointRow.ofWallet wallet) u t) (s : SubscriptionRow) :
    s.ofWallet wallet u = s.ofWallet wallet t := by
  rw [SubscriptionRow.ofWallet, SubscriptionRow.ofWallet, h.get?]

/-- The subscriptions of an endpoint are those of its owner. -/
theorem SubscriptionRow.ofWallet_eq {t : EndpointTable} {s : SubscriptionRow} {row : EndpointRow}
    (hrow : t.get? s.endpointId = some row) (howner : lower row.ownerAddress = lower agent.val) :
    s.ofWallet wallet t = decide (lower agent.val = lower wallet.val) := by
  rw [SubscriptionRow.ofWallet, hrow, Option.filter_some,
    EndpointRow.ofWallet_of_ownedBy howner rfl]
  cases decide (lower agent.val = lower wallet.val) <;> rfl

/-- **A listing shows the wallet's own rows**: the active subscriptions of the endpoint in its
view. -/
theorem listSubscriptions_view {id : EndpointId} {tables : TenantTables}
    {rows : List SubscriptionRow} (h : listSubscriptions wallet id tables = .ok rows) :
    rows = (tables.view wallet).subscriptions.filter fun s =>
      decide (s.endpointId = id) && s.active := by
  unfold listSubscriptions at h
  cases hfetch : fetchOwned wallet id tables.endpoints with
  | error e =>
    rw [hfetch] at h
    cases h
  | ok row =>
    obtain ⟨hrow, howner⟩ := fetchOwned_eq_ok hfetch
    rw [hfetch] at h
    obtain rfl := Except.ok.inj h
    show _ = (tables.subscriptions.rows.filter _).filter _
    rw [List.filter_filter]
    refine List.filter_congr fun s _ => ?_
    by_cases hid : s.endpointId = id
    · rw [← hid] at hrow
      rw [SubscriptionRow.ofWallet_eq hrow howner, decide_eq_true rfl, Bool.and_true]
    · rw [decide_eq_false hid]
      rfl

end Subscriptions

/-! ### What a wallet sees -/

/-- The wallet's rows are the same in `u` as in `t`, and no id that is free in `t` is taken in
`u`. -/
structure Seen (wallet : EthAddress) (u t : TenantTables) : Prop
    extends RegistrySeen wallet u.toRegistryTables t.toRegistryTables where
  subscriptions :
    Within (SubscriptionRow.ofWallet wallet t.endpoints) u.subscriptions t.subscriptions

section Seen

variable {wallet agent : EthAddress} {u t : TenantTables}

theorem Seen.refl (wallet : EthAddress) (t : TenantTables) : Seen wallet t t :=
  ⟨.refl wallet t.toRegistryTables, .refl _ t.subscriptions⟩

theorem Seen.view (h : Seen wallet u t) : u.view wallet = t.view wallet := by
  have howner : SubscriptionRow.ofWallet wallet u.endpoints =
      SubscriptionRow.ofWallet wallet t.endpoints :=
    funext fun s => SubscriptionRow.ofWallet_within h.endpoints s
  rw [TenantTables.view, TenantTables.view, h.endpoints.part, h.triggers.part, howner,
    h.subscriptions.part]

/-- One more step of the run with the others. -/
theorem Seen.trans {t' : TenantTables} (h : Seen wallet u t) (h' : Seen wallet t t') :
    Seen wallet u t' where
  endpoints := h.endpoints.trans h'.endpoints
  triggers := h.triggers.trans h'.triggers
  subscriptions := by
    have howner (s : SubscriptionRow) :
        s.ofWallet wallet t'.endpoints = s.ofWallet wallet t.endpoints :=
      (SubscriptionRow.ofWallet_within h'.endpoints s).symm
    exact (h.subscriptions.congr (fun s _ => howner s) (fun s _ => howner s)).trans
      h'.subscriptions

/-- A change of the registry that is not seen. -/
theorem Seen.withRegistry_others {r : RegistryTables} (h : RegistrySeen wallet t.toRegistryTables r)
    (hkept : OwnersKept t.endpoints r.endpoints) : Seen wallet t (t.withRegistry r) where
  toRegistrySeen := h
  subscriptions := by
    show Within _ t.subscriptions (TenantTables.cascade t.subscriptions r)
    rw [TenantTables.cascade_eq_self fun _ => hkept.free]
    exact .refl _ t.subscriptions

/-- A change of both registries that is seen as the same. -/
theorem Seen.withRegistry_both {r r' : RegistryTables} (h : Seen wallet u t)
    (hseen : RegistrySeen wallet r' r) (hkept : OwnersKept t.endpoints r.endpoints)
    (hkept' : OwnersKept u.endpoints r'.endpoints) :
    Seen wallet (u.withRegistry r') (t.withRegistry r) where
  toRegistrySeen := hseen
  subscriptions := by
    show Within (SubscriptionRow.ofWallet wallet r.endpoints)
      (TenantTables.cascade u.subscriptions r') (TenantTables.cascade t.subscriptions r)
    rw [TenantTables.cascade_eq_self fun _ => hkept.free,
      TenantTables.cascade_eq_self fun _ => hkept'.free]
    apply h.subscriptions.congr
    · intro s hs
      rw [← SubscriptionRow.ofWallet_within hseen.endpoints,
        SubscriptionRow.ofWallet_kept hkept' (u.subscribed s hs),
        SubscriptionRow.ofWallet_within h.endpoints]
    · intro s hs
      exact SubscriptionRow.ofWallet_kept hkept (t.subscribed s hs)

/-- The wallet may subscribe to the same endpoints. -/
theorem subscribes_within {u t : EndpointTable} (h : Within (EndpointRow.ofWallet wallet) u t)
    (hmine : lower agent.val = lower wallet.val) (endpointId : EndpointId) :
    subscribes agent endpointId u = subscribes agent endpointId t := by
  rw [Bool.eq_iff_iff, subscribes_iff, subscribes_iff]
  have hwallet (row : EndpointRow) (howner : lower row.ownerAddress = lower agent.val) :
      row.ofWallet wallet = true := by
    rw [EndpointRow.ofWallet_of_ownedBy howner rfl]
    exact decide_eq_true hmine
  constructor
  · rintro ⟨row, hrow, howner, hrest⟩
    exact ⟨row, (h.get?_eq_some (hwallet row howner)).mp hrow, howner, hrest⟩
  · rintro ⟨row, hrow, howner, hrest⟩
    exact ⟨row, (h.get?_eq_some (hwallet row howner)).mpr hrow, howner, hrest⟩

/-- The wallet may remove the same subscriptions. -/
theorem unsubscribes_seen (h : Seen wallet u t) (hmine : lower agent.val = lower wallet.val)
    (id : String) : unsubscribes agent id u = unsubscribes agent id t := by
  rw [Bool.eq_iff_iff, unsubscribes_iff, unsubscribes_iff]
  have hwallet (table : EndpointTable) (s : SubscriptionRow) (row : EndpointRow)
      (hrow : table.get? s.endpointId = some row)
      (howner : lower row.ownerAddress = lower agent.val) :
      row.ofWallet wallet = true ∧ s.ofWallet wallet table = true := by
    rw [SubscriptionRow.ofWallet_eq hrow howner, EndpointRow.ofWallet_of_ownedBy howner rfl]
    exact ⟨decide_eq_true hmine, decide_eq_true hmine⟩
  constructor
  · rintro ⟨s, row, hs, hrow, howner⟩
    obtain ⟨hown, hsub⟩ := hwallet u.endpoints s row hrow howner
    rw [SubscriptionRow.ofWallet_within h.endpoints] at hsub
    exact ⟨s, row, (h.subscriptions.get?_eq_some hsub).mp hs,
      (h.endpoints.get?_eq_some hown).mp hrow, howner⟩
  · rintro ⟨s, row, hs, hrow, howner⟩
    obtain ⟨hown, hsub⟩ := hwallet t.endpoints s row hrow howner
    exact ⟨s, row, (h.subscriptions.get?_eq_some hsub).mpr hs,
      (h.endpoints.get?_eq_some hown).mpr hrow, howner⟩

end Seen

/-! ### Runs -/

section Runs

variable (keccak256 : List UInt8 → List UInt8) (limits : RegistryLimits) {wallet : EthAddress}
  {u t : TenantTables}

/-- A call for a subscription leaves the registry alone. -/
theorem Seen.of_subscriptions {u' t' : TenantTables} (h : Seen wallet u t)
    (hu : u'.toRegistryTables = u.toRegistryTables) (ht : t'.toRegistryTables = t.toRegistryTables)
    (hsub : Within (SubscriptionRow.ofWallet wallet t.endpoints) u'.subscriptions
      t'.subscriptions) : Seen wallet u' t' where
  toRegistrySeen := by
    rw [hu, ht]
    exact h.toRegistrySeen
  subscriptions := by
    rw [ht]
    exact hsub

/-- **A call by another wallet is not seen.** -/
theorem tenantStep_others {op : TenantOp} (hother : op.isBy wallet = false) :
    Seen wallet t (tenantStep keccak256 limits t op) := by
  have hne : lower op.wallet.val ≠ lower wallet.val := of_decide_eq_false hother
  have hregistry : Seen wallet t
      (t.withRegistry (registryStep keccak256 limits t.toRegistryTables op)) :=
    .withRegistry_others (registryStep_others keccak256 limits hother)
      (ownersKept_registryStep keccak256 limits t.toRegistryTables op)
  cases op with
  | endpoint op => exact hregistry
  | registerMiddleware env provider agent params => exact hregistry
  | createTrigger env agent params => exact hregistry
  | activateTemplate env agent params => exact hregistry
  | deleteTrigger env agent triggerId => exact hregistry
  | subscribe env agent endpointId filters =>
    obtain ⟨hsame, hsubs⟩ := createSubscription_spec agent env endpointId filters t
    refine (Seen.refl wallet t).of_subscriptions rfl hsame ?_
    show Within _ t.subscriptions
      (createSubscription env agent endpointId filters t).1.subscriptions
    rw [hsubs]
    split_ifs with hsub
    · obtain ⟨row, hrow, howner, -⟩ := subscribes_iff.mp (Bool.and_eq_true_iff.mp hsub).1
      apply Within.append (P := fun s => s.endpointId = endpointId) (.insertOrSkip rfl Iff.rfl)
      intro s hs
      rw [SubscriptionRow.ofWallet_eq (hs ▸ hrow) howner]
      exact decide_eq_false hne
    · exact .refl _ t.subscriptions
  | unsubscribe raises agent id =>
    obtain ⟨hsame, hsubs⟩ := removeSubscription_spec agent raises id t
    refine (Seen.refl wallet t).of_subscriptions rfl hsame ?_
    show Within _ t.subscriptions (removeSubscription raises agent id t).1.subscriptions
    rw [hsubs]
    split_ifs with hsub
    · obtain ⟨s, row, hs, hrow, howner⟩ := unsubscribes_iff.mp (Bool.and_eq_true_iff.mp hsub).1
      have hnot : s.ofWallet wallet t.endpoints = false := by
        rw [SubscriptionRow.ofWallet_eq hrow howner]
        exact decide_eq_false hne
      exact .updateKey SubscriptionRow.id_deactivated hs hnot hnot
    · exact .refl _ t.subscriptions

/-- **A call by the wallet is seen as the same in both tables.** -/
theorem tenantStep_mine {op : TenantOp} (hmine : op.isBy wallet = true) (h : Seen wallet u t)
    (hfresh : op.Fresh t) :
    Seen wallet (tenantStep keccak256 limits u op) (tenantStep keccak256 limits t op) := by
  have heq : lower op.wallet.val = lower wallet.val := of_decide_eq_true hmine
  have hregistry : Seen wallet
      (u.withRegistry (registryStep keccak256 limits u.toRegistryTables op))
      (t.withRegistry (registryStep keccak256 limits t.toRegistryTables op)) :=
    h.withRegistry_both (registryStep_mine keccak256 limits hmine h.toRegistrySeen hfresh)
      (ownersKept_registryStep keccak256 limits t.toRegistryTables op)
      (ownersKept_registryStep keccak256 limits u.toRegistryTables op)
  cases op with
  | endpoint op => exact hregistry
  | registerMiddleware env provider agent params => exact hregistry
  | createTrigger env agent params => exact hregistry
  | activateTemplate env agent params => exact hregistry
  | deleteTrigger env agent triggerId => exact hregistry
  | subscribe env agent endpointId filters =>
    obtain ⟨hsame, hsubs⟩ := createSubscription_spec agent env endpointId filters t
    obtain ⟨hsame', hsubs'⟩ := createSubscription_spec agent env endpointId filters u
    have haccepts : subscribes agent endpointId u.endpoints =
        subscribes agent endpointId t.endpoints := subscribes_within h.endpoints heq endpointId
    refine h.of_subscriptions hsame' hsame ?_
    show Within _ (createSubscription env agent endpointId filters u).1.subscriptions
      (createSubscription env agent endpointId filters t).1.subscriptions
    rw [hsubs, hsubs', haccepts]
    split_ifs
    · have hid := iff_of_true (h.subscriptions.free _ hfresh) hfresh
      exact h.subscriptions.sameNew (.insertOrSkip (P := fun _ => True) trivial hid)
    · exact h.subscriptions
  | unsubscribe raises agent id =>
    obtain ⟨hsame, hsubs⟩ := removeSubscription_spec agent raises id t
    obtain ⟨hsame', hsubs'⟩ := removeSubscription_spec agent raises id u
    have haccepts : unsubscribes agent id u = unsubscribes agent id t := unsubscribes_seen h heq id
    refine h.of_subscriptions hsame' hsame ?_
    show Within _ (removeSubscription raises agent id u).1.subscriptions
      (removeSubscription raises agent id t).1.subscriptions
    rw [hsubs, hsubs', haccepts]
    split_ifs
    · exact h.subscriptions.updateWhere_both SubscriptionRow.id_deactivated fun _ _ => rfl
    · exact h.subscriptions

/-- **Tenants do not see each other.** After any run of calls by any wallets, in which no call of
`wallet` generates an id that is in use, the wallet's endpoints, triggers and subscriptions are what
they are after its own calls alone. -/
theorem tenants_isolated (wallet : EthAddress) (tables : TenantTables) (ops : List TenantOp)
    (hfresh : Machine.Meets (tenantStep keccak256 limits)
      (fun t op => op.isBy wallet = true → op.Fresh t) tables ops) :
    (Machine.run (tenantStep keccak256 limits) tables ops).view wallet =
      (Machine.run (tenantStep keccak256 limits) tables
        (ops.filter (TenantOp.isBy wallet))).view wallet := by
  have hothers (s t : TenantTables) (op : TenantOp) (h : Seen wallet t s)
      (hother : op.isBy wallet = false) : Seen wallet t (tenantStep keccak256 limits s op) :=
    h.trans (tenantStep_others keccak256 limits hother)
  have hmine (s t : TenantTables) (op : TenantOp) (h : Seen wallet t s) (hop : op.Fresh s)
      (hby : op.isBy wallet = true) :
      Seen wallet (tenantStep keccak256 limits t op) (tenantStep keccak256 limits s op) :=
    tenantStep_mine keccak256 limits hby h hop
  exact (Machine.unwinding hothers hmine (.refl wallet tables) hfresh).view.symm

end Runs

namespace Sample

/-- Nothing is stored. -/
def noTenantTables : TenantTables where
  toRegistryTables := noTables
  subscriptions := .empty
  subscribed := fun s hs => by cases hs

/-- A wallet sets up an endpoint with a trigger and a subscription.  In between, another wallet
registers an endpoint of its own and tries to take over those of the first. -/
def tenantRun : List TenantOp :=
  [.endpoint (restRegister "first"),
    .endpoint (.create { endpointId := "second" } payer false
      { url := "https://example.com/hook", mode := .notify }),
    .endpoint (.update false payer "first" { url := some "https://example.org/hook" }),
    .createTrigger { triggerId := "trigger" } wallet
      { eventSignature := some "Transfer(address,address,uint256)", endpointId := some "first" },
    .createTrigger { triggerId := "spy" } payer
      { eventSignature := some "Transfer(address,address,uint256)", endpointId := some "first" },
    .subscribe { subscriptionId := "subscription" } wallet "first" {},
    .deleteTrigger { triggerId := "" } payer (some "trigger"),
    .unsubscribe false payer "subscription",
    .endpoint (.deactivate false payer "first")]

end Sample

/-- The first wallet does not notice the second. -/
theorem tenants_isolated_run :
    (Machine.run (tenantStep id {}) Sample.noTenantTables Sample.tenantRun).view Sample.wallet =
      (Machine.run (tenantStep id {}) Sample.noTenantTables
        (Sample.tenantRun.filter (TenantOp.isBy Sample.wallet))).view Sample.wallet := by
  have hother (op : TenantOp) (h : op.isBy Sample.wallet = false) (t : TenantTables)
      (hby : op.isBy Sample.wallet = true) : op.Fresh t := by
    rw [h] at hby
    cases hby
  apply tenants_isolated
  refine ⟨fun _ => ?_, hother _ ?_ _, hother _ ?_ _, fun _ => ?_, hother _ ?_ _, fun _ => ?_,
    hother _ ?_ _, hother _ ?_ _, hother _ ?_ _, trivial⟩
  · rfl
  · decide +kernel
  · decide +kernel
  · show get? _ "trigger" = none
    decide +kernel
  · decide +kernel
  · show get? _ "subscription" = none
    decide +kernel
  · decide +kernel
  · decide +kernel
  · decide +kernel

end TripWire
