import Mathlib
import TripWire.Api.Endpoints
import TripWire.Lib.Keyset

/-!
# Listing events and deliveries

`list_events`, `list_endpoint_events` (`tripwire/api/routes/events.py`) and `list_deliveries`
(`tripwire/api/routes/deliveries.py`) show the rows of a wallet newest first, page by page.  The
cursor is the id of the last row of a page, and the next page starts strictly before its
`created_at`.

Rows that share a `created_at` with the last row of a page and are not on it are on no page:
`pagination_exhaustive_iff`.
-/

namespace TripWire

open Py

/-! ### The tables -/

/-- A row of the `webhook_deliveries` table, as it is listed. -/
structure DeliveryRecord where
  id : ℕ
  endpointId : EndpointId
  eventId : EventId
  providerMessageId : Option String
  status : String
  createdAt : ℤ
  deriving DecidableEq

/-- The tables that the listings read. -/
structure ListingTables where
  endpoints : EndpointTable := .empty
  events : KeyedTable EventRow.id := .empty
  eventEndpoints : List (EventId × EndpointId) := []
  deliveries : KeyedTable DeliveryRecord.id := .empty

/-- `Query(50, ge=1, le=200)`. -/
abbrev PageLimit := {limit : ℕ // 1 ≤ limit ∧ limit ≤ 200}

/-- `_get_wallet_endpoint_ids`. -/
def ListingTables.walletEndpointIds (db : ListingTables) (walletAddress : String) :
    List EndpointId :=
  (db.endpoints.rows.filter fun row => row.ownerAddress = walletAddress).map EndpointRow.id

/-- The endpoint is there, and `_verify_endpoint_ownership`. -/
def ListingTables.verifyEndpointOwnership (db : ListingTables) (endpointId : EndpointId)
    (walletAddress : String) : Except HttpException Unit :=
  match db.endpoints.get? endpointId with
  | none => .error ⟨404, "Endpoint not found"⟩
  | some row =>
    if lower row.ownerAddress ≠ lower walletAddress then
      .error ⟨403, "Not authorized to access this endpoint"⟩
    else .ok ()

/-! ### Events -/

/-- `EventResponse`. -/
structure EventResponse where
  id : EventId
  endpointId : Option EndpointId
  type : WebhookEventType
  createdAt : ℤ
  executionState : ExecutionState
  safeToExecute : Bool
  trustSource : TrustSource
  deriving DecidableEq

/-- `_enrich_event`, and the fields that the response keeps. -/
def enrichEvent (row : EventRow) : EventResponse :=
  let (state, safe, source) := executionStateFromStatus row.status
  { id := row.id
    endpointId := row.endpointId
    type := row.type
    createdAt := row.createdAt
    executionState := state
    safeToExecute := safe
    trustSource := source }

/-- `list_events`.  A filter on chain 0 is no filter. -/
def listEvents (db : ListingTables) (order : DescOrder EventRow.createdAt) (walletAddress : String)
    (limit : PageLimit) (eventType : Option WebhookEventType) (chainId : Option ℤ)
    (cursor : Option EventId) : KeysetPage EventResponse EventId :=
  let endpointIds := db.walletEndpointIds walletAddress
  if endpointIds = [] then ⟨[], none, false⟩
  else
    let eventIds := (db.eventEndpoints.filter fun link => endpointIds.contains link.2).map Prod.fst
    if eventIds = [] then ⟨[], none, false⟩
    else
      (db.events.keysetPage order
        (fun row => eventIds.contains row.id && eventType.all (row.type = ·) &&
          chainId.all fun chain => chain = 0 ∨ row.chainId = chain)
        limit cursor).map enrichEvent

/-- `list_endpoint_events`. -/
def listEndpointEvents (db : ListingTables) (order : DescOrder EventRow.createdAt)
    (walletAddress : String) (limit : PageLimit) (endpointId : EndpointId)
    (cursor : Option EventId) : Except HttpException (KeysetPage EventResponse EventId) := do
  db.verifyEndpointOwnership endpointId walletAddress
  let eventIds := (db.eventEndpoints.filter fun link => link.2 = endpointId).map Prod.fst
  if eventIds = [] then return ⟨[], none, false⟩
  return (db.events.keysetPage order (fun row => eventIds.contains row.id) limit cursor).map
    enrichEvent

/-! ### Deliveries -/

/-- `DeliveryResponse`. -/
structure DeliveryResponse where
  id : ℕ
  endpointId : EndpointId
  eventId : EventId
  providerMessageId : Option String
  status : String
  createdAt : ℤ
  executionState : Option ExecutionState
  safeToExecute : Option Bool
  deriving DecidableEq

/-- `_enrich_deliveries` for one of the rows.  When the lookup of the events raises, the rows stay
as they are, and a row of no event counts as pending. -/
def enrichDelivery (db : ListingTables) (raises : Bool) (row : DeliveryRecord) :
    DeliveryResponse :=
  let (state, safe, _) :=
    executionStateFromStatus (((db.events.get? row.eventId).map EventRow.status).getD .pending)
  { id := row.id
    endpointId := row.endpointId
    eventId := row.eventId
    providerMessageId := row.providerMessageId
    status := row.status
    createdAt := row.createdAt
    executionState := if raises then none else some state
    safeToExecute := if raises then none else some safe }

/-- `list_deliveries`.  An empty filter is no filter. -/
def listDeliveries (db : ListingTables) (order : DescOrder DeliveryRecord.createdAt) (raises : Bool)
    (walletAddress : String) (limit : PageLimit) (endpointId : Option EndpointId)
    (eventId : Option EventId) (status : Option String) (cursor : Option ℕ) :
    Except HttpException (KeysetPage DeliveryResponse ℕ) := do
  let endpointId := endpointId.filter (· ≠ "")
  if let some id := endpointId then db.verifyEndpointOwnership id walletAddress
  let walletEndpointIds := db.walletEndpointIds walletAddress
  if walletEndpointIds = [] then return ⟨[], none, false⟩
  return (db.deliveries.keysetPage order
    (fun row => walletEndpointIds.contains row.endpointId && endpointId.all (row.endpointId = ·) &&
      eventId.all (row.eventId = ·) && (status.filter (· ≠ "")).all (row.status = ·))
    limit cursor).map (enrichDelivery db raises)

/-! ### What a walk shows -/

/-- The wallet owns an endpoint of this id. -/
def ListingTables.owns (db : ListingTables) (walletAddress : String) (id : EndpointId) : Bool :=
  db.endpoints.rows.any fun row => decide (row.ownerAddress = walletAddress ∧ row.id = id)

/-- The event is linked to an endpoint of the wallet and passes the filters. -/
def ListingTables.eventInScope (db : ListingTables) (walletAddress : String)
    (eventType : Option WebhookEventType) (chainId : Option ℤ) (row : EventRow) : Bool :=
  db.eventEndpoints.any (fun link => decide (link.1 = row.id) && db.owns walletAddress link.2) &&
    eventType.all (row.type = ·) && chainId.all fun chain => chain = 0 ∨ row.chainId = chain

/-- The event is linked to the endpoint. -/
def ListingTables.eventOfEndpoint (db : ListingTables) (endpointId : EndpointId) (row : EventRow) :
    Bool :=
  db.eventEndpoints.contains (row.id, endpointId)

/-- The delivery is to an endpoint of the wallet and passes the filters. -/
def ListingTables.deliveryInScope (db : ListingTables) (walletAddress : String)
    (endpointId : Option EndpointId) (eventId : Option EventId) (status : Option String)
    (row : DeliveryRecord) : Bool :=
  db.owns walletAddress row.endpointId && (endpointId.filter (· ≠ "")).all (row.endpointId = ·) &&
    eventId.all (row.eventId = ·) && (status.filter (· ≠ "")).all (row.status = ·)

/-- The walk from the first page ends, and its pages show the keys of the scope, each once. -/
def Exhausts {β : Type} (request : ℕ → Option ℕ → Except HttpException (KeysetPage β ℕ))
    (id : β → ℕ) (scope : List ℕ) : Prop :=
  ∃ pages, (∀ fuel, scope.length < fuel → follow request fuel 0 none = some (.ok pages)) ∧
    ((pages.flatMap KeysetPage.data).map id).Perm scope

theorem mem_walletEndpointIds {db : ListingTables} {walletAddress : String} {id : EndpointId} :
    id ∈ db.walletEndpointIds walletAddress ↔ db.owns walletAddress id = true := by
  rw [ListingTables.walletEndpointIds, ListingTables.owns, List.mem_map, List.any_eq_true]
  constructor
  · rintro ⟨row, hrow, rfl⟩
    obtain ⟨hmem, howner⟩ := List.mem_filter.mp hrow
    exact ⟨row, hmem, decide_eq_true ⟨of_decide_eq_true howner, rfl⟩⟩
  · rintro ⟨row, hmem, h⟩
    obtain ⟨howner, hid⟩ := of_decide_eq_true h
    exact ⟨row, List.mem_filter.mpr ⟨hmem, decide_eq_true howner⟩, hid⟩

/-- A walk over the pages of a scope is exhaustive exactly when the scope fits the pages. -/
theorem exhausts_iff {α β : Type} {key : α → ℕ} {createdAt : α → ℤ} {table : KeyedTable key}
    {order : ℕ → DescOrder createdAt} {scope : α → Bool} {limit : PageLimit} (view : ℕ → α → β)
    {id : β → ℕ} (hview : ∀ n r, id (view n r) = key r)
    {request : ℕ → Option ℕ → Except HttpException (KeysetPage β ℕ)}
    (hrequest : ∀ n cursor, request n cursor =
      .ok ((table.keysetPage (order n) scope limit cursor).map (view n))) :
    Exhausts request id ((table.rows.filter scope).map key) ↔
      FitsPages createdAt limit (table.rows.filter scope) := by
  have hrows : table.behind createdAt scope none = table.rows.filter scope := by
    apply List.filter_congr
    intro r _
    exact Bool.and_true _
  obtain ⟨pages, shown, hfollow, hkeys, hsub, hiff⟩ :=
    table.follow_keysetPage order scope limit.2.1 hview hrequest 0 none
  rw [hrows] at hfollow hsub hiff
  constructor
  · rintro ⟨pages', hfollow', hperm⟩
    -- with fuel for both, both walks are the same
    have hsame : pages' = pages := by
      have h := hfollow ((table.rows.filter scope).length + 1) (Nat.lt_succ_self _)
      have h' := hfollow' ((table.rows.filter scope).length + 1) (by
        rw [List.length_map]
        exact Nat.lt_succ_self _)
      exact Except.ok.inj (Option.some.inj (h'.symm.trans h))
    rw [hsame, hkeys] at hperm
    rw [← hiff]
    simpa using hperm.length_eq
  · intro hfits
    refine ⟨pages, ?_, ?_⟩
    · intro fuel hfuel
      rw [List.length_map] at hfuel
      exact hfollow fuel hfuel
    · rw [hkeys]
      exact (hsub.perm_of_length_le (hiff.mpr hfits).ge).map key

theorem listEvents_eq (db : ListingTables) (order : DescOrder EventRow.createdAt)
    (walletAddress : String) (limit : PageLimit) (eventType : Option WebhookEventType)
    (chainId : Option ℤ) (cursor : Option EventId) :
    listEvents db order walletAddress limit eventType chainId cursor =
      (db.events.keysetPage order (db.eventInScope walletAddress eventType chainId) limit
        cursor).map enrichEvent := by
  have hlinked : ∀ id : EventId,
      ((db.eventEndpoints.filter fun link =>
        (db.walletEndpointIds walletAddress).contains link.2).map Prod.fst).contains id =
      db.eventEndpoints.any fun link => decide (link.1 = id) && db.owns walletAddress link.2 := by
    intro id
    rw [Bool.eq_iff_iff, List.contains_iff_mem, List.mem_map, List.any_eq_true]
    constructor
    · rintro ⟨link, hlink, rfl⟩
      obtain ⟨hmem, howned⟩ := List.mem_filter.mp hlink
      rw [List.contains_iff_mem, mem_walletEndpointIds] at howned
      exact ⟨link, hmem, by simp [howned]⟩
    · rintro ⟨link, hmem, h⟩
      rw [Bool.and_eq_true, decide_eq_true_eq] at h
      refine ⟨link, List.mem_filter.mpr ⟨hmem, ?_⟩, h.1⟩
      rw [List.contains_iff_mem, mem_walletEndpointIds]
      exact h.2
  -- without linked events the scope has no rows
  have hempty : ∀ ids : List EventId, ids = [] →
      (∀ id, ids.contains id = db.eventEndpoints.any fun link =>
        decide (link.1 = id) && db.owns walletAddress link.2) →
      (db.events.keysetPage order (db.eventInScope walletAddress eventType chainId) limit
        cursor) = ⟨[], none, false⟩ := by
    rintro ids rfl hids
    apply KeyedTable.keysetPage_of_scope_eq_false
    intro row _
    rw [ListingTables.eventInScope, ← hids]
    rfl
  unfold listEvents
  dsimp only
  split_ifs with hendpoints hevents
  · rw [hempty [] rfl]
    · rfl
    · intro id
      rw [← hlinked, hendpoints]
      simp
  · rw [hempty _ hevents hlinked]
    rfl
  · have hscope : (fun row : EventRow =>
        ((db.eventEndpoints.filter fun link =>
          (db.walletEndpointIds walletAddress).contains link.2).map Prod.fst).contains row.id &&
        eventType.all (row.type = ·) && chainId.all fun chain => chain = 0 ∨ row.chainId = chain) =
        db.eventInScope walletAddress eventType chainId := by
      funext row
      rw [hlinked]
      rfl
    rw [hscope]

theorem listEndpointEvents_eq (db : ListingTables) (order : DescOrder EventRow.createdAt)
    {walletAddress : String} (limit : PageLimit) {endpointId : EndpointId}
    (howned : db.verifyEndpointOwnership endpointId walletAddress = .ok ())
    (cursor : Option EventId) :
    listEndpointEvents db order walletAddress limit endpointId cursor =
      .ok ((db.events.keysetPage order (db.eventOfEndpoint endpointId) limit cursor).map
        enrichEvent) := by
  have hlinked : ∀ id : EventId,
      ((db.eventEndpoints.filter fun link => link.2 = endpointId).map Prod.fst).contains id =
        db.eventEndpoints.contains (id, endpointId) := by
    intro id
    rw [Bool.eq_iff_iff, List.contains_iff_mem, List.contains_iff_mem, List.mem_map]
    constructor
    · rintro ⟨⟨event, endpoint⟩, hlink, rfl⟩
      obtain ⟨hmem, hid⟩ := List.mem_filter.mp hlink
      rwa [← of_decide_eq_true hid]
    · intro hmem
      exact ⟨(id, endpointId), List.mem_filter.mpr ⟨hmem, decide_eq_true rfl⟩, rfl⟩
  have hscope : (fun row : EventRow => ((db.eventEndpoints.filter fun link =>
      link.2 = endpointId).map Prod.fst).contains row.id) = db.eventOfEndpoint endpointId :=
    funext fun row => hlinked row.id
  rw [listEndpointEvents, howned]
  show (if _ then _ else _) = _
  split_ifs with hevents
  · have hnone : ∀ row ∈ db.events.rows, db.eventOfEndpoint endpointId row = false := by
      intro row _
      rw [← hscope, hevents]
      rfl
    rw [KeyedTable.keysetPage_of_scope_eq_false _ _ hnone]
    rfl
  · rw [hscope]
    rfl

theorem listDeliveries_eq (db : ListingTables) (order : DescOrder DeliveryRecord.createdAt)
    (raises : Bool) {walletAddress : String} (limit : PageLimit) {endpointId : Option EndpointId}
    (howned : ∀ id ∈ endpointId.filter (· ≠ ""),
      db.verifyEndpointOwnership id walletAddress = .ok ())
    (eventId : Option EventId) (status : Option String) (cursor : Option ℕ) :
    listDeliveries db order raises walletAddress limit endpointId eventId status cursor =
      .ok ((db.deliveries.keysetPage order
        (db.deliveryInScope walletAddress endpointId eventId status) limit cursor).map
        (enrichDelivery db raises)) := by
  have hpermitted : listDeliveries db order raises walletAddress limit endpointId eventId status
      cursor = (do
        let walletEndpointIds := db.walletEndpointIds walletAddress
        if walletEndpointIds = [] then return ⟨[], none, false⟩
        return (db.deliveries.keysetPage order
          (fun row => walletEndpointIds.contains row.endpointId &&
            (endpointId.filter (· ≠ "")).all (row.endpointId = ·) &&
            eventId.all (row.eventId = ·) && (status.filter (· ≠ "")).all (row.status = ·))
          limit cursor).map (enrichDelivery db raises)) := by
    unfold listDeliveries
    dsimp only
    cases hid : endpointId.filter (· ≠ "") with
    | none => rfl
    | some id =>
      show (db.verifyEndpointOwnership id walletAddress >>= fun _ => _) = _
      rw [howned id hid]
      rfl
  have hscope : (fun row : DeliveryRecord =>
      (db.walletEndpointIds walletAddress).contains row.endpointId &&
      (endpointId.filter (· ≠ "")).all (row.endpointId = ·) &&
      eventId.all (row.eventId = ·) && (status.filter (· ≠ "")).all (row.status = ·)) =
      db.deliveryInScope walletAddress endpointId eventId status := by
    funext row
    have : (db.walletEndpointIds walletAddress).contains row.endpointId =
        db.owns walletAddress row.endpointId := by
      rw [Bool.eq_iff_iff, List.contains_iff_mem, mem_walletEndpointIds]
    rw [this]
    rfl
  rw [hpermitted]
  dsimp only
  split_ifs with hendpoints
  · have hnone : ∀ row ∈ db.deliveries.rows,
        db.deliveryInScope walletAddress endpointId eventId status row = false := by
      intro row _
      rw [← hscope, hendpoints]
      rfl
    rw [KeyedTable.keysetPage_of_scope_eq_false _ _ hnone]
    rfl
  · rw [hscope]
    rfl

/-- Whether `list_deliveries` goes on past the check of the endpoint it is asked for. -/
def ListingTables.permits (db : ListingTables) (walletAddress : String)
    (endpointId : Option EndpointId) : Except HttpException Unit :=
  match endpointId.filter (· ≠ "") with
  | some id => db.verifyEndpointOwnership id walletAddress
  | none => .ok ()

/-- **Following the cursors shows every row once exactly when no rows of one `created_at` lie across
the end of a page**, for every wallet, every page limit, every filter and every order in which the
database answers rows of one time.  A listing of an endpoint that is not the wallet's is refused. -/
theorem pagination_exhaustive_iff (db : ListingTables)
    (eventOrder : ℕ → DescOrder EventRow.createdAt)
    (deliveryOrder : ℕ → DescOrder DeliveryRecord.createdAt) (raises : ℕ → Bool)
    (walletAddress : String) (limit : PageLimit) :
    (∀ eventType chainId,
      let scope := db.events.rows.filter (db.eventInScope walletAddress eventType chainId)
      Exhausts (fun n cursor => .ok (listEvents db (eventOrder n) walletAddress limit eventType
        chainId cursor)) EventResponse.id (scope.map EventRow.id) ↔
        FitsPages EventRow.createdAt limit scope) ∧
    (∀ endpointId,
      let request := fun n => listEndpointEvents db (eventOrder n) walletAddress limit endpointId
      let scope := db.events.rows.filter (db.eventOfEndpoint endpointId)
      match db.verifyEndpointOwnership endpointId walletAddress with
      | .error e => ∀ fuel, follow request (fuel + 1) 0 none = some (.error e)
      | .ok () => Exhausts request EventResponse.id (scope.map EventRow.id) ↔
          FitsPages EventRow.createdAt limit scope) ∧
    ∀ endpointId eventId status,
      let request := fun n => listDeliveries db (deliveryOrder n) (raises n) walletAddress limit
        endpointId eventId status
      let scope := db.deliveries.rows.filter
        (db.deliveryInScope walletAddress endpointId eventId status)
      match db.permits walletAddress endpointId with
      | .error e => ∀ fuel, follow request (fuel + 1) 0 none = some (.error e)
      | .ok () => Exhausts request DeliveryResponse.id (scope.map DeliveryRecord.id) ↔
          FitsPages DeliveryRecord.createdAt limit scope := by
  refine ⟨?_, ?_, ?_⟩
  · intro eventType chainId scope
    apply exhausts_iff (fun _ => enrichEvent) fun _ _ => rfl
    intro n cursor
    exact congrArg Except.ok
      (listEvents_eq db (eventOrder n) walletAddress limit eventType chainId cursor)
  · intro endpointId request scope
    cases howned : db.verifyEndpointOwnership endpointId walletAddress with
    | error e =>
      intro fuel
      have hrefused : request 0 none = .error e := by
        show listEndpointEvents .. = _
        rw [listEndpointEvents, howned]
        rfl
      rw [follow, hrefused]
    | ok _ =>
      apply exhausts_iff (fun _ => enrichEvent) fun _ _ => rfl
      intro n cursor
      exact listEndpointEvents_eq db (eventOrder n) limit howned cursor
  · intro endpointId eventId status request scope
    cases hpermits : db.permits walletAddress endpointId with
    | error e =>
      intro fuel
      have hrefused : request 0 none = .error e := by
        rw [ListingTables.permits] at hpermits
        show listDeliveries .. = _
        unfold listDeliveries
        dsimp only
        cases hid : endpointId.filter (· ≠ "") with
        | none =>
          rw [hid] at hpermits
          cases hpermits
        | some id =>
          rw [hid] at hpermits
          show (db.verifyEndpointOwnership id walletAddress >>= fun _ => _) = _
          rw [show db.verifyEndpointOwnership id walletAddress = .error e from hpermits]
          rfl
      rw [follow, hrefused]
    | ok _ =>
      apply exhausts_iff (fun n => enrichDelivery db (raises n)) fun _ _ => rfl
      intro n cursor
      apply listDeliveries_eq
      intro id hid
      rw [ListingTables.permits, Option.mem_def.mp hid] at hpermits
      exact hpermits

namespace Sample

/-- An event of the time 0. -/
def tiedEvent (id : EventId) : EventRow where
  id
  type := .paymentConfirmed
  chainId := 8453
  txHash := some "0xab"
  blockNumber := some 100
  blockHash := some "0xcd"
  logIndex := some id
  fromAddress := none
  toAddress := none
  amount := none
  authorizer := none
  nonce := none
  token := none
  status := .confirmed
  finalityDepth := 0
  endpointId := none
  createdAt := 0
  confirmedAt := none

/-- An endpoint of the wallet. -/
def listedEndpoint : EndpointRow where
  id := "ep"
  url := "https://example.com"
  mode := .execute
  chains := .ofInts [8453]
  recipient := "0xb0"
  ownerAddress := "0xa1"

/-- The two events of one time are linked to the endpoint. -/
def tiedTables : ListingTables where
  endpoints :=
    { rows := [listedEndpoint]
      keys_nodup := List.nodup_singleton _ }
  events :=
    { rows := [tiedEvent 1, tiedEvent 2]
      keys_nodup := by decide }
  eventEndpoints := [(1, "ep"), (2, "ep")]

end Sample

/-- Two events of one time, and pages of one row: the first page says that there is more, and the
second page is empty. -/
theorem tied_event_skipped :
    ¬Exhausts (fun _ cursor => .ok (listEvents Sample.tiedTables (.stable _) "0xa1" ⟨1, by decide⟩
      none none cursor)) EventResponse.id
      ((Sample.tiedTables.events.rows.filter
        (Sample.tiedTables.eventInScope "0xa1" none none)).map EventRow.id) := by
  rintro ⟨pages, hfollow, hperm⟩
  have hwalk := hfollow 3 (by decide +kernel)
  have hshown : ((follow (fun _ cursor => (.ok (listEvents Sample.tiedTables (.stable _) "0xa1"
      ⟨1, by decide⟩ none none cursor) : Except HttpException _)) 3 0 none).bind
        Except.toOption).map (fun pages => (pages.flatMap KeysetPage.data).map EventResponse.id) =
      some [1] := by
    decide +kernel
  rw [hwalk] at hshown
  have hids : (pages.flatMap KeysetPage.data).map EventResponse.id = [1] := Option.some.inj hshown
  rw [hids] at hperm
  exact absurd hperm.length_eq (by decide +kernel)

end TripWire
