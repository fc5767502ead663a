import TripWire.Ingestion.Effects

/-!
# Endpoint isolation

Whether `_dispatch_for_transfer` dispatches to an endpoint, beside the other endpoints that match a
transfer and alone.  An endpoint is dispatched to when its payload is handed to the webhook provider
or its `realtime_events` row is inserted.

Alone, an endpoint is dispatched to when its own policies, depth, project and subscriptions say so
(`Reaches`).  Beside others it needs more (`Undisturbed`): the policy loop and the subscription loop
have no `try` around one endpoint, and the realtime rows of all endpoints are one bulk insert.
`dispatchedTo_iff` says that these two are all there is.
-/

namespace TripWire

open Py

/-! ### The two loops -/

/-- The policy loop gives its verdicts unless one endpoint's policies raise. -/
theorem exists_policyVerdicts_iff {transfer : TransferData} {identity : Option AgentIdentity}
    {eps : List Endpoint} :
    (∃ verdicts, policyVerdicts transfer identity eps = .ok verdicts) ↔
      ∀ ep ∈ eps, ∃ v, evaluatePolicy transfer identity ep.policies = .ok v := by
  induction eps with
  | nil => simp [policyVerdicts]
  | cons ep eps ih =>
    rw [List.forall_mem_cons, ← ih, policyVerdicts]
    cases evaluatePolicy transfer identity ep.policies with
    | error e => simp
    | ok v =>
      cases policyVerdicts transfer identity eps with
      | error e => simp
      | ok verdicts => simp

/-- The subscription loop ends unless one endpoint's subscriptions raise. -/
theorem exists_filterNotifyEndpoints_iff {env : Env} {w : World} {t : ERC3009Transfer}
    {identity : Option AgentIdentity} {eps : List Endpoint} :
    (∃ kept, filterNotifyEndpoints env w t identity eps = .ok kept) ↔
      ∀ ep ∈ eps, ∃ keep, subscribed env w t identity ep = .ok keep := by
  induction eps with
  | nil => simp [filterNotifyEndpoints]
  | cons ep eps ih =>
    rw [List.forall_mem_cons, ← ih, filterNotifyEndpoints]
    cases subscribed env w t identity ep with
    | error e => simp
    | ok keep =>
      cases filterNotifyEndpoints env w t identity eps with
      | error e => simp
      | ok kept => simp

/-- It keeps the endpoints whose subscriptions let the transfer through. -/
theorem mem_filterNotifyEndpoints {env : Env} {w : World} {t : ERC3009Transfer}
    {identity : Option AgentIdentity} {eps kept : List Endpoint}
    (h : filterNotifyEndpoints env w t identity eps = .ok kept) {ep : Endpoint} :
    ep ∈ kept ↔ ep ∈ eps ∧ subscribed env w t identity ep = .ok true := by
  induction eps generalizing kept with
  | nil =>
    obtain rfl := Except.ok.inj h
    simp
  | cons ep' eps ih =>
    rw [filterNotifyEndpoints] at h
    cases hkeep : subscribed env w t identity ep' with
    | error e =>
      rw [hkeep] at h
      cases h
    | ok keep =>
      rw [hkeep] at h
      cases hrest : filterNotifyEndpoints env w t identity eps with
      | error e =>
        rw [hrest] at h
        cases h
      | ok rest =>
        rw [hrest] at h
        obtain rfl := Except.ok.inj h
        have hrec := ih hrest
        by_cases hep : ep = ep'
        · subst hep
          cases keep with
          | true => simp [hkeep]
          | false => simp [hkeep, hrec]
        · cases keep with
          | true => simp [hep, hrec]
          | false => simp [hep, hrec]

/-! ### Who is dispatched to -/

/-- A webhook goes to the endpoints of the list that have a project. -/
theorem exists_dispatchEvent_iff {env : Env} {d : Dispatch} {eps : List Endpoint} {ep : Endpoint} :
    (∃ em ∈ dispatchEvent env d eps, em.endpoint = ep) ↔
      ep ∈ eps ∧ truthy ep.convoyProjectId = true := by
  constructor
  · rintro ⟨em, hem, rfl⟩
    obtain ⟨ep, hep, hsent⟩ := mem_dispatchEvent hem
    have hendpoint : em.endpoint = ep := (webhookEmission_spec hsent).2.1
    rw [hendpoint]
    exact ⟨hep, truthy_of_webhookEmission hsent⟩
  · rintro ⟨hep, hproject⟩
    exact exists_mem_dispatchEvent d hep hproject

/-- The realtime rows are all inserted or none of them is. -/
theorem exists_notifyBatch_iff {env : Env} {w : World} {d : Dispatch} {eps : List Endpoint}
    {ep : Endpoint} :
    (∃ em ∈ notifyBatch env w d eps, em.endpoint = ep) ↔
      ep ∈ eps ∧ env.raises (.insertRealtime d.event) = false ∧
        ∀ other ∈ eps, w.endpoints.get? other.id ≠ none := by
  unfold notifyBatch
  split_ifs with hfails
  · constructor
    · rintro ⟨em, hem, -⟩
      cases hem
    · rintro ⟨-, hraise, hknown⟩
      rcases hfails with hraise' | ⟨other, hother, hnone⟩
      · rw [hraise] at hraise'
        cases hraise'
      · exact absurd hnone (hknown other hother)
  · rw [not_or, not_exists] at hfails
    constructor
    · rintro ⟨em, hem, rfl⟩
      obtain ⟨ep, hep, rfl⟩ := List.mem_map.mp hem
      refine ⟨hep, by simpa using hfails.1, ?_⟩
      intro other hother hnone
      exact hfails.2 other ⟨hother, hnone⟩
    · rintro ⟨hep, -, -⟩
      exact ⟨realtimeEmission d ep, List.mem_map_of_mem hep, rfl⟩

/-- The realtime rows of a call: none when a subscription raises. -/
def realtimeRows (env : Env) (w : World) (d : Dispatch) (approved : List Endpoint) :
    List Emission :=
  match filterNotifyEndpoints env w d.transfer d.identity (inMode .notify approved) with
  | .error _ => []
  | .ok kept => notifyBatch env w d kept

theorem filterNotifyEndpoints_congr {env : Env} {w w' : World}
    (h : w'.subscriptions = w.subscriptions) (t : ERC3009Transfer)
    (identity : Option AgentIdentity) (eps : List Endpoint) :
    filterNotifyEndpoints env w' t identity eps = filterNotifyEndpoints env w t identity eps := by
  induction eps with
  | nil => rfl
  | cons ep eps ih =>
    have hsubscribed : subscribed env w' t identity ep = subscribed env w t identity ep := by
      rw [subscribed, subscribed, World.activeSubscriptions, World.activeSubscriptions, h]
    rw [filterNotifyEndpoints, filterNotifyEndpoints, hsubscribed, ih]

theorem realtimeRows_congr {env : Env} {w w' : World} (hsubs : w'.subscriptions = w.subscriptions)
    (hendpoints : w'.endpoints = w.endpoints) (d : Dispatch) (approved : List Endpoint) :
    realtimeRows env w' d approved = realtimeRows env w d approved := by
  rw [realtimeRows, realtimeRows, filterNotifyEndpoints_congr hsubs]
  cases filterNotifyEndpoints env w d.transfer d.identity (inMode .notify approved) with
  | error e => rfl
  | ok kept => simp only [notifyBatch, hendpoints]

theorem outbox_deliver (env : Env) (w : World) (d : Dispatch) (approved : List Endpoint) :
    (deliver env w d approved).1.outbox =
      w.outbox ++ (dispatchEvent env d (inMode .execute approved) ++
        realtimeRows env w d approved) := by
  obtain ⟨ds, hds⟩ := pushWebhooks_eq env w d (inMode .execute approved)
  have hsubs : (pushWebhooks env w d (inMode .execute approved)).subscriptions =
      w.subscriptions := by
    rw [hds]
  have hendpoints : (pushWebhooks env w d (inMode .execute approved)).endpoints =
      w.endpoints := by
    rw [hds]
  have houtbox : (pushWebhooks env w d (inMode .execute approved)).outbox =
      w.outbox ++ dispatchEvent env d (inMode .execute approved) := by
    rw [hds]
  rw [← realtimeRows_congr hsubs hendpoints, ← List.append_assoc, ← houtbox]
  simp only [deliver, realtimeRows]
  cases filterNotifyEndpoints env (pushWebhooks env w d (inMode .execute approved)) d.transfer
      d.identity (inMode .notify approved) with
  | error e => exact (List.append_nil _).symm
  | ok kept => rfl

/-- The call that `_dispatch_for_transfer` makes for a plan. -/
def planCall (env : Env) (w : World) (t : ERC3009Transfer) (finality : Option FinalityStatus)
    (identity : Option AgentIdentity) (eventId : Option EventId) (plan : Plan) : Dispatch :=
  { event := (chooseEventId w eventId).2, transfer := t, type := plan.type, finality, identity,
    height := observedHeight env finality }

section Calls

variable {env : Env} {w : World} {t : ERC3009Transfer} {endpoints : List Endpoint}
  (finality : Option FinalityStatus) (identity : Option AgentIdentity)
  (eventTypeOverride : Option WebhookEventType) (eventId : Option EventId)

theorem outbox_dispatchForTransfer_of_error {e : PyError}
    (hfetch : fetchMatchingEndpoints env w t = .ok endpoints)
    (hplan : planDispatch t finality identity eventTypeOverride endpoints = .error e) :
    (dispatchForTransfer env w t finality identity eventTypeOverride eventId).1.outbox =
      w.outbox := by
  simp only [dispatchForTransfer, hfetch, hplan]

theorem outbox_dispatchForTransfer_of_plan {plan : Plan}
    (hfetch : fetchMatchingEndpoints env w t = .ok endpoints)
    (hplan : planDispatch t finality identity eventTypeOverride endpoints = .ok plan) :
    (dispatchForTransfer env w t finality identity eventTypeOverride eventId).1.outbox =
      w.outbox ++
        (dispatchEvent env (planCall env w t finality identity eventId plan)
            (inMode .execute plan.approved) ++
          realtimeRows env w (planCall env w t finality identity eventId plan) plan.approved) := by
  obtain ⟨n, table, links, log, hframe⟩ := recordStages_frame env w eventId
    (eventRow env.now (chooseEventId w eventId).2 t finality plan.type
      (plan.matched.head?.map (·.id))) plan
  have hrealtime : realtimeRows env
        { w with uuids := n, events := table, eventEndpoints := links, policyLog := log }
        (planCall env w t finality identity eventId plan) plan.approved =
      realtimeRows env w (planCall env w t finality identity eventId plan) plan.approved := by
    apply realtimeRows_congr <;> rfl
  simp only [dispatchForTransfer, hfetch, hplan, outbox_deliver]
  rw [hframe, ← hrealtime]
  rfl

/-- The policies of an endpoint accept the transfer and its depth is reached. -/
structure Ready (t : ERC3009Transfer) (finality : Option FinalityStatus)
    (identity : Option AgentIdentity) (ep : Endpoint) : Prop where
  accepted : evaluatePolicy (buildTransferData t) identity ep.policies = .ok none
  deep : ∀ f, finality = some f → requiredDepth ep t.chainId ≤ f.confirmations

/-- What an endpoint needs of its own to be dispatched to. -/
structure Reaches (env : Env) (w : World) (t : ERC3009Transfer) (finality : Option FinalityStatus)
    (identity : Option AgentIdentity) (event : EventId) (ep : Endpoint) : Prop where
  ready : Ready t finality identity ep
  project : ep.mode = .execute → truthy ep.convoyProjectId = true
  subscription : ep.mode = .notify → subscribed env w t identity ep = .ok true
  inserted : ep.mode = .notify → env.raises (.insertRealtime event) = false
  known : ep.mode = .notify → w.endpoints.get? ep.id ≠ none

/-- What it needs of the others: no policies raise, and for a realtime row no subscriptions of a
ready notify endpoint raise and all rows of the batch name a known endpoint. -/
structure Undisturbed (env : Env) (w : World) (t : ERC3009Transfer)
    (finality : Option FinalityStatus) (identity : Option AgentIdentity) (matched : List Endpoint)
    (ep : Endpoint) : Prop where
  policies : ∀ other ∈ matched,
    ∃ v, evaluatePolicy (buildTransferData t) identity other.policies = .ok v
  subscriptions : ep.mode = .notify → ∀ other ∈ matched, other.mode = .notify →
    Ready t finality identity other → ∃ keep, subscribed env w t identity other = .ok keep
  known : ep.mode = .notify → ∀ other ∈ matched, other.mode = .notify →
    Ready t finality identity other → subscribed env w t identity other = .ok true →
      w.endpoints.get? other.id ≠ none

theorem mem_approved_iff {plan : Plan}
    (hplan : planDispatch t finality identity eventTypeOverride endpoints = .ok plan)
    {ep : Endpoint} :
    ep ∈ plan.approved ↔ ep ∈ matchEndpoints t endpoints ∧ Ready t finality identity ep := by
  obtain ⟨hmatched, -, verdicts, hverdicts, -, happroved⟩ := planDispatch_spec hplan
  rw [hmatched] at hverdicts
  rw [happroved]
  cases finality with
  | none =>
    rw [depthGate, mem_approvedOf hverdicts]
    constructor
    · rintro ⟨hep, hok⟩
      exact ⟨hep, hok, by simp⟩
    · rintro ⟨hep, hready⟩
      exact ⟨hep, hready.accepted⟩
  | some f =>
    rw [depthGate, List.mem_filter, mem_approvedOf hverdicts]
    constructor
    · rintro ⟨⟨hep, hok⟩, hdeep⟩
      refine ⟨hep, hok, ?_⟩
      intro f' hf
      cases hf
      simpa using hdeep
    · rintro ⟨hep, hready⟩
      exact ⟨⟨hep, hready.accepted⟩, by simpa using hready.deep f rfl⟩

/-- A realtime row of the call. -/
theorem exists_realtimeRows_iff {d : Dispatch} {approved : List Endpoint} {ep : Endpoint} :
    (∃ em ∈ realtimeRows env w d approved, em.endpoint = ep) ↔
      (ep ∈ approved ∧ ep.mode = .notify) ∧
        subscribed env w d.transfer d.identity ep = .ok true ∧
        env.raises (.insertRealtime d.event) = false ∧
        ∀ other ∈ approved, other.mode = .notify →
          (∃ keep, subscribed env w d.transfer d.identity other = .ok keep) ∧
          (subscribed env w d.transfer d.identity other = .ok true →
            w.endpoints.get? other.id ≠ none) := by
  have hok : (∃ kept, filterNotifyEndpoints env w d.transfer d.identity (inMode .notify approved) =
      .ok kept) ↔ _ := exists_filterNotifyEndpoints_iff
  simp only [mem_inMode, and_imp] at hok
  cases hfilter : filterNotifyEndpoints env w d.transfer d.identity (inMode .notify approved) with
  | error e =>
    simp only [realtimeRows, hfilter]
    constructor
    · rintro ⟨em, hem, -⟩
      cases hem
    · rintro ⟨-, -, -, hothers⟩
      obtain ⟨kept, hkept⟩ := hok.mpr fun other hmem hmode => (hothers other hmem hmode).1
      rw [hfilter] at hkept
      cases hkept
  | ok kept =>
    have hkeeps := hok.mp ⟨kept, hfilter⟩
    simp only [realtimeRows, hfilter, exists_notifyBatch_iff, mem_filterNotifyEndpoints hfilter,
      mem_inMode]
    constructor
    · rintro ⟨⟨hep, hsub⟩, hraise, hknown⟩
      refine ⟨hep, hsub, hraise, ?_⟩
      intro other hmem hmode
      exact ⟨hkeeps other hmem hmode, fun hsub' => hknown other ⟨⟨hmem, hmode⟩, hsub'⟩⟩
    · rintro ⟨hep, hsub, hraise, hothers⟩
      refine ⟨⟨hep, hsub⟩, hraise, ?_⟩
      rintro other ⟨⟨hmem, hmode⟩, hsub'⟩
      exact (hothers other hmem hmode).2 hsub'

end Calls

/-- The endpoint is dispatched to: a message of the call goes to it. -/
def DispatchedTo (env : Env) (w : World) (t : ERC3009Transfer) (finality : Option FinalityStatus)
    (identity : Option AgentIdentity) (eventTypeOverride : Option WebhookEventType)
    (eventId : Option EventId) (ep : Endpoint) : Prop :=
  ∃ em ∈ (dispatchForTransfer env w t finality identity eventTypeOverride eventId).1.outbox.drop
    w.outbox.length, em.endpoint = ep

/-- **Who is dispatched to**: the matched endpoints that reach it on their own and are not disturbed
by another. -/
theorem dispatchedTo_iff {env : Env} {w : World} {t : ERC3009Transfer} {endpoints : List Endpoint}
    (hfetch : fetchMatchingEndpoints env w t = .ok endpoints) (finality : Option FinalityStatus)
    (identity : Option AgentIdentity) (eventTypeOverride : Option WebhookEventType)
    (eventId : Option EventId) {ep : Endpoint} (hep : ep ∈ matchEndpoints t endpoints) :
    DispatchedTo env w t finality identity eventTypeOverride eventId ep ↔
      Reaches env w t finality identity (chooseEventId w eventId).2 ep ∧
        Undisturbed env w t finality identity (matchEndpoints t endpoints) ep := by
  unfold DispatchedTo
  cases hplan : planDispatch t finality identity eventTypeOverride endpoints with
  | error e =>
    rw [outbox_dispatchForTransfer_of_error finality identity eventTypeOverride eventId hfetch
      hplan, List.drop_length]
    constructor
    · rintro ⟨em, hem, -⟩
      cases hem
    · rintro ⟨-, hundisturbed⟩
      obtain ⟨verdicts, hverdicts⟩ := exists_policyVerdicts_iff.mpr hundisturbed.policies
      simp only [planDispatch, hverdicts] at hplan
      cases hplan
  | ok plan =>
    obtain ⟨hmatched, -, verdicts, hverdicts, -, -⟩ := planDispatch_spec hplan
    rw [hmatched] at hverdicts
    have hpolicies := exists_policyVerdicts_iff.mp ⟨verdicts, hverdicts⟩
    have happroved : ∀ other, other ∈ plan.approved ↔
        other ∈ matchEndpoints t endpoints ∧ Ready t finality identity other :=
      fun _ => mem_approved_iff finality identity eventTypeOverride hplan
    rw [outbox_dispatchForTransfer_of_plan finality identity eventTypeOverride eventId hfetch hplan,
      List.drop_left]
    simp only [List.mem_append, or_and_right, exists_or, exists_dispatchEvent_iff,
      exists_realtimeRows_iff, mem_inMode, happroved]
    constructor
    · rintro (⟨⟨⟨-, hready⟩, hmode⟩, hproject⟩ |
        ⟨⟨⟨-, hready⟩, hmode⟩, hsub, hraise, hothers⟩)
      · have hno : ep.mode ≠ .notify := by
          rw [hmode]
          decide
        exact ⟨⟨hready, fun _ => hproject, fun h => absurd h hno, fun h => absurd h hno,
            fun h => absurd h hno⟩,
          ⟨hpolicies, fun h => absurd h hno, fun h => absurd h hno⟩⟩
      · have hno : ep.mode ≠ .execute := by
          rw [hmode]
          decide
        refine ⟨⟨hready, fun h => absurd h hno, fun _ => hsub, fun _ => hraise, fun _ => ?_⟩,
          ⟨hpolicies, fun _ => ?_, fun _ => ?_⟩⟩
        · exact (hothers ep ⟨hep, hready⟩ hmode).2 hsub
        · intro other hother hmode' hready'
          exact (hothers other ⟨hother, hready'⟩ hmode').1
        · intro other hother hmode' hready'
          exact (hothers other ⟨hother, hready'⟩ hmode').2
    · rintro ⟨hreaches, hundisturbed⟩
      cases hmode : ep.mode with
      | execute =>
        exact Or.inl ⟨⟨⟨hep, hreaches.ready⟩, rfl⟩, hreaches.project hmode⟩
      | notify =>
        refine Or.inr ⟨⟨⟨hep, hreaches.ready⟩, rfl⟩, hreaches.subscription hmode,
          hreaches.inserted hmode, ?_⟩
        rintro other ⟨hother, hready⟩ hmode'
        exact ⟨hundisturbed.subscriptions hmode other hother hmode' hready,
          hundisturbed.known hmode other hother hmode' hready⟩

/-- The environment in which the fetch finds one endpoint. -/
def onlyEndpoint (env : Env) (ep : Endpoint) : Env := { env with endpointCache := some [ep] }

theorem matchEndpoints_singleton {t : ERC3009Transfer} {endpoints : List Endpoint} {ep : Endpoint}
    (hep : ep ∈ matchEndpoints t endpoints) : matchEndpoints t [ep] = [ep] := by
  have hmatches := (List.mem_filter.mp hep).2
  rw [matchEndpoints, List.filter_cons, if_pos hmatches, List.filter_nil]

/-- An endpoint does not disturb itself. -/
theorem undisturbed_singleton {env : Env} {w : World} {t : ERC3009Transfer}
    {finality : Option FinalityStatus} {identity : Option AgentIdentity} {event : EventId}
    {ep : Endpoint} (h : Reaches env w t finality identity event ep) :
    Undisturbed env w t finality identity [ep] ep where
  policies := by
    intro other hother
    rw [List.mem_singleton.mp hother]
    exact ⟨none, h.ready.accepted⟩
  subscriptions := by
    intro hmode other hother _ _
    rw [List.mem_singleton.mp hother]
    exact ⟨true, h.subscription hmode⟩
  known := by
    intro hmode other hother _ _ _
    rw [List.mem_singleton.mp hother]
    exact h.known hmode

/-- What an endpoint needs of its own does not depend on the others. -/
theorem reaches_onlyEndpoint_iff {env : Env} {w : World} {t : ERC3009Transfer}
    {finality : Option FinalityStatus} {identity : Option AgentIdentity} {event : EventId}
    {ep : Endpoint} :
    Reaches (onlyEndpoint env ep) w t finality identity event ep ↔
      Reaches env w t finality identity event ep := by
  constructor
  · intro h
    exact ⟨h.ready, h.project, h.subscription, h.inserted, h.known⟩
  · intro h
    exact ⟨h.ready, h.project, h.subscription, h.inserted, h.known⟩

/-- Alone, an endpoint is dispatched to when it reaches it on its own. -/
theorem dispatchedTo_onlyEndpoint_iff {t : ERC3009Transfer} {endpoints : List Endpoint}
    {ep : Endpoint} (hep : ep ∈ matchEndpoints t endpoints) (env : Env) (w : World)
    (finality : Option FinalityStatus) (identity : Option AgentIdentity)
    (eventTypeOverride : Option WebhookEventType) (eventId : Option EventId) :
    DispatchedTo (onlyEndpoint env ep) w t finality identity eventTypeOverride eventId ep ↔
      Reaches env w t finality identity (chooseEventId w eventId).2 ep := by
  have hmatch := matchEndpoints_singleton hep
  have hfetch : fetchMatchingEndpoints (onlyEndpoint env ep) w t = .ok [ep] := rfl
  rw [dispatchedTo_iff hfetch finality identity eventTypeOverride eventId
    (by rw [hmatch]; exact List.mem_singleton_self ep), hmatch]
  constructor
  · rintro ⟨hreaches, -⟩
    exact reaches_onlyEndpoint_iff.mp hreaches
  · intro h
    have hreaches := reaches_onlyEndpoint_iff.mpr h
    exact ⟨hreaches, undisturbed_singleton hreaches⟩

/-- **Isolation**: an endpoint fares beside others as it does alone exactly when it is not
dispatched to in any case, or no other endpoint disturbs it. -/
theorem dispatchedTo_isolated_iff {env : Env} {w : World} {t : ERC3009Transfer}
    {endpoints : List Endpoint} (hfetch : fetchMatchingEndpoints env w t = .ok endpoints)
    (finality : Option FinalityStatus) (identity : Option AgentIdentity)
    (eventTypeOverride : Option WebhookEventType) (eventId : Option EventId) {ep : Endpoint}
    (hep : ep ∈ matchEndpoints t endpoints) :
    (DispatchedTo env w t finality identity eventTypeOverride eventId ep ↔
        DispatchedTo (onlyEndpoint env ep) w t finality identity eventTypeOverride eventId ep) ↔
      (Reaches env w t finality identity (chooseEventId w eventId).2 ep →
        Undisturbed env w t finality identity (matchEndpoints t endpoints) ep) := by
  rw [dispatchedTo_iff hfetch finality identity eventTypeOverride eventId hep,
    dispatchedTo_onlyEndpoint_iff hep, and_iff_left_iff_imp]

namespace Sample

/-- A second endpoint of the recipient. -/
def neighbour (policies : EndpointPolicies) : Endpoint :=
  { endpoint policies with id := "neighbour" }

/-- The fetch finds the endpoint and its neighbour. -/
def beside (policies : EndpointPolicies) : Env :=
  { endpointCache := some [endpoint {}, neighbour policies] }

end Sample

/-- A neighbour that accepts every transfer disturbs nobody. -/
theorem dispatchedTo_isolated_open_neighbour :
    Sample.endpoint {} ∈ matchEndpoints (Sample.onchain 100)
        [Sample.endpoint {}, Sample.neighbour {}] ∧
      (DispatchedTo (Sample.beside {}) {} (Sample.onchain 100) none none none none
          (Sample.endpoint {}) ↔
        DispatchedTo (onlyEndpoint (Sample.beside {}) (Sample.endpoint {})) {} (Sample.onchain 100)
          none none none none (Sample.endpoint {})) := by
  have hep : Sample.endpoint {} ∈ matchEndpoints (Sample.onchain 100)
      [Sample.endpoint {}, Sample.neighbour {}] := by
    decide +kernel
  have haccept : ∀ other ∈ matchEndpoints (Sample.onchain 100)
      [Sample.endpoint {}, Sample.neighbour {}],
        evaluatePolicy (buildTransferData (Sample.onchain 100)) none other.policies = .ok none := by
    decide +kernel
  refine ⟨hep, (dispatchedTo_isolated_iff rfl none none none none hep).mpr fun _ => ?_⟩
  exact ⟨fun other hother => ⟨none, haccept other hother⟩, fun h => (by cases h),
    fun h => (by cases h)⟩

/-- A neighbour whose minimum is not a number keeps the payment from the endpoint. -/
theorem dispatchedTo_bad_neighbour :
    Sample.endpoint {} ∈ matchEndpoints (Sample.onchain 100)
        [Sample.endpoint {}, Sample.neighbour { minAmount := some "abc" }] ∧
      ¬ DispatchedTo (Sample.beside { minAmount := some "abc" }) {} (Sample.onchain 100)
        none none none none (Sample.endpoint {}) ∧
      DispatchedTo (onlyEndpoint (Sample.beside { minAmount := some "abc" }) (Sample.endpoint {}))
        {}
        (Sample.onchain 100) none none none none (Sample.endpoint {}) := by
  unfold DispatchedTo
  decide +kernel

end TripWire
