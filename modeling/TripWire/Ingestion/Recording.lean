import TripWire.Ingestion.EndpointIsolation

/-!
# Dispatch and the record of the event

`_dispatch_for_transfer` inserts the `events` row, links the matched endpoints to it and then
dispatches.  The finality poller and the sweeper find an event through that row and its links, so a
dispatch without them is a message nobody follows up.

Both writes swallow their exceptions.  `announcedBy_dispatchForTransfer_iff` says when a call
dispatches at all (`Dispatching`), `records_dispatchForTransfer_iff` when its writes land
(`Recordable`), and `dispatch_recorded_iff` puts the two together.
-/

namespace TripWire

open Py

/-- The endpoints that `_dispatch_for_transfer` matches: none when the fetch raises. -/
def matchedEndpoints (env : Env) (w : World) (t : ERC3009Transfer) : List Endpoint :=
  match fetchMatchingEndpoints env w t with
  | .ok endpoints => matchEndpoints t endpoints
  | .error _ => []

/-- The event has its row, and every endpoint of the list is linked to it. -/
structure World.Records (w : World) (id : EventId) (matched : List Endpoint) : Prop where
  row : w.events.get? id ≠ none
  links : ∀ ep ∈ matched, (id, ep.id) ∈ w.eventEndpoints

/-- The call sends a webhook for the event, or reports the event as processed. -/
def AnnouncedBy (w : World) (out : Outcome) (id : EventId) : Prop :=
  (∃ em ∈ out.1.outbox.drop w.outbox.length, em.message.isWebhook = true ∧ em.event = id) ∨
    ∃ r, out.2 = .ok r ∧ r.status = .processed ∧ r.eventId = some id

/-- The call gets as far as dispatching: no policy of a matched endpoint raises, and then a ready
execute endpoint has a Convoy project, or something matched and no subscription of a ready notify
endpoint raises. -/
structure Dispatching (env : Env) (w : World) (t : ERC3009Transfer)
    (finality : Option FinalityStatus) (identity : Option AgentIdentity) : Prop where
  policies : ∀ ep ∈ matchedEndpoints env w t,
    ∃ v, evaluatePolicy (buildTransferData t) identity ep.policies = .ok v
  reached :
    (∃ ep ∈ matchedEndpoints env w t, Ready t finality identity ep ∧ ep.mode = .execute ∧
        truthy ep.convoyProjectId = true) ∨
      (matchedEndpoints env w t ≠ [] ∧ ∀ ep ∈ matchedEndpoints env w t,
        Ready t finality identity ep → ep.mode = .notify →
          ∃ keep, subscribed env w t identity ep = .ok keep)

/-- Both writes of the call land, or were made before.  The row names the first matched endpoint and
each link its own, as foreign keys into the `endpoints` table. -/
structure Recordable (env : Env) (w : World) (id : EventId) (matched : List Endpoint) : Prop where
  insert : w.events.get? id ≠ none ∨
    (env.raises (.insertEvent id) = false ∧
      ∀ ep, matched.head? = some ep → ep.id ≠ "" → w.endpoints.get? ep.id ≠ none)
  link : (∀ ep ∈ matched, (id, ep.id) ∈ w.eventEndpoints) ∨
    (env.raises (.linkEndpoints id) = false ∧ ∀ ep ∈ matched, w.endpoints.get? ep.id ≠ none)

/-! ### The two writes -/

/-- When the row is there after `_record_event`. -/
theorem get?_recordEvent_ne_none_iff (env : Env) (w : World) (row : EventRow) :
    (recordEvent env w row).events.get? row.id ≠ none ↔
      w.events.get? row.id ≠ none ∨
        (env.raises (.insertEvent row.id) = false ∧
          ∀ eid, row.endpointId = some eid → w.endpoints.get? eid ≠ none) := by
  by_cases hthere : w.events.get? row.id ≠ none
  · -- Whatever the insertion does, it does not remove the row that holds the id.
    refine iff_of_true ?_ (Or.inl hthere)
    rcases recordEvent_cases env w row with h | ⟨w', hins, h⟩
    · rw [h]
      exact hthere
    · rw [h, World.get?_insertEvent hins, if_pos rfl]
      exact Option.some_ne_none row
  · rw [or_iff_right hthere]
    have hfree : w.events.get? row.id = none := not_not.mp hthere
    constructor
    · intro h
      rcases recordEvent_cases env w row with hsame | ⟨w', hins, hw'⟩
      · rw [hsame] at h
        exact absurd hfree h
      · have hraise : env.raises (.insertEvent row.id) = false := by
          by_contra hraises
          rw [recordEvent, if_pos (by simpa using hraises)] at h
          exact h hfree
        refine ⟨hraise, ?_⟩
        intro eid heid
        have hfk : (w.endpoints.get? eid).isSome = true := by
          unfold World.insertEvent at hins
          split_ifs at hins with hall
          simpa [heid] using hall
        exact Option.isSome_iff_ne_none.mp hfk
    · rintro ⟨hraise, hfk⟩
      have hall : (row.endpointId.all fun eid => (w.endpoints.get? eid).isSome) = true := by
        cases heid : row.endpointId with
        | none => rfl
        | some eid => exact Option.isSome_iff_ne_none.mpr (hfk eid heid)
      have hins : w.events.insert? row ≠ none := by
        intro hconflict
        exact KeyedTable.insert?_eq_none_iff.mp hconflict hfree
      obtain ⟨table, htable⟩ := Option.ne_none_iff_exists'.mp hins
      have hw : w.insertEvent row = some { w with events := table } := by
        rw [World.insertEvent, if_pos hall, htable]
        rfl
      have hrecord : recordEvent env w row = { w with events := table } := by
        rw [recordEvent, hraise, hw]
        rfl
      rw [hrecord, KeyedTable.get?_insert?_some htable, if_pos rfl]
      exact Option.some_ne_none row

/-- Which links there are after `link_endpoints`. -/
theorem mem_linkEndpoints_iff (w : World) (id : EventId) (eids : List EndpointId)
    (l : EventId × EndpointId) :
    l ∈ (w.linkEndpoints id eids).eventEndpoints ↔
      l ∈ w.eventEndpoints ∨
        ((w.events.get? id ≠ none ∧ ∀ eid ∈ eids, w.endpoints.get? eid ≠ none) ∧
          l.1 = id ∧ l.2 ∈ eids) := by
  simp only [World.linkEndpoints, Option.isSome_iff_ne_none]
  split_ifs with hfk
  · rw [and_iff_right hfk, List.mem_append, List.mem_dedup, List.mem_filter, List.mem_map]
    constructor
    · rintro (h | ⟨⟨eid, heid, rfl⟩, -⟩)
      · exact Or.inl h
      · exact Or.inr ⟨rfl, heid⟩
    · rintro (h | ⟨rfl, heid⟩)
      · exact Or.inl h
      · by_cases hold : l ∈ w.eventEndpoints
        · exact Or.inl hold
        · exact Or.inr ⟨⟨l.2, heid, rfl⟩, by simpa using hold⟩
  · rw [or_iff_left (fun h => hfk h.1)]

/-- With the row in place, when every matched endpoint is linked after the link stage. -/
theorem linked_linkStage_iff (env : Env) {w : World} {id : EventId} (plan : Plan)
    (hrow : w.events.get? id ≠ none) :
    (∀ ep ∈ plan.matched, (id, ep.id) ∈ (linkStage env w id plan).eventEndpoints) ↔
      (∀ ep ∈ plan.matched, (id, ep.id) ∈ w.eventEndpoints) ∨
        (env.raises (.linkEndpoints id) = false ∧
          ∀ ep ∈ plan.matched, w.endpoints.get? ep.id ≠ none) := by
  unfold linkStage
  by_cases hskip : (plan.matched.isEmpty || env.raises (.linkEndpoints id)) = true
  · rw [if_pos hskip]
    constructor
    · intro h
      exact Or.inl h
    · rintro (h | ⟨hraise, -⟩)
      · exact h
      · -- The call does not raise, so it was skipped because nothing matched.
        have hempty : plan.matched = [] := by
          rw [hraise, Bool.or_false, List.isEmpty_iff] at hskip
          exact hskip
        intro ep hep
        rw [hempty] at hep
        cases hep
  · rw [if_neg hskip]
    have hraise : env.raises (.linkEndpoints id) = false := by
      rw [Bool.or_eq_true, not_or] at hskip
      simpa using hskip.2
    simp only [mem_linkEndpoints_iff, hraise, true_and]
    constructor
    · intro h
      by_cases hall : ∀ ep ∈ plan.matched, (id, ep.id) ∈ w.eventEndpoints
      · exact Or.inl hall
      · -- A link that was not there before is there because no endpoint of the list is unknown.
        push Not at hall
        obtain ⟨ep, hep, hnew⟩ := hall
        obtain ⟨⟨-, hknown⟩, -⟩ := (h ep hep).resolve_left hnew
        right
        intro ep' hep'
        exact hknown ep'.id (List.mem_map_of_mem hep')
    · rintro (h | hknown)
      · intro ep hep
        exact Or.inl (h ep hep)
      · intro ep hep
        refine Or.inr ⟨⟨hrow, ?_⟩, List.mem_map_of_mem hep⟩
        intro eid heid
        obtain ⟨ep', hep', rfl⟩ := List.mem_map.mp heid
        exact hknown ep' hep'

/-- The row and the links are there after the first two stages when both writes land. -/
theorem records_stages_iff (env : Env) (w : World) {row : EventRow} {id : EventId} (plan : Plan)
    (hid : row.id = id)
    (hrow : row.endpointId = (plan.matched.head?.map (·.id)).filter (· ≠ "")) :
    (linkStage env (recordEvent env w row) id plan).Records id plan.matched ↔
      Recordable env w id plan.matched := by
  subst hid
  obtain ⟨table, htable⟩ := recordEvent_frame env w row
  obtain ⟨links, hlinks⟩ := linkStage_frame env (recordEvent env w row) row.id plan
  have hevents : (linkStage env (recordEvent env w row) row.id plan).events =
      (recordEvent env w row).events := by
    rw [hlinks]
  have hrecorded := get?_recordEvent_ne_none_iff env w row
  have hlinked : (recordEvent env w row).events.get? row.id ≠ none → _ :=
    linked_linkStage_iff env plan
  have hendpoint : (∀ eid, row.endpointId = some eid → w.endpoints.get? eid ≠ none) ↔
      ∀ ep, plan.matched.head? = some ep → ep.id ≠ "" → w.endpoints.get? ep.id ≠ none := by
    rw [hrow]
    cases plan.matched.head? with
    | none => simp
    | some ep => simp [Option.filter_some]
  rw [hendpoint] at hrecorded
  constructor
  · rintro ⟨hthere, hall⟩
    rw [hevents] at hthere
    have hlink := (hlinked hthere).mp hall
    rw [htable] at hlink
    exact ⟨hrecorded.mp hthere, hlink⟩
  · rintro ⟨hinsert, hlink⟩
    have hthere := hrecorded.mpr hinsert
    refine ⟨by rwa [hevents], (hlinked hthere).mpr ?_⟩
    rw [htable]
    exact hlink

/-! ### The call -/

section Calls

variable {env : Env} {w : World} {t : ERC3009Transfer} {endpoints : List Endpoint}
  (finality : Option FinalityStatus) (identity : Option AgentIdentity)
  (eventTypeOverride : Option WebhookEventType) (eventId : Option EventId)

theorem matchedEndpoints_of_fetched (hfetch : fetchMatchingEndpoints env w t = .ok endpoints) :
    matchedEndpoints env w t = matchEndpoints t endpoints := by
  rw [matchedEndpoints, hfetch]

/-- The dispatch stage leaves the record alone. -/
theorem records_deliver_iff {d : Dispatch} {approved : List Endpoint} {id : EventId}
    {matched : List Endpoint} :
    (deliver env w d approved).1.Records id matched ↔ w.Records id matched := by
  obtain ⟨ems, ds, hdeliver, -⟩ := deliver_spec env w d approved
  rw [hdeliver]
  exact ⟨fun h => ⟨h.row, h.links⟩, fun h => ⟨h.row, h.links⟩⟩

theorem isWebhook_of_mem_realtimeRows {d : Dispatch} {approved : List Endpoint} {em : Emission}
    (h : em ∈ realtimeRows env w d approved) : em.message.isWebhook = false := by
  unfold realtimeRows at h
  split at h
  · cases h
  · obtain ⟨ep, -, rfl⟩ := mem_notifyBatch h
    rfl

/-- The dispatch stage ends as the subscription stage does. -/
theorem deliver_snd (env : Env) (w : World) (d : Dispatch) (approved : List Endpoint) :
    (deliver env w d approved).2 =
      (filterNotifyEndpoints env w d.transfer d.identity (inMode .notify approved)).map
        List.length := by
  obtain ⟨ds, hds⟩ := pushWebhooks_eq env w d (inMode .execute approved)
  have hsubs : (pushWebhooks env w d (inMode .execute approved)).subscriptions =
      w.subscriptions := by
    rw [hds]
  rw [← filterNotifyEndpoints_congr hsubs]
  simp only [deliver]
  cases filterNotifyEndpoints env (pushWebhooks env w d (inMode .execute approved)) d.transfer
      d.identity (inMode .notify approved) with
  | error e => rfl
  | ok kept => rfl

/-- Which event the result names, and when it names it as processed. -/
theorem dispatchResult_processed_iff {d : Dispatch} {plan : Plan} {sent : ℕ} {id : EventId} :
    ((dispatchResult env d endpoints plan sent).status = .processed ∧
        (dispatchResult env d endpoints plan sent).eventId = some id) ↔
      (endpoints ≠ [] ∧ plan.matched ≠ []) ∧ d.event = id := by
  unfold dispatchResult
  by_cases hnone : endpoints = []
  · simp [hnone]
  · by_cases hmatch : plan.matched = []
    · simp [hmatch, hnone]
    · simp [hmatch, hnone]

/-- The plan is made when no policy raises. -/
theorem exists_planDispatch_iff :
    (∃ plan, planDispatch t finality identity eventTypeOverride endpoints = .ok plan) ↔
      ∀ ep ∈ matchEndpoints t endpoints,
        ∃ v, evaluatePolicy (buildTransferData t) identity ep.policies = .ok v := by
  rw [← exists_policyVerdicts_iff]
  simp only [planDispatch]
  cases policyVerdicts (buildTransferData t) identity (matchEndpoints t endpoints) with
  | error e => simp [Except.map]
  | ok verdicts => simp [Except.map]

/-- The world after the two writes of the call. -/
def recordedWorld (env : Env) (w : World) (t : ERC3009Transfer) (finality : Option FinalityStatus)
    (eventId : Option EventId) (plan : Plan) : World :=
  linkStage env
    (recordEvent env (chooseEventId w eventId).1
      (eventRow env.now (chooseEventId w eventId).2 t finality plan.type
        (plan.matched.head?.map (·.id))))
    (chooseEventId w eventId).2 plan

/-- A call that has its plan writes the record and then delivers, whatever became of the writes. -/
theorem dispatchForTransfer_of_plan {plan : Plan}
    (hfetch : fetchMatchingEndpoints env w t = .ok endpoints)
    (hplan : planDispatch t finality identity eventTypeOverride endpoints = .ok plan) :
    dispatchForTransfer env w t finality identity eventTypeOverride eventId =
      ((deliver env (recordedWorld env w t finality eventId plan)
          (planCall env w t finality identity eventId plan) plan.approved).1,
        (deliver env (recordedWorld env w t finality eventId plan)
          (planCall env w t finality identity eventId plan) plan.approved).2.map
            (dispatchResult env (planCall env w t finality identity eventId plan) endpoints
              plan)) := by
  simp only [dispatchForTransfer, hfetch, hplan]
  rfl

/-- When the call leaves a record behind. -/
theorem records_dispatchForTransfer_iff {plan : Plan}
    (hfetch : fetchMatchingEndpoints env w t = .ok endpoints)
    (hplan : planDispatch t finality identity eventTypeOverride endpoints = .ok plan) :
    (dispatchForTransfer env w t finality identity eventTypeOverride eventId).1.Records
        (chooseEventId w eventId).2 (matchedEndpoints env w t) ↔
      Recordable env w (chooseEventId w eventId).2 (matchedEndpoints env w t) := by
  have hmatched : matchedEndpoints env w t = plan.matched :=
    (matchedEndpoints_of_fetched hfetch).trans (planDispatch_spec hplan).1.symm
  rw [dispatchForTransfer_of_plan finality identity eventTypeOverride eventId hfetch hplan,
    records_deliver_iff, hmatched, recordedWorld]
  refine (records_stages_iff env _ plan rfl rfl).trans ?_
  -- Drawing the id changes neither the tables nor which calls raise.
  obtain ⟨n, hn⟩ := chooseEventId_fst w eventId
  rw [hn]
  exact ⟨fun h => ⟨h.insert, h.link⟩, fun h => ⟨h.insert, h.link⟩⟩

/-- The call dispatches a webhook when a ready execute endpoint has a project. -/
theorem webhook_dispatchForTransfer_iff {plan : Plan}
    (hfetch : fetchMatchingEndpoints env w t = .ok endpoints)
    (hplan : planDispatch t finality identity eventTypeOverride endpoints = .ok plan)
    (id : EventId) :
    (∃ em ∈ (dispatchForTransfer env w t finality identity eventTypeOverride eventId).1.outbox.drop
        w.outbox.length, em.message.isWebhook = true ∧ em.event = id) ↔
      id = (chooseEventId w eventId).2 ∧
        ∃ ep ∈ matchedEndpoints env w t, Ready t finality identity ep ∧ ep.mode = .execute ∧
          truthy ep.convoyProjectId = true := by
  rw [outbox_dispatchForTransfer_of_plan finality identity eventTypeOverride eventId hfetch hplan,
    List.drop_left, matchedEndpoints_of_fetched hfetch]
  constructor
  · rintro ⟨em, hem, hweb, rfl⟩
    rcases List.mem_append.mp hem with hem | hem
    · obtain ⟨ep, hep, hsent⟩ := mem_dispatchEvent hem
      obtain ⟨happroved, hmode⟩ := mem_inMode.mp hep
      obtain ⟨hmem, hready⟩ := (mem_approved_iff finality identity eventTypeOverride hplan).mp
        happroved
      exact ⟨(webhookEmission_spec hsent).1, ep, hmem, hready, hmode,
        truthy_of_webhookEmission hsent⟩
    · -- A realtime row is no webhook.
      have hnot := isWebhook_of_mem_realtimeRows hem
      rw [hweb] at hnot
      cases hnot
  · rintro ⟨rfl, ep, hmem, hready, hmode, hproject⟩
    have happroved : ep ∈ plan.approved :=
      (mem_approved_iff finality identity eventTypeOverride hplan).mpr ⟨hmem, hready⟩
    obtain ⟨em, hem, -⟩ : ∃ em ∈ dispatchEvent env
        (planCall env w t finality identity eventId plan) (inMode .execute plan.approved),
          em.endpoint = ep :=
      exists_mem_dispatchEvent _ (mem_inMode.mpr ⟨happroved, hmode⟩) hproject
    obtain ⟨ep', -, hsent⟩ := mem_dispatchEvent hem
    have hspec := webhookEmission_spec hsent
    exact ⟨em, List.mem_append_left _ hem, hspec.2.2.2.2.1, hspec.1⟩

/-- The call reports the event as processed when something matched and the subscriptions of the
ready notify endpoints can be compared. -/
theorem processed_dispatchForTransfer_iff {plan : Plan}
    (hfetch : fetchMatchingEndpoints env w t = .ok endpoints)
    (hplan : planDispatch t finality identity eventTypeOverride endpoints = .ok plan)
    (id : EventId) :
    (∃ r, (dispatchForTransfer env w t finality identity eventTypeOverride eventId).2 = .ok r ∧
        r.status = .processed ∧ r.eventId = some id) ↔
      id = (chooseEventId w eventId).2 ∧ matchedEndpoints env w t ≠ [] ∧
        ∀ ep ∈ matchedEndpoints env w t, Ready t finality identity ep → ep.mode = .notify →
          ∃ keep, subscribed env w t identity ep = .ok keep := by
  have hmatched : matchedEndpoints env w t = plan.matched :=
    (matchedEndpoints_of_fetched hfetch).trans (planDispatch_spec hplan).1.symm
  have hsubscriptions : (∀ ep ∈ matchedEndpoints env w t, Ready t finality identity ep →
      ep.mode = .notify → ∃ keep, subscribed env w t identity ep = .ok keep) ↔
        ∃ kept, filterNotifyEndpoints env w t identity (inMode .notify plan.approved) =
          .ok kept := by
    rw [exists_filterNotifyEndpoints_iff, matchedEndpoints_of_fetched hfetch]
    simp only [mem_inMode, mem_approved_iff finality identity eventTypeOverride hplan, and_imp]
  rw [hsubscriptions, hmatched]
  -- The subscription stage reads the same tables after the writes as before.
  obtain ⟨n, table, links, log, hframe⟩ := recordStages_frame env w eventId
    (eventRow env.now (chooseEventId w eventId).2 t finality plan.type
      (plan.matched.head?.map (·.id))) plan
  have hsubs : (recordedWorld env w t finality eventId plan).subscriptions = w.subscriptions := by
    rw [recordedWorld, hframe]
  rw [dispatchForTransfer_of_plan finality identity eventTypeOverride eventId hfetch hplan,
    deliver_snd, filterNotifyEndpoints_congr hsubs]
  simp only [planCall]
  cases filterNotifyEndpoints env w t identity (inMode .notify plan.approved) with
  | error e => simp [Except.map]
  | ok kept =>
    have hmatch : plan.matched ≠ [] → endpoints ≠ [] := by
      rintro hne rfl
      exact hne (planDispatch_spec hplan).1
    simp only [Except.map, Except.ok.injEq, exists_eq_left', exists_eq', and_true,
      dispatchResult_processed_iff]
    constructor
    · rintro ⟨⟨-, hne⟩, hid⟩
      exact ⟨hid.symm, hne⟩
    · rintro ⟨rfl, hne⟩
      exact ⟨⟨hmatch hne, hne⟩, rfl⟩

end Calls

/-- **When a call dispatches**: when its own policies, projects and subscriptions let it, and then
for the id it chose. -/
theorem announcedBy_dispatchForTransfer_iff (env : Env) (w : World) (t : ERC3009Transfer)
    (finality : Option FinalityStatus) (identity : Option AgentIdentity)
    (eventTypeOverride : Option WebhookEventType) (eventId : Option EventId) (id : EventId) :
    AnnouncedBy w (dispatchForTransfer env w t finality identity eventTypeOverride eventId) id ↔
      id = (chooseEventId w eventId).2 ∧ Dispatching env w t finality identity := by
  unfold AnnouncedBy
  cases hfetch : fetchMatchingEndpoints env w t with
  | error e =>
    have hnone : matchedEndpoints env w t = [] := by
      rw [matchedEndpoints, hfetch]
    refine iff_of_false ?_ ?_
    · simp [dispatchForTransfer, hfetch, errorResult]
    · rintro ⟨-, -, ⟨ep, hep, -⟩ | ⟨hne, -⟩⟩
      · rw [hnone] at hep
        cases hep
      · exact hne hnone
  | ok endpoints =>
    cases hplan : planDispatch t finality identity eventTypeOverride endpoints with
    | error e =>
      refine iff_of_false ?_ ?_
      · simp [dispatchForTransfer, hfetch, hplan]
      · rintro ⟨-, hdispatching⟩
        have hpolicies := hdispatching.policies
        rw [matchedEndpoints_of_fetched hfetch,
          ← exists_planDispatch_iff finality identity eventTypeOverride, hplan] at hpolicies
        obtain ⟨plan, hplan'⟩ := hpolicies
        cases hplan'
    | ok plan =>
      have hpolicies : ∀ ep ∈ matchedEndpoints env w t,
          ∃ v, evaluatePolicy (buildTransferData t) identity ep.policies = .ok v := by
        rw [matchedEndpoints_of_fetched hfetch,
          ← exists_planDispatch_iff finality identity eventTypeOverride]
        exact ⟨plan, hplan⟩
      rw [webhook_dispatchForTransfer_iff finality identity eventTypeOverride eventId hfetch hplan,
        processed_dispatchForTransfer_iff finality identity eventTypeOverride eventId hfetch hplan,
        ← and_or_left]
      exact and_congr_right fun _ => ⟨fun h => ⟨hpolicies, h⟩, fun h => h.reached⟩

/-- **No dispatch without a record**, exactly when the call does not dispatch or both its writes
land: neither `_record_event` nor the link stage lets a failed write stop the call. -/
theorem dispatch_recorded_iff (env : Env) (w : World) (t : ERC3009Transfer)
    (finality : Option FinalityStatus) (identity : Option AgentIdentity)
    (eventTypeOverride : Option WebhookEventType) (eventId : Option EventId) :
    (∀ id,
        AnnouncedBy w (dispatchForTransfer env w t finality identity eventTypeOverride eventId) id →
          (dispatchForTransfer env w t finality identity eventTypeOverride eventId).1.Records id
            (matchedEndpoints env w t)) ↔
      (Dispatching env w t finality identity →
        Recordable env w (chooseEventId w eventId).2 (matchedEndpoints env w t)) := by
  simp only [announcedBy_dispatchForTransfer_iff, and_imp, forall_eq]
  refine forall_congr' fun hdispatching => ?_
  -- A call that dispatches has fetched its endpoints and made its plan.
  cases hfetch : fetchMatchingEndpoints env w t with
  | error e =>
    have hnone : matchedEndpoints env w t = [] := by
      rw [matchedEndpoints, hfetch]
    rcases hdispatching.reached with ⟨ep, hep, -⟩ | ⟨hne, -⟩
    · rw [hnone] at hep
      cases hep
    · exact absurd hnone hne
  | ok endpoints =>
    have hpolicies := hdispatching.policies
    rw [matchedEndpoints_of_fetched hfetch,
      ← exists_planDispatch_iff finality identity eventTypeOverride] at hpolicies
    obtain ⟨plan, hplan⟩ := hpolicies
    exact records_dispatchForTransfer_iff finality identity eventTypeOverride eventId hfetch hplan

/-- The world in which the sample endpoint is registered and nothing has happened yet. -/
def Sample.oneEndpointWorld : World := { endpoints := KeyedTable.empty.insertAll [endpoint {}] }

/-- The insertion raises, and the webhook goes out for an event that is not in the table. -/
theorem dispatch_unrecorded_insert_raises :
    ¬ ∀ id, AnnouncedBy Sample.oneEndpointWorld
        (dispatchForTransfer { raises := fun c => c = .insertEvent 0 } Sample.oneEndpointWorld
          (Sample.onchain 100) none none) id →
      (dispatchForTransfer { raises := fun c => c = .insertEvent 0 } Sample.oneEndpointWorld
          (Sample.onchain 100) none none).1.Records id
        (matchedEndpoints { raises := fun c => c = .insertEvent 0 } Sample.oneEndpointWorld
          (Sample.onchain 100)) := by
  intro h
  refine (h 0 (Or.inl ?_)).row ?_
  · decide +kernel
  · decide +kernel

end TripWire
