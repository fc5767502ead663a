import TripWire.Db.World
import Mathlib.Data.List.Dedup

/-!
# The repositories

The statements the pipeline issues against the database, as functions on `World`:
`record_nonce_or_correlate` and `record_nonce_with_reorg` with the plpgsql functions behind them,
`invalidate_by_event_id`, and the operations of `EventRepository` and `WebhookDeliveryRepository`.

Every function touches the tables its name says and no other; the `simp` lemmas after each state
that frame once, so that no later proof unfolds a repository call.
-/

namespace TripWire

open Py

namespace World

/-! ### Nonces -/

/-- The key under which a nonce is stored. -/
def nonceKey (chainId : ℤ) (nonce authorizer : String) : NonceKey :=
  (chainId, nonce, lower authorizer)

/-- The answer of `record_nonce_or_correlate`: `(is_new, existing_event_id, existing_source)`. -/
structure NonceAnswer where
  isNew : Bool
  existingEventId : Option EventId := none
  existingSource : Option NonceSource := none
  deriving DecidableEq

/-- The `INSERT ... ON CONFLICT DO NOTHING` of both plpgsql functions; `none` on a conflict. -/
def insertNonce (w : World) (now : ℤ) (key : NonceKey) (eventId : Option EventId)
    (source : NonceSource) : Option World :=
  (w.nonces.insert? ⟨key.1, key.2.1, key.2.2, eventId, source, none, now⟩).map fun t =>
    { w with nonces := t }

/-- The reclaiming `UPDATE` of a reorged nonce. -/
def reclaimNonce (w : World) (now : ℤ) (key : NonceKey) (eventId : Option EventId)
    (source : Option NonceSource) : World :=
  { w with
    nonces := w.nonces.updateWhere (fun r => decide (r.key = key))
      (NonceRow.reclaimed now eventId source) (NonceRow.key_reclaimed now eventId source) }

/-- `record_nonce_or_correlate` (migration 020): insert, else reclaim a reorged nonce, else report
who holds it. -/
def recordNonceOrCorrelate (w : World) (now : ℤ) (key : NonceKey) (eventId : Option EventId)
    (source : NonceSource) : World × NonceAnswer :=
  match w.insertNonce now key eventId source with
  | some w' => (w', { isNew := true })
  | none =>
    match w.nonces.get? key with
    | none => (w, { isNew := false })
    | some row =>
      -- A reorged nonce changes hands: event, source and age become those of the new claim.
      if row.reorgedAt.isSome then
        (w.reclaimNonce now key eventId (some source), { isNew := true })
      else (w, { isNew := false, existingEventId := row.eventId,
                 existingSource := some row.source })

/-- `record_nonce` through `record_nonce_with_reorg` (migration 019).  The reclaiming update leaves
the `source` column as it is.  The lookup in `nonces_archive` that ends the plpgsql function answers
`FALSE` either way. -/
def recordNonce (w : World) (now : ℤ) (key : NonceKey) (eventId : Option EventId) : World × Bool :=
  match w.insertNonce now key eventId .goldsky with
  | some w' => (w', true)
  | none =>
    match w.nonces.get? key with
    | none => (w, false)
    | some row =>
      if row.reorgedAt.isSome then
        (w.reclaimNonce now key eventId none, true)
      else (w, false)

/-- `invalidate_by_event_id`: mark the active nonces of an event as reorged. -/
def invalidateByEventId (w : World) (now : ℤ) (eventId : EventId) : World :=
  { w with
    nonces := w.nonces.updateWhere
      (fun r => decide (r.eventId = some eventId) && r.reorgedAt.isNone)
      (NonceRow.invalidated now) (NonceRow.key_invalidated now) }

/-- The row that holds `key`, unless it is reorged. -/
def activeClaim (w : World) (key : NonceKey) : Option NonceRow :=
  (w.nonces.get? key).filter fun r => r.reorgedAt.isNone

theorem activeClaim_eq_some_iff {w : World} {key : NonceKey} {row : NonceRow} :
    w.activeClaim key = some row ↔ w.nonces.get? key = some row ∧ row.reorgedAt = none := by
  simp [activeClaim, Option.filter_eq_some_iff]

/-- **A held nonce is correlated.** The call changes nothing and reports the holder. -/
theorem recordNonceOrCorrelate_of_claimed {w : World} {now : ℤ} {key : NonceKey}
    {eventId : Option EventId} {source : NonceSource} {row : NonceRow}
    (h : w.activeClaim key = some row) :
    w.recordNonceOrCorrelate now key eventId source =
      (w, { isNew := false, existingEventId := row.eventId,
            existingSource := some row.source }) := by
  obtain ⟨hget, hreorg⟩ := activeClaim_eq_some_iff.mp h
  have hins : w.insertNonce now key eventId source = none := by
    rw [insertNonce, Option.map_eq_none_iff, KeyedTable.insert?_eq_none_iff]
    change w.nonces.get? key ≠ none
    rw [hget]
    exact Option.some_ne_none row
  simp [recordNonceOrCorrelate, hins, hget, hreorg]

/-- **A free nonce is claimed.** The answer is `is_new` and the key then reads the new claim, every
other key as before. -/
theorem recordNonceOrCorrelate_of_free {w : World} {now : ℤ} {key : NonceKey}
    {eventId : Option EventId} {source : NonceSource} (h : w.activeClaim key = none) :
    (w.recordNonceOrCorrelate now key eventId source).2 = { isNew := true } ∧
      ∀ k, (w.recordNonceOrCorrelate now key eventId source).1.nonces.get? k =
        if key = k then some ⟨key.1, key.2.1, key.2.2, eventId, source, none, now⟩
        else w.nonces.get? k := by
  unfold recordNonceOrCorrelate
  cases hins : w.insertNonce now key eventId source with
  | some w' =>
    obtain ⟨t, ht, rfl⟩ := Option.map_eq_some_iff.mp hins
    refine ⟨rfl, fun k => ?_⟩
    exact KeyedTable.get?_insert?_some ht k
  | none =>
    -- The insert conflicts although nobody holds the key: its row must be a reorged one.
    have hne : w.nonces.get? key ≠ none := by
      rw [insertNonce, Option.map_eq_none_iff, KeyedTable.insert?_eq_none_iff] at hins
      exact hins
    obtain ⟨row, hrow⟩ := Option.ne_none_iff_exists'.mp hne
    have hreorg : row.reorgedAt.isSome = true := by
      by_contra hcon
      have hnone : row.reorgedAt = none := by simpa using hcon
      rw [activeClaim_eq_some_iff.mpr ⟨hrow, hnone⟩] at h
      cases h
    have hkey : row.key = key := KeyedTable.key_of_get? hrow
    simp only [hrow, hreorg, if_true]
    refine ⟨trivial, fun k => ?_⟩
    -- The reclaiming update addresses the row of `key` and rewrites every column the insert writes.
    rw [reclaimNonce, KeyedTable.get?_updateWhere_key]
    by_cases hk : key = k
    · subst hk
      rw [if_pos rfl, if_pos rfl, hrow, ← hkey]
      rfl
    · rw [if_neg hk, if_neg hk]

/-- The claim that a free nonce carries after the call. -/
theorem activeClaim_of_free {w : World} {now : ℤ} {key : NonceKey} {eventId : Option EventId}
    {source : NonceSource} (h : w.activeClaim key = none) :
    (w.recordNonceOrCorrelate now key eventId source).1.activeClaim key =
      some ⟨key.1, key.2.1, key.2.2, eventId, source, none, now⟩ := by
  rw [activeClaim_eq_some_iff, (recordNonceOrCorrelate_of_free h).2 key, if_pos rfl]
  exact ⟨rfl, rfl⟩

/-- Who holds a nonce depends on the `nonces` table alone. -/
theorem activeClaim_congr {w w' : World} (h : w'.nonces = w.nonces) (key : NonceKey) :
    w'.activeClaim key = w.activeClaim key := by
  unfold activeClaim
  rw [h]

/-- A nonce call changes nothing but the `nonces` table. -/
theorem recordNonceOrCorrelate_frame (w : World) (now : ℤ) (key : NonceKey)
    (eventId : Option EventId) (source : NonceSource) :
    ∃ t, (w.recordNonceOrCorrelate now key eventId source).1 = { w with nonces := t } := by
  unfold recordNonceOrCorrelate
  split
  · rename_i w' hins
    obtain ⟨t, -, rfl⟩ := Option.map_eq_some_iff.mp hins
    exact ⟨t, rfl⟩
  · split
    · exact ⟨w.nonces, rfl⟩
    · split_ifs
      · exact ⟨_, rfl⟩
      · exact ⟨w.nonces, rfl⟩

/-- What `record_nonce` does to each nonce: nothing if the key is held, else it is claimed. -/
theorem recordNonce_cases (w : World) (now : ℤ) (key : NonceKey) (eventId : Option EventId) :
    (w.recordNonce now key eventId = (w, false) ∧ (w.activeClaim key).isSome = true) ∨
      ∃ claim table, w.activeClaim key = none ∧
        (claim.reorgedAt = none ∧ claim.eventId = eventId) ∧
        w.recordNonce now key eventId = ({ w with nonces := table }, true) ∧
        ∀ k, table.get? k = if key = k then some claim else w.nonces.get? k := by
  unfold recordNonce
  cases hins : w.insertNonce now key eventId .goldsky with
  | some w' =>
    obtain ⟨table, htable, rfl⟩ := Option.map_eq_some_iff.mp hins
    have hnone : w.nonces.get? key = none := by
      by_contra hne
      have hconflict : w.nonces.insert? ⟨key.1, key.2.1, key.2.2, eventId, .goldsky, none, now⟩ =
        none :=
        KeyedTable.insert?_eq_none_iff.mpr hne
      rw [insertNonce, hconflict] at hins
      cases hins
    right
    refine ⟨_, table, ?_, ⟨rfl, rfl⟩, rfl, KeyedTable.get?_insert?_some htable⟩
    rw [activeClaim, hnone]
    rfl
  | none =>
    have hne : w.nonces.get? key ≠ none := by
      rw [insertNonce, Option.map_eq_none_iff, KeyedTable.insert?_eq_none_iff] at hins
      exact hins
    obtain ⟨row, hrow⟩ := Option.ne_none_iff_exists'.mp hne
    have hkey : row.key = key := KeyedTable.key_of_get? hrow
    simp only [hrow]
    by_cases hreorg : row.reorgedAt.isSome = true
    · right
      rw [if_pos hreorg]
      refine ⟨row.reclaimed now eventId none, _, ?_, ⟨rfl, rfl⟩, rfl, fun k => ?_⟩
      · rw [activeClaim, hrow, Option.filter_some, if_neg]
        rw [Option.isNone_iff_eq_none]
        intro hnone
        rw [hnone] at hreorg
        cases hreorg
      · rw [KeyedTable.get?_updateWhere_key]
        by_cases hk : key = k
        · subst hk
          rw [if_pos rfl, if_pos rfl, hrow, Option.map_some]
        · rw [if_neg hk, if_neg hk]
    · left
      rw [if_neg hreorg]
      have hnone : row.reorgedAt = none := by simpa using hreorg
      refine ⟨rfl, ?_⟩
      rw [activeClaim_eq_some_iff.mpr ⟨hrow, hnone⟩]
      rfl

/-- A nonce call of a trigger changes nothing but the `nonces` table. -/
theorem recordNonce_frame (w : World) (now : ℤ) (key : NonceKey) (eventId : Option EventId) :
    ∃ t, (w.recordNonce now key eventId).1 = { w with nonces := t } := by
  rcases w.recordNonce_cases now key eventId with ⟨h, -⟩ | ⟨claim, table, -, -, h, -⟩
  · exact ⟨w.nonces, by rw [h]⟩
  · exact ⟨table, by rw [h]⟩

/-- The call answers whether nobody held the key. -/
theorem recordNonce_isNew (w : World) (now : ℤ) (key : NonceKey) (eventId : Option EventId) :
    (w.recordNonce now key eventId).2 = (w.activeClaim key).isNone := by
  rcases w.recordNonce_cases now key eventId with ⟨h, hheld⟩ | ⟨claim, table, hfree, -, h, -⟩
  · rw [h, Option.isNone_eq_false_iff.mpr hheld]
  · rw [h, hfree]
    rfl

/-- After the call the key is held. -/
theorem activeClaim_recordNonce_self (w : World) (now : ℤ) (key : NonceKey)
    (eventId : Option EventId) :
    ((w.recordNonce now key eventId).1.activeClaim key).isSome = true := by
  rcases w.recordNonce_cases now key eventId with ⟨h, hheld⟩ | ⟨claim, table, -, hactive, h, hget⟩
  · rw [h]
    exact hheld
  · have hclaim : ({ w with nonces := table } : World).activeClaim key = some claim :=
      activeClaim_eq_some_iff.mpr ⟨(hget key).trans (if_pos rfl), hactive.1⟩
    rw [h, hclaim]
    rfl

/-- The call leaves the other keys alone. -/
theorem activeClaim_recordNonce_of_ne {w : World} {key k : NonceKey} (hk : k ≠ key) (now : ℤ)
    (eventId : Option EventId) :
    (w.recordNonce now key eventId).1.activeClaim k = w.activeClaim k := by
  rcases w.recordNonce_cases now key eventId with ⟨h, -⟩ | ⟨claim, table, -, -, h, hget⟩
  · rw [h]
  · rw [h]
    unfold activeClaim
    rw [hget, if_neg hk.symm]

/-- What `invalidate_by_event_id` does to each nonce. -/
theorem get?_invalidateByEventId (w : World) (now : ℤ) (eventId : EventId) (k : NonceKey) :
    (w.invalidateByEventId now eventId).nonces.get? k =
      (w.nonces.get? k).map fun r =>
        if r.eventId = some eventId ∧ r.reorgedAt = none then r.invalidated now else r := by
  simp only [invalidateByEventId, KeyedTable.get?_updateWhere]
  congr 1
  funext r
  simp

/-! ### Events -/

/-- `str(uuid.uuid4())`. -/
def uuid4 (w : World) : World × EventId := ({ w with uuids := w.uuids + 1 }, w.uuids)

/-- `EventRepository.insert`; `none` when it raises: a taken id, or a first endpoint that is not in
the `endpoints` table. -/
def insertEvent (w : World) (row : EventRow) : Option World :=
  if row.endpointId.all fun eid => (w.endpoints.get? eid).isSome then
    (w.events.insert? row).map fun t => { w with events := t }
  else none

/-- `UPDATE events SET ... WHERE id = ...`. -/
def updateEvent (w : World) (id : EventId) (f : EventRow → EventRow) (hf : ∀ r, (f r).id = r.id) :
    World :=
  { w with events := w.events.updateWhere (fun r => decide (r.id = id)) f hf }

/-- `update_status`, through PostgREST or `asyncpg`: no condition on the status it replaces. -/
def updateStatus (w : World) (now : ℤ) (id : EventId) (status : EventStatus) : World :=
  w.updateEvent id (EventRow.withStatus now status) (EventRow.id_withStatus now status)

/-- `update_finality`. -/
def updateFinality (w : World) (id : EventId) (depth : ℤ) : World :=
  w.updateEvent id (EventRow.withFinality depth) (EventRow.id_withFinality depth)

/-- `promote_to_confirmed`: the updated row, or `none` when there is no such row. -/
def promoteToConfirmed (w : World) (now : ℤ) (id : EventId) (t : ERC3009Transfer) :
    World × Option EventRow :=
  let w' := w.updateEvent id (EventRow.promoted now t) (EventRow.id_promoted now t)
  (w', w'.events.get? id)

theorem get?_updateEvent (w : World) (id : EventId) (f : EventRow → EventRow)
    (hf : ∀ r, (f r).id = r.id) (k : EventId) :
    (w.updateEvent id f hf).events.get? k =
      if k = id then (w.events.get? k).map f else w.events.get? k := by
  rw [updateEvent, KeyedTable.get?_updateWhere_key]
  exact if_congr eq_comm rfl rfl

theorem get?_updateStatus (w : World) (now : ℤ) (id : EventId) (status : EventStatus)
    (k : EventId) :
    (w.updateStatus now id status).events.get? k =
      if k = id then (w.events.get? k).map (EventRow.withStatus now status)
      else w.events.get? k :=
  w.get?_updateEvent id _ _ k

theorem get?_updateFinality (w : World) (id : EventId) (depth : ℤ) (k : EventId) :
    (w.updateFinality id depth).events.get? k =
      if k = id then (w.events.get? k).map (EventRow.withFinality depth) else w.events.get? k :=
  w.get?_updateEvent id _ _ k

theorem get?_promoteToConfirmed (w : World) (now : ℤ) (id : EventId) (t : ERC3009Transfer)
    (k : EventId) :
    (w.promoteToConfirmed now id t).1.events.get? k =
      if k = id then (w.events.get? k).map (EventRow.promoted now t) else w.events.get? k :=
  w.get?_updateEvent id _ _ k

/-- An update that addresses no row changes nothing. -/
theorem updateEvent_of_get?_eq_none {w : World} {id : EventId} {f : EventRow → EventRow}
    {hf : ∀ r, (f r).id = r.id} (h : w.events.get? id = none) : w.updateEvent id f hf = w := by
  have hnot : ∀ r ∈ w.events.rows, decide (r.id = id) = false := by
    intro r hr
    rw [decide_eq_false_iff_not]
    exact KeyedTable.get?_eq_none_iff.mp h r hr
  rw [updateEvent, KeyedTable.updateWhere_of_forall_not hnot]

theorem get?_insertEvent {w w' : World} {row : EventRow} (h : w.insertEvent row = some w')
    (k : EventId) : w'.events.get? k = if row.id = k then some row else w.events.get? k := by
  unfold insertEvent at h
  split_ifs at h
  obtain ⟨t, ht, rfl⟩ := Option.map_eq_some_iff.mp h
  exact KeyedTable.get?_insert?_some ht k

/-- An insertion changes nothing but the `events` table. -/
theorem insertEvent_frame {w w' : World} {row : EventRow} (h : w.insertEvent row = some w') :
    ∃ t, w' = { w with events := t } := by
  unfold insertEvent at h
  split_ifs at h
  obtain ⟨t, -, rfl⟩ := Option.map_eq_some_iff.mp h
  exact ⟨t, rfl⟩

/-! ### The join table, endpoints, subscriptions and deliveries -/

/-- `link_endpoints`: an upsert that ignores duplicates.  Both columns are foreign keys; a violated
one fails the whole statement, and the method swallows the exception. -/
def linkEndpoints (w : World) (id : EventId) (eids : List EndpointId) : World :=
  if (w.events.get? id).isSome ∧ ∀ eid ∈ eids, (w.endpoints.get? eid).isSome then
    { w with
      eventEndpoints :=
        w.eventEndpoints ++ ((eids.map fun eid => (id, eid)).filter (· ∉ w.eventEndpoints)).dedup }
  else w

/-- `get_endpoint_ids`. -/
def getEndpointIds (w : World) (id : EventId) : List EndpointId :=
  (w.eventEndpoints.filter fun l => l.1 = id).map Prod.snd

/-- `list_by_recipient`: the stored recipient is compared with the lower-cased argument. -/
def listByRecipient (w : World) (recipient : EthAddress) : List Endpoint :=
  w.endpoints.rows.filter fun ep => ep.recipient.val = lower recipient.val && ep.active

/-- `archive_old_nonces` as the pipeline sees it: old nonces that are not reorged leave the table.
`LIMIT` comes without an order, and `scanned` says which rows the scan returns. -/
def archiveOldNonces (w : World) (now ageThreshold : ℤ) (batchSize : ℕ)
    (scanned : NonceKey → Bool) : World :=
  let moved := (w.nonces.rows.filter fun r =>
    decide (r.createdAt < now - ageThreshold) && r.reorgedAt.isNone && scanned r.key).take batchSize
  { w with nonces := w.nonces.deleteWhere fun r => (moved.map NonceRow.key).any (· = r.key) }

/-- The rows `_fetch_subscriptions` selects. -/
def activeSubscriptions (w : World) (eid : EndpointId) : List Subscription :=
  w.subscriptions.filter fun s => s.endpointId = eid && s.active

/-- `WebhookDeliveryRepository.create` with the status the recording loops pass.  Both ids are
foreign keys, and the callers swallow the exception. -/
def createDelivery (w : World) (eid : EndpointId) (id : EventId) (messageId : Option String) :
    World :=
  if (w.events.get? id).isSome ∧ (w.endpoints.get? eid).isSome then
    { w with
      deliveries := w.deliveries ++
        [⟨eid, id, messageId, if truthy messageId then .sent else .failed⟩] }
  else w

/-- Linking changes nothing but the join table. -/
theorem linkEndpoints_frame (w : World) (id : EventId) (eids : List EndpointId) :
    ∃ l, w.linkEndpoints id eids = { w with eventEndpoints := l } := by
  unfold linkEndpoints
  split_ifs
  · exact ⟨_, rfl⟩
  · exact ⟨w.eventEndpoints, rfl⟩

/-- Linking adds links of the event, and no link twice. -/
theorem linkEndpoints_links (w : World) (id : EventId) (eids : List EndpointId) :
    ∃ new, (w.linkEndpoints id eids).eventEndpoints = w.eventEndpoints ++ new ∧
      (∀ l ∈ new, l.1 = id ∧ l.2 ∈ eids) ∧
      (w.eventEndpoints.Nodup → (w.linkEndpoints id eids).eventEndpoints.Nodup) := by
  unfold linkEndpoints
  split_ifs
  · refine ⟨_, rfl, ?_, ?_⟩
    · intro l hl
      obtain ⟨eid, heid, rfl⟩ := List.mem_map.mp (List.mem_of_mem_filter (List.mem_dedup.mp hl))
      exact ⟨rfl, heid⟩
    · intro hnodup
      refine List.nodup_append.mpr ⟨hnodup, List.nodup_dedup _, ?_⟩
      rintro l hl l' hl' rfl
      have hnew := (List.mem_filter.mp (List.mem_dedup.mp hl')).2
      exact absurd hl (by simpa using hnew)
  · exact ⟨[], by rw [List.append_nil], by simp, fun h => h⟩

/-- Recording a delivery changes nothing but the deliveries. -/
theorem createDelivery_frame (w : World) (eid : EndpointId) (id : EventId)
    (messageId : Option String) :
    ∃ d, w.createDelivery eid id messageId = { w with deliveries := d } := by
  unfold createDelivery
  by_cases hfk : (w.events.get? id).isSome ∧ (w.endpoints.get? eid).isSome
  · rw [if_pos hfk]
    exact ⟨_, rfl⟩
  · rw [if_neg hfk]
    exact ⟨w.deliveries, rfl⟩

end World

end TripWire
