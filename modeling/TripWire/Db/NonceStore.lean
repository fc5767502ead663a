import TripWire.Db.Repositories

/-!
# The nonce tables

The tables `nonces` and `nonces_archive` and the four functions that work on them: the plpgsql
functions `record_nonce_or_correlate` (migration 020), `record_nonce_with_reorg` and
`archive_old_nonces` (migration 019), and `NonceRepository.invalidate_by_event_id`.

`event_id` and `source` are `TEXT` columns whose contents none of the four looks into, so the event
ids and the sources are arbitrary types here.  `Store.ofWorld` places the `nonces` table of the
pipeline's `World` in a store, and the two models of each function agree there.
-/

namespace TripWire

open Py World

namespace NonceStore

/-- A row of `nonces`. -/
structure Row (ε σ : Type) where
  chainId : ℤ
  nonce : String
  authorizer : String
  eventId : Option ε
  source : σ
  reorgedAt : Option ℤ
  createdAt : ℤ
  deriving DecidableEq

/-- A row of `nonces_archive`, which has no `source` column. -/
structure ArchiveRow (ε : Type) where
  chainId : ℤ
  nonce : String
  authorizer : String
  eventId : Option ε
  reorgedAt : Option ℤ
  createdAt : ℤ
  archivedAt : ℤ
  deriving DecidableEq

/-- The answer of `record_nonce_or_correlate`. -/
structure Answer (ε σ : Type) where
  isNew : Bool
  existingEventId : Option ε := none
  existingSource : Option σ := none
  deriving DecidableEq

variable {ε σ : Type}

/-- The arguments of a `record_nonce_or_correlate` call. -/
structure Claim (ε σ : Type) where
  chainId : ℤ
  nonce : String
  authorizer : String
  eventId : Option ε
  source : σ
  deriving DecidableEq

/-- The key a call is about. -/
def Claim.key (c : Claim ε σ) : NonceKey := World.nonceKey c.chainId c.nonce c.authorizer

namespace Row

/-- The `UNIQUE (chain_id, nonce, authorizer)` constraint. -/
def key (r : Row ε σ) : NonceKey := (r.chainId, r.nonce, r.authorizer)

/-- A row taken over by a new claim; `source` is `none` where the statement leaves it alone. -/
def reclaimed (now : ℤ) (eventId : Option ε) (source : Option σ) (r : Row ε σ) : Row ε σ :=
  { r with reorgedAt := none, eventId, source := source.getD r.source, createdAt := now }

/-- A row marked as reorged. -/
def invalidated (now : ℤ) (r : Row ε σ) : Row ε σ := { r with reorgedAt := some now }

/-- The columns of a row that the archive keeps. -/
def archived (now : ℤ) (r : Row ε σ) : ArchiveRow ε where
  chainId := r.chainId
  nonce := r.nonce
  authorizer := r.authorizer
  eventId := r.eventId
  reorgedAt := r.reorgedAt
  createdAt := r.createdAt
  archivedAt := now

/-- `event_id = e AND reorged_at IS NULL`. -/
def activeFor [DecidableEq ε] (e : ε) (r : Row ε σ) : Bool :=
  decide (r.eventId = some e) && r.reorgedAt.isNone

@[simp]
theorem key_reclaimed (now : ℤ) (eventId : Option ε) (source : Option σ) (r : Row ε σ) :
    (r.reclaimed now eventId source).key = r.key := rfl

@[simp]
theorem key_invalidated (now : ℤ) (r : Row ε σ) : (r.invalidated now).key = r.key := rfl

end Row

/-- The `UNIQUE (chain_id, nonce, authorizer)` constraint of the archive. -/
def ArchiveRow.key (r : ArchiveRow ε) : NonceKey := (r.chainId, r.nonce, r.authorizer)

@[simp]
theorem Row.key_archived (now : ℤ) (r : Row ε σ) : (r.archived now).key = r.key := rfl

/-- The two tables. -/
structure Store (ε σ : Type) where
  nonces : KeyedTable (Row.key (ε := ε) (σ := σ)) := .empty
  archive : KeyedTable (ArchiveRow.key (ε := ε)) := .empty

namespace Store

/-- The row that a claim of `key` inserts. -/
def newRow (now : ℤ) (key : NonceKey) (eventId : Option ε) (source : σ) : Row ε σ :=
  ⟨key.1, key.2.1, key.2.2, eventId, source, none, now⟩

/-- The `INSERT ... ON CONFLICT DO NOTHING` of both record functions; `none` on a conflict. -/
def insertNonce (s : Store ε σ) (now : ℤ) (key : NonceKey) (eventId : Option ε) (source : σ) :
    Option (Store ε σ) :=
  (s.nonces.insert? (newRow now key eventId source)).map fun t => { s with nonces := t }

/-- The `UPDATE` by which a reorged nonce is reclaimed. -/
def reclaimNonce (s : Store ε σ) (now : ℤ) (key : NonceKey) (eventId : Option ε)
    (source : Option σ) : Store ε σ :=
  { s with
    nonces := s.nonces.updateWhere (fun r => decide (r.key = key))
      (Row.reclaimed now eventId source) (Row.key_reclaimed now eventId source) }

/-- What `record_nonce_or_correlate` does after a conflict: the `SELECT ... FOR UPDATE`, the reclaim
of a reorged row, and the `RETURN`.  Without a row all columns of `v_existing` are null. -/
def resolveConflict (s : Store ε σ) (now : ℤ) (key : NonceKey) (eventId : Option ε) (source : σ) :
    Store ε σ × Answer ε σ :=
  match s.nonces.get? key with
  | none => (s, { isNew := false })
  | some row =>
    if row.reorgedAt.isSome then
      (s.reclaimNonce now key eventId (some source), { isNew := true })
    else (s, { isNew := false, existingEventId := row.eventId, existingSource := some row.source })

/-- `record_nonce_or_correlate`. -/
def recordNonceOrCorrelate (s : Store ε σ) (now : ℤ) (key : NonceKey) (eventId : Option ε)
    (source : σ) : Store ε σ × Answer ε σ :=
  match s.insertNonce now key eventId source with
  | some s' => (s', { isNew := true })
  | none => s.resolveConflict now key eventId source

/-- `record_nonce_with_reorg`.  The insert names no source, so the column gets its `default`; the
reclaim leaves it alone. -/
def recordNonceWithReorg (default : σ) (s : Store ε σ) (now : ℤ) (key : NonceKey)
    (eventId : Option ε) : Store ε σ × Bool :=
  match s.insertNonce now key eventId default with
  | some s' => (s', true)
  | none =>
    if (s.nonces.get? key).any (fun row => row.reorgedAt.isSome) then
      (s.reclaimNonce now key eventId none, true)
    -- "Also check archive table": both ways the answer is `FALSE`.
    else if (s.archive.get? key).isSome then (s, false)
    else (s, false)

/-- `invalidate_by_event_id`, which answers whether a row was marked. -/
def invalidateByEventId [DecidableEq ε] (s : Store ε σ) (now : ℤ) (eventId : ε) :
    Store ε σ × Bool :=
  ({ s with
      nonces := s.nonces.updateWhere (Row.activeFor eventId) (Row.invalidated now)
        (Row.key_invalidated now) },
    s.nonces.rows.any (Row.activeFor eventId))

/-- The rows that `archive_old_nonces` selects.  `LIMIT` comes without an order and rows locked by
others are skipped: `scanned` says which rows the scan returns. -/
def toArchive (s : Store ε σ) (now ageThreshold : ℤ) (batchSize : ℕ) (scanned : NonceKey → Bool) :
    List (Row ε σ) :=
  (s.nonces.rows.filter fun r =>
    decide (r.createdAt < now - ageThreshold) && r.reorgedAt.isNone && scanned r.key).take batchSize

/-- `archive_old_nonces`: copy the selected rows to the archive, unless it has their key, and delete
them; the answer is the number of rows deleted. -/
def archiveOldNonces (s : Store ε σ) (now ageThreshold : ℤ) (batchSize : ℕ)
    (scanned : NonceKey → Bool) : Store ε σ × ℕ :=
  let moved := s.toArchive now ageThreshold batchSize scanned
  ({ nonces := s.nonces.deleteWhere fun r => decide (r.key ∈ moved.map Row.key)
     archive := s.archive.insertAll (moved.map (Row.archived now)) },
    moved.length)

/-! ### What the functions do to the row of a key -/

/-- A key can be claimed: it has no row, or a reorged one. -/
def isFree (row : Option (Row ε σ)) : Bool := row.all fun r => r.reorgedAt.isSome

/-- The row of `key` after a call that claims it if it can: `source` is what an insert writes and
`onReclaim` what a reclaim does. -/
def claimedRow (now : ℤ) (key : NonceKey) (eventId : Option ε) (source : σ) (onReclaim : Option σ) :
    Option (Row ε σ) → Row ε σ
  | none => newRow now key eventId source
  | some row => if row.reorgedAt.isSome then row.reclaimed now eventId onReclaim else row

theorem insertNonce_eq_none_iff {s : Store ε σ} {now : ℤ} {key : NonceKey} {eventId : Option ε}
    {source : σ} : s.insertNonce now key eventId source = none ↔ s.nonces.get? key ≠ none := by
  rw [insertNonce, Option.map_eq_none_iff, KeyedTable.insert?_eq_none_iff]
  rfl

/-- An insert that succeeds found no row and adds one. -/
theorem insertNonce_eq_some {s s' : Store ε σ} {now : ℤ} {key : NonceKey} {eventId : Option ε}
    {source : σ} (h : s.insertNonce now key eventId source = some s') :
    s.nonces.get? key = none ∧ s'.archive = s.archive ∧
      ∀ k, s'.nonces.get? k =
        if key = k then some (newRow now key eventId source) else s.nonces.get? k := by
  obtain ⟨t, ht, rfl⟩ := Option.map_eq_some_iff.mp h
  exact ⟨KeyedTable.get?_key_of_insert? ht, rfl, KeyedTable.get?_insert?_some ht⟩

theorem get?_reclaimNonce (s : Store ε σ) (now : ℤ) (key : NonceKey) (eventId : Option ε)
    (source : Option σ) (k : NonceKey) :
    (s.reclaimNonce now key eventId source).nonces.get? k =
      if key = k then (s.nonces.get? k).map (Row.reclaimed now eventId source)
      else s.nonces.get? k := by
  rw [reclaimNonce, KeyedTable.get?_updateWhere_key]

/-- The rest of `record_nonce_or_correlate` on a key that has a row. -/
theorem resolveConflict_spec {s : Store ε σ} {key : NonceKey} {row : Row ε σ}
    (hrow : s.nonces.get? key = some row) (now : ℤ) (eventId : Option ε) (source : σ) :
    (s.resolveConflict now key eventId source).2 =
        (if isFree (some row) then { isNew := true }
          else ⟨false, row.eventId, some row.source⟩) ∧
      (s.resolveConflict now key eventId source).1.archive = s.archive ∧
      ∀ k, (s.resolveConflict now key eventId source).1.nonces.get? k =
        if key = k then some (claimedRow now key eventId source (some source) (some row))
        else s.nonces.get? k := by
  have hfree : isFree (some row) = row.reorgedAt.isSome := rfl
  by_cases hreorg : row.reorgedAt.isSome = true
  · simp only [resolveConflict, hrow, hreorg, hfree, claimedRow, if_true]
    refine ⟨trivial, rfl, fun k => ?_⟩
    rw [get?_reclaimNonce]
    by_cases hk : key = k
    · rw [if_pos hk, if_pos hk, ← hk, hrow, Option.map_some]
    · rw [if_neg hk, if_neg hk]
  · simp only [resolveConflict, hrow, hreorg, hfree, claimedRow, Bool.false_eq_true, if_false]
    refine ⟨trivial, trivial, fun k => ?_⟩
    by_cases hk : key = k
    · rw [if_pos hk, ← hk, hrow]
    · rw [if_neg hk]

/-- `record_nonce_or_correlate` claims a free key, and reports the holder of any other. -/
theorem recordNonceOrCorrelate_spec (s : Store ε σ) (now : ℤ) (key : NonceKey) (eventId : Option ε)
    (source : σ) :
    (s.recordNonceOrCorrelate now key eventId source).2 =
        (if isFree (s.nonces.get? key) then { isNew := true }
          else ⟨false, (s.nonces.get? key).bind Row.eventId, (s.nonces.get? key).map Row.source⟩) ∧
      (s.recordNonceOrCorrelate now key eventId source).1.archive = s.archive ∧
      ∀ k, (s.recordNonceOrCorrelate now key eventId source).1.nonces.get? k =
        if key = k then some (claimedRow now key eventId source (some source) (s.nonces.get? key))
        else s.nonces.get? k := by
  unfold recordNonceOrCorrelate
  cases hins : s.insertNonce now key eventId source with
  | some s' =>
    obtain ⟨hnone, harch, hget⟩ := insertNonce_eq_some hins
    rw [hnone]
    exact ⟨rfl, harch, hget⟩
  | none =>
    obtain ⟨row, hrow⟩ := Option.ne_none_iff_exists'.mp (insertNonce_eq_none_iff.mp hins)
    rw [hrow]
    exact resolveConflict_spec hrow now eventId source

/-- `record_nonce_with_reorg` claims a free key and leaves any other alone. -/
theorem recordNonceWithReorg_spec (default : σ) (s : Store ε σ) (now : ℤ) (key : NonceKey)
    (eventId : Option ε) :
    (s.recordNonceWithReorg default now key eventId).2 = isFree (s.nonces.get? key) ∧
      (s.recordNonceWithReorg default now key eventId).1.archive = s.archive ∧
      ∀ k, (s.recordNonceWithReorg default now key eventId).1.nonces.get? k =
        if key = k then some (claimedRow now key eventId default none (s.nonces.get? key))
        else s.nonces.get? k := by
  unfold recordNonceWithReorg
  cases hins : s.insertNonce now key eventId default with
  | some s' =>
    obtain ⟨hnone, harch, hget⟩ := insertNonce_eq_some hins
    rw [hnone]
    exact ⟨rfl, harch, hget⟩
  | none =>
    obtain ⟨row, hrow⟩ := Option.ne_none_iff_exists'.mp (insertNonce_eq_none_iff.mp hins)
    have hfree : isFree (some row) = row.reorgedAt.isSome := rfl
    have hany : (some row).any (fun row => row.reorgedAt.isSome) = row.reorgedAt.isSome := rfl
    rw [hrow, hany, hfree]
    by_cases hreorg : row.reorgedAt.isSome = true
    · rw [if_pos hreorg, claimedRow, if_pos hreorg]
      refine ⟨hreorg.symm, rfl, fun k => ?_⟩
      rw [get?_reclaimNonce]
      by_cases hk : key = k
      · rw [if_pos hk, if_pos hk, ← hk, hrow, Option.map_some]
      · rw [if_neg hk, if_neg hk]
    · -- the lookup in the archive does not matter
      rw [if_neg hreorg, ite_self, claimedRow, if_neg hreorg]
      refine ⟨(Bool.eq_false_iff.mpr hreorg).symm, rfl, fun k => ?_⟩
      by_cases hk : key = k
      · rw [if_pos hk, ← hk, hrow]
      · rw [if_neg hk]

theorem get?_invalidateByEventId [DecidableEq ε] (s : Store ε σ) (now : ℤ) (e : ε) (k : NonceKey) :
    (s.invalidateByEventId now e).1.nonces.get? k =
      (s.nonces.get? k).map fun r => if r.activeFor e then r.invalidated now else r :=
  KeyedTable.get?_updateWhere s.nonces (Row.activeFor e) (Row.invalidated now)
    (Row.key_invalidated now) k

/-- `invalidate_by_event_id` answers whether some key is held by the event. -/
theorem invalidateByEventId_snd [DecidableEq ε] (s : Store ε σ) (now : ℤ) (e : ε) :
    (s.invalidateByEventId now e).2 = true ↔
      ∃ k row, s.nonces.get? k = some row ∧ row.activeFor e = true := by
  simp only [invalidateByEventId, List.any_eq_true]
  constructor
  · rintro ⟨row, hmem, hactive⟩
    exact ⟨row.key, row, KeyedTable.get?_of_mem hmem, hactive⟩
  · rintro ⟨k, row, hget, hactive⟩
    exact ⟨row, (KeyedTable.get?_eq_some_iff.mp hget).1, hactive⟩

/-! ### The nonces of the pipeline -/

/-- A row of the pipeline's `nonces` table. -/
def Row.ofNonceRow (r : NonceRow) : Row EventId NonceSource where
  chainId := r.chainId
  nonce := r.nonce
  authorizer := r.authorizer
  eventId := r.eventId
  source := r.source
  reorgedAt := r.reorgedAt
  createdAt := r.createdAt

theorem Row.key_ofNonceRow (r : NonceRow) : (Row.ofNonceRow r).key = r.key := rfl

/-- The store of a world, with a given archive beside it. -/
def ofWorld (archive : KeyedTable (ArchiveRow.key (ε := EventId))) (w : World) :
    Store EventId NonceSource where
  nonces := w.nonces.map Row.ofNonceRow Row.key_ofNonceRow
  archive := archive

variable (archive : KeyedTable (ArchiveRow.key (ε := EventId)))

theorem insertNonce_ofWorld (w : World) (now : ℤ) (key : NonceKey) (eventId : Option EventId)
    (source : NonceSource) :
    (ofWorld archive w).insertNonce now key eventId source =
      (w.insertNonce now key eventId source).map (ofWorld archive) := by
  have hmap := KeyedTable.insert?_map Row.ofNonceRow Row.key_ofNonceRow w.nonces
    ⟨key.1, key.2.1, key.2.2, eventId, source, none, now⟩
  have hnew : newRow now key eventId source =
      Row.ofNonceRow ⟨key.1, key.2.1, key.2.2, eventId, source, none, now⟩ := rfl
  have htable : (ofWorld archive w).nonces = w.nonces.map Row.ofNonceRow Row.key_ofNonceRow := rfl
  rw [World.insertNonce, Option.map_map, insertNonce, hnew, htable, hmap, Option.map_map]
  rfl

theorem reclaimNonce_ofWorld (w : World) (now : ℤ) (key : NonceKey) (eventId : Option EventId)
    (source : Option NonceSource) :
    (ofWorld archive w).reclaimNonce now key eventId source =
      ofWorld archive (w.reclaimNonce now key eventId source) := by
  have hmap := KeyedTable.updateWhere_map Row.ofNonceRow Row.key_ofNonceRow w.nonces
    (fun r => decide (r.key = key)) (fun r => decide (r.key = key))
    (NonceRow.key_reclaimed now eventId source) (Row.key_reclaimed now eventId source)
    (fun _ => rfl) (fun _ => rfl)
  simp only [reclaimNonce, ofWorld, hmap, World.reclaimNonce]

theorem get?_ofWorld (w : World) (key : NonceKey) :
    (ofWorld archive w).nonces.get? key = (w.nonces.get? key).map Row.ofNonceRow :=
  KeyedTable.get?_map Row.ofNonceRow Row.key_ofNonceRow w.nonces key

/-- The two models of `record_nonce_or_correlate` agree. -/
theorem recordNonceOrCorrelate_ofWorld (w : World) (now : ℤ) (key : NonceKey)
    (eventId : Option EventId) (source : NonceSource) :
    (ofWorld archive w).recordNonceOrCorrelate now key eventId source =
      (ofWorld archive (w.recordNonceOrCorrelate now key eventId source).1,
        ⟨(w.recordNonceOrCorrelate now key eventId source).2.isNew,
          (w.recordNonceOrCorrelate now key eventId source).2.existingEventId,
          (w.recordNonceOrCorrelate now key eventId source).2.existingSource⟩) := by
  rw [recordNonceOrCorrelate, World.recordNonceOrCorrelate, insertNonce_ofWorld]
  cases w.insertNonce now key eventId source with
  | some w' => rfl
  | none =>
    simp only [Option.map_none, resolveConflict, get?_ofWorld, reclaimNonce_ofWorld]
    cases w.nonces.get? key with
    | none => rfl
    | some row =>
      simp only [Option.map_some, Row.ofNonceRow]
      split <;> rfl

/-- The two models of `record_nonce_with_reorg` agree, whatever is archived. -/
theorem recordNonceWithReorg_ofWorld (w : World) (now : ℤ) (key : NonceKey)
    (eventId : Option EventId) :
    (ofWorld archive w).recordNonceWithReorg .goldsky now key eventId =
      (ofWorld archive (w.recordNonce now key eventId).1, (w.recordNonce now key eventId).2) := by
  rw [recordNonceWithReorg, World.recordNonce, insertNonce_ofWorld]
  cases w.insertNonce now key eventId .goldsky with
  | some w' => rfl
  | none =>
    simp only [Option.map_none, get?_ofWorld, reclaimNonce_ofWorld, ite_self]
    cases w.nonces.get? key with
    | none => rfl
    | some row =>
      simp only [Option.map_some, Option.any_some, Row.ofNonceRow]
      by_cases hreorg : row.reorgedAt.isSome = true <;> simp [hreorg]

/-- The two models of `invalidate_by_event_id` agree. -/
theorem invalidateByEventId_ofWorld (w : World) (now : ℤ) (eventId : EventId) :
    ((ofWorld archive w).invalidateByEventId now eventId).1 =
      ofWorld archive (w.invalidateByEventId now eventId) := by
  have hmap := KeyedTable.updateWhere_map Row.ofNonceRow Row.key_ofNonceRow w.nonces
    (fun r => decide (r.eventId = some eventId) && r.reorgedAt.isNone) (Row.activeFor eventId)
    (NonceRow.key_invalidated now) (Row.key_invalidated now) (fun _ => rfl) (fun _ => rfl)
  simp only [invalidateByEventId, ofWorld, hmap, World.invalidateByEventId]

/-- The two models of `archive_old_nonces` agree on the table they share. -/
theorem archiveOldNonces_ofWorld (w : World) (now ageThreshold : ℤ) (batchSize : ℕ)
    (scanned : NonceKey → Bool) :
    ((ofWorld archive w).archiveOldNonces now ageThreshold batchSize scanned).1.nonces =
      (ofWorld archive (w.archiveOldNonces now ageThreshold batchSize scanned)).nonces := by
  have hmoved : ((ofWorld archive w).toArchive now ageThreshold batchSize scanned).map Row.key =
      ((w.nonces.rows.filter fun r => decide (r.createdAt < now - ageThreshold) &&
        r.reorgedAt.isNone && scanned r.key).take batchSize).map NonceRow.key := by
    show (((w.nonces.rows.map Row.ofNonceRow).filter _).take batchSize).map Row.key = _
    rw [List.filter_map, ← List.map_take, List.map_map]
    rfl
  apply KeyedTable.ext
  show (w.nonces.rows.map Row.ofNonceRow).filter _ = List.map Row.ofNonceRow (List.filter _ _)
  rw [List.filter_map, hmoved]
  congr 1
  refine List.filter_congr fun r _ => ?_
  simp only [Function.comp_apply, List.any_eq, List.mem_map, decide_eq_true_eq, exists_eq_right]
  rfl

end Store

end NonceStore

end TripWire
