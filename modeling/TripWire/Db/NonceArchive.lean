import TripWire.Db.NonceStore
import TripWire.Lib.Machine

/-!
# Archiving and deduplication

`archive_old_nonces` moves active rows out of the table on whose uniqueness constraint both record
functions rely, and out of the sight of `invalidate_by_event_id`.  So a key that was archived
becomes new again, and an archived event can no longer be invalidated (`archived_key_new_again`).

`archiving_invisible` says how far archiving goes unnoticed: in every run in which no record call is
about an archived key and no invalidation about the event of an archived row, each call is answered
as if nothing had been archived.  The proof relates the tables to those of the run without archiving
(`Shadows`), which hold every row that was moved.
-/

namespace TripWire

open Py

namespace NonceStore

variable {ε σ : Type}

/-- A call, with the time at which it is made. -/
inductive Operation (ε σ : Type) where
  | recordNonceWithReorg (chainId : ℤ) (nonce authorizer : String) (eventId : Option ε) (now : ℤ)
  | recordNonceOrCorrelate (claim : Claim ε σ) (now : ℤ)
  | invalidateByEventId (eventId : ε) (now : ℤ)
  | archiveOldNonces (ageThreshold : ℤ) (batchSize : ℕ) (scanned : NonceKey → Bool) (now : ℤ)

/-- What a call returns. -/
inductive Returned (ε σ : Type) where
  | recorded (isNew : Bool)
  | correlated (answer : Answer ε σ)
  | invalidated (found : Bool)
  | archived (count : ℕ)
  deriving DecidableEq

/-- The call archives. -/
def Operation.isArchive : Operation ε σ → Bool
  | .archiveOldNonces .. => true
  | _ => false

/-- No key is in both tables. -/
def Store.Apart (s : Store ε σ) : Prop :=
  ∀ k row, s.archive.get? k = some row → s.nonces.get? k = none

/-! ### The run without archiving -/

/-- `r` is the store `s` would be, had nothing been archived since the two were equal. -/
structure Shadows (s r : Store ε σ) : Prop where
  apart : s.Apart
  unarchived : ∀ k, s.archive.get? k = none → r.nonces.get? k = s.nonces.get? k
  moved : ∀ k row old, s.archive.get? k = some old → r.nonces.get? k = some row →
    row.eventId = old.eventId

theorem Shadows.refl {s : Store ε σ} (h : s.Apart) : Shadows s s where
  apart := h
  unarchived _ _ := rfl
  moved k row old hold hrow := by
    rw [h k old hold] at hrow
    cases hrow

namespace Shadows

variable {s r : Store ε σ}

/-- Writing the same row for an unarchived key on both sides. -/
theorem write (h : Shadows s r) {s' r' : Store ε σ} {key : NonceKey} {row : Row ε σ}
    (hkey : s.archive.get? key = none) (harch : s'.archive = s.archive)
    (hs : ∀ k, s'.nonces.get? k = if key = k then some row else s.nonces.get? k)
    (hr : ∀ k, r'.nonces.get? k = if key = k then some row else r.nonces.get? k) :
    Shadows s' r' := by
  -- a key that is archived is another one
  have hne : ∀ k old, s.archive.get? k = some old → key ≠ k := by
    rintro k old hold rfl
    rw [hkey] at hold
    cases hold
  refine ⟨?_, ?_, ?_⟩
  · intro k old hold
    rw [harch] at hold
    rw [hs, if_neg (hne k old hold)]
    exact h.apart k old hold
  · intro k hk
    rw [harch] at hk
    rw [hs, hr, h.unarchived k hk]
  · intro k row' old hold hrow
    rw [harch] at hold
    rw [hr, if_neg (hne k old hold)] at hrow
    exact h.moved k row' old hold hrow

end Shadows

/-! ### Runs -/

variable (default : σ)

/-- The state after a call, and what it returns.  `default` is the default of the `source` column.
-/
def Store.exec [DecidableEq ε] (s : Store ε σ) : Operation ε σ → Store ε σ × Returned ε σ
  | .recordNonceWithReorg chainId nonce authorizer eventId now =>
    (s.recordNonceWithReorg default now (World.nonceKey chainId nonce authorizer) eventId).map id
      .recorded
  | .recordNonceOrCorrelate c now =>
    (s.recordNonceOrCorrelate now c.key c.eventId c.source).map id .correlated
  | .invalidateByEventId e now => (s.invalidateByEventId now e).map id .invalidated
  | .archiveOldNonces ageThreshold batchSize scanned now =>
    (s.archiveOldNonces now ageThreshold batchSize scanned).map id .archived

/-- The state after a call. -/
def Store.step [DecidableEq ε] (s : Store ε σ) (op : Operation ε σ) : Store ε σ :=
  (s.exec default op).1

/-- What the calls of a run return, those that archive left out. -/
def replies [DecidableEq ε] : Store ε σ → List (Operation ε σ) → List (Returned ε σ)
  | _, [] => []
  | s, op :: ops =>
    if op.isArchive then replies (s.step default op) ops
    else (s.exec default op).2 :: replies (s.step default op) ops

/-- The call is about nothing that is archived. -/
def Store.Unarchived (s : Store ε σ) : Operation ε σ → Prop
  | .recordNonceWithReorg chainId nonce authorizer _ _ =>
    s.archive.get? (World.nonceKey chainId nonce authorizer) = none
  | .recordNonceOrCorrelate c _ => s.archive.get? c.key = none
  | .invalidateByEventId e _ => ∀ row ∈ s.archive.rows, row.eventId ≠ some e
  | .archiveOldNonces .. => True

instance [DecidableEq ε] (s : Store ε σ) : ∀ op, Decidable (s.Unarchived op)
  | .recordNonceWithReorg chainId nonce authorizer _ _ =>
    inferInstanceAs (Decidable (s.archive.get? (World.nonceKey chainId nonce authorizer) = none))
  | .recordNonceOrCorrelate c _ => inferInstanceAs (Decidable (s.archive.get? c.key = none))
  | .invalidateByEventId e _ =>
    inferInstanceAs (Decidable (∀ row ∈ s.archive.rows, row.eventId ≠ some e))
  | .archiveOldNonces .. => isTrue trivial

/-! ### The calls on both sides -/

namespace Shadows

variable {s r : Store ε σ}

theorem recordNonceOrCorrelate (h : Shadows s r) (now : ℤ) {key : NonceKey}
    (hkey : s.archive.get? key = none) (eventId : Option ε) (source : σ) :
    (s.recordNonceOrCorrelate now key eventId source).2 =
        (r.recordNonceOrCorrelate now key eventId source).2 ∧
      Shadows (s.recordNonceOrCorrelate now key eventId source).1
        (r.recordNonceOrCorrelate now key eventId source).1 := by
  obtain ⟨hanswer, harch, hget⟩ := s.recordNonceOrCorrelate_spec now key eventId source
  obtain ⟨hanswer', -, hget'⟩ := r.recordNonceOrCorrelate_spec now key eventId source
  rw [h.unarchived key hkey] at hanswer' hget'
  exact ⟨hanswer.trans hanswer'.symm, h.write hkey harch hget hget'⟩

theorem recordNonceWithReorg (h : Shadows s r) (now : ℤ) {key : NonceKey}
    (hkey : s.archive.get? key = none) (eventId : Option ε) :
    (s.recordNonceWithReorg default now key eventId).2 =
        (r.recordNonceWithReorg default now key eventId).2 ∧
      Shadows (s.recordNonceWithReorg default now key eventId).1
        (r.recordNonceWithReorg default now key eventId).1 := by
  obtain ⟨hanswer, harch, hget⟩ := s.recordNonceWithReorg_spec default now key eventId
  obtain ⟨hanswer', -, hget'⟩ := r.recordNonceWithReorg_spec default now key eventId
  rw [h.unarchived key hkey] at hanswer' hget'
  exact ⟨hanswer.trans hanswer'.symm, h.write hkey harch hget hget'⟩

/-- The keys an unarchived event holds are the same on both sides. -/
theorem activeFor_iff [DecidableEq ε] (h : Shadows s r) {e : ε}
    (he : ∀ row ∈ s.archive.rows, row.eventId ≠ some e) (k : NonceKey) :
    (∃ row, s.nonces.get? k = some row ∧ row.activeFor e = true) ↔
      ∃ row, r.nonces.get? k = some row ∧ row.activeFor e = true := by
  cases hold : s.archive.get? k with
  | none => rw [h.unarchived k hold]
  | some old =>
    constructor
    · rintro ⟨row, hrow, -⟩
      rw [h.apart k old hold] at hrow
      cases hrow
    · rintro ⟨row, hrow, hactive⟩
      have hevent : row.eventId = some e := by
        simp only [Row.activeFor, Bool.and_eq_true, decide_eq_true_eq] at hactive
        exact hactive.1
      have hmem : old ∈ s.archive.rows := (KeyedTable.get?_eq_some_iff.mp hold).1
      exact absurd ((h.moved k row old hold hrow).symm.trans hevent) (he old hmem)

theorem invalidateByEventId [DecidableEq ε] (h : Shadows s r) (now : ℤ) {e : ε}
    (he : ∀ row ∈ s.archive.rows, row.eventId ≠ some e) :
    (s.invalidateByEventId now e).2 = (r.invalidateByEventId now e).2 ∧
      Shadows (s.invalidateByEventId now e).1 (r.invalidateByEventId now e).1 := by
  refine ⟨?_, ?_, ?_, ?_⟩
  · rw [Bool.eq_iff_iff, Store.invalidateByEventId_snd, Store.invalidateByEventId_snd]
    exact exists_congr (h.activeFor_iff he)
  · intro k old hold
    rw [Store.get?_invalidateByEventId, h.apart k old hold]
    rfl
  · intro k hk
    rw [Store.get?_invalidateByEventId, Store.get?_invalidateByEventId, h.unarchived k hk]
  · intro k row old hold hrow
    rw [Store.get?_invalidateByEventId, Option.map_eq_some_iff] at hrow
    obtain ⟨row', hrow', rfl⟩ := hrow
    have hevent := h.moved k row' old hold hrow'
    split
    · exact hevent
    · exact hevent

end Shadows

/-! ### Archiving on one side -/

namespace Store

variable {s : Store ε σ} {now ageThreshold : ℤ} {batchSize : ℕ} {scanned : NonceKey → Bool}

/-- The rows that are selected are rows of the table. -/
theorem mem_of_mem_toArchive {row : Row ε σ}
    (h : row ∈ s.toArchive now ageThreshold batchSize scanned) : row ∈ s.nonces.rows :=
  List.mem_of_mem_filter (List.mem_of_mem_take h)

/-- A key is in the archive afterwards if it was before or its row was selected. -/
theorem archive_archiveOldNonces (k : NonceKey) :
    (s.archiveOldNonces now ageThreshold batchSize scanned).1.archive.get? k =
      (s.archive.get? k).or
        (((s.toArchive now ageThreshold batchSize scanned).find? fun r => r.key = k).map
          (Row.archived now)) := by
  rw [archiveOldNonces, KeyedTable.get?_insertAll, List.find?_map]
  rfl

/-- A row stays if it was not selected. -/
theorem nonces_archiveOldNonces (k : NonceKey) :
    (s.archiveOldNonces now ageThreshold batchSize scanned).1.nonces.get? k =
      if (s.toArchive now ageThreshold batchSize scanned).find? (fun r => r.key = k) = none then
        s.nonces.get? k
      else none := by
  rw [archiveOldNonces, KeyedTable.get?_deleteWhere]
  cases hget : s.nonces.get? k with
  | none => simp
  | some row =>
    have hkey : row.key = k := KeyedTable.key_of_get? hget
    rw [Option.filter_some]
    simp only [hkey, List.find?_eq_none, List.mem_map, decide_eq_true_eq, Bool.not_eq_true',
      decide_eq_false_iff_not, not_exists, not_and]

end Store

/-- Archiving moves rows that the other side keeps. -/
theorem Shadows.archiveOldNonces {s r : Store ε σ} (h : Shadows s r) (now ageThreshold : ℤ)
    (batchSize : ℕ) (scanned : NonceKey → Bool) :
    Shadows (s.archiveOldNonces now ageThreshold batchSize scanned).1 r := by
  refine ⟨?_, ?_, ?_⟩
  · intro k old hold
    rw [Store.nonces_archiveOldNonces]
    split_ifs with hfind
    · rw [Store.archive_archiveOldNonces, hfind, Option.map_none, Option.or_none] at hold
      exact h.apart k old hold
    · rfl
  · intro k hk
    rw [Store.archive_archiveOldNonces, Option.or_eq_none_iff, Option.map_eq_none_iff] at hk
    rw [Store.nonces_archiveOldNonces, if_pos hk.2]
    exact h.unarchived k hk.1
  · intro k row old hold hrow
    rw [Store.archive_archiveOldNonces] at hold
    cases harch : s.archive.get? k with
    | some old' =>
      rw [harch, Option.some_or, Option.some.injEq] at hold
      exact hold ▸ h.moved k row old' harch hrow
    | none =>
      -- the row was moved by this very call, and the other side still has it
      rw [harch, Option.none_or, Option.map_eq_some_iff] at hold
      obtain ⟨row', hfind, rfl⟩ := hold
      have hmem := Store.mem_of_mem_toArchive (List.mem_of_find?_eq_some hfind)
      have hkey : row'.key = k := by simpa using List.find?_some hfind
      have hget : s.nonces.get? k = some row' := KeyedTable.get?_eq_some_iff.mpr ⟨hmem, hkey⟩
      rw [h.unarchived k harch, hget] at hrow
      cases hrow
      rfl

/-! ### The theorem -/

/-- A call about nothing archived is answered as on the other side. -/
theorem Shadows.exec [DecidableEq ε] {s r : Store ε σ} (h : Shadows s r) {op : Operation ε σ}
    (hop : s.Unarchived op) (harchive : op.isArchive = false) :
    (s.exec default op).2 = (r.exec default op).2 ∧
      Shadows (s.step default op) (r.step default op) := by
  cases op with
  | recordNonceWithReorg chainId nonce authorizer eventId now =>
    obtain ⟨hreply, hshadow⟩ := h.recordNonceWithReorg default now hop eventId
    exact ⟨congrArg Returned.recorded hreply, hshadow⟩
  | recordNonceOrCorrelate c now =>
    obtain ⟨hreply, hshadow⟩ := h.recordNonceOrCorrelate now hop c.eventId c.source
    exact ⟨congrArg Returned.correlated hreply, hshadow⟩
  | invalidateByEventId e now =>
    obtain ⟨hreply, hshadow⟩ := h.invalidateByEventId now hop
    exact ⟨congrArg Returned.invalidated hreply, hshadow⟩
  | archiveOldNonces ageThreshold batchSize scanned now => cases harchive

/-- The replies of a run are those of the run without its archiving, from a store that shadows. -/
theorem Shadows.replies [DecidableEq ε] {s r : Store ε σ} (h : Shadows s r)
    {ops : List (Operation ε σ)}
    (hops : Machine.Meets (Store.step default) Store.Unarchived s ops) :
    replies default s ops = replies default r (ops.filter fun op => !op.isArchive) := by
  induction ops generalizing s r with
  | nil => rfl
  | cons op ops ih =>
    cases harchive : op.isArchive with
    | false =>
      obtain ⟨hreply, hshadow⟩ := h.exec default hops.1 harchive
      simp only [List.filter_cons, harchive, Bool.not_false, if_true, NonceStore.replies,
        Bool.false_eq_true, if_false]
      rw [hreply, ih hshadow hops.2]
    | true =>
      cases op with
      | archiveOldNonces ageThreshold batchSize scanned now =>
        exact ih (h.archiveOldNonces now ageThreshold batchSize scanned) hops.2
      | recordNonceWithReorg => cases harchive
      | recordNonceOrCorrelate => cases harchive
      | invalidateByEventId => cases harchive

/-- **Where archiving is invisible.** In every run in which no record call is about a key in
`nonces_archive` and no invalidation about the event of an archived row, every call returns what it
returns in the run without the archiving steps. -/
theorem archiving_invisible [DecidableEq ε] (s : Store ε σ) (hs : s.Apart)
    (ops : List (Operation ε σ))
    (hops : Machine.Meets (Store.step default) Store.Unarchived s ops) :
    replies default s ops = replies default s (ops.filter fun op => !op.isArchive) :=
  (Shadows.refl hs).replies default hops

namespace Sample

/-- A claim of the payer's nonce `nonce` for the event `eventId`. -/
def claim (nonce : String) (eventId : ℕ) : Claim ℕ NonceSource where
  chainId := 8453
  nonce := nonce
  authorizer := TripWire.Sample.payer.val
  eventId := some eventId
  source := .facilitator

/-- The nightly archival of everything older than thirty days. -/
def archival (now : ℤ) : Operation ℕ NonceSource :=
  .archiveOldNonces (30 * 86400) 5000 (fun _ => true) now

end Sample

/-- A nonce that was never archived is a duplicate as before, another one having been archived. -/
theorem archiving_invisible_other_nonce :
    replies NonceSource.goldsky {}
        [.recordNonceOrCorrelate (Sample.claim "0x01" 1) 0, Sample.archival (31 * 86400),
          .recordNonceOrCorrelate (Sample.claim "0x02" 2) (31 * 86400),
          .recordNonceOrCorrelate (Sample.claim "0x02" 3) (32 * 86400)] =
      replies NonceSource.goldsky {}
        [.recordNonceOrCorrelate (Sample.claim "0x01" 1) 0,
          .recordNonceOrCorrelate (Sample.claim "0x02" 2) (31 * 86400),
          .recordNonceOrCorrelate (Sample.claim "0x02" 3) (32 * 86400)] :=
  archiving_invisible NonceSource.goldsky {} (fun _ _ h => by cases h) _ (by decide +kernel)

/-- **An archived nonce is new again**, for both record functions, and the event that held it can no
longer be invalidated. -/
theorem archived_key_new_again :
    replies NonceSource.goldsky {}
        [.recordNonceOrCorrelate (Sample.claim "0x01" 1) 0, Sample.archival (31 * 86400),
          .recordNonceOrCorrelate (Sample.claim "0x01" 2) (31 * 86400)] ≠
      replies NonceSource.goldsky {}
        [.recordNonceOrCorrelate (Sample.claim "0x01" 1) 0,
          .recordNonceOrCorrelate (Sample.claim "0x01" 2) (31 * 86400)] ∧
    replies NonceSource.goldsky {}
        [.recordNonceOrCorrelate (Sample.claim "0x01" 1) 0, Sample.archival (31 * 86400),
          .recordNonceWithReorg 8453 "0x01" TripWire.Sample.payer.val none (31 * 86400)] ≠
      replies NonceSource.goldsky {}
        [.recordNonceOrCorrelate (Sample.claim "0x01" 1) 0,
          .recordNonceWithReorg 8453 "0x01" TripWire.Sample.payer.val none (31 * 86400)] ∧
    replies NonceSource.goldsky {}
        [.recordNonceOrCorrelate (Sample.claim "0x01" 1) 0, Sample.archival (31 * 86400),
          .invalidateByEventId 1 (31 * 86400)] ≠
      replies NonceSource.goldsky {}
        [.recordNonceOrCorrelate (Sample.claim "0x01" 1) 0,
          .invalidateByEventId 1 (31 * 86400)] := by
  decide +kernel

end NonceStore

end TripWire
