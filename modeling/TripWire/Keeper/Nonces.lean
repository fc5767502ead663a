import TripWire.Keeper.Tables

/-!
# Which nonces a reorg releases

`_handle_reorg` releases the nonce of an event through the column `nonces.event_id`.  The
facilitator writes its event id there; both Goldsky handlers claim the nonce without one, so for
their events the release finds nothing and the nonce stays held.

`Claimed` is the invariant behind this: a row that is not reorged has an active claim of its nonce,
and that claim is either the facilitator's, with the id of the row, or Goldsky's, with no id.
`recordNonceOrCorrelate_after_reorg` concludes that after `_handle_reorg` the nonce is new again
exactly when the facilitator had claimed it.
-/

namespace TripWire

open Py

/-- The nonce key of a recorded transfer. -/
def EventRow.nonceKey? (row : EventRow) : Option NonceKey :=
  match row.nonce, row.authorizer with
  | some nonce, some authorizer => some (World.nonceKey row.chainId nonce authorizer)
  | _, _ => none

@[simp]
theorem nonceKey?_eventRow (now : ℤ) (id : EventId) (t : ERC3009Transfer)
    (finality : Option FinalityStatus) (type : WebhookEventType) (endpointId : Option EndpointId) :
    (eventRow now id t finality type endpointId).nonceKey? = some t.nonceKey := rfl

/-- The claim that a row recorded by one of the two paths rests on. -/
def Owns (claim : NonceRow) (row : EventRow) : Prop :=
  (claim.source = .facilitator ∧ claim.eventId = some row.id) ∨
    (claim.source = .goldsky ∧ claim.eventId = none)

/-- The relation between the events and the nonces of a Keeper database. -/
structure Claimed (w : World) : Prop where
  fresh : Fresh w
  /-- A row that is not reorged holds its nonce. -/
  held : ∀ row, w.events.get? row.id = some row → row.status ≠ .reorged →
    ∃ key claim, row.nonceKey? = some key ∧ w.activeClaim key = some claim ∧ Owns claim row
  /-- A claim that names an event is the facilitator's, and the event is a transfer of that nonce.
  -/
  named : ∀ key claim row, w.nonces.get? key = some claim → claim.eventId = some row.id →
    claim.source = .facilitator ∧ (w.events.get? row.id = some row → row.nonceKey? = some key)

theorem claimed_empty : Claimed {} where
  fresh := fresh_empty
  held := by
    intro row hrow
    cases hrow
  named := by
    intro key claim row hclaim
    cases hclaim

/-! ### What happens to an active claim -/

/-- A step keeps an active claim, or marks it as reorged together with the event it names. -/
theorem activeClaim_step {w : World} {a : KeeperAction} {key : NonceKey} {claim : NonceRow}
    (hclaim : w.activeClaim key = some claim) :
    (keeperStep w a).activeClaim key = some claim ∨
      ∃ row, claim.eventId = some row.id ∧ (keeperStep w a).events.get? row.id = some row ∧
        row.status = .reorged := by
  obtain ⟨hget, hactive⟩ := World.activeClaim_eq_some_iff.mp hclaim
  rcases keeperStep_nonces w a key with hsame | ⟨new, hnew, hwrite⟩
  · exact Or.inl (World.activeClaim_eq_some_iff.mpr ⟨hsame.trans hget, hactive⟩)
  · have hkeynew : new.key = key := KeyedTable.key_of_get? hnew
    cases hwrite with
    | announced free hkey _ _ _ _ =>
      -- a held nonce is not claimed again
      rw [← hkey, hkeynew, hclaim] at free
      cases free
    | ingested free hkey _ _ _ =>
      rw [← hkey, hkeynew, hclaim] at free
      cases free
    | @invalidated env chain held row held_eq event reorged status =>
      have hkeyheld : held.key = key := hkeynew
      rw [hkeyheld, hget] at held_eq
      obtain rfl := Option.some.inj held_eq
      exact Or.inr ⟨row, event, reorged, status⟩

/-- A row that is not reorged after the step keeps the claim it held before. -/
theorem Claimed.held_step {w : World} {a : KeeperAction} {key : NonceKey} {claim : NonceRow}
    {row : EventRow} (hclaim : w.activeClaim key = some claim) (howns : Owns claim row)
    (hrow : (keeperStep w a).events.get? row.id = some row) (hstatus : row.status ≠ .reorged) :
    (keeperStep w a).activeClaim key = some claim := by
  rcases activeClaim_step hclaim with hkept | ⟨row', hevent, hrow', hreorged⟩
  · exact hkept
  · exfalso
    rcases howns with ⟨-, hid⟩ | ⟨-, hnone⟩
    · -- the claim names this very row, so it is this row that was reorged
      rw [hid] at hevent
      have hsame : row.id = row'.id := Option.some.inj hevent
      rw [← hsame, hrow] at hrow'
      obtain rfl := Option.some.inj hrow'
      exact hstatus hreorged
    · rw [hnone] at hevent
      cases hevent

/-! ### The invariant -/

/-- A row that is not reorged holds its nonce after the step. -/
theorem Claimed.held_after {w : World} (h : Claimed w) (a : KeeperAction) (row : EventRow)
    (hrow : (keeperStep w a).events.get? row.id = some row) (hstatus : row.status ≠ .reorged) :
    ∃ key claim, row.nonceKey? = some key ∧ (keeperStep w a).activeClaim key = some claim ∧
      Owns claim row := by
  -- a row with the same id and nonce that was not reorged before passes its claim on
  have hpass : ∀ old : EventRow, w.events.get? old.id = some old → old.status ≠ .reorged →
      old.id = row.id → old.nonceKey? = row.nonceKey? →
      ∃ key claim, row.nonceKey? = some key ∧ (keeperStep w a).activeClaim key = some claim ∧
        Owns claim row := by
    intro old hold hst hid hkey
    obtain ⟨key, claim, hk, hclaim, howns⟩ := h.held old hold hst
    rw [Owns, hid] at howns
    exact ⟨key, claim, hkey ▸ hk, Claimed.held_step hclaim howns hrow hstatus, howns⟩
  rcases keeperStep_events w a row.id with hsame | ⟨new, hnew, hwrite⟩
  · exact hpass row (hsame.symm.trans hrow) hstatus rfl rfl
  · obtain rfl := Option.some.inj (hrow.symm.trans hnew)
    cases hwrite with
    | announced _ _ claimed =>
      obtain ⟨claim, hclaim, hsource, hevent⟩ := claimed
      exact ⟨_, claim, rfl, hclaim, Or.inl ⟨hsource, hevent⟩⟩
    | ingested _ _ claimed =>
      obtain ⟨claim, hclaim, hsource, hevent⟩ := claimed
      exact ⟨_, claim, rfl, hclaim, Or.inr ⟨hsource, hevent⟩⟩
    | @promoted env unified t old merged =>
      -- the claim that led here names the row, whatever the status of the row was
      obtain ⟨claim, hclaim, hsource, hevent, hold⟩ :=
        promotedRow_spec (promotedRow_of_mergedRow merged)
      have hget := (World.activeClaim_eq_some_iff.mp hclaim).1
      have hkey := (h.named _ claim old hget hevent).2 hold
      have howns : Owns claim (old.promoted env.now t) := Or.inl ⟨hsource, hevent⟩
      exact ⟨_, claim, hkey, Claimed.held_step hclaim howns hrow hstatus, howns⟩
    | @polled env chain read _ pending polled =>
      obtain ⟨status, depth, confirmedAt, rfl, -⟩ := polled
      have hread := (polledRows_snapshot env w chain).read read pending
      refine hpass read hread ?_ rfl rfl
      rcases (mem_polledRows pending).1 with hst | hst <;> rw [hst] <;> decide
    | @expired env route ttl read stale _ =>
      have hread := (sweptRows_snapshot env route ttl w).read read stale
      refine hpass read hread ?_ rfl rfl
      rw [status_of_mem_sweptRows stale]
      decide

/-- An event keeps its id's nonce through a step, and a new event has a new id. -/
theorem nonceKey?_step {w : World} {a : KeeperAction} {row : EventRow}
    (hold : row.id < w.uuids) (hrow : (keeperStep w a).events.get? row.id = some row) :
    ∃ old, w.events.get? old.id = some old ∧ old.id = row.id ∧ old.nonceKey? = row.nonceKey? := by
  rcases keeperStep_events w a row.id with hsame | ⟨new, hnew, hwrite⟩
  · exact ⟨row, hsame.symm.trans hrow, rfl, rfl⟩
  · obtain rfl := Option.some.inj (hrow.symm.trans hnew)
    cases hwrite with
    | announced _ _ _ => exact absurd hold (Nat.lt_irrefl _)
    | ingested _ _ _ => exact absurd hold (Nat.lt_irrefl _)
    | @promoted env unified t old merged =>
      exact ⟨old, get?_of_promotedRow (promotedRow_of_mergedRow merged), rfl, rfl⟩
    | @polled env chain read _ pending polled =>
      obtain ⟨status, depth, confirmedAt, rfl, -⟩ := polled
      exact ⟨read, (polledRows_snapshot env w chain).read read pending, rfl, rfl⟩
    | @expired env route ttl read stale _ =>
      exact ⟨read, (sweptRows_snapshot env route ttl w).read read stale, rfl, rfl⟩

/-- **The invariant.** Every step keeps the relation between events and nonces. -/
theorem Claimed.step {w : World} (h : Claimed w) (a : KeeperAction) : Claimed (keeperStep w a) where
  fresh := h.fresh.step a
  held := h.held_after a
  named := by
    intro key claim row hclaim hevent
    -- the claim stood before the step with the same source and event
    have hbefore : ∀ claim', w.nonces.get? key = some claim' → claim'.source = claim.source →
        claim'.eventId = some row.id →
        claim.source = .facilitator ∧
          ((keeperStep w a).events.get? row.id = some row → row.nonceKey? = some key) := by
      intro claim' hclaim' hsource hevent'
      have hlt := h.fresh.nonces key claim' row.id hclaim' hevent'
      refine ⟨hsource ▸ (h.named key claim' row hclaim' hevent').1, fun hrow => ?_⟩
      obtain ⟨old, hold, hid, hkey⟩ := nonceKey?_step hlt hrow
      rw [← hkey]
      exact (h.named key claim' old hclaim' (hid ▸ hevent')).2 hold
    rcases keeperStep_nonces w a key with hsame | ⟨new, hnew, hwrite⟩
    · exact hbefore claim (hsame.symm.trans hclaim) rfl hevent
    · obtain rfl := Option.some.inj (hclaim.symm.trans hnew)
      have hkeynew : claim.key = key := KeyedTable.key_of_get? hnew
      cases hwrite with
      | announced free hkey event source _ _ =>
        refine ⟨source, fun hrow => ?_⟩
        rw [event] at hevent
        have hid : w.uuids = row.id := Option.some.inj hevent
        rcases keeperStep_events w _ row.id with hsame | ⟨row', hrow', hwrite'⟩
        · have hlt := h.fresh.events row.id row (hsame.symm.trans hrow)
          exact absurd hlt hid.le.not_gt
        · obtain rfl := Option.some.inj (hrow.symm.trans hrow')
          cases hwrite'
          rw [nonceKey?_eventRow, ← hkey, hkeynew]
      | ingested _ _ event _ _ =>
        rw [event] at hevent
        cases hevent
      | @invalidated env chain held read held_eq event _ _ =>
        have hkeyheld : held.key = key := hkeynew
        exact hbefore held (hkeyheld ▸ held_eq) rfl hevent

/-- The invariant holds in every state a run from an empty database reaches. -/
theorem claimed_of_run (as : List KeeperAction) : Claimed (Machine.run keeperStep {} as) :=
  Machine.run_invariant (fun _ a h => h.step a) as claimed_empty

/-! ### The theorem -/

/-- The nonces after a reorg that was handled without failure. -/
theorem handleReorg_nonces {env : Env} {w : World} {row : EventRow}
    (hstatus : env.raises (.updateStatus row.id) = false)
    (hnonce : env.raises (.invalidateNonce row.id) = false) :
    (handleReorg env w row).nonces = (w.invalidateByEventId env.now row.id).nonces := by
  unfold handleReorg
  rw [if_neg (by rw [hstatus]; exact Bool.false_ne_true)]
  simp only [hnonce, Bool.false_eq_true, if_false]
  split <;> rfl

/-- **Which nonces a reorg releases.** In every reachable state, after `_handle_reorg` has run
without failure on a recorded event that is not reorged yet, the next `record_nonce_or_correlate`
for its nonce answers `is_new` if and only if the facilitator had claimed the nonce. -/
theorem recordNonceOrCorrelate_after_reorg (as : List KeeperAction) (env : Env) (row : EventRow)
    (key : NonceKey) (hrow : (Machine.run keeperStep {} as).events.get? row.id = some row)
    (hkey : row.nonceKey? = some key) (hlive : row.status ≠ .reorged)
    (hstatus : env.raises (.updateStatus row.id) = false)
    (hnonce : env.raises (.invalidateNonce row.id) = false)
    (now : ℤ) (eventId : Option EventId) (source : NonceSource) :
    ((handleReorg env (Machine.run keeperStep {} as) row).recordNonceOrCorrelate now key eventId
        source).2.isNew = true ↔
      ∃ claim, (Machine.run keeperStep {} as).activeClaim key = some claim ∧
        claim.source = .facilitator := by
  obtain ⟨key', claim, hkey', hclaim, howns⟩ := (claimed_of_run as).held row hrow hlive
  obtain rfl : key = key' := Option.some.inj (hkey.symm.trans hkey')
  obtain ⟨hget, hactive⟩ := World.activeClaim_eq_some_iff.mp hclaim
  have hafter := World.get?_invalidateByEventId (Machine.run keeperStep {} as) env.now row.id key
  rw [← handleReorg_nonces hstatus hnonce, hget, Option.map_some] at hafter
  rcases howns with ⟨hsource, hevent⟩ | ⟨hsource, hevent⟩
  · -- the claim names the row: it is marked as reorged and can be taken over
    have hfree : (handleReorg env (Machine.run keeperStep {} as) row).activeClaim key = none := by
      rw [if_pos ⟨hevent, hactive⟩] at hafter
      simp [World.activeClaim, hafter, NonceRow.invalidated]
    rw [(World.recordNonceOrCorrelate_of_free hfree).1]
    exact ⟨fun _ => ⟨claim, hclaim, hsource⟩, fun _ => rfl⟩
  · -- the claim names no event: it stays, and the call reports a duplicate
    have hheld : (handleReorg env (Machine.run keeperStep {} as) row).activeClaim key =
        some claim := by
      rw [if_neg (by rw [hevent]; simp)] at hafter
      exact World.activeClaim_eq_some_iff.mpr ⟨hafter, hactive⟩
    rw [World.recordNonceOrCorrelate_of_claimed hheld]
    refine ⟨fun hnew => absurd hnew Bool.false_ne_true, ?_⟩
    rintro ⟨claim', hclaim', hsource'⟩
    obtain rfl := Option.some.inj (hclaim.symm.trans hclaim')
    rw [hsource] at hsource'
    cases hsource'

namespace Sample

/-- The row of the payment after the facilitator announced it and Goldsky delivered its log. -/
def promotedEvent : EventRow :=
  (eventRow 0 0 announced none .paymentPreConfirmed (some "endpoint")).promoted 0 (onchain 100)

/-- The facilitator's claim of its nonce. -/
def announcedClaim : NonceRow where
  chainId := 8453
  nonce := "0x01"
  authorizer := payer.val
  eventId := some 0
  source := .facilitator
  reorgedAt := none
  createdAt := 0

end Sample

/-- The nonce of a payment that the facilitator announced is new again after a reorg. -/
theorem recordNonceOrCorrelate_after_reorg_announced :
    ((handleReorg (Sample.height 102)
        (Machine.run keeperStep {}
          [Sample.register {}, .facilitator (Sample.height 99) Sample.announced,
            .goldsky (Sample.height 101) false (.ok (Sample.onchain 100))])
        Sample.promotedEvent).recordNonceOrCorrelate 0 (Sample.onchain 100).nonceKey none
        .goldsky).2.isNew = true :=
  (recordNonceOrCorrelate_after_reorg _ _ _ _ (by decide +kernel) (by decide +kernel)
    (by decide +kernel) rfl rfl _ _ _).mpr ⟨Sample.announcedClaim, by decide +kernel, rfl⟩

/-- The nonce of a payment that Goldsky delivered first stays a duplicate after a reorg. -/
theorem not_released_after_reorg_goldsky :
    ∃ row ∈ (Machine.run keeperStep {}
        [Sample.register {},
          .goldsky (Sample.height 101) false (.ok (Sample.onchain 100))]).events.get?
        0,
      ∃ key ∈ row.nonceKey?, row.status ≠ .reorged ∧
        ((handleReorg (Sample.height 102)
          (Machine.run keeperStep {}
            [Sample.register {}, .goldsky (Sample.height 101) false (.ok (Sample.onchain 100))])
          row).recordNonceOrCorrelate 0 key none .goldsky).2.isNew = false := by
  decide +kernel

end TripWire
