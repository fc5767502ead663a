import TripWire.Keeper.Tables

/-!
# The lifecycle of an event runs forward

The status of an event is written by five operations without a common transition function, and
`promote_to_confirmed` writes `confirmed` over any status.  A Goldsky delivery reaches it whenever
the facilitator's claim of the nonce is active, so a log that is delivered again, or that is
delivered after the sweeper gave up on the event, takes a finalized, reorged or failed event back.

`StatusForward` is the property of a step, and `DeliveredOnce` the condition on a run: no Goldsky
log is merged into an event that has been settled, that is, into which a log was merged before or
which the sweeper expired.  The settled events are not part of the database, so the runs of this
module carry them along (`settledStep`).  The invariant is `Unsettled`: an event that the
facilitator announced and that is not settled is still `pre_confirmed`.
-/

namespace TripWire

open Py

/-- Whether the step is a Goldsky delivery. -/
def KeeperAction.isGoldsky : KeeperAction → Bool
  | .goldsky .. => true
  | _ => false

/-- No finalized or reorged row becomes confirmed, and a Goldsky delivery, which writes to existing
rows through `promote_to_confirmed` alone, changes only rows that were `pre_confirmed`. -/
def StatusForward (w : World) (a : KeeperAction) : Prop :=
  ∀ row ∈ w.events.rows, ∀ row' ∈ (keeperStep w a).events.get? row.id,
    (row.status = .finalized ∨ row.status = .reorged → row'.status ≠ .confirmed) ∧
    (a.isGoldsky = true → row' ≠ row → row.status = .preConfirmed)

instance (w : World) (a : KeeperAction) : Decidable (StatusForward w a) := by
  unfold StatusForward
  infer_instance

/-! ### Settled events -/

/-- The events a step settles: the one a Goldsky log is merged into, or those a sweep expires. -/
def settles (w : World) : KeeperAction → List EventId
  | .goldsky env _ (.ok t) => (mergedRow env w t).toList.map (·.id)
  | .sweep env route ttl =>
    ((sweptRows env route ttl w).filter fun row => !env.raises (.updateStatus row.id)).map (·.id)
  | _ => []

/-- A step that also records which events it settles. -/
def settledStep (s : World × List EventId) (a : KeeperAction) : World × List EventId :=
  (keeperStep s.1 a, s.2 ++ settles s.1 a)

/-- No Goldsky log is merged into an event that is settled already. -/
def DeliveredOnce (s : World × List EventId) : KeeperAction → Prop
  | .goldsky env _ (.ok t) => ∀ old ∈ mergedRow env s.1 t, old.id ∉ s.2
  | _ => True

instance (s : World × List EventId) : ∀ a, Decidable (DeliveredOnce s a)
  | .goldsky env _ (.ok t) =>
    inferInstanceAs (Decidable (∀ old ∈ mergedRow env s.1 t, old.id ∉ s.2))
  | .goldsky _ _ (.error _) => isTrue trivial
  | .facilitator .. => isTrue trivial
  | .poll .. => isTrue trivial
  | .sweep .. => isTrue trivial
  | .configure .. => isTrue trivial

/-! ### The invariant -/

/-- Every event id in use has been drawn, and an event whose id stands in a facilitator claim is
`pre_confirmed` until it is settled. -/
structure Unsettled (s : World × List EventId) : Prop where
  fresh : Fresh s.1
  preConfirmed : ∀ key claim row, s.1.nonces.get? key = some claim →
    claim.source = .facilitator → claim.eventId = some row.id → row.id ∉ s.2 →
    s.1.events.get? row.id = some row → row.status = .preConfirmed

theorem unsettled_empty : Unsettled ({}, []) where
  fresh := fresh_empty
  preConfirmed := by
    intro key claim row hclaim
    cases hclaim

theorem eventRow_announced_status (now : ℤ) (id : EventId) (t : ERC3009Transfer)
    (endpointId : Option EndpointId) :
    (eventRow now id t none .paymentPreConfirmed endpointId).status = .preConfirmed := rfl

/-- A row that the facilitator announced stays `pre_confirmed` in a step that does not settle it. -/
theorem Unsettled.row_step {s : World × List EventId} (h : Unsettled s) {a : KeeperAction}
    {key : NonceKey} {claim : NonceRow} {row : EventRow}
    (hclaim : s.1.nonces.get? key = some claim) (hsource : claim.source = .facilitator)
    (hevent : claim.eventId = some row.id) (hnot : row.id ∉ s.2 ++ settles s.1 a)
    (hrow : (keeperStep s.1 a).events.get? row.id = some row) : row.status = .preConfirmed := by
  rw [List.mem_append, not_or] at hnot
  rcases keeperStep_events s.1 a row.id with hsame | ⟨new, hnew, hwrite⟩
  · rw [hsame] at hrow
    exact h.preConfirmed key claim row hclaim hsource hevent hnot.1 hrow
  · rw [hnew] at hrow
    obtain rfl := Option.some.inj hrow
    cases hwrite with
    | announced _ _ _ => exact eventRow_announced_status _ _ _ _
    | ingested _ _ _ =>
      -- the id of a new event has not been claimed before
      have hlt := h.fresh.nonces key claim _ hclaim hevent
      exact absurd hlt (Nat.lt_irrefl _)
    | @promoted env unified t old merged =>
      have hmem : old.id ∈ settles s.1 (.goldsky env unified (.ok t)) := by
        simp [settles, merged]
      exact absurd hmem hnot.2
    | @polled env chain read _ pending polled =>
      obtain ⟨status, depth, confirmedAt, rfl, -⟩ := polled
      -- the poller reads pending and confirmed rows, never a `pre_confirmed` one
      have hread := (polledRows_snapshot env s.1 chain).read read pending
      have hpre := h.preConfirmed key claim read hclaim hsource hevent hnot.1 hread
      rcases (mem_polledRows pending).1 with hst | hst <;> rw [hst] at hpre <;> cases hpre
    | @expired env route ttl read stale written =>
      have hmem : read.id ∈ settles s.1 (.sweep env route ttl) := by
        simp only [settles, List.mem_map, List.mem_filter]
        exact ⟨read, ⟨stale, by simp [written]⟩, rfl⟩
      exact absurd hmem hnot.2

/-- Every step keeps the invariant. -/
theorem Unsettled.step {s : World × List EventId} (h : Unsettled s) (a : KeeperAction) :
    Unsettled (settledStep s a) where
  fresh := h.fresh.step a
  preConfirmed := by
    intro key claim row hclaim hsource hevent hnot hrow
    rcases h.fresh.claimed hclaim hevent hrow with hpre | ⟨key', held, hheld, hsame, hevent'⟩
    · exact hpre
    · exact h.row_step hheld (hsame.trans hsource) hevent' hnot hrow

/-! ### The theorem -/

/-- A step that merges no log into a settled event runs the lifecycle forward. -/
theorem statusForward_of_deliveredOnce {s : World × List EventId} {a : KeeperAction}
    (h : Unsettled s) (ha : DeliveredOnce s a) : StatusForward s.1 a := by
  intro row hmem row' hrow'
  have hrow : s.1.events.get? row.id = some row := KeyedTable.get?_of_mem hmem
  have hnew : row.id < s.1.uuids := h.fresh.events row.id row hrow
  rcases keeperStep_events s.1 a row.id with hsame | ⟨new, hget, hwrite⟩
  · have heq : row' = row := Option.some.inj ((hsame.symm.trans hrow').symm.trans hrow)
    subst heq
    refine ⟨?_, fun _ hne => absurd rfl hne⟩
    rintro (hst | hst) <;> rw [hst] <;> decide
  · obtain rfl := Option.some.inj (hrow'.symm.trans hget)
    have hid : row'.id = row.id := KeyedTable.key_of_get? hget
    cases hwrite with
    | announced _ _ _ =>
      have hfresh : s.1.uuids = row.id := hid
      exact absurd hnew hfresh.le.not_gt
    | ingested _ _ _ =>
      have hfresh : s.1.uuids = row.id := hid
      exact absurd hnew hfresh.le.not_gt
    | @promoted env unified t old merged =>
      have hold := promotedRow_spec (promotedRow_of_mergedRow merged)
      obtain ⟨claim, hclaim, hsource, hevent, hget'⟩ := hold
      -- the only write that could go back; the invariant and the condition exclude it
      have hkey := (World.activeClaim_eq_some_iff.mp hclaim).1
      have hpre := h.preConfirmed _ claim old hkey hsource hevent (ha old merged) hget'
      have heq : row = old := by
        have hidold : old.id = row.id := hid
        rw [hidold, hrow] at hget'
        exact Option.some.inj hget'
      subst heq
      refine ⟨?_, fun _ _ => hpre⟩
      rintro (hst | hst) <;> rw [hst] at hpre <;> cases hpre
    | @polled env chain read _ pending polled =>
      obtain ⟨status, depth, confirmedAt, rfl, -⟩ := polled
      have hread := (polledRows_snapshot env s.1 chain).read read pending
      have hidread : read.id = row.id := hid
      have heq : read = row := by
        rw [hidread, hrow] at hread
        exact (Option.some.inj hread).symm
      subst heq
      refine ⟨?_, fun hgoldsky => by cases hgoldsky⟩
      rcases (mem_polledRows pending).1 with hst | hst <;> rw [hst] <;>
        rintro (h' | h') <;> cases h'
    | @expired env route ttl read stale _ =>
      refine ⟨fun _ => ?_, fun hgoldsky => by cases hgoldsky⟩
      intro hst
      cases hst

/-- **The lifecycle runs forward.** In every run from an empty database in which no Goldsky log is
merged into a settled event, no step takes a finalized or reorged event back to `confirmed` and
`promote_to_confirmed` changes `pre_confirmed` rows only. -/
theorem statusForward_of_run {as : List KeeperAction}
    (hmeets : Machine.Meets settledStep DeliveredOnce ({}, []) as) :
    Machine.Meets keeperStep StatusForward {} as := by
  have hsteps : Machine.Meets settledStep (fun s a => StatusForward s.1 a) ({}, []) as :=
    Machine.meets_of_meets (I := Unsettled)
      (fun s a hs ha => ⟨statusForward_of_deliveredOnce hs ha, hs.step a⟩) unsettled_empty hmeets
  exact Machine.meets_map (π := Prod.fst) (fun _ _ => rfl) hsteps

/-- A payment that is announced, delivered once and finalized. -/
theorem statusForward_of_run_once :
    Machine.Meets keeperStep StatusForward {}
      [Sample.register {}, .facilitator (Sample.height 99) Sample.announced,
        .goldsky (Sample.height 101) false (.ok (Sample.onchain 100)),
        .poll (Sample.height 103) .base] :=
  statusForward_of_run (by decide +kernel)

/-- The same payment, with the log delivered again after the finalization: the event is `confirmed`
once more. -/
theorem not_statusForward_redelivery :
    ¬ Machine.Meets keeperStep StatusForward {}
      [Sample.register {}, .facilitator (Sample.height 99) Sample.announced,
        .goldsky (Sample.height 101) false (.ok (Sample.onchain 100)),
        .poll (Sample.height 103) .base,
        .goldsky (Sample.height 104) false (.ok (Sample.onchain 100))] := by
  decide +kernel

end TripWire
