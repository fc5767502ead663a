import TripWire.Keeper.Tables

/-!
# A sweep interleaved with promotions

A sweep is not one step: it reads the stale `pre_confirmed` rows, and then writes `payment.failed`
and sends the webhook row by row, with everything else running in between.  This module cuts it into
`read`, `write` and `dispatch` steps over the functions of `TtlSweeper`, and lets any step of the
Keeper pipeline happen between two of them.

The write addresses the row by id and does not look at its status, so a promotion that lands between
the read and the write is overwritten.  `NoPromotionInWindow` rules out exactly these promotions;
the invariant `WindowClear` then says that no promoted event is among the rows still to be written.
-/

namespace TripWire

open Py

/-- A sweep under way, with the events that Goldsky logs have been merged into so far. -/
structure SweepState where
  world : World
  /-- The rows that were read and are still to be written. -/
  stale : List EventRow := []
  /-- The row that was written and is still to be reported, and whether it had been promoted by
  then. -/
  pending : Option (EventRow × Bool) := none
  promoted : List EventId := []

/-- One statement of the sweeper, or one step of the rest of the pipeline. -/
inductive SweepAction where
  | read (env : Env) (ttl : ℤ)
  | write (env : Env)
  | dispatch (env : Env)
  | keeper (a : KeeperAction)

/-- The events a step of the pipeline promotes. -/
def promotes (w : World) : KeeperAction → List EventId
  | .goldsky env _ (.ok t) => (mergedRow env w t).toList.map (·.id)
  | _ => []

/-- `_sweep_once`, statement by statement.  A cycle starts when the last one has ended, and a row is
reported before the next one is written. -/
def sweepStep (route : SweepRoute) (s : SweepState) : SweepAction → SweepState
  | .read env ttl =>
    if s.stale.isEmpty && s.pending.isNone then
      { s with stale := sweptRows env route ttl s.world }
    else s
  | .write env =>
    match s.stale, s.pending with
    | row :: rest, none =>
      { s with
        world := expireWrite env s.world row
        stale := rest
        pending :=
          if expiryDispatches env route row then some (row, row.id ∈ s.promoted) else none }
    | _, _ => s
  | .dispatch env =>
    -- The endpoints are read now, the transfer is the one of the row as it was read.
    match s.pending with
    | some (row, _) => { s with world := dispatchFailureWebhook env s.world row, pending := none }
    | none => s
  | .keeper a =>
    { s with world := keeperStep s.world a, promoted := s.promoted ++ promotes s.world a }

/-- The sweeper's write leaves a promoted event as it is, and no `payment.failed` follows for an
event that was promoted before the write. -/
def SweepRespects (route : SweepRoute) (s : SweepState) : SweepAction → Prop
  | .write env => ∀ row ∈ s.stale.head?, row.id ∈ s.promoted →
      (sweepStep route s (.write env)).world.events.get? row.id = s.world.events.get? row.id
  | .dispatch env => ∀ p ∈ s.pending, p.2 = true →
      (sweepStep route s (.dispatch env)).world.outbox = s.world.outbox
  | _ => True

instance (route : SweepRoute) (s : SweepState) : ∀ a, Decidable (SweepRespects route s a)
  | .write env =>
    inferInstanceAs (Decidable (∀ row ∈ s.stale.head?, row.id ∈ s.promoted →
      (sweepStep route s (.write env)).world.events.get? row.id = s.world.events.get? row.id))
  | .dispatch env =>
    inferInstanceAs (Decidable (∀ p ∈ s.pending, p.2 = true →
      (sweepStep route s (.dispatch env)).world.outbox = s.world.outbox))
  | .read .. => isTrue trivial
  | .keeper _ => isTrue trivial

/-- No Goldsky log is merged into an event between the sweeper's read of it and the write. -/
def NoPromotionInWindow (s : SweepState) : SweepAction → Prop
  | .keeper a => ∀ id ∈ promotes s.world a, id ∉ s.stale.map (·.id)
  | _ => True

instance (s : SweepState) : ∀ a, Decidable (NoPromotionInWindow s a)
  | .keeper a => inferInstanceAs (Decidable (∀ id ∈ promotes s.world a, id ∉ s.stale.map (·.id)))
  | .read .. => isTrue trivial
  | .write _ => isTrue trivial
  | .dispatch _ => isTrue trivial

/-! ### The invariant -/

/-- Promoted events are recorded and no longer `pre_confirmed`, and none of them is waiting to be
written or reported by the sweeper. -/
structure WindowClear (s : SweepState) : Prop where
  fresh : Fresh s.world
  drawn : ∀ id ∈ s.promoted, id < s.world.uuids
  settled : ∀ id ∈ s.promoted, ∀ row, s.world.events.get? id = some row →
    row.status ≠ .preConfirmed
  stale : ∀ row ∈ s.stale, row.id ∉ s.promoted
  pending : ∀ p ∈ s.pending, p.2 = false

theorem windowClear_start {w : World} (h : Fresh w) : WindowClear { world := w } where
  fresh := h
  drawn := by simp
  settled := by simp
  stale := by simp
  pending := by simp

theorem fresh_of_update {w w' : World} (h : Fresh w) (hnonces : w'.nonces = w.nonces)
    (huuids : w'.uuids = w.uuids)
    (hevents : ∀ id row, w'.events.get? id = some row → ∃ row', w.events.get? id = some row') :
    Fresh w' where
  events := by
    intro id row hrow
    obtain ⟨row', hrow'⟩ := hevents id row hrow
    rw [huuids]
    exact h.events id row' hrow'
  nonces := by
    rw [hnonces, huuids]
    exact h.nonces

/-- The row of an id after the sweeper's write: as it was, or failed. -/
theorem get?_expireWrite (env : Env) (w : World) (row : EventRow) (id : EventId) :
    (expireWrite env w row).events.get? id = w.events.get? id ∨
      (id = row.id ∧ (expireWrite env w row).events.get? id =
        (w.events.get? id).map (EventRow.withStatus env.now .paymentFailed)) := by
  unfold expireWrite
  split_ifs
  · exact Or.inl rfl
  · rw [World.get?_updateStatus]
    by_cases hid : id = row.id
    · exact Or.inr ⟨hid, by rw [if_pos hid]⟩
    · exact Or.inl (by rw [if_neg hid])

theorem expireWrite_frame (env : Env) (w : World) (row : EventRow) :
    (expireWrite env w row).nonces = w.nonces ∧ (expireWrite env w row).uuids = w.uuids := by
  unfold expireWrite
  split_ifs <;> exact ⟨rfl, rfl⟩

theorem dispatchFailureWebhook_frame (env : Env) (w : World) (row : EventRow) :
    ∃ outbox, dispatchFailureWebhook env w row = { w with outbox } := by
  unfold dispatchFailureWebhook
  split
  · exact ⟨w.outbox, rfl⟩
  · exact ⟨_, rfl⟩

/-- A promoted event does not become `pre_confirmed` again. -/
theorem settled_step {w : World} {a : KeeperAction} {id : EventId} {row : EventRow}
    (hid : id < w.uuids ∧ ∀ r, w.events.get? id = some r → r.status ≠ .preConfirmed)
    (hrow : (keeperStep w a).events.get? id = some row) : row.status ≠ .preConfirmed := by
  rcases keeperStep_events w a id with hsame | ⟨new, hnew, hwrite⟩
  · exact hid.2 row (hsame.symm.trans hrow)
  · obtain rfl := Option.some.inj (hrow.symm.trans hnew)
    have hkey : row.id = id := KeyedTable.key_of_get? hrow
    cases hwrite with
    | announced _ _ _ =>
      have hfresh : w.uuids = id := hkey
      exact absurd hid.1 hfresh.le.not_gt
    | ingested _ _ _ =>
      have hfresh : w.uuids = id := hkey
      exact absurd hid.1 hfresh.le.not_gt
    | promoted _ => simp [EventRow.promoted]
    | @polled env chain read _ pending polled =>
      obtain ⟨status, depth, confirmedAt, rfl, hstatus⟩ := polled
      have hread := (mem_polledRows pending).1
      intro hpre
      have hpre' : status = .preConfirmed := hpre
      subst hpre'
      rcases hstatus with hst | hst | ⟨-, hst⟩ | ⟨-, hst⟩
      · rw [← hst] at hread
        rcases hread with hread | hread <;> cases hread
      · cases hst
      · cases hst
      · cases hst
    | expired _ _ => simp [EventRow.withStatus]

theorem mem_promotes {w : World} {a : KeeperAction} {id : EventId} (h : id ∈ promotes w a) :
    ∃ env unified t old, a = .goldsky env unified (.ok t) ∧ mergedRow env w t = some old ∧
      old.id = id := by
  unfold promotes at h
  split at h
  · rename_i env unified t
    obtain ⟨old, hold, rfl⟩ := List.mem_map.mp h
    exact ⟨env, unified, t, old, rfl, by simpa using hold, rfl⟩
  · cases h

/-- Every step keeps the invariant, if it promotes nothing that the sweeper is about to write. -/
theorem WindowClear.step {route : SweepRoute} {s : SweepState} {a : SweepAction}
    (h : WindowClear s) (ha : NoPromotionInWindow s a) : WindowClear (sweepStep route s a) := by
  cases a with
  | read env ttl =>
    simp only [sweepStep]
    split_ifs
    · refine { h with stale := ?_ }
      intro row hrow hmem
      -- a row that is read is `pre_confirmed`, and promoted rows are not
      have hread := (sweptRows_snapshot env route ttl s.world).read row hrow
      exact h.settled row.id hmem row hread (status_of_mem_sweptRows hrow)
    · exact h
  | write env =>
    simp only [sweepStep]
    split
    · rename_i row rest hstale hpending
      obtain ⟨hnonces, huuids⟩ := expireWrite_frame env s.world row
      have hrow : row.id ∉ s.promoted := h.stale row (by rw [hstale]; exact List.mem_cons_self)
      refine ⟨?_, ?_, ?_, ?_, ?_⟩
      · refine fresh_of_update h.fresh hnonces huuids ?_
        intro id r hr
        rcases get?_expireWrite env s.world row id with hsame | ⟨-, hmap⟩
        · exact ⟨r, hsame.symm.trans hr⟩
        · obtain ⟨r', hr', -⟩ := Option.map_eq_some_iff.mp (hmap.symm.trans hr)
          exact ⟨r', hr'⟩
      · intro id hid
        exact huuids ▸ h.drawn id hid
      -- the written row is not a promoted one, so the promoted ones keep their status
      · intro id hid r hr
        rcases get?_expireWrite env s.world row id with hsame | ⟨rfl, -⟩
        · exact h.settled id hid r (hsame.symm.trans hr)
        · exact absurd hid hrow
      · intro r hr
        exact h.stale r (by rw [hstale]; exact List.mem_cons_of_mem row hr)
      · intro p hp
        have hp' : p ∈ (if expiryDispatches env route row then
            some (row, decide (row.id ∈ s.promoted)) else none) := hp
        split_ifs at hp'
        · obtain rfl := Option.some.inj hp'
          exact decide_eq_false hrow
        · cases hp'
    · exact h
  | dispatch env =>
    simp only [sweepStep]
    split
    · rename_i row _ hpending
      obtain ⟨outbox, hout⟩ := dispatchFailureWebhook_frame env s.world row
      simp only [hout]
      exact ⟨⟨h.fresh.events, h.fresh.nonces⟩, h.drawn, h.settled, h.stale, by simp⟩
    · exact h
  | keeper a =>
    refine ⟨h.fresh.step a, ?_, ?_, ?_, h.pending⟩
    · intro id hid
      have hmono := keeperStep_uuids s.world a
      rcases List.mem_append.mp hid with hid | hid
      · exact (h.drawn id hid).trans_le hmono
      · obtain ⟨env, unified, t, old, rfl, hmerged, rfl⟩ := mem_promotes hid
        have hold := get?_of_promotedRow (promotedRow_of_mergedRow hmerged)
        exact (h.fresh.events old.id old hold).trans_le hmono
    -- promoted before this step, or by it
    · intro id hid row hrow
      rcases List.mem_append.mp hid with hid | hid
      · exact settled_step ⟨h.drawn id hid, h.settled id hid⟩ hrow
      · obtain ⟨env, unified, t, old, rfl, hmerged, rfl⟩ := mem_promotes hid
        have hnew : some row = some (old.promoted env.now t) :=
          hrow.symm.trans (keeperStep_merged unified hmerged)
        rw [Option.some.inj hnew]
        simp [EventRow.promoted]
    · intro row hrow hmem
      rcases List.mem_append.mp hmem with hmem | hmem
      · exact h.stale row hrow hmem
      · exact ha row.id hmem (List.mem_map_of_mem hrow)

/-! ### The theorem -/

/-- With no promoted event among its rows, the sweeper overwrites none. -/
theorem sweepRespects_of_windowClear {route : SweepRoute} {s : SweepState} {a : SweepAction}
    (h : WindowClear s) : SweepRespects route s a := by
  cases a with
  | read env ttl => trivial
  | write env =>
    intro row hrow hmem
    exact absurd hmem (h.stale row (List.mem_of_mem_head? hrow))
  | dispatch env =>
    intro p hp htrue
    have hfalse := h.pending p hp
    rw [htrue] at hfalse
    cases hfalse
  | keeper a => trivial

/-- **A sweep respects promotions outside its window.** In every interleaving of sweeps, on either
route, with the rest of the pipeline in which no promotion lands between the sweeper's read of an
event and its write, an event promoted before the write keeps its status and no `payment.failed` is
sent for it. -/
theorem sweepRespects_of_run {route : SweepRoute} {w : World} {as : List SweepAction} (hw : Fresh w)
    (hmeets : Machine.Meets (sweepStep route) NoPromotionInWindow { world := w } as) :
    Machine.Meets (sweepStep route) (SweepRespects route) { world := w } as :=
  Machine.meets_of_meets (I := WindowClear)
    (fun _ _ hs ha => ⟨sweepRespects_of_windowClear hs, hs.step ha⟩) (windowClear_start hw) hmeets

/-- A payment that is promoted before the sweeper reads. -/
theorem sweepRespects_of_run_promoted :
    Machine.Meets (sweepStep .supabase) (SweepRespects .supabase) { world := {} }
      [.keeper (Sample.register {}), .keeper (.facilitator (Sample.height 99) Sample.announced),
        .keeper (.goldsky (Sample.height 101) false (.ok (Sample.onchain 100))),
        .read { now := 2000 } 1800, .write { now := 2000 }, .dispatch { now := 2000 }] :=
  sweepRespects_of_run fresh_empty (by decide +kernel)

/-- A payment that is promoted between the sweeper's read and its write is marked as failed. -/
theorem not_sweepRespects_window :
    ¬ Machine.Meets (sweepStep .supabase) (SweepRespects .supabase) { world := {} }
      [.keeper (Sample.register {}), .keeper (.facilitator (Sample.height 99) Sample.announced),
        .read { now := 2000 } 1800,
        .keeper (.goldsky (Sample.height 101) false (.ok (Sample.onchain 100))),
        .write { now := 2000 }, .dispatch { now := 2000 }] := by
  decide +kernel

end TripWire
