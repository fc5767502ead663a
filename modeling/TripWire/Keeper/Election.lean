import TripWire.Keeper.Sweep
import TripWire.Lib.AdvisoryLock

/-!
# Sweepers that elect a leader

Every replica runs a sweeper.  With a coordination pool, a cycle runs under the advisory lock
839202 (`tripwire/db/postgres.py`): the lock, the query and the writes go through one connection of
the replica's pool, which is kept for the whole cycle.  This module lets the statements of any
number of replicas interleave with each other and with the rest of the pipeline, while connections
break, answers are lost and cycles are cancelled.

Only the replica that holds the lock can write (`AdvisoryLock.Exclusive`), since a connection that
has lost the lock has ended.  So the rows that a leader has still to write are rows that no replica
has written before (`SingleSweep`), and `expired_once` follows: no event is expired twice.
-/

namespace TripWire

open Py

/-- A connection of the coordination pool of a replica: the replica, and the number of the
connection. -/
abbrev PoolConnection := ℕ × ℕ

/-- The replicas that sweep. -/
structure SweepCluster where
  world : World
  lock : AdvisoryLock ℕ PoolConnection := {}
  /-- The rows that a replica has read in its cycle and has still to write, once it has read. -/
  rows : ℕ → Option (List EventRow) := fun _ => none
  /-- The events that were written `payment.failed`, once for each write. -/
  expired : List EventId := []

/-- A statement of a replica, or what happens around the replicas. -/
inductive ClusterAction where
  /-- A cycle starts: a connection is taken from the pool and asked for the lock. -/
  | enter (replica connection : ℕ) (answered : Bool)
  /-- `fetch_stale_preconfirmed`. -/
  | read (replica : ℕ) (env : Env) (ttl : ℤ)
  /-- `update_event_status` in `_expire_event`, of the next row. -/
  | write (replica : ℕ) (env : Env)
  /-- The cycle ends, also by an exception or because it is cancelled; `pg_advisory_unlock` may
  fail, and the connection goes back to the pool. -/
  | leave (replica : ℕ) (unlocked : Bool)
  /-- A connection breaks. -/
  | close (connection : PoolConnection)
  /-- A step of the rest of the pipeline. -/
  | keeper (a : KeeperAction)

namespace SweepCluster

/-- The replica is in its cycle and its connection is there. -/
def Leads (s : SweepCluster) (replica : ℕ) : Prop := s.lock.Open replica

/-- Whether a statement of the replica reaches the database. -/
def connected (s : SweepCluster) (replica : ℕ) : Bool :=
  match s.lock.inside replica with
  | none => false
  | some connection => !s.lock.closed connection

/-- `_sweep_once` of any number of replicas, statement by statement. -/
def step (s : SweepCluster) : ClusterAction → SweepCluster
  | .enter replica connection answered =>
    let lock := s.lock.enter Prod.fst replica (replica, connection) answered
    { s with
      lock
      rows :=
        -- a cycle that starts has read nothing
        if s.lock.inside replica = none then Function.update s.rows replica none else s.rows }
  | .read replica env ttl =>
    match s.lock.inside replica, s.rows replica with
    | some _, none =>
      -- a query that raises ends the cycle with nothing to write
      let rows := if s.connected replica then sweptRows env .asyncpg ttl s.world else []
      { s with rows := Function.update s.rows replica (some rows) }
    | _, _ => s
  | .write replica env =>
    match s.rows replica with
    | some (row :: rest) =>
      let s' := { s with rows := Function.update s.rows replica (some rest) }
      -- an exception is logged, and the cycle goes on with the next row
      if s.connected replica then
        { s' with
          world := expireWrite env s.world row
          expired := if env.raises (.updateStatus row.id) then s.expired else row.id :: s.expired }
      else s'
    | _ => s
  | .leave replica unlocked => { s with lock := s.lock.leave replica unlocked }
  | .close connection => { s with lock := s.lock.close connection }
  | .keeper a => { s with world := keeperStep s.world a }

variable {s : SweepCluster}

theorem connected_iff {replica : ℕ} : s.connected replica = true ↔ s.Leads replica := by
  unfold connected Leads AdvisoryLock.Open
  cases s.lock.inside replica with
  | none => simp
  | some connection => simp

/-! ### The invariant -/

/-- What a leader has still to write are distinct recorded events that were not expired before. -/
structure Unwritten (s : SweepCluster) (rows : List EventRow) : Prop where
  nodup : (rows.map EventRow.id).Nodup
  fresh : ∀ row ∈ rows, row.id ∉ s.expired
  drawn : ∀ row ∈ rows, row.id < s.world.uuids

/-- No event has been expired twice, and no leader is about to do so. -/
structure SingleSweep (s : SweepCluster) : Prop where
  fresh : Fresh s.world
  exclusive : s.lock.Exclusive Prod.fst
  nodup : s.expired.Nodup
  drawn : ∀ id ∈ s.expired, id < s.world.uuids
  settled : ∀ id ∈ s.expired, ∀ row, s.world.events.get? id = some row →
    row.status ≠ .preConfirmed
  unwritten : ∀ replica, s.Leads replica → ∀ rows, s.rows replica = some rows → s.Unwritten rows

theorem singleSweep_start {w : World} (h : Fresh w) : SingleSweep { world := w } where
  fresh := h
  exclusive := ⟨fun hi => absurd hi (by simp), fun hi => absurd hi (by simp)⟩
  nodup := List.nodup_nil
  drawn := by simp
  settled := by simp
  unwritten := by
    rintro replica ⟨connection, hinside, -⟩
    cases hinside

theorem Unwritten.congr {s s' : SweepCluster} {rows : List EventRow} (h : s.Unwritten rows)
    (hexpired : s'.expired = s.expired) (huuids : s.world.uuids ≤ s'.world.uuids) :
    s'.Unwritten rows where
  nodup := h.nodup
  fresh row hrow := hexpired ▸ h.fresh row hrow
  drawn row hrow := (h.drawn row hrow).trans_le huuids

theorem Unwritten.nil (s : SweepCluster) : s.Unwritten [] := ⟨List.nodup_nil, by simp, by simp⟩

/-! ### The steps -/

/-- A step that concerns the lock only, and after which the leaders are leaders of before, or have
read nothing. -/
theorem SingleSweep.relock (h : s.SingleSweep) {lock : AdvisoryLock ℕ PoolConnection}
    {rows : ℕ → Option (List EventRow)} (hexclusive : lock.Exclusive Prod.fst)
    (hleads : ∀ replica, lock.Open replica → (s.Leads replica ∧ rows replica = s.rows replica) ∨
      rows replica = none) : SingleSweep { s with lock, rows } where
  fresh := h.fresh
  exclusive := hexclusive
  nodup := h.nodup
  drawn := h.drawn
  settled := h.settled
  unwritten := by
    intro replica hlead rows' hrows
    rcases hleads replica hlead with ⟨hlead', hsame⟩ | hnone
    · exact (h.unwritten replica hlead' rows' (hsame.symm.trans hrows)).congr rfl le_rfl
    · have hrows : rows replica = some rows' := hrows
      rw [hnone] at hrows
      cases hrows

theorem SingleSweep.enter (h : s.SingleSweep) (replica connection : ℕ) (answered : Bool) :
    (s.step (.enter replica connection answered)).SingleSweep := by
  refine h.relock (h.exclusive.enter replica (replica, connection) answered) ?_
  intro other hopen
  by_cases hout : s.lock.inside replica = none
  · rw [if_pos hout]
    by_cases hother : other = replica
    · subst hother
      exact .inr (Function.update_self _ _ _)
    · left
      refine ⟨?_, Function.update_of_ne hother _ _⟩
      obtain ⟨c, hinside, hclosed⟩ := hopen
      unfold AdvisoryLock.enter at hinside hclosed
      split at hinside
      case isFalse hmay =>
        rw [if_neg hmay] at hclosed
        exact ⟨c, hinside, hclosed⟩
      case isTrue hmay =>
        rw [if_pos hmay] at hclosed
        dsimp only at hinside hclosed
        split at hinside
        case isTrue htold =>
          rw [if_pos htold] at hclosed
          have hinside : Function.update s.lock.inside replica _ other = some c := hinside
          rw [Function.update_of_ne hother] at hinside
          exact ⟨c, hinside, by rwa [AdvisoryLock.closed_tryLock] at hclosed⟩
        case isFalse htold =>
          rw [if_neg htold] at hclosed
          rw [AdvisoryLock.inside_tryLock] at hinside
          exact ⟨c, hinside, by rwa [AdvisoryLock.closed_tryLock] at hclosed⟩
  · -- a replica in its cycle starts no other
    have hsame : s.lock.enter Prod.fst replica (replica, connection) answered = s.lock := by
      unfold AdvisoryLock.enter
      exact if_neg fun hmay => hout hmay.2.1
    rw [if_neg hout]
    rw [hsame] at hopen
    exact .inl ⟨hopen, rfl⟩

theorem SingleSweep.leave (h : s.SingleSweep) (replica : ℕ) (unlocked : Bool) :
    (s.step (.leave replica unlocked)).SingleSweep := by
  refine h.relock (h.exclusive.leave replica unlocked) ?_
  rintro other ⟨c, hinside, hclosed⟩
  left
  refine ⟨?_, rfl⟩
  unfold AdvisoryLock.leave at hinside hclosed
  cases hreplica : s.lock.inside replica with
  | none =>
    rw [hreplica] at hinside hclosed
    exact ⟨c, hinside, hclosed⟩
  | some connection =>
    rw [hreplica] at hinside hclosed
    have hinside : Function.update s.lock.inside replica none other = some c := hinside
    by_cases hother : other = replica
    · subst hother
      rw [Function.update_self] at hinside
      cases hinside
    · rw [Function.update_of_ne hother] at hinside
      refine ⟨c, hinside, ?_⟩
      dsimp only at hclosed
      split at hclosed
      · rwa [AdvisoryLock.closed_unlock] at hclosed
      · exact hclosed

theorem SingleSweep.close (h : s.SingleSweep) (connection : PoolConnection) :
    (s.step (.close connection)).SingleSweep := by
  refine h.relock (h.exclusive.close connection) ?_
  rintro other ⟨c, hinside, hclosed⟩
  left
  refine ⟨⟨c, hinside, ?_⟩, rfl⟩
  have hclosed : Function.update s.lock.closed connection true c = false := hclosed
  by_cases hc : c = connection
  · subst hc
    rw [Function.update_self] at hclosed
    cases hclosed
  · rwa [Function.update_of_ne hc] at hclosed

/-- Reading: the rows are `pre_confirmed` and expired events are not. -/
theorem SingleSweep.read (h : s.SingleSweep) (replica : ℕ) (env : Env) (ttl : ℤ) :
    (s.step (.read replica env ttl)).SingleSweep := by
  unfold step
  dsimp only
  split
  · refine ⟨h.fresh, h.exclusive, h.nodup, h.drawn, h.settled, ?_⟩
    intro other hlead rows hrows
    have hrows : Function.update s.rows replica _ other = some rows := hrows
    by_cases hother : other = replica
    · subst hother
      rw [Function.update_self] at hrows
      rw [← Option.some.inj hrows]
      split
      · have hread := sweptRows_snapshot env .asyncpg ttl s.world
        refine ⟨hread.nodup, fun row hrow hmem => ?_, fun row hrow => ?_⟩
        · exact h.settled row.id hmem row (hread.read row hrow) (status_of_mem_sweptRows hrow)
        · exact h.fresh.events row.id row (hread.read row hrow)
      · exact ⟨List.nodup_nil, by simp, by simp⟩
    · rw [Function.update_of_ne hother] at hrows
      exact (h.unwritten other hlead rows hrows).congr rfl le_rfl
  · exact h

/-- Writing: no other replica leads, and the rows left are not the one that was written. -/
theorem SingleSweep.write (h : s.SingleSweep) (replica : ℕ) (env : Env) :
    (s.step (.write replica env)).SingleSweep := by
  unfold step
  dsimp only
  split
  case h_2 => exact h
  case h_1 row rest hrows =>
    -- the row is gone from the list of the replica
    have hlist {other : ℕ} {rows : List EventRow}
        (hother : Function.update s.rows replica (some rest) other = some rows) :
        (other = replica ∧ rows = rest) ∨ (other ≠ replica ∧ s.rows other = some rows) := by
      by_cases hsame : other = replica
      · subst hsame
        rw [Function.update_self] at hother
        exact .inl ⟨rfl, (Option.some.inj hother).symm⟩
      · rw [Function.update_of_ne hsame] at hother
        exact .inr ⟨hsame, hother⟩
    split
    case isFalse hconnected =>
      refine ⟨h.fresh, h.exclusive, h.nodup, h.drawn, h.settled, ?_⟩
      intro other hlead rows hother
      rcases hlist hother with ⟨rfl, rfl⟩ | ⟨-, hother⟩
      · exact absurd (connected_iff.mpr hlead) hconnected
      · exact (h.unwritten other hlead rows hother).congr rfl le_rfl
    case isTrue hconnected =>
      have hlead := connected_iff.mp hconnected
      have hunwritten := h.unwritten replica hlead _ hrows
      have hnodup := hunwritten.nodup
      rw [List.map_cons, List.nodup_cons] at hnodup
      obtain ⟨hnonces, huuids⟩ := expireWrite_frame env s.world row
      have hexpired : ∀ id ∈ (if env.raises (.updateStatus row.id) then s.expired
          else row.id :: s.expired), id ∈ s.expired ∨
            (id = row.id ∧ ¬ env.raises (.updateStatus row.id) = true) := by
        intro id hid
        split_ifs at hid with hraises
        · exact .inl hid
        · exact (List.mem_cons.mp hid).elim (fun hid => .inr ⟨hid, hraises⟩) .inl
      refine ⟨?_, h.exclusive, ?_, ?_, ?_, ?_⟩
      · refine fresh_of_update h.fresh hnonces huuids ?_
        intro id r hr
        rcases get?_expireWrite env s.world row id with hsame | ⟨-, hmap⟩
        · exact ⟨r, hsame.symm.trans hr⟩
        · obtain ⟨r', hr', -⟩ := Option.map_eq_some_iff.mp (hmap.symm.trans hr)
          exact ⟨r', hr'⟩
      · dsimp only
        split_ifs
        · exact h.nodup
        · exact List.nodup_cons.mpr ⟨hunwritten.fresh row List.mem_cons_self, h.nodup⟩
      · intro id hid
        show id < (expireWrite env s.world row).uuids
        rw [huuids]
        rcases hexpired id hid with hid | ⟨rfl, -⟩
        · exact h.drawn id hid
        · exact hunwritten.drawn row List.mem_cons_self
      · intro id hid r hr
        rcases get?_expireWrite env s.world row id with hsame | ⟨-, hmap⟩
        · rcases hexpired id hid with hid | ⟨rfl, hraises⟩
          · exact h.settled id hid r (hsame.symm.trans hr)
          · -- the write took effect on the row
            have hr : (expireWrite env s.world row).events.get? row.id = some r := hr
            unfold expireWrite at hr
            rw [if_neg hraises, World.get?_updateStatus, if_pos rfl] at hr
            obtain ⟨r', -, rfl⟩ := Option.map_eq_some_iff.mp hr
            simp [EventRow.withStatus]
        · obtain ⟨r', -, rfl⟩ := Option.map_eq_some_iff.mp (hmap.symm.trans hr)
          simp [EventRow.withStatus]
      · intro other hleadOther rows hother
        have hsame : other = replica := h.exclusive.eq_of_open hleadOther hlead
        rcases hlist hother with ⟨-, rfl⟩ | ⟨hne, -⟩
        · refine ⟨hnodup.2, fun r hr hmem => ?_, fun r hr => ?_⟩
          · rcases hexpired r.id hmem with hmem | ⟨hid, -⟩
            · exact hunwritten.fresh r (List.mem_cons_of_mem _ hr) hmem
            · exact hnodup.1 (hid ▸ List.mem_map_of_mem hr)
          · show r.id < (expireWrite env s.world row).uuids
            rw [huuids]
            exact hunwritten.drawn r (List.mem_cons_of_mem _ hr)
        · exact absurd hsame hne

/-- **The step lemma.** -/
theorem SingleSweep.step (h : s.SingleSweep) (a : ClusterAction) : (s.step a).SingleSweep := by
  cases a with
  | enter replica connection answered => exact h.enter replica connection answered
  | read replica env ttl => exact h.read replica env ttl
  | write replica env => exact h.write replica env
  | leave replica unlocked => exact h.leave replica unlocked
  | close connection => exact h.close connection
  | keeper a =>
    have huuids := keeperStep_uuids s.world a
    refine ⟨h.fresh.step a, h.exclusive, h.nodup, ?_, ?_, ?_⟩
    · exact fun id hid => (h.drawn id hid).trans_le huuids
    · exact fun id hid row hrow => settled_step ⟨h.drawn id hid, h.settled id hid⟩ hrow
    · exact fun replica hlead rows hrows => (h.unwritten replica hlead rows hrows).congr rfl huuids

end SweepCluster

/-! ### The theorem -/

/-- **No event is expired twice.**  However the statements of the replicas interleave with each
other and with the rest of the pipeline, whichever connections break and answers are lost: at most
one replica is in its cycle with a connection that works, and no event is written `payment.failed`
more than once. -/
theorem expired_once {w : World} (hw : Fresh w) (actions : List ClusterAction) :
    let s := Machine.run SweepCluster.step { world := w } actions
    s.expired.Nodup ∧ ∀ i j, s.Leads i → s.Leads j → i = j := by
  intro s
  have hs : s.SingleSweep :=
    Machine.run_invariant (fun _ a h => h.step a) actions (SweepCluster.singleSweep_start hw)
  exact ⟨hs.nodup, fun i j hi hj => hs.exclusive.eq_of_open hi hj⟩

/-- Two replicas sweep in turn, and the first one loses its connection. -/
theorem expired_once_failover :
    let s := Machine.run SweepCluster.step
      { world := {} } [.keeper (Sample.register {}),
        .keeper (.facilitator (Sample.height 99) Sample.announced), .enter 0 0 true,
        .read 0 { now := 2000 } 1800, .write 0 { now := 2000 }, .close (0, 0), .enter 1 0 true,
        .read 1 { now := 2000 } 1800, .write 1 { now := 2000 }]
    s.expired.Nodup ∧ ∀ i j, s.Leads i → s.Leads j → i = j :=
  expired_once fresh_empty _

end TripWire
