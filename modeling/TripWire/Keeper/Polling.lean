import TripWire.Db.Migrations
import TripWire.Keeper.Tables

/-!
# A poll cycle without failures

What a cycle does to each row it reads, and what it sends, when no call of it fails:
`pollChain_status` gives the status of every row afterwards, `newMessages_poll` the messages.

The cycle is guarded by a lock that it takes through the function `try_acquire_leader_lock`.
Migration 027 creates that function and 028 drops it again, and `_poll_chain` treats the exception
as "another instance polls".  On the migrated database a cycle therefore does nothing
(`pollChain_migrated`), where with the function it would move every row that is due
(`movesDue_of_lock`).
-/

namespace TripWire

open Py

/-! ### Each row of a cycle -/

/-- No call of a poll cycle fails, and no other instance holds the lock. -/
structure PollHealthy (env : Env) : Prop where
  lock : env.raises .acquireLock = false
  tables : ∀ c : Call, c.function? = none → env.raises c = false

/-- The status to which the poller moves a row whose depth is reached. -/
def advancedStatus : EventStatus → EventStatus
  | .pending => .confirmed
  | .confirmed => .finalized
  | status => status

/-- The status of a polled row after the cycle. -/
def polledStatus (env : Env) (chain : ChainId) (row : EventRow) : EventStatus :=
  if isReorged env row then .reorged
  else if finalityDepths chain ≤ polledConfirmations env row then advancedStatus row.status
  else row.status

/-- In a snapshot, each row ends as its own round leaves it. -/
theorem foldl_snapshot_row {f : World → EventRow → World}
    (hother : ∀ w row k, k ≠ row.id → (f w row).events.get? k = w.events.get? k)
    {rows : List EventRow} {w : World} (hsnap : Snapshot w rows) {row : EventRow}
    (hrow : row ∈ rows) :
    ∃ w', w'.events.get? row.id = some row ∧
      (rows.foldl f w).events.get? row.id = (f w' row).events.get? row.id := by
  obtain ⟨hnodup, hread⟩ := hsnap
  induction rows generalizing w with
  | nil => cases hrow
  | cons r rows ih =>
    rw [List.map_cons, List.nodup_cons] at hnodup
    rw [List.foldl_cons]
    rcases List.mem_cons.mp hrow with rfl | hrow
    · -- its own round; the rows after it are other rows
      refine ⟨w, hread row List.mem_cons_self, ?_⟩
      have hrest : ∀ (rs : List EventRow) (w' : World), row.id ∉ rs.map EventRow.id →
          (rs.foldl f w').events.get? row.id = w'.events.get? row.id := by
        intro rs
        induction rs with
        | nil => exact fun _ _ => rfl
        | cons r' rs ih' =>
          intro w' hnot
          rw [List.map_cons, List.mem_cons, not_or] at hnot
          rw [List.foldl_cons, ih' (f w' r') hnot.2, hother w' r' row.id hnot.1]
      exact hrest rows (f w row) hnodup.1
    · refine ih (w := f w r) hrow hnodup.2 ?_
      intro r' hr'
      have hne : r'.id ≠ r.id := fun he => hnodup.1 (he ▸ List.mem_map_of_mem hr')
      rw [hother w r r'.id hne]
      exact hread r' (List.mem_cons_of_mem r hr')

theorem get?_transitionEvent {env : Env} {w : World} {row old : EventRow}
    (hraise : env.raises (.updateStatus row.id) = false) (hread : w.events.get? row.id = some old)
    (newStatus : EventStatus) (type : WebhookEventType) :
    (transitionEvent env w row newStatus type).events.get? row.id =
      some (old.withStatus env.now newStatus) := by
  have hget := w.get?_updateStatus env.now row.id newStatus row.id
  rw [if_pos rfl, hread, Option.map_some] at hget
  unfold transitionEvent
  rw [hraise]
  simp only [Bool.false_eq_true, if_false]
  split
  · exact hget
  · rename_i d hd
    obtain ⟨ds, hds⟩ := pushWebhooks_eq env (w.updateStatus env.now row.id newStatus) d
      (polledEndpoints env (w.updateStatus env.now row.id newStatus) row)
    rw [hds]
    exact hget

theorem get?_handleReorg {env : Env} {w : World} {row old : EventRow}
    (hraise : env.raises (.updateStatus row.id) = false) (hread : w.events.get? row.id = some old) :
    (handleReorg env w row).events.get? row.id = some (old.withStatus env.now .reorged) := by
  have hget := w.get?_updateStatus env.now row.id .reorged row.id
  rw [if_pos rfl, hread, Option.map_some] at hget
  have hnonces : (if env.raises (.invalidateNonce row.id) = true
        then w.updateStatus env.now row.id .reorged
        else (w.updateStatus env.now row.id .reorged).invalidateByEventId env.now row.id).events =
      (w.updateStatus env.now row.id .reorged).events := by
    split_ifs
    · rfl
    · rfl
  unfold handleReorg
  rw [hraise]
  simp only [Bool.false_eq_true, if_false]
  split
  · rw [hnonces]
    exact hget
  · change KeyedTable.get? (World.events _) row.id = _
    rw [hnonces]
    exact hget

/-- **What a round does to the status of its row.** -/
theorem pollEvent_status {env : Env} (henv : PollHealthy env) (chain : ChainId) {w : World}
    {row : EventRow} (hread : w.events.get? row.id = some row) :
    ∃ new, (pollEvent env chain w row).events.get? row.id = some new ∧
      new.status = polledStatus env chain row := by
  have hstatus := henv.tables (.updateStatus row.id) rfl
  have hfinality := henv.tables (.updateFinality row.id) rfl
  unfold pollEvent polledStatus
  by_cases hreorg : isReorged env row = true
  · rw [if_pos hreorg, if_pos hreorg]
    exact ⟨_, get?_handleReorg hstatus hread, rfl⟩
  · rw [if_neg hreorg, if_neg hreorg, processPolledEvent, hfinality]
    have hdepth := w.get?_updateFinality row.id (polledConfirmations env row) row.id
    rw [if_pos rfl, hread, Option.map_some] at hdepth
    simp only [Bool.false_eq_true, if_false]
    by_cases hreached : finalityDepths chain ≤ polledConfirmations env row
    · rw [if_pos hreached, if_pos hreached]
      cases hold : row.status with
      | pending =>
        exact ⟨_, get?_transitionEvent hstatus hdepth .confirmed .paymentConfirmed, rfl⟩
      | confirmed =>
        exact ⟨_, get?_transitionEvent hstatus hdepth .finalized .paymentFinalized, rfl⟩
      | preConfirmed | finalized | reorged | paymentFailed => exact ⟨_, hdepth, hold⟩
    · rw [if_neg hreached, if_neg hreached]
      exact ⟨_, hdepth, rfl⟩

theorem polledRows_of_healthy {env : Env} (henv : PollHealthy env) (w : World) (chain : ChainId) :
    polledRows env w chain = fetchPendingEvents w chain := by
  have hfetch := henv.tables .fetchPending rfl
  have hblock := henv.tables .blockNumber rfl
  simp [polledRows, henv.lock, hfetch, hblock]

/-- **What a cycle does to the status of every row it reads.** -/
theorem pollChain_status {env : Env} (henv : PollHealthy env) {w : World} {chain : ChainId}
    {row : EventRow} (hrow : row ∈ fetchPendingEvents w chain) :
    ∃ new, (pollChain env w chain).events.get? row.id = some new ∧
      new.status = polledStatus env chain row := by
  rw [← polledRows_of_healthy henv] at hrow
  obtain ⟨w', hread, hend⟩ := foldl_snapshot_row
    (fun w row _ => pollEvent_get?_of_ne env chain w row) (polledRows_snapshot env w chain) hrow
  obtain ⟨new, hnew, hstatus⟩ := pollEvent_status henv chain hread
  exact ⟨new, hend.trans hnew, hstatus⟩

/-- What a cycle makes of a row it reads, whichever calls fail. -/
theorem keeperStep_polled {env : Env} {w : World} {chain : ChainId} {row : EventRow}
    (hrow : row ∈ polledRows env w chain) :
    ∃ new, (keeperStep w (.poll env chain)).events.get? row.id = some new ∧ PolledRow row new ∧
      (new.finalityDepth = row.finalityDepth ∨
        new.finalityDepth = polledConfirmations env row) := by
  obtain ⟨w', hread, hend⟩ := foldl_snapshot_row
    (fun w row _ => pollEvent_get?_of_ne env chain w row) (polledRows_snapshot env w chain) hrow
  obtain ⟨new, hnew, hpolled⟩ := pollEvent_get?_self env chain hread
  exact ⟨new, hend.trans hnew, hpolled⟩

/-! ### What a cycle sends -/

/-- The webhook call of a round: for a reorg, for a move of the status, or none. -/
def polledDispatch (env : Env) (chain : ChainId) (row : EventRow) : Option Dispatch :=
  if isReorged env row then reorgDispatch env row
  else if finalityDepths chain ≤ polledConfirmations env row then
    match row.status with
    | .pending => transitionDispatch env row .confirmed .paymentConfirmed
    | .confirmed => transitionDispatch env row .finalized .paymentFinalized
    | _ => none
  else none

/-- The webhooks of a call to the endpoints of a row; none without a call. -/
def rowWebhooks (env : Env) (w : World) (row : EventRow) (call : Option Dispatch) :
    List Emission :=
  call.elim [] fun d => dispatchEvent env d (polledEndpoints env w row)

/-- The messages of a round. -/
def polledMessages (env : Env) (chain : ChainId) (w : World) (row : EventRow) : List Emission :=
  rowWebhooks env w row (polledDispatch env chain row)

theorem transitionEvent_outbox {env : Env} {row : EventRow}
    (hraise : env.raises (.updateStatus row.id) = false) (w : World) (newStatus : EventStatus)
    (type : WebhookEventType) :
    (transitionEvent env w row newStatus type).outbox =
      w.outbox ++ rowWebhooks env w row (transitionDispatch env row newStatus type) := by
  unfold transitionEvent rowWebhooks
  rw [hraise]
  simp only [Bool.false_eq_true, if_false]
  cases transitionDispatch env row newStatus type with
  | none => exact (List.append_nil _).symm
  | some d =>
    obtain ⟨ds, hds⟩ := pushWebhooks_eq env (w.updateStatus env.now row.id newStatus) d
      (polledEndpoints env (w.updateStatus env.now row.id newStatus) row)
    simp only
    rw [hds]
    rfl

theorem handleReorg_outbox {env : Env} {row : EventRow}
    (hraise : env.raises (.updateStatus row.id) = false) (w : World) :
    (handleReorg env w row).outbox = w.outbox ++ rowWebhooks env w row (reorgDispatch env row) := by
  -- neither statement of the reorg touches the links or the outbox
  have hframe : ∀ b : Bool, Frame w (if b = true then w.updateStatus env.now row.id .reorged
      else (w.updateStatus env.now row.id .reorged).invalidateByEventId env.now row.id) := by
    intro b
    cases b with
    | false => exact ⟨rfl, rfl, rfl, rfl, rfl⟩
    | true => exact ⟨rfl, rfl, rfl, rfl, rfl⟩
  have hbox : ∀ b : Bool, (if b = true then w.updateStatus env.now row.id .reorged
      else (w.updateStatus env.now row.id .reorged).invalidateByEventId env.now row.id).outbox =
      w.outbox := by
    intro b
    cases b <;> rfl
  unfold handleReorg rowWebhooks
  rw [hraise]
  simp only [Bool.false_eq_true, if_false]
  cases reorgDispatch env row with
  | none => exact (hbox _).trans (List.append_nil _).symm
  | some d =>
    simp only [Option.elim_some]
    rw [hbox, polledEndpoints_congr (hframe _)]

theorem rowWebhooks_congr {w w' : World} (h : Frame w w') (env : Env) (row : EventRow)
    (call : Option Dispatch) : rowWebhooks env w' row call = rowWebhooks env w row call := by
  unfold rowWebhooks
  rw [polledEndpoints_congr h]

/-- **What a round sends.** -/
theorem pollEvent_outbox_eq {env : Env} (henv : PollHealthy env) (chain : ChainId) (w : World)
    (row : EventRow) :
    (pollEvent env chain w row).outbox = w.outbox ++ polledMessages env chain w row := by
  have hstatus := henv.tables (.updateStatus row.id) rfl
  have hfinality := henv.tables (.updateFinality row.id) rfl
  have hframe := updateFinality_frame w row.id (polledConfirmations env row)
  unfold pollEvent polledMessages polledDispatch
  by_cases hreorg : isReorged env row = true
  · rw [if_pos hreorg, if_pos hreorg]
    exact handleReorg_outbox hstatus w
  · rw [if_neg hreorg, if_neg hreorg, processPolledEvent, hfinality]
    simp only [Bool.false_eq_true, if_false]
    by_cases hreached : finalityDepths chain ≤ polledConfirmations env row
    · rw [if_pos hreached, if_pos hreached]
      -- The depth is stored before the transition, which reads the links only.
      cases row.status with
      | pending | confirmed =>
        simp only
        rw [transitionEvent_outbox hstatus, rowWebhooks_congr hframe]
        rfl
      | preConfirmed | finalized | reorged | paymentFailed => exact (List.append_nil _).symm
    · rw [if_neg hreached, if_neg hreached]
      exact (List.append_nil _).symm

theorem polledMessages_congr {w w' : World} (h : Frame w w') (env : Env) (chain : ChainId)
    (row : EventRow) : polledMessages env chain w' row = polledMessages env chain w row :=
  rowWebhooks_congr h env row _

/-- **What a cycle sends.** The messages of its rounds, one round after the other. -/
theorem newMessages_poll {env : Env} (henv : PollHealthy env) (w : World) (chain : ChainId) :
    newMessages w (.poll env chain) =
      (fetchPendingEvents w chain).flatMap (polledMessages env chain w) := by
  have hfold : ∀ (rows : List EventRow) (w' : World), Frame w w' →
      (rows.foldl (pollEvent env chain) w').outbox =
        w'.outbox ++ rows.flatMap (polledMessages env chain w) := by
    intro rows
    induction rows with
    | nil => exact fun w' _ => (List.append_nil _).symm
    | cons row rows ih =>
      intro w' hframe
      rw [List.foldl_cons, ih _ (hframe.trans (pollEvent_frame env chain w' row)),
        pollEvent_outbox_eq henv, polledMessages_congr hframe, List.flatMap_cons, List.append_assoc]
  have hcycle : (keeperStep w (.poll env chain)).outbox =
      w.outbox ++ (fetchPendingEvents w chain).flatMap (polledMessages env chain w) := by
    change ((polledRows env w chain).foldl (pollEvent env chain) w).outbox = _
    rw [polledRows_of_healthy henv]
    exact hfold _ w (Frame.refl w)
  rw [newMessages, hcycle, List.drop_left]

theorem event_of_polledDispatch {env : Env} {chain : ChainId} {row : EventRow} {d : Dispatch}
    (h : polledDispatch env chain row = some d) : d.event = row.id := by
  unfold polledDispatch reorgDispatch transitionDispatch at h
  split_ifs at h
  · obtain ⟨t, -, rfl⟩ := Option.map_eq_some_iff.mp h
    rfl
  · split at h
    · obtain ⟨t, -, rfl⟩ := Option.map_eq_some_iff.mp h
      rfl
    · obtain ⟨t, -, rfl⟩ := Option.map_eq_some_iff.mp h
      rfl
    · cases h

theorem event_of_mem_polledMessages {env : Env} {chain : ChainId} {w : World} {row : EventRow}
    {e : Emission} (h : e ∈ polledMessages env chain w row) : e.event = row.id := by
  unfold polledMessages rowWebhooks at h
  cases hd : polledDispatch env chain row with
  | none =>
    rw [hd] at h
    cases h
  | some d =>
    rw [hd] at h
    obtain ⟨ep, -, hsent⟩ := mem_dispatchEvent h
    rw [(webhookEmission_spec hsent).1, event_of_polledDispatch hd]

/-- Every message of a cycle, whichever calls fail, is one that the round of its row sends. -/
theorem exists_polledDispatch_of_emitted {env : Env} {chain : ChainId} {w : World} {e : Emission}
    (h : Emitted w (.poll env chain) e) :
    ∃ row ∈ polledRows env w chain, ∃ d, polledDispatch env chain row = some d ∧
      ∃ ep ∈ polledEndpoints env w row, webhookEmission env d ep = some e := by
  cases h with
  | @transitioned _ _ row newStatus type d ep _ pending canonical reached moves dispatch linked
      sent =>
    refine ⟨row, pending, d, ?_, ep, linked, sent⟩
    rw [polledDispatch, canonical]
    simp only [Bool.false_eq_true, if_false, if_pos reached]
    rcases moves with ⟨hstatus, rfl, rfl⟩ | ⟨hstatus, rfl, rfl⟩
    · rw [hstatus]
      exact dispatch
    · rw [hstatus]
      exact dispatch
  | @reorged _ _ row d ep _ pending orphaned dispatch linked sent =>
    refine ⟨row, pending, d, ?_, ep, linked, sent⟩
    rw [polledDispatch, if_pos orphaned]
    exact dispatch

/-- The messages of a cycle about an event it reads are those of the event's own round. -/
theorem newMessages_poll_row {env : Env} (henv : PollHealthy env) {w : World} {chain : ChainId}
    {row : EventRow} (hrow : row ∈ fetchPendingEvents w chain) :
    (newMessages w (.poll env chain)).filter (fun e => e.event = row.id) =
      polledMessages env chain w row := by
  have hnodup := (polledRows_snapshot env w chain).nodup
  rw [polledRows_of_healthy henv] at hnodup
  rw [newMessages_poll henv]
  exact KeyedTable.filter_flatMap_of_nodup hnodup
    (fun r _ e he => event_of_mem_polledMessages he) hrow

/-! ### The lock -/

/-- Every fetched event whose confirmations reach the depth of the chain has been moved on. -/
def MovesDue (env : Env) (chain : ChainId) (w w' : World) : Prop :=
  ∀ row ∈ fetchPendingEvents w chain, finalityDepths chain ≤ polledConfirmations env row →
    ∃ new, w'.events.get? row.id = some new ∧ new.status = advancedStatus row.status

instance (env : Env) (chain : ChainId) (w w' : World) : Decidable (MovesDue env chain w w') :=
  inferInstanceAs (Decidable (∀ row ∈ fetchPendingEvents w chain,
    finalityDepths chain ≤ polledConfirmations env row →
      ∃ new ∈ w'.events.get? row.id, new.status = advancedStatus row.status))

theorem status_of_mem_fetchPendingEvents {w : World} {chain : ChainId} {row : EventRow}
    (h : row ∈ fetchPendingEvents w chain) : row.status = .pending ∨ row.status = .confirmed := by
  have hmem := (List.perm_insertionSort _ _).subset ((List.take_sublist 100 _).subset h)
  have hsel := (List.mem_filter.mp hmem).2
  simp only [Bool.and_eq_true, Bool.or_eq_true, decide_eq_true_eq] at hsel
  exact hsel.1.1

theorem get?_of_mem_fetchPendingEvents {w : World} {chain : ChainId} {row : EventRow}
    (h : row ∈ fetchPendingEvents w chain) : w.events.get? row.id = some row := by
  have hmem := (List.perm_insertionSort _ _).subset ((List.take_sublist 100 _).subset h)
  exact KeyedTable.get?_of_mem (List.mem_of_mem_filter hmem)

/-- **With the lock function**, as after migration 027, a cycle moves every row that is due. -/
theorem movesDue_of_lock {functions : List DbFunction}
    (hlock : .tryAcquireLeaderLock ∈ functions) {env : Env} (henv : ∀ c, env.raises c = false)
    {w : World} {chain : ChainId}
    (hcanonical : ∀ row ∈ fetchPendingEvents w chain, isReorged env row = false) :
    MovesDue env chain w (pollChain (env.onDatabase functions) w chain) := by
  have hhealthy : PollHealthy (env.onDatabase functions) :=
    { lock := (raises_onDatabase_of_mem rfl hlock).trans (henv _)
      tables := fun c hc => (raises_onDatabase_of_table hc).trans (henv c) }
  intro row hrow hreached
  obtain ⟨new, hnew, hstatus⟩ := pollChain_status hhealthy hrow
  refine ⟨new, hnew, ?_⟩
  -- the database changes which calls raise, and nothing that the status depends on
  rw [hstatus, polledStatus]
  have hcanon : isReorged (env.onDatabase functions) row = false := hcanonical row hrow
  rw [hcanon]
  simp only [Bool.false_eq_true, if_false]
  exact if_pos hreached

/-- **On the migrated database** a cycle does nothing: its lock function is gone. -/
theorem pollChain_migrated (env : Env) (w : World) (chain : ChainId) :
    pollChain (env.onDatabase (functionsAfter migrations)) w chain = w := by
  have hraise : (env.onDatabase (functionsAfter migrations)).raises .acquireLock = true :=
    raises_onDatabase_of_not_mem rfl (by decide)
  simp [pollChain, polledRows, hraise]

/-- **When the poller polls.** On the database obtained by applying all migrations, and whichever
other calls succeed, a cycle moves every due event if and only if no fetched event is due. -/
theorem movesDue_migrated_iff (env : Env) (w : World) (chain : ChainId) :
    MovesDue env chain w (pollChain (env.onDatabase (functionsAfter migrations)) w chain) ↔
      ∀ row ∈ fetchPendingEvents w chain,
        polledConfirmations env row < finalityDepths chain := by
  rw [pollChain_migrated]
  constructor
  · intro hmoves row hrow
    by_contra hreached
    obtain ⟨new, hnew, hstatus⟩ := hmoves row hrow (not_lt.mp hreached)
    -- the row is still there as it was read, and `pending` and `confirmed` both move
    rw [get?_of_mem_fetchPendingEvents hrow] at hnew
    obtain rfl := Option.some.inj hnew
    rcases status_of_mem_fetchPendingEvents hrow with hold | hold
    · rw [hold] at hstatus
      cases hstatus
    · rw [hold] at hstatus
      cases hstatus
  · intro hnone row hrow hreached
    exact absurd hreached (not_le.mpr (hnone row hrow))

namespace Sample

/-- A world with one pending payment of block 100. -/
def pendingPayment : World :=
  Machine.run keeperStep {} [register {}, .goldsky (height 100) true (.ok (onchain 100))]

end Sample

/-- At height 110 the sample payment has been due for a while, no call fails, and it stays
pending. -/
theorem not_movesDue_migrated :
    ¬MovesDue (Sample.height 110) .base Sample.pendingPayment
      (pollChain ((Sample.height 110).onDatabase (functionsAfter migrations))
        Sample.pendingPayment .base) := by
  decide +kernel

end TripWire
