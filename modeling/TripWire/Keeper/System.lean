import TripWire.Ingestion.Effects
import TripWire.Lib.Machine
import Mathlib.Data.List.Perm.Basic

/-!
# Runs of the Keeper pipeline

A run is a list of `KeeperAction`s: facilitator deliveries, Goldsky deliveries, poll cycles, sweeps,
and arbitrary edits of the endpoint and subscription tables (registration, `PATCH`, deactivation).
Each action carries its own `Env`, so the environment may answer and fail differently in every step:
block heights may move in either direction, hashes may change, any call may raise.

A poll cycle and a sweep work through a snapshot of rows.  `foldl_snapshot` is the rule for both:
the rows of a snapshot are distinct, the work on one row leaves the other rows alone, so every row
is still as it was read when its turn comes.  `Emitted` lists the messages a step can send, by the
path that sends them, and `keeperStep_outbox` says that there are no others.
-/

namespace TripWire

open Py

/-- One step of a Keeper run. -/
inductive KeeperAction where
  | facilitator (env : Env) (transfer : ERC3009Transfer)
  | goldsky (env : Env) (unified : Bool) (decoded : Except PyError ERC3009Transfer)
  | poll (env : Env) (chain : ChainId)
  | sweep (env : Env) (route : SweepRoute) (ttl : ℤ)
  | configure (endpoints : KeyedTable Endpoint.id) (subscriptions : List Subscription)

/-- The world after a step. -/
def keeperStep (w : World) : KeeperAction → World
  | .facilitator env t => (processPreConfirmedEvent env w t).1
  | .goldsky env unified decoded => (processErc3009Event env unified w decoded).1
  | .poll env chain => pollChain env w chain
  | .sweep env route ttl => sweepOnce env route ttl w
  | .configure endpoints subscriptions => { w with endpoints, subscriptions }

/-! ### Working through a snapshot -/

theorem pollEvent_get?_of_ne (env : Env) (chain : ChainId) (w : World) (row : EventRow)
    {k : EventId} (h : k ≠ row.id) :
    (pollEvent env chain w row).events.get? k = w.events.get? k := by
  rcases pollEvent_cases env chain w row with hw | ⟨-, hw⟩ | hw | ⟨st, ty, -, -, -, hw⟩
  · rw [hw]
  · rw [hw]
    rcases handleReorg_cases env w row with hw' | ⟨ems, hw', -⟩
    · rw [hw']
    · rw [hw']
      exact (w.get?_updateStatus env.now row.id .reorged k).trans (if_neg h)
  · rw [hw, World.get?_updateFinality, if_neg h]
  · rw [hw]
    rcases transitionEvent_cases env (w.updateFinality row.id (polledConfirmations env row)) row st
      ty with hw' | ⟨ems, ds, hw', -⟩
    · rw [hw', World.get?_updateFinality, if_neg h]
    -- Both statements of the transition address `row.id`.
    · have hstatus := (w.updateFinality row.id (polledConfirmations env row)).get?_updateStatus
        env.now row.id st k
      rw [if_neg h, World.get?_updateFinality, if_neg h] at hstatus
      rw [hw']
      exact hstatus

theorem expireEvent_get?_of_ne (env : Env) (route : SweepRoute) (w : World) (row : EventRow)
    {k : EventId} (h : k ≠ row.id) :
    (expireEvent env route w row).events.get? k = w.events.get? k := by
  rcases expireEvent_cases env route w row with hw | ⟨ems, -, hw, -⟩
  · rw [hw]
  · rw [hw]
    exact (w.get?_updateStatus env.now row.id .paymentFailed k).trans (if_neg h)

/-- **The snapshot rule.** If the work on a row leaves the other rows alone, and keeps `I` when the
row is still in the table as it was read, then working through a snapshot of distinct rows of the
table keeps `I`. -/
theorem foldl_snapshot {f : World → EventRow → World} {I : World → Prop}
    (hother : ∀ w row k, k ≠ row.id → (f w row).events.get? k = w.events.get? k) :
    ∀ {rows : List EventRow} {w : World}, (rows.map EventRow.id).Nodup →
      (∀ row ∈ rows, w.events.get? row.id = some row) →
      (∀ w row, row ∈ rows → I w → w.events.get? row.id = some row → I (f w row)) →
      I w → I (rows.foldl f w) := by
  intro rows
  -- Induction on the snapshot, with "every row left is as it was read" carried along.
  induction rows with
  | nil => exact fun _ _ _ hI => hI
  | cons row rows ih =>
    intro w hnodup hread hstep hI
    rw [List.map_cons, List.nodup_cons] at hnodup
    rw [List.foldl_cons]
    refine ih hnodup.2 ?_ (fun w' r hr => hstep w' r (List.mem_cons_of_mem row hr))
      (hstep w row List.mem_cons_self hI (hread row List.mem_cons_self))
    intro r hr
    -- `r` is a later row, so the work on `row` left it alone
    have hne : r.id ≠ row.id := fun he => hnodup.1 (he ▸ List.mem_map_of_mem hr)
    rw [hother w row r.id hne]
    exact hread r (List.mem_cons_of_mem row hr)

/-- A snapshot of the table: distinct rows, each as the table has it. -/
structure Snapshot (w : World) (rows : List EventRow) : Prop where
  nodup : (rows.map EventRow.id).Nodup
  read : ∀ row ∈ rows, w.events.get? row.id = some row

/-- Sorting and cutting off a selection of the table gives a snapshot. -/
theorem snapshot_of_sublist_perm {w : World} {p : EventRow → Bool} {sorted rows : List EventRow}
    (hperm : sorted.Perm (w.events.rows.filter p)) (hsub : rows.Sublist sorted) :
    Snapshot w rows where
  nodup := by
    have hall : ((w.events.rows.filter p).map EventRow.id).Nodup :=
      w.events.keys_nodup.sublist (List.filter_sublist.map _)
    exact ((hperm.map EventRow.id).nodup_iff.mpr hall).sublist (hsub.map _)
  read := by
    intro row hrow
    have hmem : row ∈ w.events.rows.filter p := hperm.subset (hsub.subset hrow)
    exact KeyedTable.get?_of_mem (List.mem_of_mem_filter hmem)

theorem Snapshot.nil (w : World) : Snapshot w [] := ⟨List.nodup_nil, by simp⟩

theorem polledRows_snapshot (env : Env) (w : World) (chain : ChainId) :
    Snapshot w (polledRows env w chain) := by
  unfold polledRows
  split_ifs
  · exact Snapshot.nil w
  · exact snapshot_of_sublist_perm (List.perm_insertionSort _ _) (List.take_sublist 100 _)

theorem mem_polledRows {env : Env} {w : World} {chain : ChainId} {row : EventRow}
    (h : row ∈ polledRows env w chain) :
    (row.status = .pending ∨ row.status = .confirmed) ∧ row.blockNumber.any (0 < ·) = true ∧
      row.chainId = chain.value := by
  unfold polledRows at h
  split_ifs at h
  · cases h
  · have hmem := (List.perm_insertionSort _ _).subset ((List.take_sublist 100 _).subset h)
    simpa [and_assoc] using (List.mem_filter.mp hmem).2

theorem sweptRows_snapshot (env : Env) (route : SweepRoute) (ttl : ℤ) (w : World) :
    Snapshot w (sweptRows env route ttl w) := by
  unfold sweptRows
  split_ifs
  · exact Snapshot.nil w
  · cases route with
    | asyncpg =>
      exact snapshot_of_sublist_perm (List.perm_insertionSort _ _) (List.take_sublist 100 _)
    | supabase => exact snapshot_of_sublist_perm (List.Perm.refl _) (List.take_sublist 100 _)

theorem status_of_mem_sweptRows {env : Env} {route : SweepRoute} {ttl : ℤ} {w : World}
    {row : EventRow} (h : row ∈ sweptRows env route ttl w) : row.status = .preConfirmed := by
  unfold sweptRows at h
  split_ifs at h
  · cases h
  · have hmem : row ∈ w.events.rows.filter fun r =>
        r.status = .preConfirmed && r.createdAt < env.now - ttl := by
      cases route with
      | asyncpg => exact (List.perm_insertionSort _ _).subset ((List.take_sublist 100 _).subset h)
      | supabase => exact (List.take_sublist 100 _).subset h
    have hsel := (List.mem_filter.mp hmem).2
    simp only [Bool.and_eq_true, decide_eq_true_eq] at hsel
    exact hsel.1

/-! ### Rules for the two background steps -/

/-- What the work on every row keeps, a cycle over a snapshot keeps; `Frame` comes along. -/
theorem foldl_snapshot_frame {f : World → EventRow → World} {rows : List EventRow} {w : World}
    {I : World → Prop}
    (hother : ∀ w row k, k ≠ row.id → (f w row).events.get? k = w.events.get? k)
    (hframe : ∀ w row, Frame w (f w row)) (hsnap : Snapshot w rows)
    (hstep : ∀ w' row, row ∈ rows → Frame w w' → I w' → w'.events.get? row.id = some row →
      I (f w' row))
    (hI : I w) : I (rows.foldl f w) := by
  have hboth : Frame w (rows.foldl f w) ∧ I (rows.foldl f w) := by
    refine foldl_snapshot (I := fun w' => Frame w w' ∧ I w') hother hsnap.nodup hsnap.read ?_
      ⟨Frame.refl w, hI⟩
    rintro w' row hrow ⟨hw', hI'⟩ hread
    exact ⟨hw'.trans (hframe w' row), hstep w' row hrow hw' hI' hread⟩
  exact hboth.2

theorem pollChain_induction {env : Env} {chain : ChainId} {w : World} {I : World → Prop}
    (hstep : ∀ w' row, row ∈ polledRows env w chain → Frame w w' → I w' →
      w'.events.get? row.id = some row → I (pollEvent env chain w' row))
    (hI : I w) : I (pollChain env w chain) :=
  foldl_snapshot_frame (fun w' row _ => pollEvent_get?_of_ne env chain w' row)
    (pollEvent_frame env chain) (polledRows_snapshot env w chain) hstep hI

theorem sweepOnce_induction {env : Env} {route : SweepRoute} {ttl : ℤ} {w : World}
    {I : World → Prop}
    (hstep : ∀ w' row, row ∈ sweptRows env route ttl w → Frame w w' → I w' →
      w'.events.get? row.id = some row → I (expireEvent env route w' row))
    (hI : I w) : I (sweepOnce env route ttl w) :=
  foldl_snapshot_frame (fun w' row _ => expireEvent_get?_of_ne env route w' row)
    (expireEvent_frame env route) (sweptRows_snapshot env route ttl w) hstep hI

/-! ### What a step sends -/

/-- The row that a Goldsky log of `t` promotes: the one whose id the facilitator left with its claim
of the nonce. -/
def promotedRow (w : World) (t : ERC3009Transfer) : Option EventRow :=
  match w.activeClaim t.nonceKey with
  | none => none
  | some claim =>
    if claim.source = .facilitator then claim.eventId.bind w.events.get? else none

theorem promotedRow_eq_some {w : World} {t : ERC3009Transfer} {claim : NonceRow} {old : EventRow}
    (hclaim : w.activeClaim t.nonceKey = some claim) (hsource : claim.source = .facilitator)
    (hid : claim.eventId = some old.id) (hold : w.events.get? old.id = some old) :
    promotedRow w t = some old := by
  unfold promotedRow
  rw [hclaim]
  simp [hsource, hid, hold]

theorem promotedRow_spec {w : World} {t : ERC3009Transfer} {old : EventRow}
    (h : promotedRow w t = some old) :
    ∃ claim, w.activeClaim t.nonceKey = some claim ∧ claim.source = .facilitator ∧
      claim.eventId = some old.id ∧ w.events.get? old.id = some old := by
  unfold promotedRow at h
  split at h
  · cases h
  · rename_i claim hclaim
    split_ifs at h with hsource
    obtain ⟨id, hid, hold⟩ := Option.bind_eq_some_iff.mp h
    have hidold : old.id = id := KeyedTable.key_of_get? hold
    rw [← hidold] at hid hold
    exact ⟨claim, hclaim, hsource, hid, hold⟩

theorem get?_of_promotedRow {w : World} {t : ERC3009Transfer} {old : EventRow}
    (h : promotedRow w t = some old) : w.events.get? old.id = some old := by
  obtain ⟨-, -, -, -, hold⟩ := promotedRow_spec h
  exact hold

/-- The messages a step can send, by the path that sends them, each with what that path checked. -/
inductive Emitted (w : World) : KeeperAction → Emission → Prop
  /-- The facilitator's fast path: the nonce was free, and the event is new. -/
  | preConfirmed {env : Env} {t : ERC3009Transfer} {endpoints : List Endpoint} {plan : Plan}
      {ep : Endpoint} {e : Emission}
      (free : w.activeClaim t.nonceKey = none)
      (fetched : fetchMatchingEndpoints env w t = .ok endpoints)
      (planned : planDispatch t none (resolveIdentity env t.authorizer.val t.chainId.value)
        (some .paymentPreConfirmed) endpoints = .ok plan)
      (approved : ep ∈ plan.approved)
      (sent : Sent env
        { event := w.uuids, transfer := t, type := plan.type, finality := none,
          identity := resolveIdentity env t.authorizer.val t.chainId.value,
          height := observedHeight env none } ep e) :
      Emitted w (.facilitator env t) e
  /-- A Goldsky log whose nonce was free: the event is new. -/
  | ingested {env : Env} {unified : Bool} {t : ERC3009Transfer} {endpoints : List Endpoint}
      {plan : Plan} {ep : Endpoint} {e : Emission}
      (free : w.activeClaim t.nonceKey = none)
      (fetched : fetchMatchingEndpoints env w t = .ok endpoints)
      (planned : planDispatch t (paymentFinality env unified t)
        (resolveIdentity env t.authorizer.val t.chainId.value) none endpoints = .ok plan)
      (approved : ep ∈ plan.approved)
      (sent : Sent env
        { event := w.uuids, transfer := t, type := plan.type,
          finality := paymentFinality env unified t,
          identity := resolveIdentity env t.authorizer.val t.chainId.value,
          height := observedHeight env (paymentFinality env unified t) } ep e) :
      Emitted w (.goldsky env unified (.ok t)) e
  /-- A Goldsky log whose nonce the facilitator holds: the event `old` is promoted. -/
  | promoted {env : Env} {unified : Bool} {t : ERC3009Transfer} {old : EventRow} {ep : Endpoint}
      {e : Emission}
      (promotes : promotedRow w t = some old)
      (linked : ep ∈ promotionEndpoints env w old)
      (accepted : evaluatePolicy (buildTransferData t)
        (resolveIdentity env t.authorizer.val t.chainId.value) ep.policies = .ok none)
      (sent : Sent env (promotionDispatch env old t) ep e) :
      Emitted w (.goldsky env unified (.ok t)) e
  /-- The poller moves a row on. -/
  | transitioned {env : Env} {chain : ChainId} {row : EventRow} {newStatus : EventStatus}
      {type : WebhookEventType} {d : Dispatch} {ep : Endpoint} {e : Emission}
      (pending : row ∈ polledRows env w chain)
      (canonical : isReorged env row = false)
      (reached : finalityDepths chain ≤ polledConfirmations env row)
      (moves : (row.status = .pending ∧ newStatus = .confirmed ∧ type = .paymentConfirmed) ∨
        (row.status = .confirmed ∧ newStatus = .finalized ∧ type = .paymentFinalized))
      (dispatch : transitionDispatch env row newStatus type = some d)
      (linked : ep ∈ polledEndpoints env w row)
      (sent : webhookEmission env d ep = some e) :
      Emitted w (.poll env chain) e
  /-- The poller finds a row reorged. -/
  | reorged {env : Env} {chain : ChainId} {row : EventRow} {d : Dispatch} {ep : Endpoint}
      {e : Emission}
      (pending : row ∈ polledRows env w chain)
      (orphaned : isReorged env row = true)
      (dispatch : reorgDispatch env row = some d)
      (linked : ep ∈ polledEndpoints env w row)
      (sent : webhookEmission env d ep = some e) :
      Emitted w (.poll env chain) e
  /-- The sweeper expires a row. -/
  | expired {env : Env} {route : SweepRoute} {ttl : ℤ} {row : EventRow} {d : Dispatch}
      {ep : Endpoint} {e : Emission}
      (stale : row ∈ sweptRows env route ttl w)
      (dispatches : expiryDispatches env route row = true)
      (dispatch : failureDispatch row = some d)
      (linked : ep ∈ sweptEndpoints env w row)
      (sent : webhookEmission env d ep = some e) :
      Emitted w (.sweep env route ttl) e

/-- The outbox has grown by messages that satisfy `P`. -/
def OutboxGrows (P : Emission → Prop) (w w' : World) : Prop :=
  ∃ ems, w'.outbox = w.outbox ++ ems ∧ ∀ e ∈ ems, P e

theorem OutboxGrows.refl {P : Emission → Prop} {w w' : World} (h : w'.outbox = w.outbox) :
    OutboxGrows P w w' := ⟨[], by rw [h, List.append_nil], by simp⟩

theorem OutboxGrows.trans {P : Emission → Prop} {w₁ w₂ w₃ : World} (h : OutboxGrows P w₁ w₂)
    (h' : OutboxGrows P w₂ w₃) : OutboxGrows P w₁ w₃ := by
  obtain ⟨ems, hems, hP⟩ := h
  obtain ⟨ems', hems', hP'⟩ := h'
  refine ⟨ems ++ ems', by rw [hems', hems, List.append_assoc], ?_⟩
  intro e he
  rcases List.mem_append.mp he with he | he
  · exact hP e he
  · exact hP' e he

/-- Claiming a nonce does not change which endpoints a transfer finds. -/
theorem fetchMatchingEndpoints_of_endpoints_eq {env : Env} {w w' : World} (t : ERC3009Transfer)
    (h : w'.endpoints = w.endpoints) :
    fetchMatchingEndpoints env w' t = fetchMatchingEndpoints env w t := by
  unfold fetchMatchingEndpoints World.listByRecipient
  rw [h]

/-- What `_dispatch_for_transfer` sends, when it is called after a claim. -/
theorem dispatchForTransfer_outbox {env : Env} {w claimed : World} {t : ERC3009Transfer}
    {finality : Option FinalityStatus} {identity : Option AgentIdentity}
    {eventTypeOverride : Option WebhookEventType} {eventId : Option EventId}
    {P : Emission → Prop} (houtbox : claimed.outbox = w.outbox)
    (hendpoints : claimed.endpoints = w.endpoints)
    (hP : ∀ {endpoints : List Endpoint} {plan : Plan} {ep : Endpoint} {e : Emission},
      fetchMatchingEndpoints env w t = .ok endpoints →
      planDispatch t finality identity eventTypeOverride endpoints = .ok plan →
      ep ∈ plan.approved →
      Sent env
        { event := (chooseEventId claimed eventId).2, transfer := t, type := plan.type, finality,
          identity, height := observedHeight env finality } ep e → P e) :
    OutboxGrows P w
      (dispatchForTransfer env claimed t finality identity eventTypeOverride eventId).1 := by
  rcases dispatchForTransfer_cases env claimed t finality identity eventTypeOverride eventId with
    h | ⟨D, h⟩
  · rw [h]
    exact OutboxGrows.refl houtbox
  · refine ⟨D.emissions, ?_, ?_⟩
    · rw [h]
      exact congrArg (· ++ D.emissions) houtbox
    · intro e he
      obtain ⟨ep, hep, hsent⟩ := D.sent e he
      have hfetched : fetchMatchingEndpoints env w t = .ok D.endpoints := by
        rw [← D.fetched]
        exact (fetchMatchingEndpoints_of_endpoints_eq t hendpoints).symm
      have hid : D.row.id = (chooseEventId claimed eventId).2 := by
        rw [D.row_eq]
        rfl
      rw [hid] at hsent
      exact hP hfetched D.planned hep hsent

theorem processPreConfirmedEvent_outbox (env : Env) (w : World) (t : ERC3009Transfer) :
    OutboxGrows (Emitted w (.facilitator env t)) w (processPreConfirmedEvent env w t).1 := by
  rcases processPreConfirmedEvent_cases env w t with h | ⟨-, hfree, h⟩
  · rw [h]
    exact OutboxGrows.refl rfl
  · rw [h]
    obtain ⟨table, htable⟩ := w.uuid4.1.recordNonceOrCorrelate_frame env.now t.nonceKey
      (some w.uuids) .facilitator
    refine dispatchForTransfer_outbox (by rw [htable]; rfl) (by rw [htable]; rfl) ?_
    intro endpoints plan ep e hfetched hplanned hep hsent
    exact .preConfirmed hfree hfetched hplanned hep hsent

theorem processErc3009Event_outbox (env : Env) (unified : Bool) (w : World)
    (decoded : Except PyError ERC3009Transfer) :
    OutboxGrows (Emitted w (.goldsky env unified decoded)) w
      (processErc3009Event env unified w decoded).1 := by
  rcases processErc3009Event_cases env unified w decoded with
    h | ⟨t, rfl, -, hfree, h⟩ | ⟨t, claim, id, rfl, -, hclaim, hsource, hid, h⟩
  · rw [h]
    exact OutboxGrows.refl rfl
  · rw [h, processNewTransfer]
    obtain ⟨table, htable⟩ := w.recordNonceOrCorrelate_frame env.now t.nonceKey none .goldsky
    refine dispatchForTransfer_outbox (by rw [htable]) (by rw [htable]) ?_
    intro endpoints plan ep e hfetched hplanned hep hsent
    -- Goldsky draws its id after the claim, the facilitator before it; both get the next one.
    have hdrawn : (chooseEventId
        (w.recordNonceOrCorrelate env.now t.nonceKey none .goldsky).1 none).2 = w.uuids := by
      rw [htable]
      rfl
    rw [hdrawn] at hsent
    exact .ingested hfree hfetched hplanned hep hsent
  · rcases promotePreConfirmedEvent_cases env w id t with h' | ⟨old, hold, -, h'⟩
    · rw [h, h']
      exact OutboxGrows.refl rfl
    · obtain ⟨ems, ds, hw, hsent⟩ := dispatchPromotion_spec env
        (w.promoteToConfirmed env.now id t).1 (old.promoted env.now t) t
      rw [h, h', hw]
      refine ⟨ems, rfl, ?_⟩
      intro e he
      obtain ⟨ep, hep, hok, hs⟩ := hsent e he
      have hidold : old.id = id := KeyedTable.key_of_get? hold
      rw [← hidold] at hid hold
      have hpromotes := promotedRow_eq_some hclaim hsource hid hold
      exact @Emitted.promoted w env unified t old ep e hpromotes hep hok hs

theorem pollEvent_outbox {env : Env} {chain : ChainId} {w w' : World} {row : EventRow}
    (hrow : row ∈ polledRows env w chain) (hframe : Frame w w') :
    OutboxGrows (Emitted w (.poll env chain)) w' (pollEvent env chain w' row) := by
  rcases pollEvent_cases env chain w' row with
    h | ⟨hreorg, h⟩ | h | ⟨st, ty, hcanon, hreached, hmoves, h⟩
  · rw [h]
    exact OutboxGrows.refl rfl
  · rw [h]
    rcases handleReorg_cases env w' row with h' | ⟨ems, h', hsent⟩
    · rw [h']
      exact OutboxGrows.refl rfl
    · rw [h']
      refine ⟨ems, rfl, ?_⟩
      intro e he
      obtain ⟨d, hd, ep, hep, hs⟩ := hsent e he
      rw [polledEndpoints_congr hframe] at hep
      exact .reorged hrow hreorg hd hep hs
  · rw [h]
    exact OutboxGrows.refl rfl
  · rw [h]
    rcases transitionEvent_cases env (w'.updateFinality row.id (polledConfirmations env row)) row st
      ty with h' | ⟨ems, ds, h', hsent⟩
    · rw [h']
      exact OutboxGrows.refl rfl
    · rw [h']
      refine ⟨ems, rfl, ?_⟩
      intro e he
      obtain ⟨d, hd, ep, hep, hs⟩ := hsent e he
      -- Nothing a cycle writes changes the links, so the endpoints are those of its first state.
      rw [polledEndpoints_congr (hframe.trans (updateFinality_frame w' row.id _))] at hep
      exact .transitioned hrow hcanon hreached hmoves hd hep hs

theorem expireEvent_outbox {env : Env} {route : SweepRoute} {ttl : ℤ} {w w' : World}
    {row : EventRow} (hrow : row ∈ sweptRows env route ttl w)
    (hframe : Frame w w') :
    OutboxGrows (Emitted w (.sweep env route ttl)) w' (expireEvent env route w' row) := by
  rcases expireEvent_cases env route w' row with h | ⟨ems, -, h, hsent⟩
  · rw [h]
    exact OutboxGrows.refl rfl
  · rw [h]
    refine ⟨ems, rfl, ?_⟩
    intro e he
    obtain ⟨hroute, d, hd, ep, hep, hs⟩ := hsent e he
    rw [sweptEndpoints_congr hframe] at hep
    exact .expired hrow hroute hd hep hs

/-- **What a step sends.** The outbox grows by messages that one of the paths of `Emitted` sent. -/
theorem keeperStep_outbox (w : World) (a : KeeperAction) :
    OutboxGrows (Emitted w a) w (keeperStep w a) := by
  cases a with
  | facilitator env t => exact processPreConfirmedEvent_outbox env w t
  | goldsky env unified decoded => exact processErc3009Event_outbox env unified w decoded
  | poll env chain =>
    refine pollChain_induction (I := fun w' => OutboxGrows (Emitted w (.poll env chain)) w w') ?_
      (OutboxGrows.refl rfl)
    intro w' row hrow hframe hgrows _
    exact hgrows.trans (pollEvent_outbox hrow hframe)
  | sweep env route ttl =>
    refine sweepOnce_induction (I := fun w' => OutboxGrows (Emitted w (.sweep env route ttl)) w w')
      ?_ (OutboxGrows.refl rfl)
    intro w' row hrow hframe hgrows _
    exact hgrows.trans (expireEvent_outbox hrow hframe)
  | configure endpoints subscriptions => exact OutboxGrows.refl rfl

/-- The messages a step adds to the outbox. -/
def newMessages (w : World) (a : KeeperAction) : List Emission :=
  (keeperStep w a).outbox.drop w.outbox.length

theorem keeperStep_outbox_eq (w : World) (a : KeeperAction) :
    (keeperStep w a).outbox = w.outbox ++ newMessages w a := by
  obtain ⟨ems, hems, -⟩ := keeperStep_outbox w a
  rw [newMessages, hems, List.drop_left]

theorem emitted_of_mem_newMessages {w : World} {a : KeeperAction} {e : Emission}
    (h : e ∈ newMessages w a) : Emitted w a e := by
  obtain ⟨ems, hems, hsent⟩ := keeperStep_outbox w a
  rw [newMessages, hems, List.drop_left] at h
  exact hsent e h

/-- A property of messages that every path establishes holds of the whole outbox after a step. -/
theorem outbox_of_emitted {P : Emission → Prop} {w : World} {a : KeeperAction}
    (hw : ∀ e ∈ w.outbox, P e) (ha : ∀ e, Emitted w a e → P e) :
    ∀ e ∈ (keeperStep w a).outbox, P e := by
  obtain ⟨ems, hems, hsent⟩ := keeperStep_outbox w a
  intro e he
  rw [hems] at he
  rcases List.mem_append.mp he with he | he
  · exact hw e he
  · exact ha e (hsent e he)

namespace Sample

/-- The step that registers this endpoint and no other. -/
def register (policies : EndpointPolicies) : KeeperAction :=
  .configure ⟨[endpoint policies], List.nodup_singleton _⟩ []

/-- An environment in which no call fails, at a block height. -/
def height (blockNumber : ℤ) : Env := { blockNumber }

end Sample

end TripWire
