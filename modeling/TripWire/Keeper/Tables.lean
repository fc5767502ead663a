import TripWire.Keeper.System

/-!
# What a step writes

`Emitted` says what a step sends; this module says what it writes.  `RowWrite` lists the rows a step
can leave in the `events` table, by the path that writes them, and `keeperStep_events` says that
every other row is as it was.  `ClaimWrite` and `keeperStep_nonces` do the same for the
`nonces` table.

Ids are drawn from a counter: `Fresh` is the invariant that every id in use lies below it.
-/

namespace TripWire

open Py

/-! ### The id counter -/

/-- The facilitator path draws one id, whatever happens after. -/
theorem processPreConfirmedEvent_uuids (env : Env) (w : World) (t : ERC3009Transfer) :
    (processPreConfirmedEvent env w t).1.uuids = w.uuids + 1 := by
  rcases processPreConfirmedEvent_cases env w t with h | ⟨-, -, h⟩
  · rw [h]
    rfl
  · obtain ⟨table, htable⟩ := w.uuid4.1.recordNonceOrCorrelate_frame env.now t.nonceKey
      (some w.uuids) .facilitator
    have huuids := congrArg World.uuids htable
    rcases dispatchForTransfer_cases env
        (w.uuid4.1.recordNonceOrCorrelate env.now t.nonceKey (some w.uuids) .facilitator).1 t none
        (resolveIdentity env t.authorizer.val t.chainId.value) (some .paymentPreConfirmed)
        (some w.uuids) with h' | ⟨D, h'⟩
    · rw [h, h']
      exact huuids
    · rw [h, h']
      exact huuids

/-- A Goldsky delivery draws an id when it records a new event. -/
theorem processErc3009Event_uuids (env : Env) (unified : Bool) (w : World)
    (decoded : Except PyError ERC3009Transfer) :
    w.uuids ≤ (processErc3009Event env unified w decoded).1.uuids := by
  rcases processErc3009Event_cases env unified w decoded with
    h | ⟨t, rfl, -, -, h⟩ | ⟨t, claim, x, rfl, -, -, -, -, h⟩
  · rw [h]
  · obtain ⟨table, htable⟩ := w.recordNonceOrCorrelate_frame env.now t.nonceKey none .goldsky
    have huuids := congrArg World.uuids htable
    rcases dispatchForTransfer_cases env
        (w.recordNonceOrCorrelate env.now t.nonceKey none .goldsky).1 t
        (paymentFinality env unified t) (resolveIdentity env t.authorizer.val t.chainId.value) none
        none with h' | ⟨D, h'⟩
    · rw [h, processNewTransfer, h']
      exact huuids.ge
    · rw [h, processNewTransfer, h']
      change w.uuids ≤ (w.recordNonceOrCorrelate env.now t.nonceKey none .goldsky).1.uuids + 1
      rw [huuids]
      exact Nat.le_succ _
  · rcases promotePreConfirmedEvent_cases env w x t with h' | ⟨old, -, -, h'⟩
    · rw [h, h']
    · obtain ⟨ems, ds, hw, -⟩ := dispatchPromotion_spec env (w.promoteToConfirmed env.now x t).1
        (old.promoted env.now t) t
      rw [h, h', hw]
      exact Nat.le_refl _

/-! ### The events table -/

/-- The row into which a Goldsky delivery merges `t`: the one it promotes, unless the nonce store or
the update raises. -/
def mergedRow (env : Env) (w : World) (t : ERC3009Transfer) : Option EventRow :=
  (promotedRow w t).filter fun old =>
    !env.raises .recordNonce && !env.raises (.promoteToConfirmed old.id)

theorem mergedRow_eq_some {env : Env} {w : World} {t : ERC3009Transfer} {old : EventRow}
    (h : promotedRow w t = some old) (hnonce : env.raises .recordNonce = false)
    (hpromote : env.raises (.promoteToConfirmed old.id) = false) :
    mergedRow env w t = some old := by
  simp [mergedRow, h, hnonce, hpromote]

theorem promotedRow_of_mergedRow {env : Env} {w : World} {t : ERC3009Transfer} {old : EventRow}
    (h : mergedRow env w t = some old) : promotedRow w t = some old :=
  (Option.filter_eq_some_iff.mp h).1

/-- A row as a poll cycle can leave it: only the status, the depth and the confirmation time differ,
and the status has stayed, moved on by one, or become `reorged`. -/
def PolledRow (row new : EventRow) : Prop :=
  ∃ status depth confirmedAt, new = { row with status, finalityDepth := depth, confirmedAt } ∧
    (status = row.status ∨ status = .reorged ∨
      (row.status = .pending ∧ status = .confirmed) ∨
      (row.status = .confirmed ∧ status = .finalized))

/-- The key is held by a claim of `source` for `eventId`. -/
def HeldBy (w : World) (key : NonceKey) (source : NonceSource) (eventId : Option EventId) : Prop :=
  ∃ claim, w.activeClaim key = some claim ∧ claim.source = source ∧ claim.eventId = eventId

/-- The rows a step can write, given the world `w'` it leaves behind.  A new row comes with the
claim of its nonce. -/
inductive RowWrite (w w' : World) : KeeperAction → EventRow → Prop
  | announced {env : Env} {t : ERC3009Transfer} {endpointId : Option EndpointId}
      (free : w.activeClaim t.nonceKey = none) (next : w.uuids < w'.uuids)
      (claimed : HeldBy w' t.nonceKey .facilitator (some w.uuids)) :
      RowWrite w w' (.facilitator env t)
        (eventRow env.now w.uuids t none .paymentPreConfirmed endpointId)
  | ingested {env : Env} {unified : Bool} {t : ERC3009Transfer} {endpointId : Option EndpointId}
      (free : w.activeClaim t.nonceKey = none) (next : w.uuids < w'.uuids)
      (claimed : HeldBy w' t.nonceKey .goldsky none) :
      RowWrite w w' (.goldsky env unified (.ok t))
        (eventRow env.now w.uuids t (paymentFinality env unified t)
          (defaultEventType (paymentFinality env unified t)) endpointId)
  | promoted {env : Env} {unified : Bool} {t : ERC3009Transfer} {old : EventRow}
      (merged : mergedRow env w t = some old) :
      RowWrite w w' (.goldsky env unified (.ok t)) (old.promoted env.now t)
  | polled {env : Env} {chain : ChainId} {row new : EventRow}
      (pending : row ∈ polledRows env w chain) (polled : PolledRow row new) :
      RowWrite w w' (.poll env chain) new
  | expired {env : Env} {route : SweepRoute} {ttl : ℤ} {row : EventRow}
      (stale : row ∈ sweptRows env route ttl w)
      (written : env.raises (.updateStatus row.id) = false) :
      RowWrite w w' (.sweep env route ttl) (row.withStatus env.now .paymentFailed)

/-- The row with an id is as it was, or it was written by the step. -/
def RowKept (w : World) (a : KeeperAction) (w' : World) (id : EventId) : Prop :=
  w'.events.get? id = w.events.get? id ∨ ∃ new, w'.events.get? id = some new ∧ RowWrite w w' a new

theorem dispatchForTransfer_nonces (env : Env) (w : World) (t : ERC3009Transfer)
    (finality : Option FinalityStatus) (identity : Option AgentIdentity)
    (eventTypeOverride : Option WebhookEventType) (eventId : Option EventId) :
    (dispatchForTransfer env w t finality identity eventTypeOverride eventId).1.nonces =
      w.nonces := by
  rcases dispatchForTransfer_cases env w t finality identity eventTypeOverride eventId with
    h | ⟨D, h⟩
  · rw [h]
  · rw [h]
    rfl

theorem promotePreConfirmedEvent_nonces (env : Env) (w : World) (id : EventId)
    (t : ERC3009Transfer) : (promotePreConfirmedEvent env w id t).1.nonces = w.nonces := by
  rcases promotePreConfirmedEvent_cases env w id t with h | ⟨old, -, -, h⟩
  · rw [h]
  · obtain ⟨ems, ds, hw, -⟩ := dispatchPromotion_spec env (w.promoteToConfirmed env.now id t).1
      (old.promoted env.now t) t
    rw [h, hw]
    rfl

theorem get?_recordEvent (env : Env) (w : World) (row : EventRow) (id : EventId) :
    (recordEvent env w row).events.get? id = w.events.get? id ∨
      (id = row.id ∧ (recordEvent env w row).events.get? id = some row) := by
  rcases recordEvent_cases env w row with h | ⟨w', hins, h⟩
  · exact Or.inl (by rw [h])
  · rw [h, World.get?_insertEvent hins]
    by_cases hid : row.id = id
    · exact Or.inr ⟨hid.symm, by rw [if_pos hid]⟩
    · exact Or.inl (by rw [if_neg hid])

/-- **What `_dispatch_for_transfer` writes.** Every row is as it was, or it is the row of the new
event, whose id has been drawn by then. -/
theorem dispatchForTransfer_events (env : Env) (w : World) (t : ERC3009Transfer)
    (finality : Option FinalityStatus) (identity : Option AgentIdentity)
    (eventTypeOverride : Option WebhookEventType) (eventId : Option EventId) (id : EventId) :
    (dispatchForTransfer env w t finality identity eventTypeOverride eventId).1.events.get? id =
        w.events.get? id ∨
      ∃ endpointId,
        (dispatchForTransfer env w t finality identity eventTypeOverride eventId).1.events.get? id =
          some (eventRow env.now (chooseEventId w eventId).2 t finality
            (eventTypeOverride.getD (defaultEventType finality)) endpointId) ∧
        (dispatchForTransfer env w t finality identity eventTypeOverride eventId).1.uuids =
          (chooseEventId w eventId).1.uuids := by
  rcases dispatchForTransfer_cases env w t finality identity eventTypeOverride eventId with
    h | ⟨D, h⟩
  · exact Or.inl (by rw [h])
  · obtain ⟨n, hn⟩ := chooseEventId_fst w eventId
    obtain ⟨-, htype, -⟩ := planDispatch_spec D.planned
    have hget : D.after.events.get? id =
        (recordEvent env (chooseEventId w eventId).1 D.row).events.get? id := by
      rw [D.recorded]
      rfl
    rw [h, hget]
    -- The insertion may fail; then the claim stands without its row.
    rcases get?_recordEvent env (chooseEventId w eventId).1 D.row id with hkeep | ⟨-, hnew⟩
    · left
      rw [hkeep, hn]
    · right
      refine ⟨D.plan.matched.head?.map (·.id), ?_, rfl⟩
      rw [hnew, D.row_eq, htype]

theorem processPreConfirmedEvent_events (env : Env) (w : World) (t : ERC3009Transfer)
    (id : EventId) :
    RowKept w (.facilitator env t) (processPreConfirmedEvent env w t).1 id := by
  rcases processPreConfirmedEvent_cases env w t with h | ⟨-, hfree, h⟩
  · exact Or.inl (by rw [h]; rfl)
  · obtain ⟨table, htable⟩ := w.uuid4.1.recordNonceOrCorrelate_frame env.now t.nonceKey
      (some w.uuids) .facilitator
    have hevents := congrArg World.events htable
    have hnext := processPreConfirmedEvent_uuids env w t
    have hnonces : (processPreConfirmedEvent env w t).1.nonces =
        (w.uuid4.1.recordNonceOrCorrelate env.now t.nonceKey (some w.uuids)
          .facilitator).1.nonces := by
      rw [h, dispatchForTransfer_nonces]
    rcases dispatchForTransfer_events env
        (w.uuid4.1.recordNonceOrCorrelate env.now t.nonceKey (some w.uuids) .facilitator).1 t none
        (resolveIdentity env t.authorizer.val t.chainId.value) (some .paymentPreConfirmed)
        (some w.uuids) id with hkeep | ⟨endpointId, hnew, -⟩
    · left
      rw [h, hkeep, hevents]
      rfl
    · right
      refine ⟨_, by rw [h]; exact hnew, .announced hfree (by omega) ?_⟩
      have hfree' : w.uuid4.1.activeClaim t.nonceKey = none := hfree
      exact ⟨_, (World.activeClaim_congr hnonces _).trans (World.activeClaim_of_free hfree'), rfl,
        rfl⟩

theorem processErc3009Event_events (env : Env) (unified : Bool) (w : World)
    (decoded : Except PyError ERC3009Transfer) (id : EventId) :
    RowKept w (.goldsky env unified decoded) (processErc3009Event env unified w decoded).1 id := by
  rcases processErc3009Event_cases env unified w decoded with
    h | ⟨t, rfl, -, hfree, h⟩ | ⟨t, claim, x, rfl, hnonce, hclaim, hsource, hx, h⟩
  · exact Or.inl (by rw [h])
  · rw [processNewTransfer] at h
    obtain ⟨table, htable⟩ := w.recordNonceOrCorrelate_frame env.now t.nonceKey none .goldsky
    have hevents := congrArg World.events htable
    have huuids : (w.recordNonceOrCorrelate env.now t.nonceKey none .goldsky).1.uuids =
      w.uuids := by
      rw [htable]
    have hnonces : (processErc3009Event env unified w (.ok t)).1.nonces =
        (w.recordNonceOrCorrelate env.now t.nonceKey none .goldsky).1.nonces := by
      rw [h, dispatchForTransfer_nonces]
    rcases dispatchForTransfer_events env
        (w.recordNonceOrCorrelate env.now t.nonceKey none .goldsky).1 t
        (paymentFinality env unified t) (resolveIdentity env t.authorizer.val t.chainId.value) none
        none id with hkeep | ⟨endpointId, hnew, hdrawn⟩
    · left
      rw [h, hkeep, hevents]
    · right
      have hid : (chooseEventId (w.recordNonceOrCorrelate env.now t.nonceKey none .goldsky).1
          none).2 = w.uuids := huuids
      have hcount : (chooseEventId (w.recordNonceOrCorrelate env.now t.nonceKey none .goldsky).1
          none).1.uuids = w.uuids + 1 := congrArg (· + 1) huuids
      rw [hid] at hnew
      refine ⟨_, by rw [h]; exact hnew, .ingested hfree ?_ ?_⟩
      · rw [h, hdrawn, hcount]
        exact Nat.lt_succ_self _
      · exact ⟨_, (World.activeClaim_congr hnonces _).trans (World.activeClaim_of_free hfree), rfl,
          rfl⟩
  · rcases promotePreConfirmedEvent_cases env w x t with h' | ⟨old, hold, hpromote, h'⟩
    · exact Or.inl (by rw [h, h'])
    · obtain ⟨ems, ds, hw, -⟩ := dispatchPromotion_spec env (w.promoteToConfirmed env.now x t).1
        (old.promoted env.now t) t
      have hget : (processErc3009Event env unified w (.ok t)).1.events.get? id =
          (w.promoteToConfirmed env.now x t).1.events.get? id := by
        rw [h, h', hw]
      rw [World.get?_promoteToConfirmed] at hget
      have hidold : old.id = x := KeyedTable.key_of_get? hold
      -- The promotion addresses the event of the claim and no other.
      by_cases hid : id = x
      · right
        subst hid
        rw [if_pos rfl, hold] at hget
        refine ⟨old.promoted env.now t, hget, .promoted ?_⟩
        rw [← hidold] at hx hold hpromote
        exact mergedRow_eq_some (promotedRow_eq_some hclaim hsource hx hold) hnonce hpromote
      · left
        rw [hget, if_neg hid]

theorem pollEvent_get?_self (env : Env) (chain : ChainId) {w : World} {row : EventRow}
    (hread : w.events.get? row.id = some row) :
    ∃ new, (pollEvent env chain w row).events.get? row.id = some new ∧ PolledRow row new ∧
      (new.finalityDepth = row.finalityDepth ∨
        new.finalityDepth = polledConfirmations env row) := by
  have hsame : PolledRow row row :=
    ⟨row.status, row.finalityDepth, row.confirmedAt, rfl, Or.inl rfl⟩
  rcases pollEvent_cases env chain w row with h | ⟨-, h⟩ | h | ⟨status, type, -, -, hmoves, h⟩
  · exact ⟨row, by rw [h, hread], hsame, Or.inl rfl⟩
  · rcases handleReorg_cases env w row with h' | ⟨ems, h', -⟩
    · exact ⟨row, by rw [h, h', hread], hsame, Or.inl rfl⟩
    · have hget := w.get?_updateStatus env.now row.id .reorged row.id
      rw [if_pos rfl, hread] at hget
      refine ⟨row.withStatus env.now .reorged, ?_, ⟨.reorged, row.finalityDepth, row.confirmedAt,
        rfl, Or.inr (Or.inl rfl)⟩, Or.inl rfl⟩
      rw [h, h']
      exact hget
  · have hget := w.get?_updateFinality row.id (polledConfirmations env row) row.id
    rw [if_pos rfl, hread] at hget
    exact ⟨_, by rw [h, hget]; rfl, ⟨row.status, polledConfirmations env row, row.confirmedAt, rfl,
      Or.inl rfl⟩, Or.inr rfl⟩
  · have hfin := w.get?_updateFinality row.id (polledConfirmations env row) row.id
    rw [if_pos rfl, hread] at hfin
    rcases transitionEvent_cases env (w.updateFinality row.id (polledConfirmations env row)) row
      status type with h' | ⟨ems, ds, h', -⟩
    · exact ⟨_, by rw [h, h', hfin]; rfl, ⟨row.status, polledConfirmations env row,
        row.confirmedAt, rfl, Or.inl rfl⟩, Or.inr rfl⟩
    · have hget := (w.updateFinality row.id (polledConfirmations env row)).get?_updateStatus env.now
        row.id status row.id
      rw [if_pos rfl, hfin] at hget
      refine ⟨_, by rw [h, h']; exact hget, ⟨status, polledConfirmations env row, _, rfl, ?_⟩,
        Or.inr rfl⟩
      rcases hmoves with ⟨hstatus, rfl, -⟩ | ⟨hstatus, rfl, -⟩
      · exact Or.inr (Or.inr (Or.inl ⟨hstatus, rfl⟩))
      · exact Or.inr (Or.inr (Or.inr ⟨hstatus, rfl⟩))

/-- **What a step writes to the events table.** Every row is as it was or one that `RowWrite`
lists. -/
theorem keeperStep_events (w : World) (a : KeeperAction) (id : EventId) :
    RowKept w a (keeperStep w a) id := by
  cases a with
  | facilitator env t => exact processPreConfirmedEvent_events env w t id
  | goldsky env unified decoded => exact processErc3009Event_events env unified w decoded id
  | poll env chain =>
    refine pollChain_induction (I := fun w' => RowKept w (.poll env chain) w' id) ?_ (Or.inl rfl)
    intro w' row hrow _ hkept hread
    -- Either it is the turn of row `id`, or this round leaves what earlier rounds made of it.
    by_cases hid : id = row.id
    · subst hid
      obtain ⟨new, hnew, hpolled, -⟩ := pollEvent_get?_self env chain hread
      exact Or.inr ⟨new, hnew, .polled hrow hpolled⟩
    · unfold RowKept
      rw [pollEvent_get?_of_ne env chain w' row hid]
      rcases hkept with hsame | ⟨new, hnew, hwrite⟩
      · exact Or.inl hsame
      · cases hwrite with
        | polled pending polled => exact Or.inr ⟨_, hnew, .polled pending polled⟩
  | sweep env route ttl =>
    refine sweepOnce_induction (I := fun w' => RowKept w (.sweep env route ttl) w' id) ?_
      (Or.inl rfl)
    intro w' row hrow _ hkept hread
    by_cases hid : id = row.id
    · subst hid
      rcases expireEvent_cases env route w' row with h | ⟨ems, hwritten, h, -⟩
      · rw [h]
        exact hkept
      · have hget := w'.get?_updateStatus env.now row.id .paymentFailed row.id
        rw [if_pos rfl, hread] at hget
        exact Or.inr ⟨row.withStatus env.now .paymentFailed, by rw [h]; exact hget,
          .expired hrow hwritten⟩
    · unfold RowKept
      rw [expireEvent_get?_of_ne env route w' row hid]
      rcases hkept with hsame | ⟨new, hnew, hwrite⟩
      · exact Or.inl hsame
      · cases hwrite with
        | expired stale written => exact Or.inr ⟨_, hnew, .expired stale written⟩
  | configure endpoints subscriptions => exact Or.inl rfl

/-- A Goldsky delivery that merges its transfer into a row leaves the promoted row behind. -/
theorem keeperStep_merged {env : Env} {w : World} {t : ERC3009Transfer} {old : EventRow}
    (unified : Bool) (h : mergedRow env w t = some old) :
    (keeperStep w (.goldsky env unified (.ok t))).events.get? old.id =
      some (old.promoted env.now t) := by
  obtain ⟨hpromoted, hcalls⟩ := Option.filter_eq_some_iff.mp h
  obtain ⟨claim, hclaim, hsource, hevent, hold⟩ := promotedRow_spec hpromoted
  have hnonce : env.raises .recordNonce = false := by
    cases hr : env.raises .recordNonce with
    | false => rfl
    | true => simp [hr] at hcalls
  have hpromote : env.raises (.promoteToConfirmed old.id) = false := by
    cases hr : env.raises (.promoteToConfirmed old.id) with
    | false => rfl
    | true => simp [hr] at hcalls
  obtain ⟨ems, ds, hw, -⟩ := dispatchPromotion_spec env
    (w.promoteToConfirmed env.now old.id t).1 (old.promoted env.now t) t
  have hstep : keeperStep w (.goldsky env unified (.ok t)) =
      (processErc3009Event env unified w (.ok t)).1 := rfl
  rw [hstep, processErc3009Event_of_claimed _ hnonce hclaim, hsource, hevent]
  simp only
  rw [promotePreConfirmedEvent_of_recorded t hpromote hold, hw]
  change (w.promoteToConfirmed env.now old.id t).1.events.get? old.id = _
  rw [World.get?_promoteToConfirmed, if_pos rfl, hold]
  rfl

/-- A step that leaves the outbox as it was has sent nothing. -/
theorem outbox_ne_of_mem_newMessages {w : World} {a : KeeperAction} {e : Emission}
    (h : e ∈ newMessages w a) : (keeperStep w a).outbox ≠ w.outbox := by
  intro hsame
  rw [newMessages, hsame, List.drop_length] at h
  cases h

/-- A Goldsky delivery that sends about a recorded event has merged its log. -/
theorem merged_of_message {env : Env} {unified : Bool} {w : World} {t : ERC3009Transfer}
    {old : EventRow} {e : Emission} (he : e ∈ newMessages w (.goldsky env unified (.ok t)))
    (h : promotedRow w t = some old) : mergedRow env w t = some old := by
  obtain ⟨claim, hclaim, -, hevent, hold⟩ := promotedRow_spec h
  have hsent := outbox_ne_of_mem_newMessages he
  have hstep : keeperStep w (.goldsky env unified (.ok t)) =
      (processErc3009Event env unified w (.ok t)).1 := rfl
  rcases processErc3009Event_cases env unified w (.ok t) with
    hw | ⟨t', ht', -, hfree, -⟩ | ⟨t', claim', id, ht', hnonce, hclaim', -, hid, hw⟩
  · rw [hstep, hw] at hsent
    exact absurd rfl hsent
  · obtain rfl := Except.ok.inj ht'
    rw [hclaim] at hfree
    cases hfree
  · obtain rfl := Except.ok.inj ht'
    rw [hclaim] at hclaim'
    obtain rfl := Option.some.inj hclaim'
    rw [hevent] at hid
    obtain rfl := Option.some.inj hid
    rcases promotePreConfirmedEvent_cases env w old.id t with hp | ⟨-, -, hpromote, -⟩
    · rw [hstep, hw, hp] at hsent
      exact absurd rfl hsent
    · exact mergedRow_eq_some h hnonce hpromote

/-- A Goldsky delivery that sends about a new event has drawn its id. -/
theorem drawn_of_message {env : Env} {unified : Bool} {w : World} {t : ERC3009Transfer}
    {e : Emission} (he : e ∈ newMessages w (.goldsky env unified (.ok t)))
    (hfree : w.activeClaim t.nonceKey = none) :
    w.uuids < (keeperStep w (.goldsky env unified (.ok t))).uuids := by
  have hsent := outbox_ne_of_mem_newMessages he
  have hstep : keeperStep w (.goldsky env unified (.ok t)) =
      (processErc3009Event env unified w (.ok t)).1 := rfl
  rcases processErc3009Event_cases env unified w (.ok t) with
    hw | ⟨t', ht', -, -, hw⟩ | ⟨t', claim, id, ht', -, hclaim, -, -, -⟩
  · rw [hstep, hw] at hsent
    exact absurd rfl hsent
  · obtain rfl := Except.ok.inj ht'
    obtain ⟨table, htable⟩ := w.recordNonceOrCorrelate_frame env.now t.nonceKey none .goldsky
    rcases dispatchForTransfer_cases env
        (w.recordNonceOrCorrelate env.now t.nonceKey none .goldsky).1 t
        (paymentFinality env unified t) (resolveIdentity env t.authorizer.val t.chainId.value) none
        none with hd | ⟨D, hd⟩
    · rw [hstep, hw, processNewTransfer, hd, htable] at hsent
      exact absurd rfl hsent
    · rw [hstep, hw, processNewTransfer, hd]
      show w.uuids < (w.recordNonceOrCorrelate env.now t.nonceKey none .goldsky).1.uuids + 1
      rw [htable]
      exact Nat.lt_succ_self _
  · obtain rfl := Except.ok.inj ht'
    rw [hfree] at hclaim
    cases hclaim

/-! ### The nonces table -/

/-- The nonces a step can write, given the world `w'` it leaves behind. -/
inductive ClaimWrite (w w' : World) : KeeperAction → NonceRow → Prop
  | announced {env : Env} {t : ERC3009Transfer} {claim : NonceRow}
      (free : w.activeClaim t.nonceKey = none) (key : claim.key = t.nonceKey)
      (event : claim.eventId = some w.uuids) (source : claim.source = .facilitator)
      (active : claim.reorgedAt = none) (next : w.uuids < w'.uuids) :
      ClaimWrite w w' (.facilitator env t) claim
  | ingested {env : Env} {unified : Bool} {t : ERC3009Transfer} {claim : NonceRow}
      (free : w.activeClaim t.nonceKey = none) (key : claim.key = t.nonceKey)
      (event : claim.eventId = none) (source : claim.source = .goldsky)
      (active : claim.reorgedAt = none) :
      ClaimWrite w w' (.goldsky env unified (.ok t)) claim
  /-- A nonce is marked as reorged only together with its event. -/
  | invalidated {env : Env} {chain : ChainId} {held : NonceRow} {row : EventRow}
      (held_eq : w.nonces.get? held.key = some held) (event : held.eventId = some row.id)
      (reorged : w'.events.get? row.id = some row) (status : row.status = .reorged) :
      ClaimWrite w w' (.poll env chain) (held.invalidated env.now)

/-- The nonce with a key is as it was, or it was written by the step. -/
def ClaimKept (w : World) (a : KeeperAction) (w' : World) (key : NonceKey) : Prop :=
  w'.nonces.get? key = w.nonces.get? key ∨
    ∃ claim, w'.nonces.get? key = some claim ∧ ClaimWrite w w' a claim

theorem processPreConfirmedEvent_nonces (env : Env) (w : World) (t : ERC3009Transfer)
    (key : NonceKey) :
    ClaimKept w (.facilitator env t) (processPreConfirmedEvent env w t).1 key := by
  rcases processPreConfirmedEvent_cases env w t with h | ⟨-, hfree, h⟩
  · exact Or.inl (by rw [h]; rfl)
  · have hfree' : w.uuid4.1.activeClaim t.nonceKey = none := hfree
    have hget : (w.uuid4.1.recordNonceOrCorrelate env.now t.nonceKey (some w.uuids)
        .facilitator).1.nonces.get? key = _ :=
      (World.recordNonceOrCorrelate_of_free hfree').2 key
    have hnext := processPreConfirmedEvent_uuids env w t
    unfold ClaimKept
    rw [h] at hnext ⊢
    rw [dispatchForTransfer_nonces, hget]
    by_cases hkey : t.nonceKey = key
    · right
      rw [if_pos hkey]
      refine ⟨_, rfl, .announced hfree rfl rfl rfl rfl ?_⟩
      rw [hnext]
      exact Nat.lt_succ_self _
    · left
      rw [if_neg hkey]
      rfl

theorem processErc3009Event_nonces (env : Env) (unified : Bool) (w : World)
    (decoded : Except PyError ERC3009Transfer) (key : NonceKey) :
    ClaimKept w (.goldsky env unified decoded) (processErc3009Event env unified w decoded).1
      key := by
  rcases processErc3009Event_cases env unified w decoded with
    h | ⟨t, rfl, -, hfree, h⟩ | ⟨t, claim, x, rfl, -, -, -, -, h⟩
  · exact Or.inl (by rw [h])
  · have hget : (w.recordNonceOrCorrelate env.now t.nonceKey none .goldsky).1.nonces.get? key = _ :=
      (World.recordNonceOrCorrelate_of_free hfree).2 key
    unfold ClaimKept
    rw [h, processNewTransfer, dispatchForTransfer_nonces, hget]
    by_cases hkey : t.nonceKey = key
    · right
      rw [if_pos hkey]
      exact ⟨_, rfl, .ingested hfree rfl rfl rfl rfl⟩
    · left
      rw [if_neg hkey]
  · exact Or.inl (by rw [h, promotePreConfirmedEvent_nonces])

theorem pollEvent_nonces (env : Env) (chain : ChainId) {w : World} {row : EventRow}
    (hread : w.events.get? row.id = some row) :
    (pollEvent env chain w row).nonces = w.nonces ∨
      ((pollEvent env chain w row).nonces = (w.invalidateByEventId env.now row.id).nonces ∧
        (pollEvent env chain w row).events.get? row.id =
          some (row.withStatus env.now .reorged)) := by
  rcases pollEvent_cases env chain w row with h | ⟨-, h⟩ | h | ⟨status, type, -, -, -, h⟩
  · exact Or.inl (by rw [h])
  · rcases handleReorg_cases env w row with h' | ⟨ems, h', -⟩
    · exact Or.inl (by rw [h, h'])
    · by_cases hraise : env.raises (.invalidateNonce row.id) = true
      · exact Or.inl (by rw [h, h']; exact if_pos hraise)
      · right
        have hget := w.get?_updateStatus env.now row.id .reorged row.id
        rw [if_pos rfl, hread] at hget
        rw [h, h']
        exact ⟨if_neg hraise, hget⟩
  · exact Or.inl (by rw [h]; rfl)
  · left
    rcases transitionEvent_cases env (w.updateFinality row.id (polledConfirmations env row)) row
      status type with h' | ⟨ems, ds, h', -⟩
    · rw [h, h']
      rfl
    · rw [h, h']
      rfl

/-- The nonces after a poll cycle: the invariant of the loop over the snapshot. -/
theorem pollChain_nonces (env : Env) (w : World) (chain : ChainId) (key : NonceKey) :
    ClaimKept w (.poll env chain) (pollChain env w chain) key := by
  refine pollChain_induction (I := fun w' => ClaimKept w (.poll env chain) w' key) ?_ (Or.inl rfl)
  intro w' row hrow _ hkept hread
  -- a row that was reorged earlier in the cycle is not the row whose turn it is
  have hstays : ∀ r, w'.events.get? r.id = some r → r.status = .reorged →
      (pollEvent env chain w' row).events.get? r.id = some r := by
    intro r hr hstatus
    have hne : r.id ≠ row.id := by
      intro he
      rw [he, hread] at hr
      obtain rfl := Option.some.inj hr
      rcases (mem_polledRows hrow).1 with h | h <;> rw [h] at hstatus <;> cases hstatus
    rw [pollEvent_get?_of_ne env chain w' row hne]
    exact hr
  rcases pollEvent_nonces env chain hread with h | ⟨h, hreorged⟩
  · rcases hkept with hsame | ⟨claim, hclaim, hwrite⟩
    · exact Or.inl (by rw [h, hsame])
    · right
      refine ⟨claim, by rw [h, hclaim], ?_⟩
      cases hwrite with
      | invalidated held_eq event reorged status =>
        exact .invalidated held_eq event (hstays _ reorged status) status
  · unfold ClaimKept
    rw [h, World.get?_invalidateByEventId]
    rcases hkept with hsame | ⟨claim, hclaim, hwrite⟩
    · rw [hsame]
      cases hget : w.nonces.get? key with
      | none => exact Or.inl rfl
      | some held =>
        by_cases hown : held.eventId = some row.id ∧ held.reorgedAt = none
        · right
          have hkey : held.key = key := KeyedTable.key_of_get? hget
          refine ⟨held.invalidated env.now, ?_, ?_⟩
          · rw [Option.map_some, if_pos hown]
          · rw [← hkey] at hget
            exact @ClaimWrite.invalidated w _ env chain held (row.withStatus env.now .reorged) hget
              hown.1 hreorged rfl
        · left
          rw [Option.map_some, if_neg hown]
    -- Marked earlier in the cycle: the second statement asks for `reorged_at IS NULL`.
    · right
      cases hwrite with
      | @invalidated _ _ held r held_eq event reorged status =>
        refine ⟨held.invalidated env.now, ?_,
          .invalidated held_eq event (hstays _ reorged status) status⟩
        rw [hclaim, Option.map_some, if_neg]
        rintro ⟨-, hactive⟩
        cases hactive

/-- **What a step writes to the nonces table.** Every nonce is as it was or one that `ClaimWrite`
lists. -/
theorem keeperStep_nonces (w : World) (a : KeeperAction) (key : NonceKey) :
    ClaimKept w a (keeperStep w a) key := by
  cases a with
  | facilitator env t => exact processPreConfirmedEvent_nonces env w t key
  | goldsky env unified decoded => exact processErc3009Event_nonces env unified w decoded key
  | poll env chain => exact pollChain_nonces env w chain key
  | sweep env route ttl =>
    refine sweepOnce_induction (I := fun w' => ClaimKept w (.sweep env route ttl) w' key) ?_
      (Or.inl rfl)
    intro w' row _ _ hkept _
    rcases hkept with hsame | ⟨claim, -, hwrite⟩
    · left
      rcases expireEvent_cases env route w' row with h | ⟨ems, -, h, -⟩
      · rw [h, hsame]
      · rw [h]
        exact hsame
    · cases hwrite
  | configure endpoints subscriptions => exact Or.inl rfl

/-! ### The links -/

/-- No step links an event to an endpoint twice: `(event_id, endpoint_id)` is the primary key of the
join table. -/
theorem linkStage_nodup (env : Env) (id : EventId) (plan : Plan) {w : World}
    (h : w.eventEndpoints.Nodup) : (linkStage env w id plan).eventEndpoints.Nodup := by
  unfold linkStage
  by_cases hskip : (plan.matched.isEmpty || env.raises (.linkEndpoints id)) = true
  · simp only [if_pos hskip]
    exact h
  · simp only [if_neg hskip]
    obtain ⟨-, -, -, hnodup⟩ := w.linkEndpoints_links id (plan.matched.map (·.id))
    exact hnodup h

theorem dispatchForTransfer_nodup (env : Env) (t : ERC3009Transfer)
    (finality : Option FinalityStatus) (identity : Option AgentIdentity)
    (eventTypeOverride : Option WebhookEventType) (eventId : Option EventId) {w : World}
    (h : w.eventEndpoints.Nodup) :
    (dispatchForTransfer env w t finality identity eventTypeOverride
      eventId).1.eventEndpoints.Nodup := by
  rcases dispatchForTransfer_cases env w t finality identity eventTypeOverride eventId with
    hw | ⟨D, hw⟩
  · rw [hw]
    exact h
  · obtain ⟨n, hn⟩ := chooseEventId_fst w eventId
    obtain ⟨table, htable⟩ := recordEvent_frame env (chooseEventId w eventId).1 D.row
    have hrecorded : (recordEvent env (chooseEventId w eventId).1 D.row).eventEndpoints.Nodup := by
      rw [htable, hn]
      exact h
    rw [hw]
    show D.links.Nodup
    rw [← D.linked]
    exact linkStage_nodup env _ _ hrecorded

theorem keeperStep_nodup (a : KeeperAction) {w : World} (h : w.eventEndpoints.Nodup) :
    (keeperStep w a).eventEndpoints.Nodup := by
  cases a with
  | facilitator env t =>
    show (processPreConfirmedEvent env w t).1.eventEndpoints.Nodup
    rcases processPreConfirmedEvent_cases env w t with hw | ⟨-, -, hw⟩
    · rw [hw]
      exact h
    · rw [hw]
      refine dispatchForTransfer_nodup env t _ _ _ _ ?_
      obtain ⟨table, htable⟩ :=
        w.uuid4.1.recordNonceOrCorrelate_frame env.now t.nonceKey (some w.uuids) .facilitator
      rw [htable]
      exact h
  | goldsky env unified decoded =>
    show (processErc3009Event env unified w decoded).1.eventEndpoints.Nodup
    rcases processErc3009Event_cases env unified w decoded with
      hw | ⟨t, -, -, -, hw⟩ | ⟨t, -, id, -, -, -, -, -, hw⟩
    · rw [hw]
      exact h
    · rw [hw]
      refine dispatchForTransfer_nodup env t _ _ _ _ ?_
      obtain ⟨table, htable⟩ := w.recordNonceOrCorrelate_frame env.now t.nonceKey none .goldsky
      rw [htable]
      exact h
    · rw [hw]
      rcases promotePreConfirmedEvent_cases env w id t with hp | ⟨old, -, -, hp⟩
      · rw [hp]
        exact h
      · obtain ⟨ems, ds, hd, -⟩ := dispatchPromotion_spec env (w.promoteToConfirmed env.now id t).1
          (old.promoted env.now t) t
        rw [hp, hd]
        exact h
  | poll env chain =>
    refine pollChain_induction (I := fun w' => w'.eventEndpoints.Nodup) ?_ h
    intro w' row _ _ hw' _
    rw [(pollEvent_frame env chain w' row).eventEndpoints]
    exact hw'
  | sweep env route ttl =>
    refine sweepOnce_induction (I := fun w' => w'.eventEndpoints.Nodup) ?_ h
    intro w' row _ _ hw' _
    rw [(expireEvent_frame env route w' row).eventEndpoints]
    exact hw'
  | configure endpoints subscriptions => exact h

/-! ### Fresh ids -/

theorem keeperStep_uuids (w : World) (a : KeeperAction) : w.uuids ≤ (keeperStep w a).uuids := by
  cases a with
  | facilitator env t =>
    have h : (keeperStep w (.facilitator env t)).uuids = w.uuids + 1 :=
      processPreConfirmedEvent_uuids env w t
    omega
  | goldsky env unified decoded => exact processErc3009Event_uuids env unified w decoded
  | poll env chain =>
    refine pollChain_induction (I := fun w' => w.uuids ≤ w'.uuids) ?_ (Nat.le_refl _)
    intro w' row _ hframe _ _
    rw [(hframe.trans (pollEvent_frame env chain w' row)).uuids]
  | sweep env route ttl =>
    refine sweepOnce_induction (I := fun w' => w.uuids ≤ w'.uuids) ?_ (Nat.le_refl _)
    intro w' row _ hframe _ _
    rw [(hframe.trans (expireEvent_frame env route w' row)).uuids]
  | configure endpoints subscriptions => exact Nat.le_refl _

/-- Every id in use has been drawn. -/
structure Fresh (w : World) : Prop where
  events : ∀ id row, w.events.get? id = some row → id < w.uuids
  nonces : ∀ key claim id, w.nonces.get? key = some claim → claim.eventId = some id → id < w.uuids

theorem fresh_empty : Fresh {} := ⟨fun _ _ h => (by cases h), fun _ _ _ h => (by cases h)⟩

/-- The next id belongs to no row. -/
theorem Fresh.get?_uuids {w : World} (h : Fresh w) : w.events.get? w.uuids = none := by
  cases hget : w.events.get? w.uuids with
  | none => rfl
  | some row => exact absurd (h.events _ row hget) (Nat.lt_irrefl _)

/-- **Ids are drawn once.** Every step keeps the ids in use below the counter. -/
theorem Fresh.step {w : World} (h : Fresh w) (a : KeeperAction) : Fresh (keeperStep w a) where
  events := by
    intro id row hrow
    have hmono := keeperStep_uuids w a
    have hid : row.id = id := KeyedTable.key_of_get? hrow
    rcases keeperStep_events w a id with hsame | ⟨new, hnew, hwrite⟩
    · rw [hsame] at hrow
      exact (h.events id row hrow).trans_le hmono
    · rw [hnew] at hrow
      obtain rfl := Option.some.inj hrow
      cases hwrite with
      | announced _ next _ => exact hid ▸ next
      | ingested _ next _ => exact hid ▸ next
      | @promoted _ _ _ old merged =>
        have hold := get?_of_promotedRow (promotedRow_of_mergedRow merged)
        exact hid ▸ (h.events old.id old hold).trans_le hmono
      | @polled env chain row _ pending polled =>
        obtain ⟨status, depth, confirmedAt, rfl, -⟩ := polled
        have hread := (polledRows_snapshot env w chain).read row pending
        exact hid ▸ (h.events row.id row hread).trans_le hmono
      | @expired env route ttl row stale _ =>
        have hread := (sweptRows_snapshot env route ttl w).read row stale
        exact hid ▸ (h.events row.id row hread).trans_le hmono
  nonces := by
    intro key claim id hclaim hevent
    have hmono := keeperStep_uuids w a
    rcases keeperStep_nonces w a key with hsame | ⟨new, hnew, hwrite⟩
    · rw [hsame] at hclaim
      exact (h.nonces key claim id hclaim hevent).trans_le hmono
    · rw [hnew] at hclaim
      obtain rfl := Option.some.inj hclaim
      cases hwrite with
      | announced _ _ event _ _ next =>
        rw [event] at hevent
        obtain rfl := Option.some.inj hevent
        exact next
      | ingested _ _ event _ _ =>
        rw [event] at hevent
        cases hevent
      | @invalidated _ _ held row held_eq event _ _ =>
        exact (h.nonces held.key held id held_eq hevent).trans_le hmono

/-- A claim that names a recorded event was there before the step, or the step announced both: then
the row is `pre_confirmed`. -/
theorem Fresh.claimed {w : World} (h : Fresh w) {a : KeeperAction} {key : NonceKey}
    {claim : NonceRow} {row : EventRow} (hclaim : (keeperStep w a).nonces.get? key = some claim)
    (hevent : claim.eventId = some row.id)
    (hrow : (keeperStep w a).events.get? row.id = some row) :
    row.status = .preConfirmed ∨ ∃ key' held, w.nonces.get? key' = some held ∧
      held.source = claim.source ∧ held.eventId = some row.id := by
  rcases keeperStep_nonces w a key with hsame | ⟨new, hnew, hwrite⟩
  · exact Or.inr ⟨key, claim, hsame.symm.trans hclaim, rfl, hevent⟩
  · obtain rfl := Option.some.inj (hnew.symm.trans hclaim)
    cases hwrite with
    | announced _ _ event _ _ _ =>
      left
      rw [event] at hevent
      have hid : row.id = w.uuids := (Option.some.inj hevent).symm
      rcases keeperStep_events w _ row.id with hsame | ⟨row', hrow', hwrite'⟩
      · rw [hsame, hid, h.get?_uuids] at hrow
        cases hrow
      · obtain rfl := Option.some.inj (hrow'.symm.trans hrow)
        cases hwrite'
        rfl
    | ingested _ _ event _ _ =>
      rw [event] at hevent
      cases hevent
    | @invalidated _ _ held _ held_eq _ _ _ => exact Or.inr ⟨held.key, held, held_eq, rfl, hevent⟩

/-- Every message of a step is about an event whose id has been drawn by the end of it. -/
theorem Fresh.message {w : World} (h : Fresh w) {a : KeeperAction} {e : Emission}
    (he : e ∈ newMessages w a) : e.event < (keeperStep w a).uuids := by
  have hmono := keeperStep_uuids w a
  have hrow : ∀ {row : EventRow}, w.events.get? row.id = some row → e.event = row.id →
      e.event < (keeperStep w a).uuids := by
    intro row hget hevent
    rw [hevent]
    exact (h.events row.id row hget).trans_le hmono
  cases emitted_of_mem_newMessages he with
  | @preConfirmed env t _ _ _ _ _ _ _ _ sent =>
    have hevent : e.event = w.uuids := sent.event
    have hnext := processPreConfirmedEvent_uuids env w t
    rw [hevent]
    show w.uuids < (processPreConfirmedEvent env w t).1.uuids
    omega
  | ingested free _ _ _ sent =>
    have hevent : e.event = w.uuids := sent.event
    rw [hevent]
    exact drawn_of_message he free
  | promoted promotes _ _ sent => exact hrow (get?_of_promotedRow promotes) sent.event
  | @transitioned env chain row _ _ _ _ _ pending _ _ _ dispatch _ sent =>
    obtain ⟨t, -, rfl⟩ := Option.map_eq_some_iff.mp dispatch
    exact hrow ((polledRows_snapshot env w chain).read row pending) (webhookEmission_spec sent).1
  | @reorged env chain row _ _ _ pending _ dispatch _ sent =>
    obtain ⟨t, -, rfl⟩ := Option.map_eq_some_iff.mp dispatch
    exact hrow ((polledRows_snapshot env w chain).read row pending) (webhookEmission_spec sent).1
  | @expired env route ttl row _ _ _ stale _ dispatch _ sent =>
    obtain ⟨t, -, rfl⟩ := Option.map_eq_some_iff.mp dispatch
    exact hrow ((sweptRows_snapshot env route ttl w).read row stale) (webhookEmission_spec sent).1

end TripWire
