import TripWire.Keeper.Polling

/-!
# A poll cycle with failures

What `_poll_chain_inner_body` does once it has a batch of rows, the block height and the canonical
hashes, whichever calls fail.  Every call of a round names the event of the round, so a round
depends on the answers to its own calls only (`pollEvent_congr`), and each row of the batch ends as
its own round leaves it: `poll_cycle_exact`.
-/

namespace TripWire

open Py

/-! ### A batch -/

/-- A batch of fetched events: distinct rows of the table that a cycle on `chain` may read. -/
structure PollBatch (w : World) (chain : ChainId) where
  rows : List EventRow
  snapshot : Snapshot w rows
  fetched : ∀ row ∈ rows, (row.status = .pending ∨ row.status = .confirmed) ∧
    row.blockNumber.any (0 < ·) = true ∧ row.chainId = chain.value

/-- The batch of a cycle. -/
def polledBatch (env : Env) (w : World) (chain : ChainId) : PollBatch w chain where
  rows := polledRows env w chain
  snapshot := polledRows_snapshot env w chain
  fetched := fun _ hrow => mem_polledRows hrow

/-- The loop of `_poll_chain_inner_body` over a batch. -/
def pollBatch (env : Env) {w : World} {chain : ChainId} (batch : PollBatch w chain) : World :=
  batch.rows.foldl (pollEvent env chain) w

theorem pollChain_eq_pollBatch (env : Env) (w : World) (chain : ChainId) :
    pollChain env w chain = pollBatch env (polledBatch env w chain) := rfl

/-! ### Own calls -/

/-- The event a call is about. -/
def Call.event? : Call → Option EventId
  | .insertEvent e | .linkEndpoints e | .send e _ | .recordDelivery e _ | .insertRealtime e
  | .promoteToConfirmed e | .getEndpointIds e | .getEndpoint e _ | .updateFinality e
  | .updateStatus e | .invalidateNonce e => some e
  | .recordNonce | .recordTriggerNonce _ | .resolveIdentity | .blockNumber | .fetchEndpoints
  | .fetchSubscriptions _ | .acquireLock | .fetchPending | .fetchStale | .getTriggerEndpoint _ =>
    none

/-- The two environments differ at most in which calls about other events fail. -/
structure Env.AgreesOn (id : EventId) (env env' : Env) : Prop where
  answers : env' = { env with raises := env'.raises }
  calls : ∀ c : Call, c.event? = some id → env'.raises c = env.raises c

variable {env env' : Env} {chain : ChainId} {w : World} {row : EventRow}

theorem Env.AgreesOn.polledEndpoints (h : env.AgreesOn row.id env') (w : World) :
    polledEndpoints env' w row = polledEndpoints env w row := by
  have hids : env'.raises (.getEndpointIds row.id) = env.raises (.getEndpointIds row.id) :=
    h.calls _ rfl
  have hfetch : ∀ eid, env'.raises (.getEndpoint row.id eid) =
    env.raises (.getEndpoint row.id eid) :=
    fun eid => h.calls _ rfl
  unfold TripWire.polledEndpoints linkedEndpointIds fetchEndpoints
  simp only [hids, hfetch]

theorem Env.AgreesOn.webhookEmission {d : Dispatch} (h : env.AgreesOn d.event env') :
    webhookEmission env' d = webhookEmission env d := by
  funext ep
  have hsend : env'.raises (.send d.event ep.id) = env.raises (.send d.event ep.id) :=
    h.calls _ rfl
  obtain ⟨hanswers, -⟩ := h
  unfold TripWire.webhookEmission
  rw [hsend, hanswers]
  rfl

theorem Env.AgreesOn.isReorged (h : env.AgreesOn row.id env') :
    isReorged env' row = isReorged env row := by
  rw [h.answers]
  rfl

theorem Env.AgreesOn.polledDispatch (h : env.AgreesOn row.id env') :
    polledDispatch env' chain row = polledDispatch env chain row := by
  rw [h.answers]
  rfl

theorem Env.AgreesOn.polledMessages (h : env.AgreesOn row.id env') (w : World) :
    polledMessages env' chain w row = polledMessages env chain w row := by
  unfold TripWire.polledMessages rowWebhooks
  rw [h.polledDispatch, h.polledEndpoints]
  cases hd : TripWire.polledDispatch env chain row with
  | none => rfl
  | some d =>
    have hevent : d.event = row.id := event_of_polledDispatch hd
    have := (hevent ▸ h : env.AgreesOn d.event env').webhookEmission
    rw [Option.elim_some, Option.elim_some, dispatchEvent, dispatchEvent, this]

/-! ### A round -/

/-- The status of the row is written in its round, if the row moves at all. -/
def moveSucceeds (env : Env) (row : EventRow) : Bool :=
  if isReorged env row then !env.raises (.updateStatus row.id)
  else !env.raises (.updateFinality row.id) && !env.raises (.updateStatus row.id)

/-- The row after its round. -/
def polledRow (env : Env) (chain : ChainId) (row : EventRow) : EventRow :=
  if isReorged env row then
    if env.raises (.updateStatus row.id) then row else row.withStatus env.now .reorged
  else if env.raises (.updateFinality row.id) then row
  else
    let deeper := row.withFinality (polledConfirmations env row)
    if finalityDepths chain ≤ polledConfirmations env row ∧ !env.raises (.updateStatus row.id) then
      deeper.withStatus env.now (advancedStatus row.status)
    else deeper

/-- The messages of a round. -/
def roundMessages (env : Env) (chain : ChainId) (w : World) (row : EventRow) : List Emission :=
  if moveSucceeds env row then polledMessages env chain w row else []

theorem Env.AgreesOn.polledRow (h : env.AgreesOn row.id env') :
    polledRow env' chain row = polledRow env chain row := by
  have hstatus : env'.raises (.updateStatus row.id) = env.raises (.updateStatus row.id) :=
    h.calls _ rfl
  have hfinality : env'.raises (.updateFinality row.id) = env.raises (.updateFinality row.id) :=
    h.calls _ rfl
  have hdepth : polledConfirmations env' row = polledConfirmations env row := by
    rw [h.answers]
    rfl
  have hnow : env'.now = env.now := by rw [h.answers]
  unfold TripWire.polledRow
  rw [h.isReorged, hstatus, hfinality, hdepth, hnow]

theorem Env.AgreesOn.roundMessages (h : env.AgreesOn row.id env') (w : World) :
    roundMessages env' chain w row = roundMessages env chain w row := by
  have hstatus : env'.raises (.updateStatus row.id) = env.raises (.updateStatus row.id) :=
    h.calls _ rfl
  have hfinality : env'.raises (.updateFinality row.id) = env.raises (.updateFinality row.id) :=
    h.calls _ rfl
  unfold TripWire.roundMessages moveSucceeds
  rw [h.isReorged, hstatus, hfinality, h.polledMessages]

/-- A failed write of the status ends the transition. -/
theorem transitionEvent_of_raises (hraise : env.raises (.updateStatus row.id) = true) (w : World)
    (newStatus : EventStatus) (type : WebhookEventType) :
    transitionEvent env w row newStatus type = w := by
  rw [transitionEvent, if_pos hraise]

/-- The webhook of the step forward from a status. -/
def advancedType : EventStatus → WebhookEventType
  | .confirmed => .paymentFinalized
  | _ => .paymentConfirmed

/-- A fetched row that is deep enough has a transition. -/
theorem processPolledEvent_of_reached (hfetched : row.status = .pending ∨ row.status = .confirmed)
    (hfinality : env.raises (.updateFinality row.id) = false)
    (hreached : finalityDepths chain ≤ polledConfirmations env row) (w : World) :
    processPolledEvent env chain w row =
      transitionEvent env (w.updateFinality row.id (polledConfirmations env row)) row
        (advancedStatus row.status) (advancedType row.status) := by
  rw [processPolledEvent, hfinality, if_neg Bool.false_ne_true]
  dsimp only
  rw [if_pos hreached]
  rcases hfetched with h | h
  · rw [h]
    rfl
  · rw [h]
    rfl

/-- A row that is not deep enough has its depth stored. -/
theorem processPolledEvent_of_waiting (hfinality : env.raises (.updateFinality row.id) = false)
    (hwaiting : ¬finalityDepths chain ≤ polledConfirmations env row) (w : World) :
    processPolledEvent env chain w row =
      w.updateFinality row.id (polledConfirmations env row) := by
  rw [processPolledEvent, hfinality, if_neg Bool.false_ne_true]
  dsimp only
  rw [if_neg hwaiting]

theorem polledDispatch_of_reached (hfetched : row.status = .pending ∨ row.status = .confirmed)
    (hreorg : isReorged env row ≠ true)
    (hreached : finalityDepths chain ≤ polledConfirmations env row) :
    polledDispatch env chain row =
      transitionDispatch env row (advancedStatus row.status) (advancedType row.status) := by
  rw [polledDispatch, if_neg hreorg, if_pos hreached]
  rcases hfetched with h | h
  · rw [h]
    rfl
  · rw [h]
    rfl

/-- **What a round does to its row**, whichever calls fail. -/
theorem pollEvent_row (hfetched : row.status = .pending ∨ row.status = .confirmed)
    (hread : w.events.get? row.id = some row) :
    (pollEvent env chain w row).events.get? row.id = some (polledRow env chain row) := by
  have hdepth := w.get?_updateFinality row.id (polledConfirmations env row) row.id
  rw [if_pos rfl, hread, Option.map_some] at hdepth
  unfold pollEvent polledRow
  by_cases hreorg : isReorged env row = true
  · rw [if_pos hreorg, if_pos hreorg]
    cases hstatus : env.raises (.updateStatus row.id) with
    | true => rwa [handleReorg, if_pos hstatus, if_pos rfl]
    | false =>
      rw [if_neg Bool.false_ne_true]
      exact get?_handleReorg hstatus hread
  · rw [if_neg hreorg, if_neg hreorg]
    cases hfinality : env.raises (.updateFinality row.id) with
    | true => rwa [processPolledEvent, if_pos hfinality, if_pos rfl]
    | false =>
      rw [if_neg Bool.false_ne_true]
      dsimp only
      by_cases hreached : finalityDepths chain ≤ polledConfirmations env row
      · rw [processPolledEvent_of_reached hfetched hfinality hreached]
        cases hstatus : env.raises (.updateStatus row.id) with
        | true =>
          rw [transitionEvent_of_raises hstatus, if_neg (by simp)]
          exact hdepth
        | false =>
          rw [if_pos (by simp [hreached])]
          exact get?_transitionEvent hstatus hdepth _ _
      · rw [processPolledEvent_of_waiting hfinality hreached, if_neg fun h => hreached h.1]
        exact hdepth

/-- **What a round sends**, whichever calls fail. -/
theorem pollEvent_sends (hfetched : row.status = .pending ∨ row.status = .confirmed) (w : World) :
    (pollEvent env chain w row).outbox = w.outbox ++ roundMessages env chain w row := by
  have hframe := updateFinality_frame w row.id (polledConfirmations env row)
  unfold pollEvent roundMessages moveSucceeds
  by_cases hreorg : isReorged env row = true
  · rw [if_pos hreorg, if_pos hreorg]
    cases hstatus : env.raises (.updateStatus row.id) with
    | true =>
      rw [handleReorg, if_pos hstatus]
      exact (List.append_nil _).symm
    | false =>
      rw [handleReorg_outbox hstatus, polledMessages, polledDispatch, if_pos hreorg]
      rfl
  · rw [if_neg hreorg, if_neg hreorg]
    cases hfinality : env.raises (.updateFinality row.id) with
    | true =>
      rw [processPolledEvent, if_pos hfinality]
      exact (List.append_nil _).symm
    | false =>
      by_cases hreached : finalityDepths chain ≤ polledConfirmations env row
      · rw [processPolledEvent_of_reached hfetched hfinality hreached]
        cases hstatus : env.raises (.updateStatus row.id) with
        | true =>
          rw [transitionEvent_of_raises hstatus]
          exact (List.append_nil _).symm
        | false =>
          -- the depth is stored before the transition, which reads the links only
          rw [transitionEvent_outbox hstatus, rowWebhooks_congr hframe, polledMessages,
            polledDispatch_of_reached hfetched hreorg hreached]
          rfl
      · have hnone : polledMessages env chain w row = [] := by
          rw [polledMessages, polledDispatch, if_neg hreorg, if_neg hreached]
          rfl
        rw [processPolledEvent_of_waiting hfinality hreached, hnone, ite_self]
        exact (List.append_nil _).symm

/-! ### The cycle -/

/-- **Each row ends as its own round leaves it.** -/
theorem pollBatch_row (env : Env) (batch : PollBatch w chain) (hrow : row ∈ batch.rows) :
    (pollBatch env batch).events.get? row.id = some (polledRow env chain row) := by
  obtain ⟨w', hread, hend⟩ := foldl_snapshot_row
    (fun w row _ => pollEvent_get?_of_ne env chain w row) batch.snapshot hrow
  rw [pollBatch, hend]
  exact pollEvent_row (batch.fetched row hrow).1 hread

/-- The rows that are not in the batch stay as they are. -/
theorem pollBatch_row_of_not_mem (env : Env) (batch : PollBatch w chain) {id : EventId}
    (hid : id ∉ batch.rows.map EventRow.id) :
    (pollBatch env batch).events.get? id = w.events.get? id := by
  have hfold : ∀ (rows : List EventRow) (w' : World), id ∉ rows.map EventRow.id →
      (rows.foldl (pollEvent env chain) w').events.get? id = w'.events.get? id := by
    intro rows
    induction rows with
    | nil => exact fun _ _ => rfl
    | cons row rows ih =>
      intro w' hnot
      rw [List.map_cons, List.mem_cons, not_or] at hnot
      rw [List.foldl_cons, ih _ hnot.2, pollEvent_get?_of_ne env chain w' row hnot.1]
  exact hfold batch.rows w hid

theorem roundMessages_congr {w w' : World} (h : Frame w w') (env : Env) (chain : ChainId)
    (row : EventRow) : roundMessages env chain w' row = roundMessages env chain w row := by
  unfold roundMessages
  rw [polledMessages_congr h]

/-- The messages of a cycle: those of its rounds, one round after the other. -/
theorem pollBatch_outbox (env : Env) (batch : PollBatch w chain) :
    (pollBatch env batch).outbox = w.outbox ++ batch.rows.flatMap (roundMessages env chain w) := by
  have hfold : ∀ (rows : List EventRow) (w' : World), rows ⊆ batch.rows → Frame w w' →
      (rows.foldl (pollEvent env chain) w').outbox =
        w'.outbox ++ rows.flatMap (roundMessages env chain w) := by
    intro rows
    induction rows with
    | nil => exact fun w' _ _ => (List.append_nil _).symm
    | cons row rows ih =>
      intro w' hsub hframe
      obtain ⟨hrow, hrows⟩ := List.cons_subset.mp hsub
      rw [List.foldl_cons, ih _ hrows (hframe.trans (pollEvent_frame env chain w' row)),
        pollEvent_sends (batch.fetched row hrow).1, roundMessages_congr hframe, List.flatMap_cons,
        List.append_assoc]
  exact hfold batch.rows w (List.Subset.refl _) (Frame.refl w)

/-- The messages about an event of the batch are those of its own round. -/
theorem pollBatch_messages (env : Env) (batch : PollBatch w chain) (hrow : row ∈ batch.rows) :
    (pollBatch env batch).outbox.filter (fun e => e.event = row.id) =
      w.outbox.filter (fun e => e.event = row.id) ++ roundMessages env chain w row := by
  rw [pollBatch_outbox, List.filter_append]
  congr 1
  apply KeyedTable.filter_flatMap_of_nodup batch.snapshot.nodup ?_ hrow
  intro r _ e he
  unfold roundMessages at he
  split_ifs at he
  · exact event_of_mem_polledMessages he
  · cases he

/-- The canonical hash of the row's block is known, the row has a hash, and they differ in more than
case. -/
def Orphaned (env : Env) (row : EventRow) : Prop :=
  ∃ canonical stored, env.blockHash (row.blockNumber.getD 0) = some canonical ∧ canonical ≠ "" ∧
    row.blockHash = some stored ∧ stored ≠ "" ∧ lower canonical ≠ lower stored

/-- The writes that the row needs succeed: its status for a reorg, otherwise its depth and, when it
is deep enough, its status. -/
def WritesSucceed (env : Env) (chain : ChainId) (row : EventRow) : Prop :=
  (Orphaned env row → env.raises (.updateStatus row.id) = false) ∧
    (¬Orphaned env row → env.raises (.updateFinality row.id) = false ∧
      (finalityDepths chain ≤ polledConfirmations env row →
        env.raises (.updateStatus row.id) = false))

theorem isReorged_iff : isReorged env row = true ↔ Orphaned env row := by
  unfold isReorged Orphaned
  cases hcanonical : env.blockHash (row.blockNumber.getD 0) with
  | none => simp
  | some canonical =>
    cases hstored : row.blockHash with
    | none => simp
    | some stored => simp [and_assoc]

/-- A step forward changes the status of a fetched row. -/
theorem advancedStatus_ne (hfetched : row.status = .pending ∨ row.status = .confirmed) :
    advancedStatus row.status ≠ row.status := by
  rcases hfetched with h | h
  · rw [h]
    decide
  · rw [h]
    decide

/-- **A poll cycle is exact and isolated.** For every batch, every height, every hashes and every
pattern of failing calls: a row whose writes succeed is reorged exactly when it is orphaned,
otherwise goes one step forward exactly when its confirmations reach the depth of the chain, and
otherwise has its depth stored and nothing else; a row outside the batch stays as it is; and what
becomes of a row, and what is sent about it, does not depend on the failures of calls about other
events. -/
theorem poll_cycle_exact (env : Env) {w : World} {chain : ChainId} (batch : PollBatch w chain) :
    (∀ row ∈ batch.rows, ∃ new, (pollBatch env batch).events.get? row.id = some new ∧
      (WritesSucceed env chain row →
        let confirmations := max 0 (env.blockNumber - row.blockNumber.getD 0)
        (new.status = .reorged ↔ Orphaned env row) ∧
        (Orphaned env row → new = row.withStatus env.now .reorged) ∧
        (¬Orphaned env row →
          (new.status = advancedStatus row.status ↔ finalityDepths chain ≤ confirmations) ∧
          (finalityDepths chain ≤ confirmations →
            new = (row.withFinality confirmations).withStatus env.now
              (advancedStatus row.status)) ∧
          (confirmations < finalityDepths chain → new = row.withFinality confirmations)))) ∧
    (∀ id ∉ batch.rows.map EventRow.id,
      (pollBatch env batch).events.get? id = w.events.get? id) ∧
    ∀ row ∈ batch.rows, ∀ env', env.AgreesOn row.id env' →
      (pollBatch env' batch).events.get? row.id = (pollBatch env batch).events.get? row.id ∧
      (pollBatch env' batch).outbox.filter (fun e => e.event = row.id) =
        (pollBatch env batch).outbox.filter (fun e => e.event = row.id) := by
  refine ⟨?_, fun id => pollBatch_row_of_not_mem env batch, ?_⟩
  · intro row hrow
    have hfetched := (batch.fetched row hrow).1
    refine ⟨polledRow env chain row, pollBatch_row env batch hrow, ?_⟩
    rintro ⟨hreorgWrites, hdepthWrites⟩ confirmations
    by_cases horphaned : Orphaned env row
    · have hnew : polledRow env chain row = row.withStatus env.now .reorged := by
        rw [polledRow, if_pos (isReorged_iff.mpr horphaned), hreorgWrites horphaned,
          if_neg Bool.false_ne_true]
      rw [hnew]
      exact ⟨iff_of_true rfl horphaned, fun _ => rfl, fun h => absurd horphaned h⟩
    · obtain ⟨hfinality, hstatus⟩ := hdepthWrites horphaned
      have hnew : polledRow env chain row =
          if finalityDepths chain ≤ confirmations then
            (row.withFinality confirmations).withStatus env.now (advancedStatus row.status)
          else row.withFinality confirmations := by
        rw [polledRow, if_neg fun h => horphaned (isReorged_iff.mp h), hfinality,
          if_neg Bool.false_ne_true]
        dsimp only
        rw [show polledConfirmations env row = confirmations from rfl]
        by_cases hreached : finalityDepths chain ≤ confirmations
        · rw [if_pos hreached, if_pos ⟨hreached, by rw [hstatus hreached]; rfl⟩]
        · rw [if_neg hreached, if_neg fun h => hreached h.1]
      rw [hnew]
      by_cases hreached : finalityDepths chain ≤ confirmations
      · rw [if_pos hreached]
        refine ⟨iff_of_false ?_ horphaned, fun h => absurd h horphaned, fun _ =>
          ⟨iff_of_true rfl hreached, fun _ => rfl, fun h => absurd hreached (not_le.mpr h)⟩⟩
        show advancedStatus row.status ≠ .reorged
        rcases hfetched with h | h
        · rw [h]
          decide
        · rw [h]
          decide
      · rw [if_neg hreached]
        refine ⟨iff_of_false ?_ horphaned, fun h => absurd h horphaned, fun _ =>
          ⟨iff_of_false ?_ hreached, fun h => absurd h hreached, fun _ => rfl⟩⟩
        · show row.status ≠ .reorged
          rcases hfetched with h | h
          · rw [h]
            decide
          · rw [h]
            decide
        · exact (advancedStatus_ne hfetched).symm
  · intro row hrow env' hagrees
    rw [pollBatch_row env' batch hrow, pollBatch_row env batch hrow, hagrees.polledRow,
      pollBatch_messages env' batch hrow, pollBatch_messages env batch hrow, hagrees.roundMessages]
    exact ⟨rfl, rfl⟩

end TripWire
