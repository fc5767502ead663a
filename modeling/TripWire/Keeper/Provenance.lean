import TripWire.Keeper.Tables

/-!
# Whose data an onchain payload carries

A payment that the facilitator announced is recorded with the facilitator's words, and its promotion
overwrites the transaction, the block, the log index and the status of the row, and nothing else.
The webhooks of the promotion are built from the decoded log; everything the poller sends later is
built from the row.  So the sender, the recipient, the amount and the token of a payload that says
`trust_source = onchain` may be those of the facilitator.

Which log was merged into which event is not part of the database; the runs of this module carry it
along (`mergedStep`).  `carriesOnchain_of_run` says that it makes no difference where the
facilitator told the truth: in every run in which each log is merged into a row with the same terms
(`MergesAlike`), every onchain payload about a promoted event has the terms of the log.
-/

namespace TripWire

open Py

/-! ### Terms -/

/-- Two transfers have the same terms: sender, recipient, amount and token.  Hex texts are compared
without regard to case, and all texts without surrounding whitespace, as the models read them. -/
def SameTerms (a b : TransferData) : Prop :=
  lower (strip a.fromAddress) = lower (strip b.fromAddress) ∧
    lower (strip a.toAddress) = lower (strip b.toAddress) ∧
    strip a.amount = strip b.amount ∧ lower (strip a.token) = lower (strip b.token)

instance (a b : TransferData) : Decidable (SameTerms a b) :=
  inferInstanceAs (Decidable (_ ∧ _))

/-- The columns of a row have the terms of a transfer. -/
def RowSays (row : EventRow) (t : ERC3009Transfer) : Prop :=
  (∀ a ∈ row.fromAddress, lower (strip a) = lower (strip t.fromAddress.val)) ∧
    (∀ a ∈ row.toAddress, lower (strip a) = lower (strip t.toAddress.val)) ∧
    strip (row.amount.getD "None") = strip t.value ∧
    ∀ token ∈ row.token, lower (strip token) = lower (strip t.token)

instance (row : EventRow) (t : ERC3009Transfer) : Decidable (RowSays row t) :=
  inferInstanceAs (Decidable (_ ∧ _))

theorem val_of_validate {s : String} {a : EthAddress} (h : EthAddress.validate s = some a) :
    a.val = strip s := by
  unfold EthAddress.validate at h
  split_ifs at h
  obtain rfl := Option.some.inj h
  rfl

/-- The transfer of a row has the terms of its columns. -/
theorem sameTerms_of_rowSays {row : EventRow} {r t : ERC3009Transfer} (h : RowSays row t)
    (hr : reconstructTransfer row = some r) :
    SameTerms (buildTransferData r) (buildTransferData t) := by
  obtain ⟨hfrom, hto, hamount, htoken⟩ := h
  obtain ⟨-, -, -, -, -, hsource, htarget, hvalue, -, -, hcoin⟩ :=
    reconstructTransfer_eq_some_iff.mp hr
  obtain ⟨source, hsource, hsource'⟩ := Option.bind_eq_some_iff.mp hsource
  obtain ⟨target, htarget, htarget'⟩ := Option.bind_eq_some_iff.mp htarget
  obtain ⟨coin, hcoin, hcoin'⟩ := Option.map_eq_some_iff.mp hcoin
  refine ⟨?_, ?_, ?_, ?_⟩
  · show lower (strip r.fromAddress.val) = _
    rw [val_of_validate hsource', strip_strip]
    exact hfrom source hsource
  · show lower (strip r.toAddress.val) = _
    rw [val_of_validate htarget', strip_strip]
    exact hto target htarget
  · show strip r.value = _
    rw [hvalue, strip_strip]
    exact hamount
  · show lower (strip r.token) = _
    rw [← hcoin', strip_strip]
    exact htoken coin hcoin

/-! ### Runs that remember the logs -/

/-- A world, and for each event the transfer of the log that was last merged into it. -/
abbrev MergedWorld := World × (EventId → Option ERC3009Transfer)

/-- The logs after a step. -/
def recordMerge (s : MergedWorld) : KeeperAction → EventId → Option ERC3009Transfer
  | .goldsky env _ (.ok t), id =>
    if (mergedRow env s.1 t).any fun old => old.id = id then some t else s.2 id
  | _, id => s.2 id

/-- A step that also remembers which log it merged into which event. -/
def mergedStep (s : MergedWorld) (a : KeeperAction) : MergedWorld :=
  (keeperStep s.1 a, recordMerge s a)

/-- The empty database. -/
def MergedWorld.empty : MergedWorld := ({}, fun _ => none)

/-- A log is merged only into a row that says what the log says. -/
def MergesAlike (s : MergedWorld) : KeeperAction → Prop
  | .goldsky env _ (.ok t) => ∀ old ∈ mergedRow env s.1 t, RowSays old t
  | _ => True

instance (s : MergedWorld) : ∀ a, Decidable (MergesAlike s a)
  | .goldsky env _ (.ok t) =>
    inferInstanceAs (Decidable (∀ old ∈ mergedRow env s.1 t, RowSays old t))
  | .goldsky _ _ (.error _) => isTrue trivial
  | .facilitator .. => isTrue trivial
  | .poll .. => isTrue trivial
  | .sweep .. => isTrue trivial
  | .configure .. => isTrue trivial

/-- Every payload of the step that trusts the chain and is about a promoted event has the terms of
the log that was merged into the event. -/
def CarriesOnchain (s : MergedWorld) (a : KeeperAction) : Prop :=
  ∀ e ∈ newMessages s.1 a, e.execution.trustSource = .onchain →
    ∀ t ∈ recordMerge s a e.event, ∃ x ∈ e.message.transfer?, SameTerms x (buildTransferData t)

instance (s : MergedWorld) (a : KeeperAction) : Decidable (CarriesOnchain s a) := by
  unfold CarriesOnchain
  infer_instance

/-! ### The invariant -/

/-- A promoted event has a row, which is past `pre_confirmed` and says what its log says. -/
structure Truthful (s : MergedWorld) : Prop where
  fresh : Fresh s.1
  rows : ∀ id t, s.2 id = some t → ∃ row, s.1.events.get? id = some row ∧
    row.status ≠ .preConfirmed ∧ RowSays row t

theorem truthful_empty : Truthful MergedWorld.empty := ⟨fresh_empty, fun _ _ h => by cases h⟩

/-- The next id belongs to no promoted event. -/
theorem Truthful.next {s : MergedWorld} (h : Truthful s) : s.2 s.1.uuids = none := by
  cases hnext : s.2 s.1.uuids with
  | none => rfl
  | some t =>
    obtain ⟨row, hrow, -⟩ := h.rows _ t hnext
    exact absurd (h.fresh.events _ row hrow) (Nat.lt_irrefl _)

/-- A row of a promoted event stays truthful in a step that does not merge a log into it. -/
theorem Truthful.kept {s : MergedWorld} (h : Truthful s) (a : KeeperAction) {id : EventId}
    {t : ERC3009Transfer} (ht : s.2 id = some t)
    (hnot : ∀ env unified t', a = .goldsky env unified (.ok t') →
      ∀ old ∈ mergedRow env s.1 t', old.id ≠ id) :
    ∃ row, (keeperStep s.1 a).events.get? id = some row ∧ row.status ≠ .preConfirmed ∧
      RowSays row t := by
  obtain ⟨row, hrow, hstatus, hsaid⟩ := h.rows id t ht
  rcases keeperStep_events s.1 a id with hsame | ⟨new, hnew, hwrite⟩
  · exact ⟨row, hsame.trans hrow, hstatus, hsaid⟩
  · have hid : new.id = id := KeyedTable.key_of_get? hnew
    have hdrawn : id < s.1.uuids := h.fresh.events id row hrow
    refine ⟨new, hnew, ?_⟩
    cases hwrite with
    | announced | ingested =>
      have hnext : s.1.uuids = id := hid
      exact absurd hdrawn hnext.le.not_gt
    | @promoted env unified t' old merged => exact absurd hid (hnot env unified t' rfl old merged)
    | @polled env chain read _ pending polled =>
      obtain ⟨status, depth, confirmedAt, rfl, hmoves⟩ := polled
      have hread := (polledRows_snapshot env s.1 chain).read read pending
      rw [show read.id = id from hid, hrow] at hread
      obtain rfl := Option.some.inj hread
      refine ⟨?_, hsaid⟩
      rcases hmoves with hsame | hreorged | ⟨-, hmoved⟩ | ⟨-, hmoved⟩
      · show status ≠ .preConfirmed
        rw [hsame]
        exact hstatus
      all_goals
        show status ≠ .preConfirmed
        simp_all
    | @expired env route ttl read stale _ =>
      have hread := (sweptRows_snapshot env route ttl s.1).read read stale
      rw [show read.id = id from hid, hrow] at hread
      obtain rfl := Option.some.inj hread
      exact absurd (status_of_mem_sweptRows stale) hstatus

theorem rowSays_promoted (now : ℤ) (t t' : ERC3009Transfer) {row : EventRow} :
    RowSays (row.promoted now t) t' ↔ RowSays row t' := Iff.rfl

/-- A step that merges its log alike keeps the invariant. -/
theorem Truthful.step {s : MergedWorld} (h : Truthful s) {a : KeeperAction}
    (ha : MergesAlike s a) : Truthful (mergedStep s a) where
  fresh := h.fresh.step a
  rows := by
    intro id t ht
    change recordMerge s a id = some t at ht
    unfold recordMerge at ht
    split at ht
    · rename_i env unified t'
      by_cases hhit : (mergedRow env s.1 t').any (fun old => old.id = id) = true
      · -- the row that this log was merged into
        rw [if_pos hhit] at ht
        obtain rfl := Option.some.inj ht
        obtain ⟨old, hold, hid⟩ := (Option.any_eq_true ..).mp hhit
        have hid' : old.id = id := of_decide_eq_true hid
        refine ⟨old.promoted env.now t', ?_, by simp [EventRow.promoted], ?_⟩
        · rw [← hid']
          exact keeperStep_merged unified hold
        · exact (rowSays_promoted env.now t' t').mpr (ha old hold)
      · rw [if_neg hhit] at ht
        refine h.kept _ ht ?_
        intro env' unified' t'' heq old hold hid
        cases heq
        exact hhit ((Option.any_eq_true ..).mpr ⟨old, hold, decide_eq_true hid⟩)
    · rename_i hother
      refine h.kept _ ht ?_
      intro env' unified' t' heq
      exact absurd heq (hother env' unified' t')

/-! ### What the paths send -/

theorem transfer?_of_webhookEmission {env : Env} {d : Dispatch} {ep : Endpoint} {e : Emission}
    (h : webhookEmission env d ep = some e) :
    e.message.transfer? = some (buildTransferData d.transfer) := by
  obtain ⟨-, rfl⟩ := webhookEmission_eq_some h
  rfl

theorem Sent.transfer? {env : Env} {d : Dispatch} {ep : Endpoint} {e : Emission}
    (h : Sent env d ep e) : e.message.transfer? = some (buildTransferData d.transfer) := by
  rcases h with ⟨-, h⟩ | ⟨-, rfl⟩
  · exact transfer?_of_webhookEmission h
  · rfl

/-- Every message of a step from a truthful state carries what it should. -/
theorem carriesOnchain_of_truthful {s : MergedWorld} (h : Truthful s) (a : KeeperAction) :
    CarriesOnchain s a := by
  intro e he _ t ht
  -- the poller's payloads are built from the row, which says what the log says
  have hrow : ∀ {row : EventRow} {r : ERC3009Transfer},
      s.1.events.get? row.id = some row → s.2 row.id = some t →
      reconstructTransfer row = some r → e.message.transfer? = some (buildTransferData r) →
      ∃ x ∈ e.message.transfer?, SameTerms x (buildTransferData t) := by
    intro row r hget hlog hr hx
    obtain ⟨row', hget', -, hsaid⟩ := h.rows row.id t hlog
    rw [hget] at hget'
    obtain rfl := Option.some.inj hget'
    exact ⟨_, hx, sameTerms_of_rowSays hsaid hr⟩
  cases emitted_of_mem_newMessages he with
  | preConfirmed _ _ _ _ sent =>
    have hlog : s.2 e.event = some t := ht
    rw [sent.event, h.next] at hlog
    cases hlog
  | @ingested env unified t' endpoints plan ep _ free _ _ _ sent =>
    have hnone : mergedRow env s.1 t' = none := by
      simp [mergedRow, promotedRow, free]
    have hlog : s.2 e.event = some t := by
      simpa [recordMerge, hnone] using ht
    rw [sent.event, h.next] at hlog
    cases hlog
  | @promoted env unified t' old ep _ promotes linked accepted sent =>
    have hmerged := merged_of_message he promotes
    have hevent : e.event = old.id := sent.event
    have hlog : t' = t := by
      simpa [recordMerge, hmerged, hevent] using ht
    subst hlog
    exact ⟨_, sent.transfer?, rfl, rfl, rfl, rfl⟩
  | @transitioned env chain row newStatus type d ep _ pending _ _ _ dispatch _ sent =>
    obtain ⟨r, hr, rfl⟩ := Option.map_eq_some_iff.mp dispatch
    have hevent : e.event = row.id := (webhookEmission_spec sent).1
    have hlog : s.2 row.id = some t := hevent ▸ ht
    exact hrow ((polledRows_snapshot env s.1 chain).read row pending) hlog hr
      (transfer?_of_webhookEmission sent)
  | @reorged env chain row d ep _ pending _ dispatch _ sent =>
    obtain ⟨r, hr, rfl⟩ := Option.map_eq_some_iff.mp dispatch
    have hevent : e.event = row.id := (webhookEmission_spec sent).1
    have hlog : s.2 row.id = some t := hevent ▸ ht
    exact hrow ((polledRows_snapshot env s.1 chain).read row pending) hlog hr
      (transfer?_of_webhookEmission sent)
  | @expired env route ttl row d ep _ stale _ dispatch _ sent =>
    -- an expired row is still `pre_confirmed`, so no log was merged into it
    obtain ⟨r, hr, rfl⟩ := Option.map_eq_some_iff.mp dispatch
    have hevent : e.event = row.id := (webhookEmission_spec sent).1
    have hlog : s.2 row.id = some t := hevent ▸ ht
    obtain ⟨row', hget', hstatus, -⟩ := h.rows row.id t hlog
    rw [(sweptRows_snapshot env route ttl s.1).read row stale] at hget'
    obtain rfl := Option.some.inj hget'
    exact absurd (status_of_mem_sweptRows stale) hstatus

/-- **Onchain payloads carry onchain data where the facilitator told the truth.** In every run in
which each log is merged into a row with its own terms, every payload that trusts the chain and is
about a promoted event has the terms of the log. -/
theorem carriesOnchain_of_run {as : List KeeperAction}
    (hmeets : Machine.Meets mergedStep MergesAlike MergedWorld.empty as) :
    Machine.Meets mergedStep CarriesOnchain MergedWorld.empty as :=
  Machine.meets_of_meets (I := Truthful)
    (fun _ a hs ha => ⟨carriesOnchain_of_truthful hs a, hs.step ha⟩) truthful_empty hmeets

namespace Sample

/-- The run in which the facilitator announces the payment with an amount and the log is merged
and finalized. -/
def announcedAs (value : String) : List KeeperAction :=
  [register {}, .facilitator (height 99) { announced with value },
    .goldsky (height 101) false (.ok (onchain 100)), .poll (height 103) .base]

end Sample

/-- The facilitator announces the amount of the log. -/
theorem carriesOnchain_of_run_truthful :
    (∃ e ∈ (Machine.run keeperStep {} (Sample.announcedAs "1000")).outbox,
        e.execution.trustSource = .onchain) ∧
      Machine.Meets mergedStep CarriesOnchain MergedWorld.empty (Sample.announcedAs "1000") :=
  ⟨by decide +kernel, carriesOnchain_of_run (by decide +kernel)⟩

/-- The facilitator announces a thousand times the amount of the log: the finalization repeats the
facilitator's amount with `trust_source = onchain`. -/
theorem not_carriesOnchain_inflated :
    ¬ Machine.Meets mergedStep CarriesOnchain MergedWorld.empty (Sample.announcedAs "1000000") := by
  decide +kernel

end TripWire
