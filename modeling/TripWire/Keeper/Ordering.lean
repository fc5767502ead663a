import TripWire.Keeper.Outputs

/-!
# Runs that keep the outputs in order

Two paths break the order of the outputs.  A promotion shows the confirmations it has just read and
stores none of them, so the first poll cycle that moves the row on shows the depth zero of the
announcement; and a log that is delivered again is merged again, whatever has been sent about the
event by then, with the label `confirmed` when the RPC does not answer.

The condition on a step is `KeepsOrder`: every log is merged into an event at most once, and the
poller moves a promoted row on only with a stored depth that reaches what the promotion showed.
What a promotion showed and which heights were read is not part of the database, and the runs of
this module carry both along (`orderStep`).  The invariant is `Told`: what has been sent about an
event is bounded by its row, status by status (`Covered`).
-/

namespace TripWire

open Py

/-! ### Runs that remember what was shown -/

/-- The world, the height last read of each chain, and for each event into which a log was merged
the finality status that the promotion read. -/
structure History where
  world : World := {}
  heights : ChainId → Option ℤ := fun _ => none
  promotions : EventId → Option (Option FinalityStatus) := fun _ => none

/-- The height that the RPC answers in a step. -/
def KeeperAction.reading : KeeperAction → Option (ChainId × ℤ)
  | .goldsky env _ (.ok t) =>
    if env.raises .blockNumber then none else some (t.chainId, env.blockNumber)
  | .poll env chain => if env.raises .blockNumber then none else some (chain, env.blockNumber)
  | _ => none

/-- The heights after a step. -/
def recordHeight (h : History) (a : KeeperAction) (chain : ChainId) : Option ℤ :=
  if a.reading.any fun r => r.1 = chain then a.reading.map Prod.snd else h.heights chain

/-- The promotions after a step. -/
def recordPromotion (h : History) : KeeperAction → EventId → Option (Option FinalityStatus)
  | .goldsky env _ (.ok t), id =>
    if (mergedRow env h.world t).any fun old => old.id = id then
      some (checkFinality env t.chainId t.blockNumber)
    else h.promotions id
  | _, id => h.promotions id

/-- A step that also remembers the heights and the promotions. -/
def orderStep (h : History) (a : KeeperAction) : History where
  world := keeperStep h.world a
  heights := recordHeight h a
  promotions := recordPromotion h a

/-! ### The condition -/

/-- The heights of a chain do not decrease. -/
def Rises (h : History) (a : KeeperAction) : Prop :=
  ∀ r ∈ a.reading, ∀ last ∈ h.heights r.1, last ≤ r.2

/-- A log is merged into an event at most once, and a promoted row is moved on only when its stored
depth reaches the confirmations that the promotion showed. -/
def PromotionsHonoured (h : History) : KeeperAction → Prop
  | .goldsky env _ (.ok t) => ∀ old ∈ mergedRow env h.world t, h.promotions old.id = none
  | .poll env chain => ∀ row ∈ polledRows env h.world chain, Advances env chain row →
    ∀ shown ∈ h.promotions row.id, ∀ f ∈ shown, f.confirmations ≤ row.finalityDepth
  | _ => True

/-- The condition on a step. -/
structure KeepsOrder (D : EndpointId → Option ℤ) (h : History) (a : KeeperAction) : Prop where
  steady : SteadyDepths D h.world a
  rises : Rises h a
  honoured : PromotionsHonoured h a

instance (h : History) (a : KeeperAction) : Decidable (Rises h a) := by
  unfold Rises
  infer_instance

instance (h : History) : ∀ a, Decidable (PromotionsHonoured h a)
  | .goldsky env _ (.ok t) =>
    inferInstanceAs (Decidable (∀ old ∈ mergedRow env h.world t, h.promotions old.id = none))
  | .poll env chain =>
    inferInstanceAs (Decidable (∀ row ∈ polledRows env h.world chain, Advances env chain row →
      ∀ shown ∈ h.promotions row.id, ∀ f ∈ shown, f.confirmations ≤ row.finalityDepth))
  | .goldsky _ _ (.error _) => isTrue trivial
  | .facilitator .. => isTrue trivial
  | .sweep .. => isTrue trivial
  | .configure .. => isTrue trivial

instance (D : EndpointId → Option ℤ) (h : History) (a : KeeperAction) :
    Decidable (KeepsOrder D h a) :=
  decidable_of_iff (SteadyDepths D h.world a ∧ Rises h a ∧ PromotionsHonoured h a)
    ⟨fun ⟨h₁, h₂, h₃⟩ => ⟨h₁, h₂, h₃⟩, fun h => ⟨h.steady, h.rises, h.honoured⟩⟩

/-! ### The invariant -/

/-- No log has been merged into the row: it is as the facilitator announced it, or the sweeper gave
up on it. -/
def EventRow.Announced (row : EventRow) : Prop :=
  row.status = .preConfirmed ∨ row.status = .paymentFailed

/-- The depth stored in a row was read at a height, and an announcement stores none. -/
structure StoredDepth (h : History) (row : EventRow) : Prop where
  announced : row.Announced → row.finalityDepth ≤ 0
  read : 0 < row.finalityDepth → ∀ chain : ChainId, row.chainId = chain.value →
    ∃ n ∈ h.heights chain, row.finalityDepth ≤ n - row.blockNumber.getD 0

/-- What a message may have said about an event whose row looks like this. -/
structure Covered (D : EndpointId → Option ℤ) (h : History) (row : EventRow) (e : Emission) :
    Prop where
  announced : row.Announced →
    (∀ n ∈ e.execution.state.stage, n = 0) ∧ e.execution.finality = none
  /-- While the row is pending, no more confirmations than it stores, and `finalized` only when they
  reach the depth of the endpoint. -/
  pending : row.status = .pending → ∀ f ∈ e.execution.finality, f.confirmations ≤ row.finalityDepth
  pending_final : row.status = .pending → e.execution.state = .finalized →
    ∀ chain : ChainId, row.chainId = chain.value →
      (D e.endpoint.id).getD (finalityDepths chain) ≤ row.finalityDepth
  /-- Once it is confirmed, no more than it stores or than its promotion showed. -/
  confirmed : row.status = .confirmed → ∀ f ∈ e.execution.finality,
    f.confirmations ≤ row.finalityDepth ∨
      ∃ shown ∈ h.promotions row.id, ∃ s ∈ shown, f.confirmations ≤ s.confirmations

/-- **The invariant.** -/
structure Told (D : EndpointId → Option ℤ) (h : History) : Prop where
  fresh : Fresh h.world
  drawn : ∀ e ∈ h.world.outbox, e.event < h.world.uuids
  /-- An event that the facilitator claims and into which no log was merged is as announced. -/
  claims : ∀ key claim row, h.world.nonces.get? key = some claim → claim.source = .facilitator →
    claim.eventId = some row.id → h.promotions row.id = none →
    h.world.events.get? row.id = some row → row.Announced
  stored : ∀ id row, h.world.events.get? id = some row → StoredDepth h row
  covered : ∀ id row, h.world.events.get? id = some row → ∀ e ∈ h.world.outbox, e.event = id →
    Covered D h row e
  ordered : h.world.outbox.Pairwise FollowsInKind

theorem told_empty (D : EndpointId → Option ℤ) : Told D {} where
  fresh := fresh_empty
  drawn := by
    intro e he
    cases he
  claims := by
    intro key claim row hclaim
    cases hclaim
  stored := by
    intro id row hrow
    cases hrow
  covered := by
    intro id row hrow
    cases hrow
  ordered := List.Pairwise.nil

/-! ### Heights -/

theorem recordHeight_of_reading {a : KeeperAction} {chain : ChainId} {n : ℤ}
    (h : a.reading = some (chain, n)) (s : History) : recordHeight s a chain = some n := by
  simp [recordHeight, h]

/-- A height that was recorded stays a lower bound. -/
theorem exists_recordHeight {h : History} {a : KeeperAction} (hrises : Rises h a)
    {chain : ChainId} {n : ℤ} (hn : h.heights chain = some n) :
    ∃ n', recordHeight h a chain = some n' ∧ n ≤ n' := by
  unfold recordHeight
  cases hread : a.reading with
  | none => exact ⟨n, hn, le_rfl⟩
  | some r =>
    obtain ⟨chain', n'⟩ := r
    by_cases hchain : chain' = chain
    · subst hchain
      exact ⟨n', by simp, hrises _ hread n hn⟩
    · exact ⟨n, by simp [hchain, hn], le_rfl⟩

theorem StoredDepth.mono {h : History} {a : KeeperAction} (hrises : Rises h a) {row : EventRow}
    (hrow : StoredDepth h row) : StoredDepth (orderStep h a) row where
  announced := hrow.announced
  read := by
    intro hpos chain hchain
    obtain ⟨n, hn, hle⟩ := hrow.read hpos chain hchain
    obtain ⟨n', hn', hmono⟩ := exists_recordHeight hrises hn
    exact ⟨n', hn', by omega⟩

theorem reading_of_mem_polledRows {env : Env} {w : World} {chain : ChainId} {row : EventRow}
    (h : row ∈ polledRows env w chain) :
    KeeperAction.reading (.poll env chain) = some (chain, env.blockNumber) := by
  unfold polledRows at h
  split_ifs at h with hraise
  · cases h
  · simp only [Bool.or_eq_true, not_or] at hraise
    simp [KeeperAction.reading, hraise.2]

/-- The poller never stores less than a row has. -/
theorem StoredDepth.le_polled {h : History} {env : Env} {chain : ChainId} {row : EventRow}
    (hrow : StoredDepth h row) (hrises : Rises h (.poll env chain))
    (hmem : row ∈ polledRows env h.world chain) :
    row.finalityDepth ≤ polledConfirmations env row := by
  unfold polledConfirmations
  by_cases hpos : 0 < row.finalityDepth
  · obtain ⟨-, -, hchain⟩ := mem_polledRows hmem
    obtain ⟨n, hn, hle⟩ := hrow.read hpos chain hchain
    have hlast : n ≤ env.blockNumber := hrises _ (reading_of_mem_polledRows hmem) n hn
    omega
  · omega

/-! ### Promotions -/

/-- What a promotion showed is remembered: no second log is merged into its event. -/
theorem recordPromotion_of_some {h : History} {a : KeeperAction} (ha : PromotionsHonoured h a)
    {id : EventId} {shown : Option FinalityStatus} (hid : h.promotions id = some shown) :
    recordPromotion h a id = some shown := by
  unfold recordPromotion
  split
  · rename_i env unified t
    rw [if_neg, hid]
    intro hhit
    obtain ⟨old, hold, hsame⟩ := (Option.any_eq_true ..).mp hhit
    have hnone := ha old hold
    rw [of_decide_eq_true hsame, hid] at hnone
    cases hnone
  · exact hid

theorem promotions_eq_none {h : History} {a : KeeperAction} {id : EventId}
    (hid : recordPromotion h a id = none) : h.promotions id = none := by
  unfold recordPromotion at hid
  split at hid
  · split_ifs at hid
    exact hid
  · exact hid

theorem recordPromotion_merged {env : Env} {h : History} {t : ERC3009Transfer} {old : EventRow}
    (unified : Bool) (hold : mergedRow env h.world t = some old) :
    recordPromotion h (.goldsky env unified (.ok t)) old.id =
      some (checkFinality env t.chainId t.blockNumber) := by
  simp [recordPromotion, hold]

theorem Covered.mono {D : EndpointId → Option ℤ} {h : History} {a : KeeperAction}
    (ha : PromotionsHonoured h a) {row : EventRow} {e : Emission} (hcov : Covered D h row e) :
    Covered D (orderStep h a) row e where
  announced := hcov.announced
  pending := hcov.pending
  pending_final := hcov.pending_final
  confirmed := by
    intro hstatus f hf
    rcases hcov.confirmed hstatus f hf with hle | ⟨shown, hshown, hle⟩
    · exact Or.inl hle
    · exact Or.inr ⟨shown, recordPromotion_of_some ha hshown, hle⟩

/-- A message that shows no finality and no stage past `provisional` fits every row. -/
theorem Covered.of_silent {e : Emission} (hstage : ∀ n ∈ e.execution.state.stage, n = 0)
    (hfinality : e.execution.finality = none) (D : EndpointId → Option ℤ) (h : History)
    (row : EventRow) : Covered D h row e where
  announced := fun _ => ⟨hstage, hfinality⟩
  pending := by
    intro _ f hf
    rw [hfinality] at hf
    cases hf
  pending_final := by
    intro _ hfinal
    have htwo : 2 = 0 := hstage 2 (by rw [hfinal]; rfl)
    omega
  confirmed := by
    intro _ f hf
    rw [hfinality] at hf
    cases hf

/-- A log that meets the condition is merged into an announced row. -/
theorem Told.announced_of_merged {D : EndpointId → Option ℤ} {h : History} (hT : Told D h)
    {env : Env} {unified : Bool} {t : ERC3009Transfer}
    (ha : PromotionsHonoured h (.goldsky env unified (.ok t))) {old : EventRow}
    (hold : mergedRow env h.world t = some old) : old.Announced := by
  obtain ⟨claim, hclaim, hsource, hevent, hget⟩ :=
    promotedRow_spec (promotedRow_of_mergedRow hold)
  have hkey := (World.activeClaim_eq_some_iff.mp hclaim).1
  exact hT.claims _ claim old hkey hsource hevent (ha old hold) hget

/-! ### Polled rows -/

/-- The row that a poll cycle leaves behind, read by its id. -/
theorem polled_of_get? {env : Env} {w : World} {chain : ChainId} {read row : EventRow}
    (hread : read ∈ polledRows env w chain)
    (hrow : (keeperStep w (.poll env chain)).events.get? read.id = some row) :
    PolledRow read row ∧
      (row.finalityDepth = read.finalityDepth ∨
        row.finalityDepth = polledConfirmations env read) := by
  obtain ⟨new, hnew, hpolled⟩ := keeperStep_polled hread
  rw [hnew] at hrow
  obtain rfl := Option.some.inj hrow
  exact hpolled

/-- The statuses of a polled row: pending rows were pending, confirmed ones pending or confirmed,
and none is as the facilitator announced it. -/
theorem PolledRow.status {read row : EventRow} (h : PolledRow read row)
    (hread : read.status = .pending ∨ read.status = .confirmed) :
    ¬ row.Announced ∧ (row.status = .pending → read.status = .pending) := by
  obtain ⟨status, depth, confirmedAt, rfl, hmoves⟩ := h
  unfold EventRow.Announced
  show ¬ (status = .preConfirmed ∨ status = .paymentFailed) ∧
    (status = .pending → read.status = .pending)
  rcases hmoves with rfl | rfl | ⟨-, rfl⟩ | ⟨-, rfl⟩
  · rcases hread with hst | hst
    · simp [hst]
    · simp [hst]
  · simp
  · simp
  · simp

theorem PolledRow.chain {read row : EventRow} (h : PolledRow read row) :
    row.chainId = read.chainId ∧ row.blockNumber = read.blockNumber ∧ row.id = read.id := by
  obtain ⟨status, depth, confirmedAt, rfl, -⟩ := h
  exact ⟨rfl, rfl, rfl⟩

/-- A row keeps covering a message when a poll cycle has worked on it: the depth has not
decreased. -/
theorem Covered.polled {D : EndpointId → Option ℤ} {h : History} {read row : EventRow}
    {e : Emission} (hcov : Covered D h read e) (hpolled : PolledRow read row)
    (hread : read.status = .pending ∨ read.status = .confirmed)
    (hdepth : read.finalityDepth ≤ row.finalityDepth) : Covered D h row e := by
  obtain ⟨hannounced, hpending⟩ := hpolled.status hread
  obtain ⟨hchain, -, hid⟩ := hpolled.chain
  refine ⟨fun h' => absurd h' hannounced, ?_, ?_, ?_⟩
  · intro hstatus f hf
    exact (hcov.pending (hpending hstatus) f hf).trans hdepth
  · intro hstatus hfinal chain hvalue
    rw [hchain] at hvalue
    exact (hcov.pending_final (hpending hstatus) hfinal chain hvalue).trans hdepth
  · intro _ f hf
    rw [hid]
    rcases hread with hst | hst
    · exact Or.inl ((hcov.pending hst f hf).trans hdepth)
    · rcases hcov.confirmed hst f hf with hle | hshown
      · exact Or.inl (hle.trans hdepth)
      · exact Or.inr hshown

/-! ### What a step keeps -/

section Step

variable {D : EndpointId → Option ℤ} {h : History} {a : KeeperAction}

theorem not_announced_ingested {now : ℤ} {id : EventId} {t : ERC3009Transfer}
    {finality : Option FinalityStatus} {endpointId : Option EndpointId} :
    ¬ (eventRow now id t finality (defaultEventType finality) endpointId).Announced := by
  unfold EventRow.Announced
  rw [eventRow_ingested_status]
  split_ifs <;> simp

/-- The depth of a new row was read in the step that recorded it. -/
theorem storedDepth_ingested {env : Env} {unified : Bool} {t : ERC3009Transfer} {id : EventId}
    {endpointId : Option EndpointId} :
    StoredDepth (orderStep h (.goldsky env unified (.ok t)))
      (eventRow env.now id t (paymentFinality env unified t)
        (defaultEventType (paymentFinality env unified t)) endpointId) := by
  cases hf : paymentFinality env unified t with
  | none =>
    have hzero :
        (eventRow env.now id t none (defaultEventType none) endpointId).finalityDepth = 0 := rfl
    exact ⟨fun _ => hzero.le, fun hpos => absurd hzero hpos.ne'⟩
  | some f =>
    have hcheck := paymentFinality_eq_some hf
    have hconf := (checkFinality_eq_some hcheck).1
    have hdepth : (eventRow env.now id t (some f) (defaultEventType (some f))
        endpointId).finalityDepth = f.confirmations := rfl
    refine ⟨fun hannounced => absurd hannounced not_announced_ingested, ?_⟩
    · intro hpos chain hchain
      have hsame : t.chainId = chain := ChainId.value_injective hchain
      subst hsame
      have hraise : env.raises .blockNumber = false := by
        by_contra hraise
        simp [checkFinality, hraise] at hcheck
      have hread : KeeperAction.reading (.goldsky env unified (.ok t)) =
          some (t.chainId, env.blockNumber) := by
        simp [KeeperAction.reading, hraise]
      refine ⟨env.blockNumber, recordHeight_of_reading hread h, ?_⟩
      rw [hdepth, hconf] at hpos ⊢
      show max 0 (env.blockNumber - t.blockNumber) ≤ env.blockNumber - t.blockNumber
      omega

theorem Told.stored_step (hT : Told D h) (ha : KeepsOrder D h a) {id : EventId} {row : EventRow}
    (hrow : (keeperStep h.world a).events.get? id = some row) :
    StoredDepth (orderStep h a) row := by
  have hid : row.id = id := KeyedTable.key_of_get? hrow
  rcases keeperStep_events h.world a id with hsame | ⟨new, hnew, hwrite⟩
  · exact (hT.stored id row (hsame.symm.trans hrow)).mono ha.rises
  · obtain rfl := Option.some.inj (hnew.symm.trans hrow)
    cases hwrite with
    | announced _ _ _ => exact ⟨fun _ => le_rfl, fun hpos => absurd hpos (lt_irrefl _)⟩
    | ingested _ _ _ => exact storedDepth_ingested
    | @promoted env unified t old merged =>
      have hold := hT.announced_of_merged ha.honoured merged
      have hget := get?_of_promotedRow (promotedRow_of_mergedRow merged)
      have hzero : old.finalityDepth ≤ 0 := (hT.stored _ old hget).announced hold
      exact ⟨fun _ => hzero, fun hpos => absurd hzero hpos.not_ge⟩
    | @polled env chain read _ pending polled =>
      obtain ⟨hchain, hblock, hids⟩ := polled.chain
      rw [← hid, hids] at hrow
      have hread := (polledRows_snapshot env h.world chain).read read pending
      obtain ⟨-, hdepth⟩ := polled_of_get? pending hrow
      refine ⟨fun h' => absurd h' (polled.status (mem_polledRows pending).1).1, ?_⟩
      intro hpos chain' hvalue
      rw [hblock]
      rw [hchain] at hvalue
      rcases hdepth with hdepth | hdepth
      · rw [hdepth] at hpos ⊢
        exact ((hT.stored _ read hread).mono ha.rises).read hpos chain' hvalue
      · -- the depth has just been read
        have hsame : chain = chain' :=
          ChainId.value_injective ((mem_polledRows pending).2.2.symm.trans hvalue)
        subst hsame
        refine ⟨env.blockNumber,
          recordHeight_of_reading (reading_of_mem_polledRows pending) h, ?_⟩
        rw [hdepth, polledConfirmations] at hpos ⊢
        omega
    | @expired env route ttl read stale _ =>
      have hread := (sweptRows_snapshot env route ttl h.world).read read stale
      have hzero : read.finalityDepth ≤ 0 :=
        (hT.stored _ read hread).announced (Or.inl (status_of_mem_sweptRows stale))
      exact ⟨fun _ => hzero, fun hpos => absurd hzero hpos.not_ge⟩

/-- An announced row is still announced after a step that merges no log into it. -/
theorem Told.announced_step (hT : Told D h) {key : NonceKey} {claim : NonceRow} {row : EventRow}
    (hclaim : h.world.nonces.get? key = some claim) (hsource : claim.source = .facilitator)
    (hevent : claim.eventId = some row.id) (hnone : recordPromotion h a row.id = none)
    (hrow : (keeperStep h.world a).events.get? row.id = some row) : row.Announced := by
  have hbefore := promotions_eq_none hnone
  rcases keeperStep_events h.world a row.id with hsame | ⟨new, hnew, hwrite⟩
  · exact hT.claims key claim row hclaim hsource hevent hbefore (hsame.symm.trans hrow)
  · obtain rfl := Option.some.inj (hnew.symm.trans hrow)
    cases hwrite with
    | announced _ _ _ => exact Or.inl rfl
    | ingested _ _ _ =>
      -- the id of a new event has not been claimed before
      have hlt := hT.fresh.nonces key claim _ hclaim hevent
      exact absurd hlt (Nat.lt_irrefl _)
    | @promoted env unified t old merged =>
      have hsome := recordPromotion_merged unified merged
      exact absurd (hsome.symm.trans hnone) (by simp)
    | @polled env chain read _ pending polled =>
      obtain ⟨-, -, hids⟩ := polled.chain
      rw [hids] at hevent hbefore
      have hread := (polledRows_snapshot env h.world chain).read read pending
      have hold := hT.claims key claim read hclaim hsource hevent hbefore hread
      rcases (mem_polledRows pending).1 with hst | hst <;> simp [EventRow.Announced, hst] at hold
    | expired _ _ => exact Or.inr rfl

theorem Told.claims_step (hT : Told D h) {key : NonceKey} {claim : NonceRow} {row : EventRow}
    (hclaim : (keeperStep h.world a).nonces.get? key = some claim)
    (hsource : claim.source = .facilitator) (hevent : claim.eventId = some row.id)
    (hnone : recordPromotion h a row.id = none)
    (hrow : (keeperStep h.world a).events.get? row.id = some row) : row.Announced := by
  rcases hT.fresh.claimed hclaim hevent hrow with hpre | ⟨key', held, hheld, hsame, hevent'⟩
  · exact Or.inl hpre
  · exact hT.announced_step hheld (hsame.trans hsource) hevent' hnone hrow

/-- A poll cycle does not lower the depth of a row. -/
theorem Told.depth_le (hT : Told D h) {env : Env} {chain : ChainId} {read row : EventRow}
    (hrises : Rises h (.poll env chain)) (hread : read ∈ polledRows env h.world chain)
    (hrow : (keeperStep h.world (.poll env chain)).events.get? read.id = some row) :
    read.finalityDepth ≤ row.finalityDepth := by
  have hget := (polledRows_snapshot env h.world chain).read read hread
  obtain ⟨-, hdepth | hdepth⟩ := polled_of_get? hread hrow
  · exact hdepth.ge
  · exact ((hT.stored _ read hget).le_polled hrises hread).trans hdepth.ge

/-- What was sent before the step fits the rows after it. -/
theorem Told.covered_old (hT : Told D h) (ha : KeepsOrder D h a) {row : EventRow}
    (hrow : (keeperStep h.world a).events.get? row.id = some row) {e : Emission}
    (he : e ∈ h.world.outbox) (hevent : e.event = row.id) : Covered D (orderStep h a) row e := by
  have hdrawn : row.id < h.world.uuids := hevent ▸ hT.drawn e he
  rcases keeperStep_events h.world a row.id with hsame | ⟨new, hnew, hwrite⟩
  · exact (hT.covered row.id row (hsame.symm.trans hrow) e he hevent).mono ha.honoured
  · obtain rfl := Option.some.inj (hnew.symm.trans hrow)
    cases hwrite with
    | announced _ _ _ => exact absurd hdrawn (Nat.lt_irrefl _)
    | ingested _ _ _ => exact absurd hdrawn (Nat.lt_irrefl _)
    | promoted merged =>
      have hget := get?_of_promotedRow (promotedRow_of_mergedRow merged)
      obtain ⟨hstage, hfinality⟩ := (hT.covered _ _ hget e he hevent).announced
        (hT.announced_of_merged ha.honoured merged)
      exact Covered.of_silent hstage hfinality D _ _
    | @polled env chain read _ pending polled =>
      have hread := (polledRows_snapshot env h.world chain).read read pending
      obtain ⟨-, -, hids⟩ := polled.chain
      rw [hids] at hrow hevent
      have hle := hT.depth_le ha.rises pending hrow
      have hcov := hT.covered _ read hread e he hevent
      exact (hcov.polled polled (mem_polledRows pending).1 hle).mono ha.honoured
    | @expired env route ttl read stale _ =>
      have hread := (sweptRows_snapshot env route ttl h.world).read read stale
      obtain ⟨hstage, hfinality⟩ := (hT.covered _ read hread e he hevent).announced
        (Or.inl (status_of_mem_sweptRows stale))
      exact Covered.of_silent hstage hfinality D _ _

/-- A message of a new transfer fits the row of the transfer. -/
theorem covered_ingested {env : Env} {unified : Bool} {t : ERC3009Transfer}
    {endpoints : List Endpoint} {plan : Plan} {ep : Endpoint} {e : Emission} {id : EventId}
    {endpointId : Option EndpointId} {identity : Option AgentIdentity}
    (hdepths : DepthsAre D endpoints)
    (planned : planDispatch t (paymentFinality env unified t) identity none endpoints = .ok plan)
    (approved : ep ∈ plan.approved)
    (sent : Sent env
      { event := id, transfer := t, type := plan.type, finality := paymentFinality env unified t,
        identity, height := observedHeight env (paymentFinality env unified t) } ep e)
    (h : History) :
    Covered D h (eventRow env.now id t (paymentFinality env unified t)
      (defaultEventType (paymentFinality env unified t)) endpointId) e := by
  have hconf : ∀ f ∈ e.execution.finality, f.confirmations =
      (eventRow env.now id t (paymentFinality env unified t)
        (defaultEventType (paymentFinality env unified t)) endpointId).finalityDepth := by
    intro f hf
    obtain ⟨s, hs, hsame⟩ := sent.confirmations hf
    have hs' : paymentFinality env unified t = some s := hs
    rw [hsame, hs']
    rfl
  refine ⟨fun h' => absurd h' not_announced_ingested, fun _ f hf => (hconf f hf).le, ?_,
    fun _ f hf => Or.inl (hconf f hf).le⟩
  intro hstatus hfinal chain hchain
  obtain rfl : t.chainId = chain := ChainId.value_injective hchain
  have htype : plan.type = defaultEventType (paymentFinality env unified t) :=
    (planDispatch_spec planned).2.1
  -- the message is finalized because its block shows the depth it was compared with
  have hblock : ∀ required,
      e.execution = deriveExecutionMetadata plan.type
        (buildFinalityData (paymentFinality env unified t) required) →
      ∃ s, paymentFinality env unified t = some s ∧
        required.getD (finalityDepths t.chainId) ≤ s.confirmations := by
    intro required hx
    have hstate : e.execution.state = _ := congrArg ExecutionBlock.state hx
    rw [htype, state_deriveExecutionMetadata (defaultEventType_cases _), hfinal] at hstate
    split_ifs at hstate with hany
    obtain ⟨fd, hfd, hfin⟩ := (Option.any_eq_true ..).mp hany
    obtain ⟨s, hs, -, -, hiff⟩ := mem_buildFinalityData hfd
    have hreq := (checkFinality_eq_some (paymentFinality_eq_some hs)).2.1
    exact ⟨s, hs, hreq ▸ hiff.mp hfin⟩
  rcases sent.execution with ⟨-, -, hx⟩ | ⟨-, hx⟩
  · obtain ⟨s, hs, hle⟩ := hblock _ hx
    rw [sent.endpoint, ← hdepths ep (mem_of_mem_approved planned approved)]
    rw [hs]
    exact hle
  · -- a realtime row compares with the depth of the chain, and then the row is not pending
    obtain ⟨s, hs, hle⟩ := hblock none hx
    have hfin := (checkFinality_eq_some (paymentFinality_eq_some hs)).2.2.mpr hle
    rw [eventRow_ingested_status, hs] at hstatus
    simp [hfin] at hstatus

theorem Covered.of_no_stage {e : Emission}
    (h' : e.execution.state.stage = none ∧ e.execution.finality = none) (row : EventRow) :
    Covered D h row e := by
  refine Covered.of_silent ?_ h'.2 D h row
  intro n hn
  rw [h'.1] at hn
  cases hn

/-- What the step sends fits the rows after it. -/
theorem Told.covered_new (hT : Told D h) (ha : KeepsOrder D h a) {row : EventRow}
    (hrow : (keeperStep h.world a).events.get? row.id = some row) {e : Emission}
    (he : e ∈ newMessages h.world a) (hevent : e.event = row.id) :
    Covered D (orderStep h a) row e := by
  cases emitted_of_mem_newMessages he with
  | preConfirmed _ _ planned _ sent =>
    have htype := (planDispatch_spec planned).2.1
    have hx : e.execution = deriveExecutionMetadata .paymentPreConfirmed none := by
      rcases sent.execution with ⟨-, -, hx⟩ | ⟨-, hx⟩ <;> rw [hx, htype] <;> rfl
    refine Covered.of_silent ?_ (by rw [hx]; rfl) D _ row
    intro n hn
    rw [hx] at hn
    exact (Option.some.inj hn).symm
  | @ingested env unified t endpoints plan ep _ free fetched planned approved sent =>
    -- the event is new, so its row is the one that the step recorded
    have hid : row.id = h.world.uuids := hevent.symm.trans sent.event
    rcases keeperStep_events h.world _ row.id with hsame | ⟨new, hnew, hwrite⟩
    · rw [hsame, hid, hT.fresh.get?_uuids] at hrow
      cases hrow
    · obtain rfl := Option.some.inj (hnew.symm.trans hrow)
      cases hwrite with
      | ingested _ _ _ =>
        obtain ⟨-, hdepths⟩ := fetched_of_steadyDepths ha.steady.1 ha.steady.2 fetched
        exact covered_ingested hdepths planned approved sent _
      | promoted merged =>
        obtain ⟨claim, hclaim, -⟩ := promotedRow_spec (promotedRow_of_mergedRow merged)
        rw [free] at hclaim
        cases hclaim
  | @promoted env unified t old ep _ promotes _ _ sent =>
    have hmerged := merged_of_message he promotes
    have hid : row.id = old.id := hevent.symm.trans sent.event
    rw [hid, keeperStep_merged unified hmerged] at hrow
    obtain rfl := Option.some.inj hrow
    refine ⟨?_, (by intro h'; cases h'), (by intro h'; cases h'), ?_⟩
    · rintro (h' | h') <;> cases h'
    · intro _ f hf
      obtain ⟨s, hs, hsame⟩ := sent.confirmations hf
      have hshown := recordPromotion_merged unified hmerged
      exact Or.inr ⟨_, hshown, s, hs, hsame.le⟩
  | @transitioned env chain read _ _ d ep _ pending _ _ moves dispatch linked sent =>
    obtain ⟨hev, hconf, hfinalized, hconfirmed⟩ :=
      transitioned_spec ha.steady pending dispatch linked sent
    rw [hevent.symm.trans hev] at hrow
    obtain ⟨hpolled, -⟩ := polled_of_get? pending hrow
    have hle := hT.depth_le ha.rises pending hrow
    -- the message fits the row as it was read, and so the row as it is now
    have hcov : Covered D (orderStep h (.poll env chain)) read e := by
      refine ⟨?_, fun _ f hf => (hconf f hf).le, ?_, fun _ f hf => Or.inl (hconf f hf).le⟩
      · intro h'
        rcases (mem_polledRows pending).1 with hst | hst <;> simp [EventRow.Announced, hst] at h'
      · intro hst hfinal chain' hvalue
        obtain rfl : chain = chain' :=
          ChainId.value_injective ((mem_polledRows pending).2.2.symm.trans hvalue)
        rcases moves with ⟨-, -, htype⟩ | ⟨hst', -, -⟩
        · by_contra hnot
          rw [hconfirmed htype, if_neg hnot] at hfinal
          cases hfinal
        · rw [hst] at hst'
          cases hst'
    exact hcov.polled hpolled (mem_polledRows pending).1 hle
  | reorged _ _ dispatch _ sent => exact Covered.of_no_stage (reorged_silent dispatch sent) row
  | expired _ _ dispatch _ sent => exact Covered.of_no_stage (expired_silent dispatch sent) row

/-- **A new message may follow every earlier one** about its event to its endpoint. -/
theorem Told.follows (hT : Told D h) (ha : KeepsOrder D h a) {e e' : Emission}
    (he : e ∈ h.world.outbox) (he' : e' ∈ newMessages h.world a) : FollowsInKind e e' := by
  intro hevent hid
  have hdrawn : e'.event < h.world.uuids := hevent ▸ hT.drawn e he
  cases emitted_of_mem_newMessages he' with
  | preConfirmed _ _ _ _ sent =>
    rw [sent.event] at hdrawn
    exact absurd hdrawn (Nat.lt_irrefl _)
  | ingested _ _ _ _ sent =>
    rw [sent.event] at hdrawn
    exact absurd hdrawn (Nat.lt_irrefl _)
  | @promoted env unified t old ep _ promotes _ _ sent =>
    -- nothing but the announcement has been sent so far
    have hmerged := merged_of_message he' promotes
    have hev : e.event = old.id := hevent.trans sent.event
    obtain ⟨hstage, hfinality⟩ :=
      (hT.covered _ old (get?_of_promotedRow promotes) e he hev).announced
        (hT.announced_of_merged ha.honoured hmerged)
    constructor
    · intro n hn n' _
      rw [hstage n hn]
      exact Nat.zero_le n'
    · intro f hf
      rw [hfinality] at hf
      cases hf
  | @transitioned env chain row _ _ d ep _ pending canonical reached moves dispatch linked sent =>
    obtain ⟨hev', hconf, hfinalized, hconfirmed⟩ :=
      transitioned_spec ha.steady pending dispatch linked sent
    have hrecon := (transitionDispatch_spec pending dispatch).1
    have hread := (polledRows_snapshot env h.world chain).read row pending
    have hcov := hT.covered _ row hread e he (hevent.trans hev')
    have hchain := (mem_polledRows pending).2.2
    constructor
    · intro n hn n' hn'
      rcases moves with ⟨hst, -, htype⟩ | ⟨-, -, htype⟩
      · rw [hconfirmed htype, ← hid] at hn'
        by_cases hfinal : e.execution.state = .finalized
        · rw [if_pos (hcov.pending_final hst hfinal chain hchain)] at hn'
          rw [hfinal] at hn
          exact (Option.some.inj (hn.symm.trans hn')).le
        · -- before `finalized` there are only the stages zero and one
          have hn1 : n ≤ 1 := by
            cases hstate : e.execution.state <;> rw [hstate] at hn hfinal <;> cases hn <;> simp_all
          split_ifs at hn' <;> cases hn' <;> omega
      · rw [hfinalized htype] at hn'
        have hn2 : n ≤ 2 := by
          cases hstate : e.execution.state <;> rw [hstate] at hn <;> cases hn <;> simp
        cases hn'
        exact hn2
    · intro f hf f' hf'
      rw [hconf f' hf']
      rcases (mem_polledRows pending).1 with hst | hst
      · exact hcov.pending hst f hf
      · rcases hcov.confirmed hst f hf with hle | ⟨shown, hshown, s, hs, hle⟩
        · exact hle
        · exact hle.trans
            (ha.honoured row pending ⟨canonical, reached, hrecon⟩ shown hshown s hs)
  | reorged _ _ dispatch _ sent => exact Follows.of_no_stage (reorged_silent dispatch sent)
  | expired _ _ dispatch _ sent => exact Follows.of_no_stage (expired_silent dispatch sent)

/-- Every step that meets the condition keeps the invariant. -/
theorem Told.step (hT : Told D h) (ha : KeepsOrder D h a) : Told D (orderStep h a) where
  fresh := hT.fresh.step a
  drawn := by
    intro e he
    change e ∈ (keeperStep h.world a).outbox at he
    rw [keeperStep_outbox_eq] at he
    rcases List.mem_append.mp he with he | he
    · exact (hT.drawn e he).trans_le (keeperStep_uuids h.world a)
    · exact hT.fresh.message he
  claims := by
    intro key claim row hclaim hsource hevent hnone hrow
    exact hT.claims_step hclaim hsource hevent hnone hrow
  stored := fun _ _ hrow => hT.stored_step ha hrow
  covered := by
    intro id row hrow e he hevent
    obtain rfl : row.id = id := KeyedTable.key_of_get? hrow
    change e ∈ (keeperStep h.world a).outbox at he
    rw [keeperStep_outbox_eq] at he
    rcases List.mem_append.mp he with he | he
    · exact hT.covered_old ha hrow he hevent
    · exact hT.covered_new ha hrow he hevent
  ordered := by
    show (keeperStep h.world a).outbox.Pairwise FollowsInKind
    rw [keeperStep_outbox_eq, List.pairwise_append]
    refine ⟨hT.ordered, ?_, fun e he e' he' => hT.follows ha he he'⟩
    refine List.pairwise_of_forall_mem_list ?_
    intro e he e' he' hevent hid
    exact Follows.of_execution_eq (execution_eq_of_emitted ha.steady
      (emitted_of_mem_newMessages he) (emitted_of_mem_newMessages he') hevent hid)

end Step

/-! ### The theorem -/

/-- **The outputs are in order.** In every run whose steps meet the condition, the payloads about
each event to each endpoint run through the lifecycle forward, and their confirmations do not
decrease. -/
theorem outputsInOrder_of_run {D : EndpointId → Option ℤ} {as : List KeeperAction}
    (hmeets : Machine.Meets orderStep (KeepsOrder D) {} as) :
    OutputsInOrder (Machine.run keeperStep {} as).outbox := by
  have hT : Told D (Machine.run orderStep {} as) :=
    Machine.run_induction (fun _ _ hT ha => hT.step ha) (told_empty D) hmeets
  have hworld : (Machine.run orderStep {} as).world = Machine.run keeperStep {} as :=
    Machine.run_map (π := History.world) (fun _ _ => rfl) {} as
  rw [← hworld]
  exact outputsInOrder_of_pairwise hT.ordered

namespace Sample

/-- The run in which the payment is announced, its log is merged at height 101, and poll cycles
follow at some heights. -/
def promotedThenPolled (heights : List ℤ) : List KeeperAction :=
  [register {}, .facilitator (height 99) announced,
    .goldsky (height 101) false (.ok (onchain 100))] ++
    heights.map fun n => .poll (height n) .base

end Sample

/-- With a poll cycle at height 102, which stores two confirmations, before the one at height 103
that finalizes the payment. -/
theorem outputsInOrder_of_run_stored :
    (∃ e ∈ (Machine.run keeperStep {} (Sample.promotedThenPolled [102, 103])).outbox,
        e.execution.state = .finalized) ∧
      OutputsInOrder (Machine.run keeperStep {} (Sample.promotedThenPolled [102, 103])).outbox :=
  ⟨by decide +kernel, outputsInOrder_of_run (D := fun _ => none) (by decide +kernel)⟩

/-- Without it, the promotion shows one confirmation and the finalization none. -/
theorem not_outputsInOrder_unstored :
    ¬ OutputsInOrder (Machine.run keeperStep {} (Sample.promotedThenPolled [103])).outbox := by
  intro h
  obtain ⟨-, hconf⟩ := h 0 (Sample.endpoint {}).id
  revert hconf
  decide +kernel

-- The other path: the log is delivered again after the finalization, and the RPC does not answer.
example :
    ¬ StatesInOrder (payloadsTo (Machine.run keeperStep {}
      (Sample.promotedThenPolled [102, 103] ++
        [.goldsky { Sample.height 104 with raises := fun c => c = .blockNumber } false
          (.ok (Sample.onchain 100))])).outbox 0 (Sample.endpoint {}).id) := by
  decide +kernel

end TripWire
