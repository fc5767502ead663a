import TripWire.Ingestion.Stages
import TripWire.Keeper.Nonces

/-!
# The facilitator's delivery and Goldsky's, interleaved

Both deliveries of one authorization run at the same time, stage by stage and in any order.  The
first to claim the nonce records the event: the facilitator as `pre_confirmed`, for Goldsky to
promote, or Goldsky itself, as `confirmed` when the block is final for the chain and as `pending`
otherwise.

`Orderly` is what the outcome needs of the interleaving: no call fails, no policy raises, and
Goldsky's promotion comes after the facilitator's insertion.  The invariant `Phase` follows the two
deliveries; `onchain_of_race` reads the outcome off it.
-/

namespace TripWire

open Py

/-! ### The race -/

/-- Two deliveries of one authorization under way. -/
structure Race where
  world : World
  /-- The facilitator's delivery. -/
  announced : Stage := .claim
  /-- Goldsky's delivery. -/
  onchain : Stage := .claim

/-- Whose call comes next, and what the outside world answers to it. -/
structure Turn where
  source : NonceSource
  env : Env

/-- The facilitator announces `t`. -/
def announcement (t : ERC3009Transfer) : Delivery := { source := .facilitator, transfer := t }

/-- Goldsky delivers the log of `t` to one of the two handlers. -/
def logDelivery (unified : Bool) (t : ERC3009Transfer) : Delivery :=
  { source := .goldsky, transfer := t, unified }

/-- One call: the facilitator's delivery is of `f`, Goldsky's of `g`. -/
def raceStep (f g : ERC3009Transfer) (unified : Bool) (s : Race) (a : Turn) : Race :=
  match a.source with
  | .facilitator =>
    let (w, stage) := stageStep a.env (announcement f) s.world s.announced
    { s with world := w, announced := stage }
  | .goldsky =>
    let (w, stage) := stageStep a.env (logDelivery unified g) s.world s.onchain
    { s with world := w, onchain := stage }

/-- Both deliveries have returned. -/
def Race.over (s : Race) : Bool := s.announced.isDone && s.onchain.isDone

/-- The stages that come after the insertion or the promotion: they only send and log. -/
def Stage.finishing : Stage → Bool
  | .link .. => true
  | .deliver .. => true
  | .report _ => true
  | .done _ => true
  | _ => false

/-- The policies of the endpoints that the stage is about to fetch do not raise. -/
def Plans (env : Env) (t : ERC3009Transfer) (w : World) : Stage → Prop
  | .fetch c identity => ∀ endpoints ∈ (fetchMatchingEndpoints env w t).toOption,
      (planDispatch t c.finality identity c.eventTypeOverride endpoints).toBool = true
  | _ => True

instance (env : Env) (t : ERC3009Transfer) (w : World) : ∀ stage, Decidable (Plans env t w stage)
  | .fetch c identity =>
    inferInstanceAs (Decidable (∀ endpoints ∈ (fetchMatchingEndpoints env w t).toOption,
      (planDispatch t c.finality identity c.eventTypeOverride endpoints).toBool = true))
  | .claim | .finality | .identify _ | .record .. | .link .. | .deliver .. | .promote _ | .report _
  | .done _ => isTrue trivial

/-- Whether the next call is the promotion. -/
def Stage.promoting : Stage → Bool
  | .promote _ => true
  | _ => false

/-- No policy raises, and Goldsky promotes only after the facilitator's insertion. -/
def InOrder (f g : ERC3009Transfer) (s : Race) (a : Turn) : Prop :=
  match a.source with
  | .facilitator => Plans a.env f s.world s.announced
  | .goldsky => Plans a.env g s.world s.onchain ∧
      (s.onchain.promoting = true → s.announced.finishing = true)

instance (f g : ERC3009Transfer) (s : Race) : ∀ a, Decidable (InOrder f g s a)
  | ⟨.facilitator, env⟩ => inferInstanceAs (Decidable (Plans env f s.world s.announced))
  | ⟨.goldsky, env⟩ => inferInstanceAs (Decidable (Plans env g s.world s.onchain ∧
      (s.onchain.promoting = true → s.announced.finishing = true)))

/-- A call that does not fail, in order. -/
structure Orderly (f g : ERC3009Transfer) (s : Race) (a : Turn) : Prop where
  healthy : a.env.Healthy s.world
  inOrder : InOrder f g s a

/-! ### What a stage does -/

/-- The delivery has claimed the nonce for the call `c` and is on its way to the insertion. -/
def Stage.Preparing (w : World) (c : TransferCall) : Stage → Prop
  | .identify c' => c' = c
  | .fetch c' _ => c' = c
  | .record c' _ _ plan => c' = c ∧
      plan.type = c.eventTypeOverride.getD (defaultEventType c.finality) ∧
      ∀ ep ∈ plan.matched, w.endpoints.get? ep.id ≠ none
  | _ => False

theorem preparing_congr {w w' : World} (h : w'.endpoints = w.endpoints) {c : TransferCall}
    {stage : Stage} (hprep : stage.Preparing w c) : stage.Preparing w' c := by
  cases stage with
  | record c' identity endpoints plan =>
    refine ⟨hprep.1, hprep.2.1, ?_⟩
    rw [h]
    exact hprep.2.2
  | _ => exact hprep

/-- The endpoints a healthy fetch returns are rows of the table. -/
theorem recorded_of_fetchMatchingEndpoints {env : Env} {w : World} {t : ERC3009Transfer}
    {endpoints : List Endpoint} (henv : env.Healthy w)
    (h : fetchMatchingEndpoints env w t = .ok endpoints) :
    ∀ ep ∈ endpoints, w.endpoints.get? ep.id ≠ none := by
  unfold fetchMatchingEndpoints at h
  split at h
  · rename_i cached hcache
    obtain rfl := Except.ok.inj h
    exact henv.cache cached hcache
  · rw [henv.raises, if_neg Bool.false_ne_true] at h
    obtain rfl := Except.ok.inj h
    intro ep hep
    have hrow := KeyedTable.get?_of_mem (List.mem_filter.mp hep).1
    rw [hrow]
    exact Option.some_ne_none ep

/-- **The way to the insertion.** A stage before the insertion changes nothing and stays before it,
or it is the insertion, which succeeds if the id is free. -/
theorem preparing_step {env : Env} {d : Delivery} {w : World} {c : TransferCall} {stage : Stage}
    (henv : env.Healthy w) (hplans : Plans env d.transfer w stage) (hprep : stage.Preparing w c) :
    ((stageStep env d w stage).1 = w ∧ (stageStep env d w stage).2.Preparing w c) ∨
      ∃ endpointId, (∀ eid ∈ endpointId, w.endpoints.get? eid ≠ none) ∧
        (stageStep env d w stage).1 = recordEvent env (chooseEventId w c.eventId).1
          (eventRow env.now (chooseEventId w c.eventId).2 d.transfer c.finality
            (c.eventTypeOverride.getD (defaultEventType c.finality)) endpointId) ∧
        (stageStep env d w stage).2.finishing = true := by
  cases stage with
  | identify c' => exact Or.inl ⟨rfl, hprep⟩
  | fetch c' identity =>
    left
    obtain rfl : c' = c := hprep
    cases hfetch : fetchMatchingEndpoints env w d.transfer with
    | error e =>
      unfold fetchMatchingEndpoints at hfetch
      split at hfetch
      · cases hfetch
      · rw [henv.raises, if_neg Bool.false_ne_true] at hfetch
        cases hfetch
    | ok endpoints =>
      have hok := hplans endpoints (by rw [hfetch]; rfl)
      cases hplan : planDispatch d.transfer c'.finality identity c'.eventTypeOverride endpoints with
      | error e =>
        rw [hplan] at hok
        cases hok
      | ok plan =>
        obtain ⟨hmatched, htype, -⟩ := planDispatch_spec hplan
        simp only [stageStep, hfetch, hplan]
        refine ⟨trivial, rfl, htype, ?_⟩
        intro ep hep
        rw [hmatched] at hep
        exact recorded_of_fetchMatchingEndpoints henv hfetch ep (List.mem_filter.mp hep).1
  | record c' identity endpoints plan =>
    -- the legacy `endpoint_id` column is a foreign key: the first match has to be a known endpoint
    right
    obtain ⟨rfl, htype, hmatched⟩ := hprep
    refine ⟨plan.matched.head?.map (·.id), ?_, ?_, rfl⟩
    · intro eid heid
      obtain ⟨ep, hep, rfl⟩ := Option.map_eq_some_iff.mp heid
      exact hmatched ep (List.mem_of_mem_head? hep)
    · rw [← htype]
      rfl
  | _ => cases hprep

/-- What a finishing stage leaves alone; ids may be drawn. -/
structure Kept (w w' : World) : Prop where
  events : w'.events = w.events
  nonces : w'.nonces = w.nonces
  endpoints : w'.endpoints = w.endpoints
  uuids : w.uuids ≤ w'.uuids

/-- **The last stages.** After the insertion or the promotion a delivery writes to neither the
events nor the nonces. -/
theorem finishing_step (env : Env) (d : Delivery) (w : World) {stage : Stage}
    (h : stage.finishing = true) :
    Kept w (stageStep env d w stage).1 ∧ (stageStep env d w stage).2.finishing = true := by
  cases stage with
  | link c identity endpoints plan id =>
    obtain ⟨l, hl⟩ := linkStage_frame env w id plan
    refine ⟨?_, rfl⟩
    simp only [stageStep, hl]
    exact ⟨rfl, rfl, rfl, le_rfl⟩
  | deliver c identity endpoints plan id =>
    obtain ⟨ems, ds, hw, -⟩ := deliver_spec env w (c.dispatch d.transfer identity plan id)
      plan.approved
    refine ⟨?_, rfl⟩
    simp only [stageStep, hw]
    exact ⟨rfl, rfl, rfl, le_rfl⟩
  | report row =>
    obtain ⟨ems, ds, hw, -⟩ := dispatchPromotion_spec env w row d.transfer
    refine ⟨?_, rfl⟩
    simp only [stageStep, hw]
    exact ⟨rfl, rfl, rfl, le_rfl⟩
  | done result => exact ⟨⟨rfl, rfl, rfl, le_rfl⟩, rfl⟩
  | _ => cases h

/-- A healthy insertion of a row with a new id. -/
theorem recordEvent_of_new {env : Env} {w : World} {row : EventRow} (henv : env.Healthy w)
    (hnew : w.events.get? row.id = none)
    (hep : ∀ eid ∈ row.endpointId, w.endpoints.get? eid ≠ none) :
    ∃ table, recordEvent env w row = { w with events := table } ∧
      ∀ k, table.get? k = if row.id = k then some row else w.events.get? k := by
  have hall : row.endpointId.all (fun eid => (w.endpoints.get? eid).isSome) = true := by
    cases hid : row.endpointId with
    | none => rfl
    | some eid => exact Option.ne_none_iff_isSome.mp (hep eid (by rw [hid]; rfl))
  cases hins : w.events.insert? row with
  | none => exact absurd hnew (KeyedTable.insert?_eq_none_iff.mp hins)
  | some table =>
    refine ⟨table, ?_, KeyedTable.get?_insert?_some hins⟩
    rw [recordEvent, henv.raises, if_neg Bool.false_ne_true, World.insertEvent, if_pos hall, hins]
    rfl

/-! ### The invariant -/

/-- The row carries the onchain columns of `t`. -/
def Onchain (t : ERC3009Transfer) (row : EventRow) : Prop :=
  row.txHash = some t.txHash ∧ row.blockNumber = some t.blockNumber ∧
    row.blockHash = some t.blockHash ∧ row.logIndex = some t.logIndex

/-- Goldsky's own recording: `confirmed` at the chain's depth, `pending` below it. -/
def IngestedStatus (t : ERC3009Transfer) (row : EventRow) : Prop :=
  (row.status = .confirmed ∧ finalityDepths t.chainId ≤ row.finalityDepth) ∨
    (row.status = .pending ∧ row.finalityDepth < finalityDepths t.chainId)

/-- What a finality lookup of Goldsky's delivery can answer. -/
def Looked (t : ERC3009Transfer) (finality : Option FinalityStatus) : Prop :=
  ∀ f ∈ finality, f.isFinalized = decide (finalityDepths t.chainId ≤ f.confirmations)

/-- Where the two deliveries stand.  `first` is the first id that was free when the race began
and `g` the transfer of Goldsky's log. -/
inductive Phase (first : EventId) (g : ERC3009Transfer) (s : Race) : Prop
  | free (announced : s.announced = .claim) (onchain : s.onchain = .claim)
      (free : s.world.activeClaim g.nonceKey = none)
  /-- The facilitator has claimed the nonce and not recorded the event yet. -/
  | announcing (id : EventId) (new : first ≤ id) (drawn : id < s.world.uuids)
      (held : HeldBy s.world g.nonceKey .facilitator (some id))
      (announced : s.announced.Preparing s.world (announcedCall id))
      (onchain : s.onchain = .claim ∨ s.onchain = .promote id)
      (missing : s.world.events.get? id = none)
  /-- The facilitator has recorded the event and Goldsky has not promoted it yet. -/
  | announced (row : EventRow) (new : first ≤ row.id)
      (held : HeldBy s.world g.nonceKey .facilitator (some row.id))
      (announced : s.announced.finishing = true)
      (onchain : s.onchain = .claim ∨ s.onchain = .promote row.id)
      (recorded : s.world.events.get? row.id = some row)
      (key : row.nonceKey? = some g.nonceKey)
  /-- Goldsky has promoted the facilitator's event. -/
  | merged (row : EventRow) (new : first ≤ row.id)
      (held : HeldBy s.world g.nonceKey .facilitator (some row.id))
      (announced : s.announced.finishing = true) (onchain : s.onchain.finishing = true)
      (recorded : s.world.events.get? row.id = some row)
      (key : row.nonceKey? = some g.nonceKey) (columns : Onchain g row)
      (status : row.status = .confirmed)
  /-- Goldsky has claimed the nonce and not recorded the event yet. -/
  | ingesting (held : HeldBy s.world g.nonceKey .goldsky none)
      (announced : s.announced = .claim ∨ s.announced.finishing = true)
      (onchain : s.onchain = .finality ∨ ∃ finality height, Looked g finality ∧
        s.onchain.Preparing s.world { finality, height })
  /-- Goldsky has recorded the event. -/
  | ingested (row : EventRow) (new : first ≤ row.id)
      (held : HeldBy s.world g.nonceKey .goldsky none)
      (announced : s.announced = .claim ∨ s.announced.finishing = true)
      (onchain : s.onchain.finishing = true)
      (recorded : s.world.events.get? row.id = some row)
      (key : row.nonceKey? = some g.nonceKey) (columns : Onchain g row)
      (status : IngestedStatus g row)

/-- The invariant of the race. -/
structure RaceInv (first : EventId) (g : ERC3009Transfer) (s : Race) : Prop where
  fresh : ∀ id row, s.world.events.get? id = some row → id < s.world.uuids
  drawn : first ≤ s.world.uuids
  phase : Phase first g s

theorem heldBy_congr {w w' : World} (h : w'.nonces = w.nonces) {key : NonceKey}
    {source : NonceSource} {eventId : Option EventId} (hheld : HeldBy w key source eventId) :
    HeldBy w' key source eventId := by
  obtain ⟨claim, hclaim, hrest⟩ := hheld
  exact ⟨claim, (World.activeClaim_congr h key).trans hclaim, hrest⟩

/-- The status of the row Goldsky records. -/
theorem ingestedStatus_eventRow (now : ℤ) (id : EventId) {t : ERC3009Transfer}
    {finality : Option FinalityStatus} (h : Looked t finality) (endpointId : Option EndpointId) :
    IngestedStatus t (eventRow now id t finality (defaultEventType finality) endpointId) := by
  -- an unknown status is stored as depth zero, which is below the depth of every chain
  have hpositive : 0 < finalityDepths t.chainId := by cases t.chainId <;> decide
  cases finality with
  | none => exact Or.inr ⟨rfl, hpositive⟩
  | some s =>
    have hfin := h s rfl
    by_cases hdepth : finalityDepths t.chainId ≤ s.confirmations
    · rw [decide_eq_true hdepth] at hfin
      refine Or.inl ⟨?_, hdepth⟩
      simp [eventRow, defaultEventType, hfin]
    · rw [decide_eq_false hdepth] at hfin
      refine Or.inr ⟨?_, lt_of_not_ge hdepth⟩
      simp [eventRow, defaultEventType, hfin]

theorem looked_paymentFinality (env : Env) (unified : Bool) (t : ERC3009Transfer) :
    Looked t (paymentFinality env unified t) := by
  intro s hs
  have hfin := (checkFinality_eq_some (paymentFinality_eq_some hs)).2.2
  rw [Bool.eq_iff_iff, decide_eq_true_iff]
  exact hfin

/-! ### The first stage -/

/-- A facilitator that finds the nonce free claims it with the id it drew. -/
theorem announcement_of_free {env : Env} {w : World} {f : ERC3009Transfer} (henv : env.Healthy w)
    (hfree : w.activeClaim f.nonceKey = none) :
    ∃ table, stageStep env (announcement f) w .claim =
        ({ w with uuids := w.uuids + 1, nonces := table }, .identify (announcedCall w.uuids)) ∧
      HeldBy { w with uuids := w.uuids + 1, nonces := table } f.nonceKey .facilitator
        (some w.uuids) := by
  have hfree' : w.uuid4.1.activeClaim f.nonceKey = none := hfree
  obtain ⟨table, htable⟩ := w.uuid4.1.recordNonceOrCorrelate_frame env.now f.nonceKey
    (some w.uuids) .facilitator
  have hnew := (@World.recordNonceOrCorrelate_of_free _ env.now _ (some w.uuids) .facilitator
    hfree').1
  have hclaim := @World.activeClaim_of_free _ env.now _ (some w.uuids) .facilitator hfree'
  rw [htable] at hclaim
  have hanswer : w.uuid4.1.recordNonceOrCorrelate env.now f.nonceKey (some w.uuids) .facilitator =
      ({ w with uuids := w.uuids + 1, nonces := table }, { isNew := true }) :=
    Prod.ext htable hnew
  refine ⟨table, ?_, _, hclaim, rfl, rfl⟩
  have hid : w.uuid4.2 = w.uuids := rfl
  simp only [stageStep, claimStage, announcement, henv.raises, hid, hanswer, Bool.false_eq_true,
    if_false, if_true]

/-- A facilitator that finds the nonce held returns. -/
theorem announcement_of_held {env : Env} {w : World} {f : ERC3009Transfer} {source : NonceSource}
    {eventId : Option EventId} (henv : env.Healthy w)
    (hheld : HeldBy w f.nonceKey source eventId) :
    ∃ result, stageStep env (announcement f) w .claim =
      ({ w with uuids := w.uuids + 1 }, .done result) := by
  obtain ⟨claim, hclaim, -⟩ := hheld
  have hclaim' : w.uuid4.1.activeClaim f.nonceKey = some claim := hclaim
  have hanswer := @World.recordNonceOrCorrelate_of_claimed _ env.now _ (some w.uuids) .facilitator _
    hclaim'
  have hid : w.uuid4.2 = w.uuids := rfl
  refine ⟨.ok { status := .duplicate, txHash := some f.txHash }, ?_⟩
  simp only [stageStep, claimStage, announcement, henv.raises, hid, hanswer, Bool.false_eq_true,
    if_false]
  rfl

/-- A log that finds the nonce free claims it without an event id. -/
theorem logDelivery_of_free {env : Env} {w : World} {g : ERC3009Transfer} (unified : Bool)
    (henv : env.Healthy w) (hfree : w.activeClaim g.nonceKey = none) :
    ∃ table, stageStep env (logDelivery unified g) w .claim =
        ({ w with nonces := table }, .finality) ∧
      HeldBy { w with nonces := table } g.nonceKey .goldsky none := by
  obtain ⟨table, htable⟩ := w.recordNonceOrCorrelate_frame env.now g.nonceKey none .goldsky
  have hnew := (@World.recordNonceOrCorrelate_of_free _ env.now _ none .goldsky hfree).1
  have hclaim := @World.activeClaim_of_free _ env.now _ none .goldsky hfree
  rw [htable] at hclaim
  have hanswer : w.recordNonceOrCorrelate env.now g.nonceKey none .goldsky =
      ({ w with nonces := table }, { isNew := true }) := Prod.ext htable hnew
  refine ⟨table, ?_, _, hclaim, rfl, rfl⟩
  simp only [stageStep, claimStage, logDelivery, henv.raises, hanswer, Bool.false_eq_true, if_false,
    if_true]

/-- A log that finds the nonce in the facilitator's hands goes on to promote its event. -/
theorem logDelivery_of_announced {env : Env} {w : World} {g : ERC3009Transfer} {id : EventId}
    (unified : Bool) (henv : env.Healthy w)
    (hheld : HeldBy w g.nonceKey .facilitator (some id)) :
    stageStep env (logDelivery unified g) w .claim = (w, .promote id) := by
  obtain ⟨claim, hclaim, hsource, hevent⟩ := hheld
  have hanswer := @World.recordNonceOrCorrelate_of_claimed _ env.now _ none .goldsky _ hclaim
  simp only [stageStep, claimStage, logDelivery, henv.raises, hanswer, hsource, hevent,
    Bool.false_eq_true, if_false]

/-- A promotion of a recorded row rewrites it. -/
theorem promote_of_recorded {env : Env} {w : World} {g : ERC3009Transfer} {row : EventRow}
    (unified : Bool) (henv : env.Healthy w) (hrow : w.events.get? row.id = some row) :
    stageStep env (logDelivery unified g) w (.promote row.id) =
      ((w.promoteToConfirmed env.now row.id g).1, .report (row.promoted env.now g)) := by
  have hget := w.get?_promoteToConfirmed env.now row.id g row.id
  rw [if_pos rfl, hrow] at hget
  have hpair : w.promoteToConfirmed env.now row.id g =
      ((w.promoteToConfirmed env.now row.id g).1, some (row.promoted env.now g)) :=
    Prod.ext rfl hget
  simp only [stageStep, logDelivery, henv.raises, Bool.false_eq_true, if_false]
  rw [hpair]

/-! ### Every call keeps the invariant -/

section Step

variable {first : EventId} {f g : ERC3009Transfer} {unified : Bool} {s : Race} {env : Env}

theorem RaceInv.kept {w : World} (h : RaceInv first g s) (hw : Kept s.world w) :
    RaceInv first g { s with world := w } := by
  have hheld : ∀ {source eventId}, HeldBy s.world g.nonceKey source eventId →
      HeldBy w g.nonceKey source eventId := heldBy_congr hw.nonces
  have hget : ∀ id, w.events.get? id = s.world.events.get? id := fun id => by rw [hw.events]
  refine ⟨fun id row hrow => ?_, h.drawn.trans hw.uuids, ?_⟩
  · exact (h.fresh id row ((hget id).symm.trans hrow)).trans_le hw.uuids
  cases h.phase with
  | free announced onchain free =>
    exact .free announced onchain ((World.activeClaim_congr hw.nonces _).trans free)
  | announcing id new drawn held announced onchain missing =>
    exact .announcing id new (drawn.trans_le hw.uuids) (hheld held)
      (preparing_congr hw.endpoints announced) onchain ((hget id).trans missing)
  | announced row new held announced onchain recorded key =>
    exact .announced row new (hheld held) announced onchain ((hget _).trans recorded) key
  | merged row new held announced onchain recorded key columns status =>
    exact .merged row new (hheld held) announced onchain
      ((hget _).trans recorded) key columns status
  | ingesting held announced onchain =>
    refine .ingesting (hheld held) announced (onchain.imp_right ?_)
    rintro ⟨finality, height, hlooked, hprep⟩
    exact ⟨finality, height, hlooked, preparing_congr hw.endpoints hprep⟩
  | ingested row new held announced onchain recorded key columns status =>
    exact .ingested row new (hheld held) announced onchain ((hget _).trans recorded) key columns
      status

/-- A stage on the way to the insertion is not a finishing one. -/
theorem finishing_of_preparing {w : World} {c : TransferCall} {stage : Stage}
    (h : stage.Preparing w c) : stage.finishing = false := by
  cases stage with
  | identify c' => rfl
  | fetch c' identity => rfl
  | record c' identity endpoints plan => rfl
  | _ => cases h

/-- The facilitator's delivery moves on among its last stages. -/
theorem RaceInv.announced_finishing {stage : Stage} (h : RaceInv first g s)
    (hnow : s.announced.finishing = true) (hnext : stage.finishing = true) :
    RaceInv first g { s with announced := stage } := by
  refine ⟨h.fresh, h.drawn, ?_⟩
  cases h.phase with
  | free announced onchain free =>
    rw [announced] at hnow
    cases hnow
  | announcing id new drawn held announced onchain missing =>
    rw [finishing_of_preparing announced] at hnow
    cases hnow
  | announced row new held announced onchain recorded key =>
    exact .announced row new held hnext onchain recorded key
  | merged row new held announced onchain recorded key columns status =>
    exact .merged row new held hnext onchain recorded key columns status
  | ingesting held announced onchain => exact .ingesting held (Or.inr hnext) onchain
  | ingested row new held announced onchain recorded key columns status =>
    exact .ingested row new held (Or.inr hnext) onchain recorded key columns status

/-- Goldsky's delivery moves on among its last stages. -/
theorem RaceInv.onchain_finishing {stage : Stage} (h : RaceInv first g s)
    (hnow : s.onchain.finishing = true) (hnext : stage.finishing = true) :
    RaceInv first g { s with onchain := stage } := by
  refine ⟨h.fresh, h.drawn, ?_⟩
  cases h.phase with
  | free announced onchain free =>
    rw [onchain] at hnow
    cases hnow
  | announcing id new drawn held announced onchain missing =>
    rcases onchain with onchain | onchain <;> rw [onchain] at hnow <;> cases hnow
  | announced row new held announced onchain recorded key =>
    rcases onchain with onchain | onchain <;> rw [onchain] at hnow <;> cases hnow
  | merged row new held announced onchain recorded key columns status =>
    exact .merged row new held announced hnext recorded key columns status
  | ingesting held announced onchain =>
    rcases onchain with onchain | ⟨finality, height, -, hprep⟩
    · rw [onchain] at hnow
      cases hnow
    · rw [finishing_of_preparing hprep] at hnow
      cases hnow
  | ingested row new held announced onchain recorded key columns status =>
    exact .ingested row new held announced hnext recorded key columns status

/-- The facilitator claims the nonce, or finds it held. -/
theorem RaceInv.announced_claim (h : RaceInv first g s) (hkey : f.nonceKey = g.nonceKey)
    (henv : env.Healthy s.world) (hclaim : s.announced = .claim) :
    RaceInv first g (raceStep f g unified s ⟨.facilitator, env⟩) := by
  have hdrawn : Kept s.world { s.world with uuids := s.world.uuids + 1 } :=
    ⟨rfl, rfl, rfl, Nat.le_succ _⟩
  simp only [raceStep, hclaim]
  cases h.phase with
  | free announced onchain free =>
    obtain ⟨table, hstep, hheld⟩ := announcement_of_free henv (hkey ▸ free)
    rw [hstep]
    rw [hkey] at hheld
    refine ⟨(h.kept hdrawn).fresh, (h.kept hdrawn).drawn, ?_⟩
    refine .announcing s.world.uuids h.drawn (Nat.lt_succ_self _) hheld rfl (Or.inl onchain) ?_
    cases hget : s.world.events.get? s.world.uuids with
    | none => rfl
    | some row => exact absurd (h.fresh _ row hget) (Nat.lt_irrefl _)
  | announcing id new drawn held announced onchain missing =>
    rw [hclaim] at announced
    cases announced
  | announced row new held announced onchain recorded key =>
    rw [hclaim] at announced
    cases announced
  | merged row new held announced onchain recorded key columns status =>
    rw [hclaim] at announced
    cases announced
  | ingesting held announced onchain =>
    obtain ⟨result, hstep⟩ := announcement_of_held henv (hkey.symm ▸ held)
    rw [hstep]
    exact ⟨(h.kept hdrawn).fresh, (h.kept hdrawn).drawn, .ingesting held (Or.inr rfl) onchain⟩
  | ingested row new held announced onchain recorded key columns status =>
    obtain ⟨result, hstep⟩ := announcement_of_held henv (hkey.symm ▸ held)
    rw [hstep]
    exact ⟨(h.kept hdrawn).fresh, (h.kept hdrawn).drawn,
      .ingested row new held (Or.inr rfl) onchain recorded key columns status⟩

/-- The facilitator prepares and makes its insertion. -/
theorem RaceInv.announced_insert {id : EventId} (h : RaceInv first g s)
    (hkey : f.nonceKey = g.nonceKey) (henv : env.Healthy s.world)
    (hplans : Plans env f s.world s.announced) (hnew : first ≤ id) (hdrawn : id < s.world.uuids)
    (hheld : HeldBy s.world g.nonceKey .facilitator (some id))
    (hprep : s.announced.Preparing s.world (announcedCall id))
    (honchain : s.onchain = .claim ∨ s.onchain = .promote id)
    (hmissing : s.world.events.get? id = none) :
    RaceInv first g (raceStep f g unified s ⟨.facilitator, env⟩) := by
  simp only [raceStep]
  rcases @preparing_step _ (announcement f) _ _ _ henv hplans hprep with
    ⟨hw, hnext⟩ | ⟨endpointId, hep, hw, hnext⟩
  · rw [hw]
    exact ⟨h.fresh, h.drawn, .announcing id hnew hdrawn hheld hnext honchain hmissing⟩
  · obtain ⟨table, hrec, htable⟩ := @recordEvent_of_new env s.world
      (eventRow env.now id f none .paymentPreConfirmed endpointId) henv hmissing (by
        intro eid heid
        exact hep eid (Option.mem_filter_iff.mp heid).1)
    have hw' : (stageStep env (announcement f) s.world s.announced).1 =
        { s.world with events := table } := hw.trans hrec
    rw [hw']
    refine ⟨?_, h.drawn, ?_⟩
    · intro k row hrow
      have hrow' : table.get? k = some row := hrow
      rw [htable] at hrow'
      split_ifs at hrow' with hk
      · exact hk ▸ hdrawn
      · exact h.fresh k row hrow'
    · refine .announced (eventRow env.now id f none .paymentPreConfirmed endpointId) hnew hheld
        hnext honchain ?_ ?_
      · exact (htable id).trans (if_pos rfl)
      · rw [nonceKey?_eventRow, hkey]

/-- **A call of the facilitator's delivery keeps the invariant.** -/
theorem RaceInv.announced_turn (h : RaceInv first g s) (hkey : f.nonceKey = g.nonceKey)
    (henv : env.Healthy s.world) (hplans : Plans env f s.world s.announced) :
    RaceInv first g (raceStep f g unified s ⟨.facilitator, env⟩) := by
  by_cases hfin : s.announced.finishing = true
  · obtain ⟨hkept, hnext⟩ := finishing_step env (announcement f) s.world hfin
    exact (h.kept hkept).announced_finishing hfin hnext
  · cases h.phase with
    | free announced onchain free => exact h.announced_claim hkey henv announced
    | announcing id new drawn held announced onchain missing =>
      exact h.announced_insert hkey henv hplans new drawn held announced onchain missing
    | announced row new held announced onchain recorded key => exact absurd announced hfin
    | merged row new held announced onchain recorded key columns status =>
      exact absurd announced hfin
    | ingesting held announced onchain =>
      exact h.announced_claim hkey henv (announced.resolve_right hfin)
    | ingested row new held announced onchain recorded key columns status =>
      exact h.announced_claim hkey henv (announced.resolve_right hfin)

/-- Goldsky finds the facilitator's claim and goes on to the promotion. -/
theorem RaceInv.onchain_correlate {id : EventId} (henv : env.Healthy s.world)
    (hheld : HeldBy s.world g.nonceKey .facilitator (some id)) (hclaim : s.onchain = .claim) :
    raceStep f g unified s ⟨.goldsky, env⟩ = { s with onchain := .promote id } := by
  simp only [raceStep, hclaim, logDelivery_of_announced unified henv hheld]

/-- Goldsky promotes the row that the facilitator recorded. -/
theorem RaceInv.onchain_promote {row : EventRow} (h : RaceInv first g s)
    (henv : env.Healthy s.world) (hnew : first ≤ row.id)
    (hheld : HeldBy s.world g.nonceKey .facilitator (some row.id))
    (hannounced : s.announced.finishing = true) (hpromote : s.onchain = .promote row.id)
    (hrow : s.world.events.get? row.id = some row) (hkey : row.nonceKey? = some g.nonceKey) :
    RaceInv first g (raceStep f g unified s ⟨.goldsky, env⟩) := by
  simp only [raceStep, hpromote, promote_of_recorded unified henv hrow]
  have hget := s.world.get?_promoteToConfirmed env.now row.id g
  refine ⟨?_, h.drawn, ?_⟩
  · intro k r hr
    have hr' := (hget k).symm.trans hr
    split_ifs at hr' with hk
    · obtain ⟨old, hold, -⟩ := Option.map_eq_some_iff.mp hr'
      exact h.fresh k old hold
    · exact h.fresh k r hr'
  · refine .merged (row.promoted env.now g) hnew hheld hannounced rfl ?_ hkey
      ⟨rfl, rfl, rfl, rfl⟩ rfl
    have hnow := hget row.id
    rw [if_pos rfl, hrow] at hnow
    exact hnow

/-- Goldsky prepares and makes its own insertion, with an id drawn on the spot. -/
theorem RaceInv.onchain_insert {finality : Option FinalityStatus} {height : Option ℤ}
    (h : RaceInv first g s) (henv : env.Healthy s.world) (hplans : Plans env g s.world s.onchain)
    (hheld : HeldBy s.world g.nonceKey .goldsky none)
    (hannounced : s.announced = .claim ∨ s.announced.finishing = true)
    (hlooked : Looked g finality) (hprep : s.onchain.Preparing s.world { finality, height }) :
    RaceInv first g (raceStep f g unified s ⟨.goldsky, env⟩) := by
  simp only [raceStep]
  rcases @preparing_step _ (logDelivery unified g) _ _ _ henv hplans hprep with
    ⟨hw, hnext⟩ | ⟨endpointId, hep, hw, hnext⟩
  · rw [hw]
    exact ⟨h.fresh, h.drawn,
      .ingesting hheld hannounced (Or.inr ⟨finality, height, hlooked, hnext⟩)⟩
  · have henv' : env.Healthy s.world.uuid4.1 := ⟨henv.raises, henv.cache⟩
    -- the next id is above every id in use
    have hmissing : s.world.events.get? s.world.uuids = none := by
      cases hget : s.world.events.get? s.world.uuids with
      | none => rfl
      | some row => exact absurd (h.fresh _ row hget) (Nat.lt_irrefl _)
    obtain ⟨table, hrec, htable⟩ := @recordEvent_of_new env s.world.uuid4.1
      (eventRow env.now s.world.uuids g finality (defaultEventType finality) endpointId) henv'
      hmissing (by
        intro eid heid
        exact hep eid (Option.mem_filter_iff.mp heid).1)
    have hw' : (stageStep env (logDelivery unified g) s.world s.onchain).1 =
        { s.world with uuids := s.world.uuids + 1, events := table } := hw.trans hrec
    rw [hw']
    refine ⟨?_, h.drawn.trans (Nat.le_succ _), ?_⟩
    · intro k row hrow
      have hrow' : table.get? k = some row := hrow
      rw [htable] at hrow'
      split_ifs at hrow' with hk
      · exact hk ▸ Nat.lt_succ_self _
      · exact (h.fresh k row hrow').trans_le (Nat.le_succ _)
    · exact .ingested _ h.drawn hheld hannounced hnext ((htable _).trans (if_pos rfl))
        (nonceKey?_eventRow ..) ⟨rfl, rfl, rfl, rfl⟩ (ingestedStatus_eventRow _ _ hlooked _)

/-- **A call of Goldsky's delivery keeps the invariant.** -/
theorem RaceInv.onchain_turn (h : RaceInv first g s) (henv : env.Healthy s.world)
    (hplans : Plans env g s.world s.onchain)
    (horder : s.onchain.promoting = true → s.announced.finishing = true) :
    RaceInv first g (raceStep f g unified s ⟨.goldsky, env⟩) := by
  by_cases hfin : s.onchain.finishing = true
  · obtain ⟨hkept, hnext⟩ := finishing_step env (logDelivery unified g) s.world hfin
    exact (h.kept hkept).onchain_finishing hfin hnext
  · cases h.phase with
    | free announced onchain free =>
      obtain ⟨table, hstep, hheld⟩ := logDelivery_of_free unified henv free
      simp only [raceStep, onchain, hstep]
      exact ⟨h.fresh, h.drawn, .ingesting hheld (Or.inl announced) (Or.inl rfl)⟩
    | announcing id new drawn held announced onchain missing =>
      rcases onchain with onchain | onchain
      · rw [RaceInv.onchain_correlate henv held onchain]
        exact ⟨h.fresh, h.drawn,
          .announcing id new drawn held announced (Or.inr rfl) missing⟩
      · -- the promotion would come before the insertion
        have hdone := horder (by rw [onchain]; rfl)
        rw [finishing_of_preparing announced] at hdone
        cases hdone
    | announced row new held announced onchain recorded key =>
      rcases onchain with onchain | onchain
      · rw [RaceInv.onchain_correlate henv held onchain]
        exact ⟨h.fresh, h.drawn, .announced row new held announced (Or.inr rfl) recorded key⟩
      · exact h.onchain_promote henv new held announced onchain recorded key
    | merged row new held announced onchain recorded key columns status =>
      exact absurd onchain hfin
    | ingesting held announced onchain =>
      rcases onchain with onchain | ⟨finality, height, hlooked, hprep⟩
      · simp only [raceStep, onchain]
        exact ⟨h.fresh, h.drawn, .ingesting held announced
          (Or.inr ⟨_, _, looked_paymentFinality env unified g, rfl⟩)⟩
      · exact h.onchain_insert henv hplans held announced hlooked hprep
    | ingested row new held announced onchain recorded key columns status =>
      exact absurd onchain hfin

end Step

/-- Every orderly call keeps the invariant. -/
theorem RaceInv.step {first : EventId} {f g : ERC3009Transfer} {unified : Bool} {s : Race}
    {a : Turn}
    (h : RaceInv first g s) (hkey : f.nonceKey = g.nonceKey) (ha : Orderly f g s a) :
    RaceInv first g (raceStep f g unified s a) := by
  obtain ⟨source, env⟩ := a
  cases source with
  | facilitator => exact h.announced_turn hkey ha.healthy ha.inOrder
  | goldsky => exact h.onchain_turn ha.healthy ha.inOrder.1 ha.inOrder.2

/-! ### The outcome -/

/-- **No promotion is lost in an orderly race.** Once both deliveries of an authorization have
finished, in any order of their calls, its event is recorded with the onchain columns.  It is
`confirmed` if the facilitator had claimed the nonce first; if Goldsky had, it is `confirmed` or
`pending` according to the depth Goldsky observed. -/
theorem onchain_of_race {w : World} {f g : ERC3009Transfer} {unified : Bool} {turns : List Turn}
    (hw : Fresh w) (hfree : w.activeClaim g.nonceKey = none) (hkey : f.nonceKey = g.nonceKey)
    (hturns : Machine.Meets (raceStep f g unified) (Orderly f g) { world := w } turns)
    (hover : (Machine.run (raceStep f g unified) { world := w } turns).over = true) :
    ∃ row claim,
      (Machine.run (raceStep f g unified) { world := w } turns).world.events.get? row.id =
        some row ∧
      (Machine.run (raceStep f g unified) { world := w } turns).world.activeClaim g.nonceKey =
        some claim ∧
      w.uuids ≤ row.id ∧ row.nonceKey? = some g.nonceKey ∧ Onchain g row ∧
      (claim.source = .facilitator → row.status = .confirmed) ∧
      (claim.source = .goldsky → IngestedStatus g row) := by
  have hstart : RaceInv w.uuids g { world := w } := ⟨hw.events, le_rfl, .free rfl rfl hfree⟩
  have hend := Machine.run_induction (I := RaceInv w.uuids g)
    (fun _ _ hs ha => hs.step hkey ha) hstart hturns
  generalize Machine.run (raceStep f g unified) { world := w } turns = s at hend hover
  -- Both have returned, which leaves the two phases in which the event carries the onchain columns.
  obtain ⟨hannounced, honchain⟩ : s.announced.isDone = true ∧ s.onchain.isDone = true := by
    simpa [Race.over] using hover
  cases hend.phase with
  | free announced onchain free =>
    rw [announced] at hannounced
    cases hannounced
  | announcing id new drawn held announced onchain missing =>
    rcases onchain with onchain | onchain <;> rw [onchain] at honchain <;> cases honchain
  | announced row new held announced onchain recorded key =>
    rcases onchain with onchain | onchain <;> rw [onchain] at honchain <;> cases honchain
  | merged row new held announced onchain recorded key columns status =>
    obtain ⟨claim, hclaim, hsource, -⟩ := held
    refine ⟨row, claim, recorded, hclaim, new, key, columns, fun _ => status, fun hgoldsky => ?_⟩
    rw [hsource] at hgoldsky
    cases hgoldsky
  | ingesting held announced onchain =>
    rcases onchain with onchain | ⟨finality, height, -, hprep⟩
    · rw [onchain] at honchain
      cases honchain
    · cases hstage : s.onchain with
      | done result =>
        rw [hstage] at hprep
        cases hprep
      | _ =>
        rw [hstage] at honchain
        cases honchain
  | ingested row new held announced onchain recorded key columns status =>
    obtain ⟨claim, hclaim, hsource, -⟩ := held
    refine ⟨row, claim, recorded, hclaim, new, key, columns, fun hfacilitator => ?_,
      fun _ => status⟩
    rw [hsource] at hfacilitator
    cases hfacilitator

namespace Sample

/-- The database with one endpoint. -/
def registered : World := keeperStep {} (register {})

/-- Calls of the sample deliveries in the given order, at height 101. -/
def turns (sources : List NonceSource) : List Turn := sources.map fun source => ⟨source, height 101⟩

theorem healthy_height (blockNumber : ℤ) (w : World) : (height blockNumber).Healthy w where
  raises := fun _ => rfl
  cache := by
    intro eps h
    cases h

end Sample

/-- Goldsky correlates before the facilitator has recorded the event, and promotes right after. -/
theorem onchain_of_race_correlated :
    ∃ row claim,
      (Machine.run (raceStep Sample.announced (Sample.onchain 100) false)
        { world := Sample.registered }
        (Sample.turns [.facilitator, .goldsky, .facilitator, .facilitator, .facilitator, .goldsky,
          .facilitator, .goldsky, .facilitator])).world.events.get? row.id = some row ∧
      (Machine.run (raceStep Sample.announced (Sample.onchain 100) false)
        { world := Sample.registered }
        (Sample.turns [.facilitator, .goldsky, .facilitator, .facilitator, .facilitator, .goldsky,
          .facilitator, .goldsky, .facilitator])).world.activeClaim (Sample.onchain 100).nonceKey =
        some claim ∧
      Sample.registered.uuids ≤ row.id ∧ row.nonceKey? = some (Sample.onchain 100).nonceKey ∧
      Onchain (Sample.onchain 100) row ∧
      (claim.source = .facilitator → row.status = .confirmed) ∧
      (claim.source = .goldsky → IngestedStatus (Sample.onchain 100) row) := by
  refine onchain_of_race (fresh_empty.step _) (by decide +kernel) (by decide +kernel) ?_
    (by decide +kernel)
  refine Machine.meets_mono (G := InOrder Sample.announced (Sample.onchain 100)) ?_
    (by decide +kernel)
  intro a ha s hinOrder
  obtain ⟨source, -, rfl⟩ := List.mem_map.mp ha
  exact ⟨Sample.healthy_height 101 s.world, hinOrder⟩

/-- Goldsky comes first, one block after the payment: the event is recorded as `pending`. -/
theorem not_confirmed_goldsky_first :
    (Machine.run (raceStep Sample.announced (Sample.onchain 100) false)
      { world := Sample.registered }
        (Sample.turns [.goldsky, .goldsky, .goldsky, .goldsky, .goldsky, .goldsky, .goldsky,
          .facilitator])).over = true ∧
      ∀ row ∈ (Machine.run (raceStep Sample.announced (Sample.onchain 100) false)
        { world := Sample.registered }
        (Sample.turns [.goldsky, .goldsky, .goldsky, .goldsky, .goldsky, .goldsky, .goldsky,
          .facilitator])).world.events.rows, row.status = .pending := by
  decide +kernel

/-- A promotion that overtakes the insertion finds no row, and the event stays `pre_confirmed`. -/
example :
    (Machine.run (raceStep Sample.announced (Sample.onchain 100) false)
      { world := Sample.registered }
        (Sample.turns [.facilitator, .goldsky, .goldsky, .facilitator, .facilitator, .facilitator,
          .facilitator, .facilitator])).world.events.rows.map (·.status) = [.preConfirmed] := by
  decide +kernel

end TripWire
