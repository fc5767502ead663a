import TripWire.Pulse.Isolation
import TripWire.Pulse.System

/-!
# What becomes of a deferred trigger

The unified loop takes the nonce of every surviving pair before it compares the confirmations with
the depth of the endpoint.  A trigger that it answers `deferred` for has lost its nonce to a claim
without an event, nothing else is recorded of it, and no step of the pipeline releases such a claim
(`heldWithout_of_run`).  So a later delivery of the log drops the trigger as a duplicate, however
deep the block is by then.

The one thing that gives the nonce back is `archive_old_nonces`, which empties the table of rows of
a certain age for another reason.  `recovered_iff` says that a deferred trigger is dispatched by a
later delivery exactly if its nonce is gone from the table, and that in a run without an archival it
never is.
-/

namespace TripWire

open Py

/-! ### Claims without an event -/

/-- The key is held by a claim that names no event. -/
def HeldWithout (w : World) (key : NonceKey) : Prop :=
  ∃ claim, w.activeClaim key = some claim ∧ claim.eventId = none

theorem heldWithout_recordNonce {w : World} {key : NonceKey} (now : ℤ)
    (h : (w.recordNonce now key none).2 = true) :
    HeldWithout (w.recordNonce now key none).1 key := by
  rcases w.recordNonce_cases now key none with
    ⟨hsame, -⟩ | ⟨claim, table, -, ⟨hactive, hevent⟩, hw, hget⟩
  · rw [hsame] at h
    cases h
  · rw [hw]
    refine ⟨claim, World.activeClaim_eq_some_iff.mpr ⟨?_, hactive⟩, hevent⟩
    exact (hget key).trans (if_pos rfl)

theorem HeldWithout.pulse {w w' : World} {key : NonceKey} (h : HeldWithout w key)
    (heffect : PulseEffect w w') : HeldWithout w' key := by
  obtain ⟨claim, hclaim, hevent⟩ := h
  exact ⟨claim, heffect.held key claim hclaim, hevent⟩

/-- A pair that the deduplication keeps leaves its nonce behind, in a claim without an event. -/
theorem heldWithout_dedupPairs {env : Env} {chainId : Option ℤ}
    {pairs : List (DecodedEvent × Trigger)} {w : World} {p : DecodedEvent × Trigger}
    (h : p ∈ (dedupPairs env chainId pairs w).2) :
    HeldWithout (dedupPairs env chainId pairs w).1 (triggerNonceKey chainId p.1 p.2) := by
  induction pairs generalizing w with
  | nil => cases h
  | cons q qs ih =>
    obtain ⟨d, t⟩ := q
    rw [dedupPairs_cons] at h ⊢
    by_cases hraise : env.raises (.recordTriggerNonce t.id) = true
    · rw [if_pos hraise] at h ⊢
      exact ih h
    · rw [if_neg hraise] at h ⊢
      simp only at h ⊢
      by_cases hnew : (w.recordNonce env.now (triggerNonceKey chainId d t) none).2 = true
      · rw [if_pos hnew] at h
        rcases List.mem_cons.mp h with rfl | h
        -- its own round took the nonce, and the later rounds leave it
        · exact (heldWithout_recordNonce env.now hnew).pulse (dedupPairs_effect env chainId qs _)
        · exact ih h
      · rw [if_neg hnew] at h
        exact ih h

/-- A Keeper step takes no nonce that is held, and marks only nonces that name an event. -/
theorem HeldWithout.keeperStep {w : World} {key : NonceKey} (h : HeldWithout w key)
    (a : KeeperAction) : HeldWithout (TripWire.keeperStep w a) key := by
  obtain ⟨claim, hclaim, hevent⟩ := h
  obtain ⟨hget, hactive⟩ := World.activeClaim_eq_some_iff.mp hclaim
  rcases keeperStep_nonces w a key with hsame | ⟨new, hnew, hwrite⟩
  · refine ⟨claim, World.activeClaim_eq_some_iff.mpr ⟨?_, hactive⟩, hevent⟩
    rw [hsame, hget]
  · have hkey : new.key = key := KeyedTable.key_of_get? hnew
    cases hwrite with
    | announced free key' _ _ _ _ =>
      rw [← key', hkey, hclaim] at free
      cases free
    | ingested free key' _ _ _ =>
      rw [← key', hkey, hclaim] at free
      cases free
    | @invalidated _ _ held row held_eq event _ _ =>
      have hkey' : held.key = key := hkey
      rw [hkey', hget] at held_eq
      obtain rfl := Option.some.inj held_eq
      rw [hevent] at event
      cases event

/-! ### Runs with the retention job -/

/-- One step of a run of the whole system: of the pipeline, or of the job that archives nonces. -/
inductive SystemAction where
  | pipeline (a : PipelineAction)
  | archive (now ageThreshold : ℤ) (batchSize : ℕ) (scanned : NonceKey → Bool)

/-- Whether the step is an archival. -/
def SystemAction.isArchive : SystemAction → Bool
  | .pipeline _ => false
  | .archive .. => true

/-- The world after a step. -/
def systemStep (w : World) : SystemAction → World
  | .pipeline a => pipelineStep w a
  | .archive now ageThreshold batchSize scanned =>
    w.archiveOldNonces now ageThreshold batchSize scanned

/-- **No step of the pipeline releases a claim without an event.** -/
theorem heldWithout_of_run {w : World} {key : NonceKey} (h : HeldWithout w key)
    {as : List SystemAction} (has : ∀ a ∈ as, a.isArchive = false) :
    HeldWithout (Machine.run systemStep w as) key := by
  induction as generalizing w with
  | nil => exact h
  | cons a as ih =>
    refine ih ?_ fun b hb => has b (List.mem_cons_of_mem a hb)
    cases a with
    | pipeline p =>
      show HeldWithout (pipelineStep w p) key
      rcases pipelineStep_cases w p with ⟨k, -, hk⟩ | heffect
      · rw [hk]
        exact h.keeperStep k
      · exact h.pulse heffect
    | archive now ageThreshold batchSize scanned => cases has _ List.mem_cons_self

/-! ### A deferral takes the nonce -/

/-- `_process_unified` answers `deferred` for the trigger. -/
def Defers (env : Env) (lib : Library) (w : World) (raw : RawLog) (triggers : List Trigger)
    (t : Trigger) : Prop :=
  ∃ r, (processUnified env lib w raw triggers).2 = .ok r ∧
    ∃ entry ∈ r.results, entry.triggerId = t.id ∧ entry.status = .deferred

theorem triggerId_of_triggerVerdict {env : Env} {lib : Library}
    {endpoints : KeyedTable Endpoint.id} {ctx : TriggerContext} {d : DecodedEvent} {t : Trigger}
    {entry : TriggerResult} (h : triggerVerdict env lib endpoints ctx d t = .ok (.inl entry)) :
    entry.triggerId = t.id := by
  unfold triggerVerdict at h
  split_ifs at h
  · cases h
    rfl
  · split at h
    · cases h
      rfl
    · split at h
      · cases h
      · cases h
        rfl
      · split_ifs at h
        · cases h
          rfl
        · cases h

/-- Every entry of the results belongs to a pair of the loop. -/
theorem mem_of_dispatchTriggers {env : Env} {lib : Library} {ctx : TriggerContext}
    {pairs : List (DecodedEvent × Trigger)} {w : World} {results : List TriggerResult}
    (h : (dispatchTriggers env lib ctx pairs w).2.2 = .ok results) {entry : TriggerResult}
    (hentry : entry ∈ results) : ∃ p ∈ pairs, p.2.id = entry.triggerId := by
  induction pairs generalizing w results with
  | nil =>
    cases h
    cases hentry
  | cons q qs ih =>
    obtain ⟨d, t⟩ := q
    -- the entry of this round carries its id, the others come from the rounds after it
    have hround : ∀ (first : TriggerResult) (w' : World), first.triggerId = t.id →
        ((dispatchTriggers env lib ctx qs w').2.2).map (first :: ·) = .ok results →
        ∃ p ∈ (d, t) :: qs, p.2.id = entry.triggerId := by
      intro first w' hid hmap
      cases hrest : (dispatchTriggers env lib ctx qs w').2.2 with
      | error e =>
        rw [hrest] at hmap
        cases hmap
      | ok rest =>
        rw [hrest] at hmap
        obtain rfl : first :: rest = results := Except.ok.inj hmap
        rcases List.mem_cons.mp hentry with rfl | hentry
        · exact ⟨(d, t), List.mem_cons_self, hid.symm⟩
        · obtain ⟨p, hp, hpid⟩ := ih hrest hentry
          exact ⟨p, List.mem_cons_of_mem _ hp, hpid⟩
    rw [dispatchTriggers] at h
    cases hverdict : triggerVerdict env lib w.endpoints ctx d t with
    | error e =>
      rw [hverdict] at h
      cases h
    | ok verdict =>
      rw [hverdict] at h
      cases verdict with
      | inl first => exact hround first w (triggerId_of_triggerVerdict hverdict) h
      | inr ep => exact hround _ _ rfl h

variable {env : Env} {lib : Library} {w : World} {raw : RawLog} {triggers : List Trigger}
  {t : Trigger}

/-- **A deferral takes the nonce.** -/
theorem heldWithout_of_defers (hnodup : (triggers.map (·.id)).Nodup) (ht : t ∈ triggers)
    (h : Defers env lib w raw triggers t) :
    ∃ d, survivingEvent lib raw t = some d ∧
      HeldWithout (processUnified env lib w raw triggers).1 (triggerNonceKey raw.chainId d t) := by
  obtain ⟨r, hr, entry, hentry, hid, -⟩ := h
  change (processUnifiedTraced env lib w raw triggers).2.2 = .ok r at hr
  change ∃ d, survivingEvent lib raw t = some d ∧
    HeldWithout (processUnifiedTraced env lib w raw triggers).1 (triggerNonceKey raw.chainId d t)
  by_cases hok : ∀ u ∈ triggers, filtersRaise lib raw u = false
  · have hsurvive : ∀ p ∈ survivors lib raw triggers,
        p.2 ∈ triggers ∧ survivingEvent lib raw p.2 = some p.1 := fun p hp => mem_survivors.mp hp
    rw [processUnifiedTraced, decodedPairs_of_ok hok] at hr ⊢
    cases hpairs : survivors lib raw triggers with
    | nil =>
      rw [hpairs] at hr
      cases hr
      cases hentry
    | cons primary pairs =>
      rw [hpairs] at hr hsurvive
      have hchain : primary.1.chainId = raw.chainId :=
        (decodedFrom_of_survivingEvent (hsurvive primary List.mem_cons_self).2).chainId
      simp only [hchain] at hr ⊢
      split_ifs at hr ⊢
      · cases hr
        cases hentry
      · cases hr
        cases hentry
      · -- the entry is of a pair that the deduplication kept, and that pair is the one of `t`
        cases hresults : (dispatchTriggers env lib (triggerContext env primary.1)
            ((dedupPairs env raw.chainId (primary :: pairs) w).2.filter fun p =>
              reputationGate (triggerContext env primary.1).identity p.2)
            (dedupPairs env raw.chainId (primary :: pairs) w).1).2.2 with
        | error e =>
          rw [hresults] at hr
          cases hr
        | ok results =>
          rw [hresults] at hr
          obtain rfl := Except.ok.inj hr
          obtain ⟨p, hp, hpid⟩ := mem_of_dispatchTriggers hresults hentry
          have hactive := List.mem_of_mem_filter hp
          obtain ⟨hmem, hevent⟩ := hsurvive p (mem_of_mem_dedupPairs hactive)
          have hsame : p.2 = t := List.inj_on_of_nodup_map hnodup hmem ht (hpid.trans hid)
          rw [hsame] at hevent
          refine ⟨p.1, hevent, ?_⟩
          rw [← hsame]
          exact (heldWithout_dedupPairs hactive).pulse (dispatchTriggers_effect env lib _ _ _)
  · have hraise : ∃ u ∈ triggers, filtersRaise lib raw u = true := by
      push Not at hok
      simpa using hok
    obtain ⟨e, he⟩ := decodedPairs_of_raise hraise
    rw [processUnifiedTraced, he] at hr
    cases hr

/-! ### Messages of the background -/

/-- No Keeper step sends a message about a trigger. -/
theorem trigger?_of_mem_newMessages {a : KeeperAction} {e : Emission} (h : e ∈ newMessages w a) :
    e.message.trigger? = none := by
  have hwebhook : ∀ {env : Env} {d : Dispatch} {ep : Endpoint} {e : Emission},
      webhookEmission env d ep = some e → e.message.trigger? = none := by
    intro env d ep e hsent
    obtain ⟨-, rfl⟩ := webhookEmission_eq_some hsent
    rfl
  have hsent : ∀ {env : Env} {d : Dispatch} {ep : Endpoint} {e : Emission},
      Sent env d ep e → e.message.trigger? = none := by
    rintro env d ep e (⟨-, hsent⟩ | ⟨-, rfl⟩)
    · exact hwebhook hsent
    · rfl
  cases emitted_of_mem_newMessages h with
  | preConfirmed _ _ _ _ sent => exact hsent sent
  | ingested _ _ _ _ sent => exact hsent sent
  | promoted _ _ _ sent => exact hsent sent
  | transitioned _ _ _ _ _ _ sent => exact hwebhook sent
  | reorged _ _ _ _ sent => exact hwebhook sent
  | expired _ _ _ _ sent => exact hwebhook sent

/-! ### A later delivery -/

/-- A step of the background has sent a message about the trigger. -/
def PickedUp (w : World) (as : List SystemAction) (t : Trigger) : Prop :=
  ∃ before a after, as = before ++ .pipeline (.keeper a) :: after ∧
    ∃ e ∈ newMessages (Machine.run systemStep w before) a, e.message.trigger? = some t.id

/-- The deferred trigger is dispatched after all, by the later delivery or by a step of the
background before it. -/
def Recovered (w : World) (as : List SystemAction) (env : Env) (lib : Library) (raw : RawLog)
    (triggers : List Trigger) (t : Trigger) : Prop :=
  PickedUp w as t ∨ dispatchesFor env lib (Machine.run systemStep w as) raw triggers t ≠ []

/-- Everything but the nonce of the trigger lets the delivery dispatch it: the nonce store answers,
the log passes the filters and the payment gate, nothing ends the loop before it, and reputation,
policies and finality admit it. -/
def LetsThrough (env : Env) (lib : Library) (w : World) (raw : RawLog) (triggers : List Trigger)
    (t : Trigger) : Prop :=
  env.raises (.recordTriggerNonce t.id) = false ∧
    ∃ d ∈ survivingEvent lib raw t, ∃ primary ∈ primaryDecoded lib raw triggers,
      Unobstructed env lib w raw (triggerContext env primary) triggers t ∧
        (admitted env lib w (triggerContext env primary) d t).isSome = true

instance (env : Env) (lib : Library) (w : World) (raw : RawLog) (triggers : List Trigger)
    (t : Trigger) : Decidable (LetsThrough env lib w raw triggers t) := by
  unfold LetsThrough
  infer_instance

/-- The nonce under which the trigger handles the log is not held. -/
def Released (lib : Library) (w : World) (raw : RawLog) (t : Trigger) : Prop :=
  ∃ d ∈ survivingEvent lib raw t, w.activeClaim (triggerNonceKey raw.chainId d t) = none

instance (lib : Library) (w : World) (raw : RawLog) (t : Trigger) :
    Decidable (Released lib w raw t) := by
  unfold Released
  infer_instance

/-- A delivery that everything else lets through dispatches the trigger exactly if its nonce is
free. -/
theorem dispatches_iff_released (hnodup : (triggers.map (·.id)).Nodup) (ht : t ∈ triggers)
    (hgates : LetsThrough env lib w raw triggers t) :
    dispatchesFor env lib w raw triggers t ≠ [] ↔ Released lib w raw t := by
  obtain ⟨hraise, d, hd, primary, hprimary, hfree, hadmitted⟩ := hgates
  have hd' : survivingEvent lib raw t = some d := hd
  rw [dispatchesFor_eq hnodup ht hprimary, if_pos hfree, ownDispatches, hd']
  unfold Released
  rw [hd']
  obtain ⟨ep, hep⟩ := Option.isSome_iff_exists.mp hadmitted
  cases hclaim : w.activeClaim (triggerNonceKey raw.chainId d t) with
  | none => simp [isActive, hraise, hclaim, hep]
  | some claim => simp [isActive, hclaim]

/-- **Deferral is a drop.** After the unified loop deferred a trigger, and whatever the system does
next, a later delivery that everything else lets through dispatches the trigger if and only if its
nonce has left the table; the background never does it in its place.  In a run without an archival
the nonce is held for good. -/
theorem recovered_iff {env₀ env : Env} {triggers₀ : List Trigger}
    (hnodup₀ : (triggers₀.map (·.id)).Nodup) (ht₀ : t ∈ triggers₀)
    (hdefers : Defers env₀ lib w raw triggers₀ t) (as : List SystemAction)
    (hnodup : (triggers.map (·.id)).Nodup) (ht : t ∈ triggers) {w₁ : World}
    (hw₁ : w₁ = (processUnified env₀ lib w raw triggers₀).1)
    (hgates : LetsThrough env lib (Machine.run systemStep w₁ as) raw triggers t) :
    (Recovered w₁ as env lib raw triggers t ↔
        Released lib (Machine.run systemStep w₁ as) raw t) ∧
      ((∀ a ∈ as, a.isArchive = false) → ¬ Recovered w₁ as env lib raw triggers t) := by
  have hbackground : ¬ PickedUp w₁ as t := by
    rintro ⟨before, a, after, -, e, he, htrigger⟩
    rw [trigger?_of_mem_newMessages he] at htrigger
    cases htrigger
  have hiff : Recovered w₁ as env lib raw triggers t ↔
      Released lib (Machine.run systemStep w₁ as) raw t := by
    unfold Recovered
    rw [or_iff_right hbackground]
    exact dispatches_iff_released hnodup ht hgates
  refine ⟨hiff, ?_⟩
  intro has hrecovered
  obtain ⟨d, hd, hfree⟩ := hiff.mp hrecovered
  obtain ⟨d', hd', hheld⟩ := heldWithout_of_defers hnodup₀ ht₀ hdefers
  have hsame : d' = d := by
    rw [Option.mem_def, hd'] at hd
    exact Option.some.inj hd
  rw [hsame, ← hw₁] at hheld
  obtain ⟨claim, hclaim, -⟩ := heldWithout_of_run hheld has
  rw [hfree] at hclaim
  cases hclaim

namespace Sample

/-- The trigger that the log of block 100 matches. -/
def waiting : Trigger := trigger "t" []

/-- The world after the log was delivered at its own height, no block deep. -/
def deferred : World := (processUnified (height 100) emptyExpression pulse rawLog [waiting]).1

/-- The daily archival, thirty-five days after the clock started. -/
def archival : SystemAction := .archive 3024000 2592000 5000 fun _ => true

theorem defers_waiting : Defers (height 100) emptyExpression pulse rawLog [waiting] waiting := by
  have hresults : ∃ r ∈ (processUnified (height 100) emptyExpression pulse rawLog
      [waiting]).2.toOption, ∃ entry ∈ r.results,
        entry.triggerId = waiting.id ∧ entry.status = .deferred := by
    decide +kernel
  obtain ⟨r, hr, hentry⟩ := hresults
  refine ⟨r, ?_, hentry⟩
  cases hp : (processUnified (height 100) emptyExpression pulse rawLog [waiting]).2 with
  | error e =>
    rw [hp] at hr
    cases hr
  | ok r' =>
    rw [hp] at hr
    obtain rfl := Option.some.inj hr
    rfl

end Sample

/-- A hundred blocks deep the log is delivered again, after the archival, and the trigger is
dispatched. -/
theorem recovered_iff_archived :
    LetsThrough (Sample.height 200) Sample.emptyExpression
        (Machine.run systemStep Sample.deferred [Sample.archival]) Sample.rawLog [Sample.waiting]
        Sample.waiting ∧
      Recovered Sample.deferred [Sample.archival] (Sample.height 200) Sample.emptyExpression
        Sample.rawLog [Sample.waiting] Sample.waiting := by
  have hgates : LetsThrough (Sample.height 200) Sample.emptyExpression
      (Machine.run systemStep Sample.deferred [Sample.archival]) Sample.rawLog [Sample.waiting]
      Sample.waiting := by
    decide +kernel
  have hone : ([Sample.waiting].map (·.id)).Nodup := List.nodup_singleton _
  have hiff := recovered_iff hone List.mem_cons_self Sample.defers_waiting [Sample.archival] hone
    List.mem_cons_self rfl hgates
  exact ⟨hgates, hiff.1.mpr (by decide +kernel)⟩

/-- Without the archival the same delivery drops the trigger. -/
theorem not_recovered_redelivered :
    Defers (Sample.height 100) Sample.emptyExpression Sample.pulse Sample.rawLog [Sample.waiting]
        Sample.waiting ∧
      LetsThrough (Sample.height 200) Sample.emptyExpression
        (Machine.run systemStep Sample.deferred []) Sample.rawLog [Sample.waiting]
        Sample.waiting ∧
      ¬ Recovered Sample.deferred [] (Sample.height 200) Sample.emptyExpression Sample.rawLog
        [Sample.waiting] Sample.waiting := by
  refine ⟨Sample.defers_waiting, by decide +kernel, ?_⟩
  rintro (⟨before, a, after, hsplit, -⟩ | hdispatched)
  · cases before <;> cases hsplit
  · exact absurd (by decide +kernel) hdispatched

end TripWire
