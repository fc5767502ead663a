import TripWire.Keeper.Tables
import TripWire.Pulse.Isolation

/-!
# Retrying a failed run

The pipeline claims the nonce of an input first and works afterwards.  A step that fails after the
claim leaves the claim behind, and the next run on the same input takes it for a duplicate.  The one
path that looks behind a claim is the promotion: a Goldsky log whose nonce the facilitator holds is
merged into the facilitator's event, as often as it is delivered.

`Retried` is what a retry should achieve; `retried_iff_promotable` says for which inputs it does.
-/

namespace TripWire

open Py

/-! ### Inputs -/

/-- An input of the pipeline: a transfer of the facilitator, a decoded ERC-3009 log, or a log that
dynamic triggers match.  `unified` is the setting `UNIFIED_PROCESSOR`. -/
inductive Input where
  | facilitator (t : ERC3009Transfer)
  | payment (unified : Bool) (t : ERC3009Transfer)
  | dynamic (unified : Bool) (raw : RawLog) (triggers : List Trigger)

/-- `process_pre_confirmed_event`, and `process_event` after the detection of the event type. -/
def processInput (env : Env) (lib : Library) (w : World) : Input → Outcome
  | .facilitator t => processPreConfirmedEvent env w t
  | .payment unified t => processErc3009Event env unified w (.ok t)
  | .dynamic true raw triggers => processUnified env lib w raw triggers
  | .dynamic false raw triggers => processDynamicEvent env lib w raw triggers

/-- The calls that claim the nonces of an input. -/
def Input.nonceCalls : Input → List Call
  | .facilitator _ => [.recordNonce]
  | .payment _ _ => [.recordNonce]
  | .dynamic _ _ triggers => triggers.map fun t => .recordTriggerNonce t.id

/-- The run raised, or returned a result with status `error`. -/
def failed (o : Outcome) : Bool :=
  match o.2 with
  | .error _ => true
  | .ok r => r.status = .error

/-- The input is a log whose nonce the facilitator holds, with its event recorded. -/
def Input.promotable (w : World) : Input → Bool
  | .payment _ t => (promotedRow w t).isSome
  | _ => false

/-! ### What a run should achieve -/

section Due

variable (env : Env) (lib : Library) (w : World)

/-- The endpoints to which a new transfer goes. -/
def dueForTransfer (t : ERC3009Transfer) (finality : Option FinalityStatus)
    (eventTypeOverride : Option WebhookEventType) : List Endpoint :=
  let identity := resolveIdentity env t.authorizer.val t.chainId.value
  match fetchMatchingEndpoints env w t with
  | .error _ => []
  | .ok endpoints =>
    match planDispatch t finality identity eventTypeOverride endpoints with
    | .error _ => []
    | .ok plan =>
      ((inMode .execute plan.approved).filter fun ep => truthy ep.convoyProjectId) ++
        (filterNotifyEndpoints env w t identity (inMode .notify plan.approved)).toOption.getD []

/-- The endpoints to which a promotion goes. -/
def dueForPromotion (row : EventRow) (t : ERC3009Transfer) : List Endpoint :=
  match policyVerdicts (buildTransferData t)
      (resolveIdentity env t.authorizer.val t.chainId.value) (promotionEndpoints env w row) with
  | .error _ => []
  | .ok verdicts =>
    (approvedOf verdicts).filter fun ep => ep.mode = .notify || truthy ep.convoyProjectId

/-- The endpoint to which the unified loop sends an event under a context. -/
def dueForTrigger (ctx : TriggerContext) (d : DecodedEvent) (t : Trigger) : Option Endpoint :=
  (admitted env lib w ctx d t).filter fun ep =>
    match ep.mode with
    | .execute => truthy ep.convoyProjectId
    | .notify => ctx.chainId.any fun chain =>
      (w.activeSubscriptions ep.id).isEmpty ||
        (w.activeSubscriptions ep.id).any fun s => listFilter s.filters.chains chain

/-- The endpoint to which the legacy loop sends an event. -/
def dueForDynamic (raw : RawLog) (t : Trigger) : Option Endpoint :=
  match AbiGenericDecoder.decode lib t.abi raw with
  | .error _ => none
  | .ok d =>
    if evaluateFilters lib d.fields t.filterRules = .ok none ∧
        reputationGate (triggerIdentity env d) t = true then
      (w.endpoints.get? t.endpointId).filter fun ep => ep.active && truthy ep.convoyProjectId
    else none

/-- The endpoints to which an input goes when nothing fails: approved, and with a way to reach
them. -/
def dueEndpoints : Input → List Endpoint
  | .facilitator t => dueForTransfer env w t none (some .paymentPreConfirmed)
  | .payment unified t =>
    match promotedRow w t with
    | some row => dueForPromotion env w row t
    | none => dueForTransfer env w t (paymentFinality env unified t) none
  | .dynamic true raw triggers =>
    match primaryDecoded lib raw triggers with
    | none => []
    | some primary => (survivors lib raw triggers).filterMap fun p =>
      dueForTrigger env lib w (triggerContext env primary) p.1 p.2
  | .dynamic false raw triggers => triggers.filterMap (dueForDynamic env lib w raw)

end Due

/-- The ids of the events that a result names. -/
def ProcessResult.eventIds (r : ProcessResult) : List EventId :=
  r.eventId.toList ++ r.results.filterMap (·.eventId)

/-- What a run on an input that starts in `w` and ends in `w'` with the result `r` should achieve.
-/
structure Retried (env : Env) (lib : Library) (input : Input) (w w' : World) (r : ProcessResult) :
    Prop where
  answered : r.status ≠ .duplicate
  named : r.eventIds ≠ []
  recorded : ∀ id ∈ r.eventIds, w'.events.get? id ≠ none
  dispatched : ∀ ep ∈ dueEndpoints env lib w input,
    ∃ e ∈ w'.outbox.drop w.outbox.length, e.endpoint = ep

/-! ### A promotion reaches its endpoints -/

/-- **A promotion without failures.** It names its event, and every endpoint that is due a message
gets one. -/
theorem dispatchPromotion_of_ok {env : Env} {w : World} {row : EventRow} {t : ERC3009Transfer}
    {r : ProcessResult} (henv : ∀ c, env.raises c = false)
    (h : (dispatchPromotion env w row t).2 = .ok r) :
    r.status = .promoted ∧ r.eventIds = [row.id] ∧
      (dispatchPromotion env w row t).1.events = w.events ∧
      ∀ ep ∈ dueForPromotion env w row t,
        ∃ e ∈ (dispatchPromotion env w row t).1.outbox.drop w.outbox.length, e.endpoint = ep := by
  unfold dispatchPromotion dueForPromotion at *
  have hidentity : (promotionDispatch env row t).identity =
      resolveIdentity env t.authorizer.val t.chainId.value := rfl
  simp only [hidentity] at h ⊢
  cases hverdicts : policyVerdicts (buildTransferData t)
      (resolveIdentity env t.authorizer.val t.chainId.value) (promotionEndpoints env w row) with
  | error e =>
    rw [hverdicts] at h
    cases h
  | ok verdicts =>
    rw [hverdicts] at h
    simp only at h ⊢
    obtain ⟨ds, hds⟩ := pushWebhooks_eq env w (promotionDispatch env row t)
      (inMode .execute (approvedOf verdicts))
    refine ⟨?_, ?_, ?_, ?_⟩
    · split_ifs at h <;> (obtain rfl := Except.ok.inj h; rfl)
    · split_ifs at h <;> (obtain rfl := Except.ok.inj h; rfl)
    · rw [hds]
      rfl
    · intro ep hep
      obtain ⟨happroved, hreach⟩ := List.mem_filter.mp hep
      -- the endpoints of a promotion are rows of the table, so the batch is inserted
      have hbatch : notifyBatch env
            (pushWebhooks env w (promotionDispatch env row t)
              (inMode .execute (approvedOf verdicts)))
            (promotionDispatch env row t) (inMode .notify (approvedOf verdicts)) =
          (inMode .notify (approvedOf verdicts)).map
            (realtimeEmission (promotionDispatch env row t)) := by
        refine notifyBatch_of_known (henv _) ?_
        intro ep' hep'
        have hmem := ((mem_approvedOf hverdicts).mp (mem_inMode.mp hep').1).1
        have hknown := (get?_of_mem_promotionEndpoints hmem).1
        rw [hds]
        simp only [hknown]
        exact Option.some_ne_none _
      rw [pushRealtime, hbatch, hds]
      simp only [List.append_assoc, List.drop_left]
      cases hmode : ep.mode with
      | execute =>
        have hproject : truthy ep.convoyProjectId = true := by simpa [hmode] using hreach
        obtain ⟨e, he, hto⟩ := exists_mem_dispatchEvent (promotionDispatch env row t)
          (mem_inMode.mpr ⟨happroved, hmode⟩) hproject
        exact ⟨e, List.mem_append_left _ he, hto⟩
      | notify =>
        have hin : ep ∈ inMode .notify (approvedOf verdicts) := mem_inMode.mpr ⟨happroved, hmode⟩
        exact ⟨realtimeEmission (promotionDispatch env row t) ep,
          List.mem_append_right _ (List.mem_map_of_mem hin), rfl⟩

/-! ### The nonce after a failed run -/

/-- Who holds a nonce does not depend on the configuration. -/
theorem activeClaim_configure (w : World) (endpoints : KeyedTable Endpoint.id)
    (subscriptions : List Subscription) (key : NonceKey) :
    (keeperStep w (.configure endpoints subscriptions)).activeClaim key = w.activeClaim key := rfl

/-- After a run of the fast path that failed, the nonce is held. -/
theorem claimed_of_facilitator_failed {env : Env} {w : World} {t : ERC3009Transfer}
    (hnonce : env.raises .recordNonce = false)
    (hfailed : failed (processPreConfirmedEvent env w t) = true) :
    ∃ claim, (processPreConfirmedEvent env w t).1.activeClaim t.nonceKey = some claim := by
  cases hclaim : w.activeClaim t.nonceKey with
  | some claim =>
    rw [processPreConfirmedEvent_of_claimed hnonce hclaim] at hfailed
    cases hfailed
  | none =>
    rw [processPreConfirmedEvent_of_free hnonce hclaim]
    have hfree : w.uuid4.1.activeClaim t.nonceKey = none := hclaim
    have hheld := @World.activeClaim_of_free _ env.now _ (some w.uuids) .facilitator hfree
    rw [World.activeClaim_congr (dispatchForTransfer_nonces ..), hheld]
    exact ⟨_, rfl⟩

/-- After a run on a log whose nonce was free, Goldsky holds the nonce without an event id. -/
theorem heldBy_of_free {env : Env} {unified : Bool} {w : World} {t : ERC3009Transfer}
    (hnonce : env.raises .recordNonce = false) (hfree : w.activeClaim t.nonceKey = none) :
    HeldBy (processErc3009Event env unified w (.ok t)).1 t.nonceKey .goldsky none := by
  have hheld := @World.activeClaim_of_free _ env.now _ none .goldsky hfree
  rw [← World.activeClaim_congr (dispatchForTransfer_nonces env _ t (paymentFinality env unified t)
    (resolveIdentity env t.authorizer.val t.chainId.value) none none)] at hheld
  rw [processErc3009Event_of_free unified hnonce hfree]
  exact ⟨_, hheld, rfl, rfl⟩

/-- After a unified run that got past the filters, the nonces of all surviving events are held. -/
theorem claimed_of_unified {env : Env} {lib : Library} {w : World} {raw : RawLog}
    {triggers : List Trigger} {primary : DecodedEvent × Trigger}
    {pairs : List (DecodedEvent × Trigger)}
    (hnonce : ∀ t ∈ triggers, env.raises (.recordTriggerNonce t.id) = false)
    (hpairs : decodedPairs lib raw triggers = .ok (primary :: pairs)) :
    ∀ p ∈ primary :: pairs, ((processUnified env lib w raw triggers).1.activeClaim
      (triggerNonceKey primary.1.chainId p.1 p.2)).isSome = true := by
  intro p hp
  -- a surviving event belongs to a trigger of the list, and its nonce call did not raise
  have hmem : p.2 ∈ triggers := by
    by_cases hraise : ∃ t ∈ triggers, filtersRaise lib raw t = true
    · obtain ⟨e, he⟩ := decodedPairs_of_raise hraise
      rw [he] at hpairs
      cases hpairs
    · have hok : ∀ t ∈ triggers, filtersRaise lib raw t = false := by
        intro t ht
        by_contra hne
        exact hraise ⟨t, ht, by simpa using hne⟩
      rw [decodedPairs_of_ok hok] at hpairs
      rw [← Except.ok.inj hpairs] at hp
      exact (mem_survivors.mp hp).1
  have hheld := dedupPairs_claims env primary.1.chainId (primary :: pairs) w
    (triggerNonceKey primary.1.chainId p.1 p.2) (Or.inr ⟨p, hp, hnonce p.2 hmem, rfl⟩)
  -- after the deduplication the run leaves the nonces alone
  have hsame : (processUnified env lib w raw triggers).1.nonces =
      (dedupPairs env primary.1.chainId (primary :: pairs) w).1.nonces := by
    unfold processUnified processUnifiedTraced
    rw [hpairs]
    simp only
    split_ifs
    · rfl
    · rfl
    · exact (dispatchTriggers_spec ..).1.nonces
  rw [World.activeClaim_congr hsame]
  exact hheld

/-! ### The retry -/

/-- A log whose nonce Goldsky holds is a duplicate. -/
theorem duplicate_of_heldBy {env : Env} {unified : Bool} {w : World} {t : ERC3009Transfer}
    (hnonce : env.raises .recordNonce = false) (hheld : HeldBy w t.nonceKey .goldsky none) :
    (processErc3009Event env unified w (.ok t)).2 =
      .ok { status := .duplicate, txHash := some t.txHash } := by
  obtain ⟨claim, hclaim, hsource, -⟩ := hheld
  rw [processErc3009Event_of_claimed unified hnonce hclaim, hsource]

/-- A log whose triggers all hold their nonces is a duplicate. -/
theorem duplicate_of_claimed {env : Env} {lib : Library} {w : World} {raw : RawLog}
    {triggers : List Trigger} {primary : DecodedEvent × Trigger}
    {pairs : List (DecodedEvent × Trigger)}
    (hpairs : decodedPairs lib raw triggers = .ok (primary :: pairs))
    (hheld : ∀ p ∈ primary :: pairs,
      (w.activeClaim (triggerNonceKey primary.1.chainId p.1 p.2)).isSome = true) :
    (processUnified env lib w raw triggers).2 =
      .ok { status := .duplicate, txHash := some primary.1.txHash } := by
  unfold processUnified processUnifiedTraced
  rw [hpairs]
  simp only
  rw [dedupPairs_of_held env primary.1.chainId w (primary :: pairs) hheld]
  rfl

/-- Whether the legacy loop raises depends on the filters alone. -/
theorem processDynamicTriggers_toBool (env : Env) (lib : Library) (raw : RawLog)
    (triggers : List Trigger) :
    ∀ w : World, (processDynamicTriggers env lib raw triggers w).2.toBool =
      triggers.all fun t => !filtersRaise lib raw t := by
  -- everything else the loop does to a trigger ends in an entry of the results
  have hmap : ∀ {α β : Type} (x : Except PyError α) (f : α → β), (x.map f).toBool = x.toBool := by
    intro α β x f
    cases x <;> rfl
  induction triggers with
  | nil => exact fun _ => rfl
  | cons t ts ih =>
    intro w
    rw [processDynamicTriggers, List.all_cons]
    unfold filtersRaise survivor
    cases hdecode : AbiGenericDecoder.decode lib t.abi raw with
    | error e =>
      simp only [hmap, ih]
      rfl
    | ok d =>
      cases hfilters : evaluateFilters lib d.fields t.filterRules with
      | error e =>
        simp only [hfilters]
        rfl
      | ok reason =>
        cases reason with
        | none =>
          simp only [hmap, ih, hfilters]
          rfl
        | some reason =>
          simp only [hmap, ih, hfilters]
          rfl

section Retry

variable {env env' : Env} {lib : Library} {w : World} {endpoints : KeyedTable Endpoint.id}
  {subscriptions : List Subscription} {r : ProcessResult}

theorem retry_facilitator {t : ERC3009Transfer} (hnonce : env.raises .recordNonce = false)
    (hfailed : failed (processPreConfirmedEvent env w t) = true)
    (henv : ∀ c, env'.raises c = false)
    (hretry : (processPreConfirmedEvent env'
      (keeperStep (processPreConfirmedEvent env w t).1 (.configure endpoints subscriptions)) t).2 =
        .ok r) : r.status = .duplicate := by
  obtain ⟨claim, hclaim⟩ := claimed_of_facilitator_failed hnonce hfailed
  rw [← activeClaim_configure _ endpoints subscriptions] at hclaim
  rw [processPreConfirmedEvent_of_claimed (henv _) hclaim] at hretry
  obtain rfl := Except.ok.inj hretry
  rfl

theorem retry_unified {raw : RawLog} {triggers : List Trigger}
    (hnonce : ∀ t ∈ triggers, env.raises (.recordTriggerNonce t.id) = false)
    (hfailed : failed (processUnified env lib w raw triggers) = true)
    (hretry : (processUnified env' lib
      (keeperStep (processUnified env lib w raw triggers).1
        (.configure endpoints subscriptions)) raw
        triggers).2 = .ok r) : r.status = .duplicate := by
  cases hpairs : decodedPairs lib raw triggers with
  | error e =>
    -- filters that raise raise again
    rw [processUnified, processUnifiedTraced, hpairs] at hretry
    cases hretry
  | ok pairs =>
    cases pairs with
    | nil =>
      rw [processUnified, processUnifiedTraced, hpairs] at hfailed
      cases hfailed
    | cons primary pairs =>
      have hheld : ∀ p ∈ primary :: pairs,
          ((keeperStep (processUnified env lib w raw triggers).1
            (.configure endpoints subscriptions)).activeClaim
              (triggerNonceKey primary.1.chainId p.1 p.2)).isSome = true :=
        claimed_of_unified hnonce hpairs
      rw [duplicate_of_claimed hpairs hheld] at hretry
      obtain rfl := Except.ok.inj hretry
      rfl

/-- The legacy loop fails on the filters only, and then every time. -/
theorem retry_dynamic {raw : RawLog} {triggers : List Trigger} {w' : World}
    (hfailed : failed (processDynamicEvent env lib w raw triggers) = true) :
    (processDynamicEvent env' lib w' raw triggers).2 ≠ .ok r := by
  have hraises := processDynamicTriggers_toBool env lib raw triggers w
  have hraises' := processDynamicTriggers_toBool env' lib raw triggers w'
  have hsummary : ∀ results,
      (triggerSummary raw.transactionHash triggers.length results).status ≠ .error := by
    intro results
    simp only [triggerSummary]
    split_ifs <;> simp
  unfold processDynamicEvent at hfailed ⊢
  cases hres : (processDynamicTriggers env lib raw triggers w).2 with
  | ok results =>
    simp only [hres, failed, Except.map] at hfailed
    exact absurd (of_decide_eq_true hfailed) (hsummary results)
  | error e =>
    rw [hres, ← hraises'] at hraises
    cases hres' : (processDynamicTriggers env' lib raw triggers w').2 with
    | ok results =>
      rw [hres'] at hraises
      cases hraises
    | error e' =>
      simp only [hres', Except.map]
      exact fun h => by cases h

/-- The rows a promotion leaves in the table are those that were there. -/
theorem get?_promotePreConfirmedEvent (env : Env) (w : World) (id : EventId) (t : ERC3009Transfer) :
    ((promotePreConfirmedEvent env w id t).1.events.get? id).isSome =
      (w.events.get? id).isSome := by
  rcases promotePreConfirmedEvent_cases env w id t with h | ⟨old, hold, -, h⟩
  · rw [h]
  · obtain ⟨ems, ds, hw, -⟩ := dispatchPromotion_spec env (w.promoteToConfirmed env.now id t).1
      (old.promoted env.now t) t
    have hget := w.get?_promoteToConfirmed env.now id t id
    rw [if_pos rfl] at hget
    rw [h, hw]
    simp only
    rw [hget, Option.isSome_map]

/-- **A delivery to a held nonce.** Without failures it does what it should if the event behind the
claim is recorded. -/
theorem retried_of_announced {t : ERC3009Transfer} {unified : Bool} {claim : NonceRow}
    {id : EventId}
    (hclaim : w.activeClaim t.nonceKey = some claim) (hsource : claim.source = .facilitator)
    (hid : claim.eventId = some id) (henv : ∀ c, env.raises c = false)
    (hok : (processErc3009Event env unified w (.ok t)).2 = .ok r) :
    Retried env lib (.payment unified t) w (processErc3009Event env unified w (.ok t)).1 r ↔
      (w.events.get? id).isSome = true := by
  have heq : processErc3009Event env unified w (.ok t) = promotePreConfirmedEvent env w id t := by
    rw [processErc3009Event_of_claimed unified (henv _) hclaim, hsource, hid]
  rw [heq] at hok ⊢
  cases hold : w.events.get? id with
  | none =>
    rw [promotePreConfirmedEvent_of_missing t (henv _) hold] at hok
    obtain rfl := Except.ok.inj hok
    refine ⟨?_, fun h => by cases h⟩
    intro h
    exact absurd rfl h.named
  | some old =>
    refine ⟨fun _ => rfl, fun _ => ?_⟩
    have holdid : old.id = id := KeyedTable.key_of_get? hold
    have hrow : promotedRow w t = some old := by
      rw [← holdid] at hid hold
      exact promotedRow_eq_some hclaim hsource hid hold
    rw [promotePreConfirmedEvent_of_recorded t (henv _) hold] at hok ⊢
    obtain ⟨hstatus, hids, hevents, hreach⟩ := dispatchPromotion_of_ok henv hok
    refine ⟨?_, ?_, ?_, ?_⟩
    · rw [hstatus]
      exact fun h => by cases h
    · rw [hids]
      exact List.cons_ne_nil _ _
    · intro x hx
      rw [hids, List.mem_singleton] at hx
      have hget := w.get?_promoteToConfirmed env.now id t id
      rw [if_pos rfl, hold] at hget
      rw [hevents, hx, EventRow.id_promoted, holdid, hget]
      exact Option.some_ne_none _
    · have hdue : dueEndpoints env lib w (.payment unified t) =
          dueForPromotion env (w.promoteToConfirmed env.now id t).1 (old.promoted env.now t) t := by
        rw [dueEndpoints, hrow]
        rfl
      rw [hdue]
      exact hreach

/-- **The retry of a promotion.** -/
theorem retry_promotion {t : ERC3009Transfer} {unified : Bool} {claim : NonceRow} {id : EventId}
    (hclaim : w.activeClaim t.nonceKey = some claim) (hsource : claim.source = .facilitator)
    (hid : claim.eventId = some id) (henv : ∀ c, env'.raises c = false)
    (hretry : (processErc3009Event env' unified
      (keeperStep (promotePreConfirmedEvent env w id t).1 (.configure endpoints subscriptions))
        (.ok t)).2 = .ok r) :
    Retried env' lib (.payment unified t)
        (keeperStep (promotePreConfirmedEvent env w id t).1 (.configure endpoints subscriptions))
        (processErc3009Event env' unified
          (keeperStep (promotePreConfirmedEvent env w id t).1 (.configure endpoints subscriptions))
            (.ok t)).1 r ↔
      (promotedRow w t).isSome = true := by
  have hrow : promotedRow w t = w.events.get? id := by
    unfold promotedRow
    rw [hclaim]
    simp [hsource, hid]
  have hclaim' : (keeperStep (promotePreConfirmedEvent env w id t).1
      (.configure endpoints subscriptions)).activeClaim t.nonceKey = some claim := by
    rw [activeClaim_configure, World.activeClaim_congr (promotePreConfirmedEvent_nonces ..)]
    exact hclaim
  have hevents := get?_promotePreConfirmedEvent env w id t
  rw [retried_of_announced hclaim' hsource hid henv hretry, hrow, ← hevents]
  rfl

end Retry

/-- **Retrying a failed run.** A run failed after its nonces were claimed; the configuration may be
repaired; then the same input is processed again and nothing fails.  The retry does what it should
exactly if the input is a log whose nonce the facilitator held, with its event recorded, before the
first run. -/
theorem retried_iff_promotable {env env' : Env} {lib : Library} {w : World} {input : Input}
    {endpoints : KeyedTable Endpoint.id} {subscriptions : List Subscription} {r : ProcessResult}
    (hnonce : ∀ c ∈ input.nonceCalls, env.raises c = false)
    (hfailed : failed (processInput env lib w input) = true)
    (henv : ∀ c, env'.raises c = false)
    (hretry : (processInput env' lib
      (keeperStep (processInput env lib w input).1 (.configure endpoints subscriptions)) input).2 =
        .ok r) :
    Retried env' lib input
        (keeperStep (processInput env lib w input).1 (.configure endpoints subscriptions))
        (processInput env' lib
          (keeperStep (processInput env lib w input).1
            (.configure endpoints subscriptions)) input).1
        r ↔ input.promotable w = true := by
  cases input with
  | facilitator t =>
    have hduplicate := retry_facilitator (hnonce _ List.mem_cons_self) hfailed henv hretry
    exact ⟨fun h => absurd hduplicate h.answered, fun h => by cases h⟩
  | dynamic unified raw triggers =>
    refine ⟨fun h => ?_, fun h => by cases h⟩
    cases unified with
    | true =>
      have hnonce' : ∀ t ∈ triggers, env.raises (.recordTriggerNonce t.id) = false := by
        intro t ht
        exact hnonce _ (List.mem_map_of_mem ht)
      exact absurd (retry_unified hnonce' hfailed hretry) h.answered
    | false => exact absurd hretry (retry_dynamic hfailed)
  | payment unified t =>
    have hraise : env.raises .recordNonce = false := hnonce _ List.mem_cons_self
    -- by the holder of the nonce before the failed run
    cases hclaim : w.activeClaim t.nonceKey with
    | none =>
      have hrow : promotedRow w t = none := by
        rw [promotedRow, hclaim]
      have hheld : HeldBy (processErc3009Event env unified w (.ok t)).1 t.nonceKey .goldsky none :=
        heldBy_of_free hraise hclaim
      have hduplicate : (processInput env' lib (keeperStep (processInput env lib w
          (.payment unified t)).1 (.configure endpoints subscriptions)) (.payment unified t)).2 =
            .ok { status := .duplicate, txHash := some t.txHash } :=
        duplicate_of_heldBy (henv .recordNonce) hheld
      obtain rfl := Except.ok.inj (hduplicate.symm.trans hretry)
      refine ⟨fun h => absurd rfl h.answered, fun h => ?_⟩
      rw [Input.promotable, hrow] at h
      cases h
    | some claim =>
      have heq : processInput env lib w (.payment unified t) = _ :=
        processErc3009Event_of_claimed unified hraise hclaim
      cases hsource : claim.source with
      | goldsky =>
        -- answered `duplicate`, which is no failure
        rw [heq, hsource] at hfailed
        cases hfailed
      | facilitator =>
        cases hid : claim.eventId with
        | none =>
          rw [heq, hsource, hid] at hfailed
          cases hfailed
        | some id =>
          rw [hsource, hid] at heq
          rw [heq] at hretry ⊢
          exact retry_promotion hclaim hsource hid henv hretry

namespace Sample

/-- An environment at height 101 in which one call fails. -/
def failing (call : Call) : Env := { height 101 with raises := fun c => c = call }

/-- The database with one endpoint, after the facilitator announced the payment. -/
def announcedWorld : World := Machine.run keeperStep {} [register {}, .facilitator {} announced]

/-- The log of the payment. -/
def log : Input := .payment false (onchain 100)

/-- The world after a delivery of the log during which one call fails. -/
def afterFailure (w : World) (call : Call) : World := (processInput (failing call) {} w log).1

end Sample

/-- The promotion of an announced event fails at its update, and is repeated. -/
theorem retried_iff_promotable_announced :
    Retried (Sample.height 101) {} Sample.log
      (keeperStep (Sample.afterFailure Sample.announcedWorld (.promoteToConfirmed 0))
        (Sample.register {}))
      (processInput (Sample.height 101) {}
        (keeperStep (Sample.afterFailure Sample.announcedWorld (.promoteToConfirmed 0))
          (Sample.register {})) Sample.log).1
      { status := .promoted
        txHash := some "0xaa"
        eventId := some 0
        webhookType := some .paymentConfirmed
        endpointsMatched := some 1
        endpointsApproved := some 1
        webhooksSent := some 1
        notifySent := some 0
        messageIds := ["endpoint"] } :=
  (retried_iff_promotable (by decide) (by decide +kernel) (fun _ => rfl) (by decide +kernel)).mpr
    (by decide +kernel)

/-- The endpoints of a new payment cannot be read, and its log is delivered again. -/
theorem not_retried_fetch :
    failed (processInput (Sample.failing .fetchEndpoints) {}
        (Machine.run keeperStep {} [Sample.register {}]) Sample.log) = true ∧
      (processInput (Sample.height 101) {}
        (Sample.afterFailure (Machine.run keeperStep {} [Sample.register {}]) .fetchEndpoints)
          Sample.log).2 = .ok { status := .duplicate, txHash := some "0xaa" } := by
  decide +kernel

end TripWire
