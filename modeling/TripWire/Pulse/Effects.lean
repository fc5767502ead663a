import Mathlib.Data.List.Nodup
import TripWire.Ingestion.Handlers.Trigger

/-!
# What the trigger loops do

One lemma per stage of the unified loop: `decodedPairs_of_ok` and `decodedPairs_of_raise` for the
decoding and the filters, `dedupPairs_spec` for the deduplication, and `dispatchTriggers_spec` for
the dispatch loop, whose output is the pure function `dispatchTrace` of the endpoints table.
-/

namespace TripWire

open Py

/-! ### Decoding and filtering -/

/-- The event of a trigger that survives the first loop. -/
def survivingEvent (lib : Library) (raw : RawLog) (t : Trigger) : Option DecodedEvent :=
  (survivor lib raw t).toOption.join

/-- The pairs that survive the first loop, if no filter raises. -/
def survivors (lib : Library) (raw : RawLog) (triggers : List Trigger) :
    List (DecodedEvent × Trigger) :=
  triggers.filterMap fun t => (survivingEvent lib raw t).map fun d => (d, t)

/-- The filters of the trigger raise on the log. -/
def filtersRaise (lib : Library) (raw : RawLog) (t : Trigger) : Bool :=
  !(survivor lib raw t).toBool

theorem decodedPairs_of_ok {lib : Library} {raw : RawLog} {triggers : List Trigger}
    (h : ∀ t ∈ triggers, filtersRaise lib raw t = false) :
    decodedPairs lib raw triggers = .ok (survivors lib raw triggers) := by
  induction triggers with
  | nil => rfl
  | cons t ts ih =>
    have hts := ih fun u hu => h u (List.mem_cons_of_mem t hu)
    have ht := h t List.mem_cons_self
    rw [decodedPairs, hts]
    unfold survivors survivingEvent
    cases hd : survivor lib raw t with
    | error e =>
      rw [filtersRaise, hd] at ht
      cases ht
    | ok d =>
      cases d with
      | none => simp [hd, Except.map, Except.toOption]
      | some d => simp [hd, Except.map, Except.toOption]

theorem decodedPairs_of_raise {lib : Library} {raw : RawLog} {triggers : List Trigger}
    (h : ∃ t ∈ triggers, filtersRaise lib raw t = true) :
    ∃ e, decodedPairs lib raw triggers = .error e := by
  induction triggers with
  | nil =>
    obtain ⟨t, ht, -⟩ := h
    cases ht
  | cons t ts ih =>
    rw [decodedPairs]
    cases hd : survivor lib raw t with
    | error e => exact ⟨e, rfl⟩
    | ok d =>
      obtain ⟨u, hu, hraise⟩ := h
      rcases List.mem_cons.mp hu with rfl | hu
      · rw [filtersRaise, hd] at hraise
        cases hraise
      · obtain ⟨e, he⟩ := ih ⟨u, hu, hraise⟩
        exact ⟨e, by rw [he]; rfl⟩

/-- A surviving event is what the decoder makes of the log, and it has passed the payment gate. -/
theorem survivingEvent_eq_some {lib : Library} {raw : RawLog} {t : Trigger} {d : DecodedEvent}
    (h : survivingEvent lib raw t = some d) :
    AbiGenericDecoder.decode lib t.abi raw = .ok d ∧ checkPaymentGate d t = none := by
  unfold survivingEvent survivor at h
  split at h
  · cases h
  · rename_i d' hdecode
    cases hfilters : evaluateFilters lib d'.fields t.filterRules with
    | error e =>
      rw [hfilters] at h
      cases h
    | ok rejection =>
      rw [hfilters] at h
      simp only [Except.map, Except.toOption] at h
      split_ifs at h with hreject
      · cases h
      · obtain rfl := Option.some.inj h
        rw [Bool.or_eq_true, not_or] at hreject
        exact ⟨hdecode, by simpa using hreject.2⟩

theorem decodedFrom_of_survivingEvent {lib : Library} {raw : RawLog} {t : Trigger}
    {d : DecodedEvent} (h : survivingEvent lib raw t = some d) : DecodedFrom raw d :=
  AbiGenericDecoder.decode_shared (survivingEvent_eq_some h).1

theorem mem_survivors {lib : Library} {raw : RawLog} {triggers : List Trigger} {d : DecodedEvent}
    {t : Trigger} : (d, t) ∈ survivors lib raw triggers ↔
      t ∈ triggers ∧ survivingEvent lib raw t = some d := by
  constructor
  · intro h
    obtain ⟨u, hu, h⟩ := List.mem_filterMap.mp h
    obtain ⟨d', hd', h⟩ := Option.map_eq_some_iff.mp h
    cases h
    exact ⟨hu, hd'⟩
  · rintro ⟨ht, hd⟩
    exact List.mem_filterMap.mpr ⟨t, ht, by rw [hd]; rfl⟩

/-- The triggers of the surviving pairs are a sublist of the triggers. -/
theorem survivors_sublist (lib : Library) (raw : RawLog) (triggers : List Trigger) :
    ((survivors lib raw triggers).map Prod.snd).Sublist triggers := by
  induction triggers with
  | nil => exact List.Sublist.refl _
  | cons t ts ih =>
    unfold survivors at ih ⊢
    cases hd : survivingEvent lib raw t with
    | none =>
      rw [List.filterMap_cons_none (by rw [hd]; rfl)]
      exact ih.cons t
    | some d =>
      rw [List.filterMap_cons_some (by rw [hd]; rfl), List.map_cons]
      exact ih.cons_cons t

/-! ### Deduplication -/

/-- The nonce of the pair is free, and the nonce store answers. -/
def isActive (env : Env) (w : World) (chainId : Option ℤ) (p : DecodedEvent × Trigger) : Bool :=
  !env.raises (.recordTriggerNonce p.2.id) &&
    (w.activeClaim (triggerNonceKey chainId p.1 p.2)).isNone

section Dedup

variable (env : Env) (chainId : Option ℤ)

/-- One round of the loop. -/
theorem dedupPairs_cons (d : DecodedEvent) (t : Trigger) (pairs : List (DecodedEvent × Trigger))
    (w : World) : dedupPairs env chainId ((d, t) :: pairs) w =
      if env.raises (.recordTriggerNonce t.id) then dedupPairs env chainId pairs w
      else
        let (w₁, isNew) := w.recordNonce env.now (triggerNonceKey chainId d t) none
        let (w₂, active) := dedupPairs env chainId pairs w₁
        (w₂, if isNew then (d, t) :: active else active) := rfl

/-- The loop writes nothing but nonces. -/
theorem dedupPairs_frame (pairs : List (DecodedEvent × Trigger)) (w : World) :
    ∃ table, (dedupPairs env chainId pairs w).1 = { w with nonces := table } := by
  induction pairs generalizing w with
  | nil => exact ⟨w.nonces, rfl⟩
  | cons p ps ih =>
    obtain ⟨d, t⟩ := p
    rw [dedupPairs_cons]
    split_ifs
    · exact ih w
    · obtain ⟨table, htable⟩ := w.recordNonce_frame env.now (triggerNonceKey chainId d t) none
      obtain ⟨table', htable'⟩ := ih (w.recordNonce env.now (triggerNonceKey chainId d t) none).1
      refine ⟨table', ?_⟩
      simp only
      rw [htable', htable]

/-- **The deduplication loop.** Where the keys are distinct it keeps the pairs whose nonce was free
when it started. -/
theorem dedupPairs_spec (pairs : List (DecodedEvent × Trigger)) :
    ∀ w : World, (pairs.map fun p => triggerNonceKey chainId p.1 p.2).Nodup →
      (dedupPairs env chainId pairs w).2 = pairs.filter (isActive env w chainId) := by
  induction pairs with
  | nil => exact fun w _ => rfl
  | cons p ps ih =>
    intro w hnodup
    obtain ⟨d, t⟩ := p
    obtain ⟨hnot, hrest⟩ := List.nodup_cons.mp hnodup
    rw [dedupPairs_cons]
    by_cases hraise : env.raises (.recordTriggerNonce t.id) = true
    · rw [if_pos hraise, List.filter_cons_of_neg (by simp [isActive, hraise])]
      exact ih w hrest
    · rw [if_neg hraise]
      have hraise' : env.raises (.recordTriggerNonce t.id) = false := by simpa using hraise
      have hkept := ih (w.recordNonce env.now (triggerNonceKey chainId d t) none).1 hrest
      -- the other keys are held after the call as they were before
      have hsame : ps.filter
            (isActive env (w.recordNonce env.now (triggerNonceKey chainId d t) none).1 chainId) =
          ps.filter (isActive env w chainId) := by
        refine List.filter_congr fun q hq => ?_
        have hmem : triggerNonceKey chainId q.1 q.2 ∈
            ps.map fun p => triggerNonceKey chainId p.1 p.2 := List.mem_map.mpr ⟨q, hq, rfl⟩
        have hne : triggerNonceKey chainId q.1 q.2 ≠ triggerNonceKey chainId d t := by
          intro he
          rw [he] at hmem
          exact hnot hmem
        rw [isActive, World.activeClaim_recordNonce_of_ne hne, isActive]
      have hnew := w.recordNonce_isNew env.now (triggerNonceKey chainId d t) none
      simp only
      rw [hkept, hsame, hnew]
      by_cases hfree : (w.activeClaim (triggerNonceKey chainId d t)).isNone = true
      · rw [if_pos hfree, List.filter_cons_of_pos (by simp [isActive, hraise', hfree])]
      · rw [if_neg hfree, List.filter_cons_of_neg (by simp [isActive, hfree])]

variable {env chainId} in
/-- The loop keeps pairs it was given. -/
theorem mem_of_mem_dedupPairs {pairs : List (DecodedEvent × Trigger)} {w : World}
    {p : DecodedEvent × Trigger} (h : p ∈ (dedupPairs env chainId pairs w).2) : p ∈ pairs := by
  induction pairs generalizing w with
  | nil => cases h
  | cons q qs ih =>
    obtain ⟨d, t⟩ := q
    rw [dedupPairs_cons] at h
    split_ifs at h
    · exact List.mem_cons_of_mem _ (ih h)
    · simp only at h
      split_ifs at h
      · rcases List.mem_cons.mp h with rfl | h
        · exact List.mem_cons_self
        · exact List.mem_cons_of_mem _ (ih h)
      · exact List.mem_cons_of_mem _ (ih h)

/-- After the loop, every pair whose call did not raise has its nonce held. -/
theorem dedupPairs_claims (pairs : List (DecodedEvent × Trigger)) :
    ∀ w : World, ∀ k, (w.activeClaim k).isSome = true ∨
      (∃ p ∈ pairs, env.raises (.recordTriggerNonce p.2.id) = false ∧
        triggerNonceKey chainId p.1 p.2 = k) →
      ((dedupPairs env chainId pairs w).1.activeClaim k).isSome = true := by
  induction pairs with
  | nil =>
    intro w k h
    rcases h with h | ⟨p, hp, -⟩
    · exact h
    · cases hp
  | cons p ps ih =>
    intro w k h
    obtain ⟨d, t⟩ := p
    rw [dedupPairs_cons]
    by_cases hraise : env.raises (.recordTriggerNonce t.id) = true
    · rw [if_pos hraise]
      refine ih w k (h.imp_right ?_)
      rintro ⟨p, hp, hok, hk⟩
      rcases List.mem_cons.mp hp with rfl | hp
      · rw [hraise] at hok
        cases hok
      · exact ⟨p, hp, hok, hk⟩
    · rw [if_neg hraise]
      refine ih (w.recordNonce env.now (triggerNonceKey chainId d t) none).1 k ?_
      -- The key of this round is held from now on; the other keys are as they were.
      by_cases hkey : k = triggerNonceKey chainId d t
      · left
        rw [hkey]
        exact w.activeClaim_recordNonce_self env.now _ none
      · rcases h with h | ⟨p, hp, hok, hk⟩
        · left
          rw [World.activeClaim_recordNonce_of_ne hkey]
          exact h
        · rcases List.mem_cons.mp hp with rfl | hp
          · exact absurd hk.symm hkey
          · exact Or.inr ⟨p, hp, hok, hk⟩

/-- Where every nonce is held the loop keeps no pair. -/
theorem dedupPairs_of_held (w : World) (pairs : List (DecodedEvent × Trigger))
    (h : ∀ p ∈ pairs, (w.activeClaim (triggerNonceKey chainId p.1 p.2)).isSome = true) :
    dedupPairs env chainId pairs w = (w, []) := by
  induction pairs with
  | nil => rfl
  | cons p ps ih =>
    obtain ⟨d, t⟩ := p
    have hrest := ih fun q hq => h q (List.mem_cons_of_mem _ hq)
    have hheld := h (d, t) List.mem_cons_self
    rw [dedupPairs_cons]
    split_ifs
    · exact hrest
    · rcases w.recordNonce_cases env.now (triggerNonceKey chainId d t) none with
        ⟨hsame, -⟩ | ⟨claim, table, hfree, -, -, -⟩
      · simp [hsame, hrest]
      · rw [hfree] at hheld
        cases hheld

end Dedup

/-- The text of a nonce ends in the id of the trigger. -/
theorem triggerNonce_inj {txHash : String} {logIndex : ℤ} {id id' : String}
    (h : triggerNonce txHash logIndex id = triggerNonce txHash logIndex id') : id = id' := by
  have hlist := congrArg String.toList h
  simp only [triggerNonce, String.toList_append] at hlist
  exact String.toList_injective (List.append_cancel_left hlist)

/-- Triggers with different ids have different keys for the same log. -/
theorem nodup_triggerNonceKey {raw : RawLog} (chainId : Option ℤ)
    {pairs : List (DecodedEvent × Trigger)} (hfrom : ∀ p ∈ pairs, DecodedFrom raw p.1)
    (hnodup : (pairs.map fun p => p.2.id).Nodup) :
    (pairs.map fun p => triggerNonceKey chainId p.1 p.2).Nodup := by
  refine List.Nodup.map_on ?_ hnodup.of_map
  intro p hp q hq hkey
  have hshared := hfrom p hp
  have hshared' := hfrom q hq
  have hindex : p.1.logIndex = q.1.logIndex := by
    have h := hshared.logIndex.symm.trans hshared'.logIndex
    exact Except.ok.inj h
  have hnonce : triggerNonce p.1.txHash p.1.logIndex p.2.id =
      triggerNonce q.1.txHash q.1.logIndex q.2.id := congrArg (fun k => k.2.1) hkey
  rw [hshared.txHash, hshared'.txHash, hindex] at hnonce
  exact List.inj_on_of_nodup_map hnodup hp hq (triggerNonce_inj hnonce)

/-! ### Dispatch -/

/-- What a dispatch leaves alone. -/
structure DispatchKept (w w' : World) : Prop where
  nonces : w'.nonces = w.nonces
  endpoints : w'.endpoints = w.endpoints

theorem recordTriggerEvent_frame (env : Env) (w : World) (id : EventId) (chain : Option ℤ)
    (t : Trigger) (row : ℤ → EventRow) :
    ∃ table links, recordTriggerEvent env w id chain t row =
      { w with events := table, eventEndpoints := links } := by
  unfold recordTriggerEvent
  by_cases hraise : env.raises (.insertEvent id) = true
  · rw [if_pos hraise]
    exact ⟨w.events, w.eventEndpoints, rfl⟩
  · rw [if_neg hraise]
    cases hins : chain.bind fun n => w.insertEvent (row n) with
    | none => exact ⟨w.events, w.eventEndpoints, rfl⟩
    | some w₁ =>
      obtain ⟨n, -, hins⟩ := Option.bind_eq_some_iff.mp hins
      obtain ⟨table, rfl⟩ := World.insertEvent_frame hins
      simp only
      split_ifs
      · exact ⟨table, w.eventEndpoints, rfl⟩
      · obtain ⟨l, hl⟩ := World.linkEndpoints_frame { w with events := table } id [t.endpointId]
        exact ⟨table, l, hl⟩

theorem recordTriggerDelivery_frame (env : Env) (w : World) (id : EventId) (eid : EndpointId)
    (messageId : Option String) :
    ∃ ds, recordTriggerDelivery env w id eid messageId = { w with deliveries := ds } := by
  unfold recordTriggerDelivery
  split_ifs
  · exact w.createDelivery_frame eid id messageId
  · exact ⟨w.deliveries, rfl⟩

theorem recordTriggerEvent_kept (env : Env) (w : World) (id : EventId) (chain : Option ℤ)
    (t : Trigger) (row : ℤ → EventRow) :
    DispatchKept w (recordTriggerEvent env w id chain t row) := by
  obtain ⟨table, links, h⟩ := recordTriggerEvent_frame env w id chain t row
  rw [h]
  exact ⟨rfl, rfl⟩

theorem recordTriggerDelivery_kept (env : Env) (w : World) (id : EventId) (eid : EndpointId)
    (messageId : Option String) :
    DispatchKept w (recordTriggerDelivery env w id eid messageId) := by
  obtain ⟨ds, h⟩ := recordTriggerDelivery_frame env w id eid messageId
  rw [h]
  exact ⟨rfl, rfl⟩

theorem dispatchTrigger_kept (env : Env) (w : World) (ctx : TriggerContext) (d : DecodedEvent)
    (t : Trigger) (ep : Endpoint) : DispatchKept w (dispatchTrigger env w ctx d t ep).1 := by
  unfold dispatchTrigger
  have hdelivery := recordTriggerDelivery_kept env
  have hevent := recordTriggerEvent_kept env
  exact ⟨(hdelivery ..).nonces.trans (hevent ..).nonces,
    (hdelivery ..).endpoints.trans (hevent ..).endpoints⟩

section Trace

variable (env : Env) (lib : Library) (ctx : TriggerContext)

/-- What the dispatch loop sends out, as a function of the endpoints table. -/
def dispatchTrace (endpoints : KeyedTable Endpoint.id) :
    List (DecodedEvent × Trigger) → List TriggerDispatch
  | [] => []
  | (d, t) :: pairs =>
    match triggerVerdict env lib endpoints ctx d t with
    | .error _ => []
    | .ok (.inl _) => dispatchTrace endpoints pairs
    | .ok (.inr ep) => triggerDispatch ctx d t ep :: dispatchTrace endpoints pairs

/-- **The dispatch loop.** -/
theorem dispatchTriggers_spec (pairs : List (DecodedEvent × Trigger)) :
    ∀ w : World, DispatchKept w (dispatchTriggers env lib ctx pairs w).1 ∧
      (dispatchTriggers env lib ctx pairs w).2.1 =
        dispatchTrace env lib ctx w.endpoints pairs := by
  induction pairs with
  | nil => exact fun _ => ⟨⟨rfl, rfl⟩, rfl⟩
  | cons p ps ih =>
    intro w
    obtain ⟨d, t⟩ := p
    rw [dispatchTriggers, dispatchTrace]
    -- A dispatch leaves the endpoints alone, so the verdicts of later rounds read the same table.
    cases hverdict : triggerVerdict env lib w.endpoints ctx d t with
    | error e => exact ⟨⟨rfl, rfl⟩, rfl⟩
    | ok verdict =>
      cases verdict with
      | inl result => exact ih w
      | inr ep =>
        have hkept := dispatchTrigger_kept env w ctx d t ep
        obtain ⟨hrest, htrace⟩ := ih (dispatchTrigger env w ctx d t ep).1
        refine ⟨⟨hrest.nonces.trans hkept.nonces, hrest.endpoints.trans hkept.endpoints⟩, ?_⟩
        simp only
        rw [htrace, hkept.endpoints]

end Trace

end TripWire
