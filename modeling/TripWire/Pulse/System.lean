import TripWire.Keeper.Tables
import TripWire.Pulse.Effects

/-!
# What a Pulse delivery does to the database

A Pulse delivery is one call of the unified loop or of the legacy loop.  `PulseEffect` says what it
can do, once for both: it claims nonces that were free, and for each trigger it dispatches it draws
an id, sends messages under it, inserts a row and links it.  Rows, links and claims that were there
stay as they are.

The run of the whole pipeline (`pipelineStep`) mixes Pulse deliveries with the steps of a Keeper
run.
-/

namespace TripWire

open Py

/-- What the API reports of a row with this status is what the execution block says. -/
def Agrees (status : EventStatus) (x : ExecutionBlock) : Prop :=
  executionStateFromStatus status = (x.state, x.safeToExecute, x.trustSource)

instance (status : EventStatus) (x : ExecutionBlock) : Decidable (Agrees status x) :=
  inferInstanceAs (Decidable (_ = _))

/-- A row of a trigger event: it has no authorizer. -/
def IsPulseRow (row : EventRow) : Prop := row.productSource = .pulse ∧ row.authorizer = none

/-- **What a Pulse delivery can do.** -/
structure PulseEffect (w w' : World) : Prop where
  uuids : w.uuids ≤ w'.uuids
  endpoints : w'.endpoints = w.endpoints
  events : ∀ k, w'.events.get? k = w.events.get? k ∨
    ∃ row, w'.events.get? k = some row ∧ w.uuids ≤ k ∧ k < w'.uuids ∧ IsPulseRow row
  links : ∃ new, w'.eventEndpoints = w.eventEndpoints ++ new ∧ (∀ l ∈ new, w.uuids ≤ l.1) ∧
    (w.eventEndpoints.Nodup → w'.eventEndpoints.Nodup)
  /-- A message and the row that was inserted with it say the same. -/
  outbox : ∃ ems, w'.outbox = w.outbox ++ ems ∧ ∀ e ∈ ems, w.uuids ≤ e.event ∧
    e.event < w'.uuids ∧ ∃ status, Agrees status e.execution ∧
      (w'.events.get? e.event = w.events.get? e.event ∨
        ∃ row, w'.events.get? e.event = some row ∧ row.status = status)
  held : ∀ key claim, w.activeClaim key = some claim → w'.activeClaim key = some claim

theorem PulseEffect.refl (w : World) : PulseEffect w w where
  uuids := Nat.le_refl _
  endpoints := rfl
  events _ := Or.inl rfl
  links := ⟨[], by rw [List.append_nil], by simp, id⟩
  outbox := ⟨[], by rw [List.append_nil], by simp⟩
  held _ _ h := h

/-- A row of the first part is left alone by the second: its id was drawn before. -/
theorem PulseEffect.get?_of_lt {w w' : World} (h : PulseEffect w w') {k : EventId}
    (hk : k < w.uuids) : w'.events.get? k = w.events.get? k := by
  rcases h.events k with hsame | ⟨row, -, hle, -, -⟩
  · exact hsame
  · exact absurd hk (Nat.not_lt.mpr hle)

theorem PulseEffect.get?_of_ge {w w' : World} (h : PulseEffect w w') {k : EventId}
    (hk : w'.uuids ≤ k) : w'.events.get? k = w.events.get? k := by
  rcases h.events k with hsame | ⟨row, -, -, hlt, -⟩
  · exact hsame
  · exact absurd hlt (Nat.not_lt.mpr hk)

theorem PulseEffect.trans {w₁ w₂ w₃ : World} (h : PulseEffect w₁ w₂) (h' : PulseEffect w₂ w₃) :
    PulseEffect w₁ w₃ where
  uuids := h.uuids.trans h'.uuids
  endpoints := h'.endpoints.trans h.endpoints
  events := by
    intro k
    rcases h'.events k with hsame | ⟨row, hrow, hle, hlt, hpulse⟩
    · rcases h.events k with hsame' | ⟨row, hrow, hle, hlt, hpulse⟩
      · exact Or.inl (hsame.trans hsame')
      · exact Or.inr ⟨row, hsame.trans hrow, hle, lt_of_lt_of_le hlt h'.uuids, hpulse⟩
    · exact Or.inr ⟨row, hrow, h.uuids.trans hle, hlt, hpulse⟩
  links := by
    obtain ⟨new, hnew, hids, hnodup⟩ := h.links
    obtain ⟨new', hnew', hids', hnodup'⟩ := h'.links
    refine ⟨new ++ new', by rw [hnew', hnew, List.append_assoc], ?_, fun hw => hnodup' (hnodup hw)⟩
    intro l hl
    rcases List.mem_append.mp hl with hl | hl
    · exact hids l hl
    · exact h.uuids.trans (hids' l hl)
  outbox := by
    obtain ⟨ems, hems, hsaid⟩ := h.outbox
    obtain ⟨ems', hems', hsaid'⟩ := h'.outbox
    refine ⟨ems ++ ems', by rw [hems', hems, List.append_assoc], ?_⟩
    intro e he
    rcases List.mem_append.mp he with he | he
    · obtain ⟨hle, hlt, status, hagrees, hrow⟩ := hsaid e he
      refine ⟨hle, lt_of_lt_of_le hlt h'.uuids, status, hagrees, ?_⟩
      rw [h'.get?_of_lt hlt]
      exact hrow
    · obtain ⟨hle, hlt, status, hagrees, hrow⟩ := hsaid' e he
      refine ⟨h.uuids.trans hle, hlt, status, hagrees, ?_⟩
      rw [h.get?_of_ge hle] at hrow
      exact hrow
  held := fun key claim hclaim => h'.held key claim (h.held key claim hclaim)

/-- A step that writes nothing but nonces, none of them held, is a Pulse effect. -/
theorem PulseEffect.of_nonces {w : World} {table : KeyedTable NonceRow.key}
    (h : ∀ key claim, w.activeClaim key = some claim →
      ({ w with nonces := table } : World).activeClaim key = some claim) :
    PulseEffect w { w with nonces := table } where
  uuids := Nat.le_refl _
  endpoints := rfl
  events _ := Or.inl rfl
  links := ⟨[], by rw [List.append_nil], by simp, id⟩
  outbox := ⟨[], by rw [List.append_nil], by simp⟩
  held := h

/-- `record_nonce` leaves the held nonces alone. -/
theorem recordNonce_effect (w : World) (now : ℤ) (key : NonceKey) (eventId : Option EventId) :
    PulseEffect w (w.recordNonce now key eventId).1 := by
  rcases w.recordNonce_cases now key eventId with ⟨h, -⟩ | ⟨claim, table, hfree, -, h, -⟩
  · rw [h]
    exact PulseEffect.refl w
  · have hheld : ∀ k row, w.activeClaim k = some row →
        (w.recordNonce now key eventId).1.activeClaim k = some row := by
      intro k row hrow
      have hne : k ≠ key := by
        rintro rfl
        rw [hfree] at hrow
        cases hrow
      rw [World.activeClaim_recordNonce_of_ne hne, hrow]
    rw [h] at hheld ⊢
    exact PulseEffect.of_nonces hheld

theorem dedupPairs_effect (env : Env) (chainId : Option ℤ) (pairs : List (DecodedEvent × Trigger))
    (w : World) : PulseEffect w (dedupPairs env chainId pairs w).1 := by
  induction pairs generalizing w with
  | nil => exact PulseEffect.refl w
  | cons p ps ih =>
    obtain ⟨d, t⟩ := p
    rw [dedupPairs_cons]
    split_ifs
    · exact ih w
    · exact (recordNonce_effect w env.now (triggerNonceKey chainId d t) none).trans (ih _)

/-! ### One trigger -/

/-- What recording a trigger event leaves behind: the row, if it was inserted, and its link. -/
theorem recordTriggerEvent_spec (env : Env) (w : World) (id : EventId) (chain : Option ℤ)
    (t : Trigger) (row : ℤ → EventRow) (hid : ∀ n, (row n).id = id) :
    ∃ table links, recordTriggerEvent env w id chain t row =
        { w with events := table, eventEndpoints := w.eventEndpoints ++ links } ∧
      (∀ l ∈ links, l.1 = id) ∧
      (w.eventEndpoints.Nodup → (w.eventEndpoints ++ links).Nodup) ∧
      ((∀ k, table.get? k = w.events.get? k) ∨
        ∃ n, ∀ k, table.get? k = if id = k then some (row n) else w.events.get? k) := by
  have hnone : w = { w with events := w.events, eventEndpoints := w.eventEndpoints ++ [] } := by
    rw [List.append_nil]
  unfold recordTriggerEvent
  by_cases hraise : env.raises (.insertEvent id) = true
  · rw [if_pos hraise]
    exact ⟨w.events, [], hnone, by simp, by simp, Or.inl fun _ => rfl⟩
  · rw [if_neg hraise]
    cases hins : chain.bind fun n => w.insertEvent (row n) with
    | none => exact ⟨w.events, [], hnone, by simp, by simp, Or.inl fun _ => rfl⟩
    | some w₁ =>
      obtain ⟨n, -, hins⟩ := Option.bind_eq_some_iff.mp hins
      obtain ⟨table, rfl⟩ := World.insertEvent_frame hins
      have hget : ∀ k, table.get? k = if id = k then some (row n) else w.events.get? k := by
        intro k
        rw [← hid n]
        exact World.get?_insertEvent hins k
      simp only
      split_ifs
      · exact ⟨table, [], by rw [List.append_nil], by simp, by simp, Or.inr ⟨n, hget⟩⟩
      · obtain ⟨l, hl⟩ := World.linkEndpoints_frame { w with events := table } id [t.endpointId]
        obtain ⟨new, hnew, hids, hnodup⟩ :=
          World.linkEndpoints_links { w with events := table } id [t.endpointId]
        rw [hl] at hnew hnodup ⊢
        have hlinks : l = w.eventEndpoints ++ new := hnew
        subst hlinks
        exact ⟨table, new, rfl, fun x hx => (hids x hx).1, hnodup, Or.inr ⟨n, hget⟩⟩

/-- **One dispatched trigger**: the shape both loops share.  An id is drawn, messages go out under
it, and a row with a status that agrees with them is recorded. -/
theorem triggerRound_effect (env : Env) (w : World) (chain : Option ℤ) (t : Trigger)
    (row : ℤ → EventRow) (ems : List Emission) (eid : EndpointId) (messageId : Option String)
    {status : EventStatus} (hid : ∀ n, (row n).id = w.uuids) (hpulse : ∀ n, IsPulseRow (row n))
    (hstatus : ∀ n, (row n).status = status)
    (hems : ∀ e ∈ ems, e.event = w.uuids ∧ Agrees status e.execution) :
    PulseEffect w
      (recordTriggerDelivery env
        (recordTriggerEvent env { w with uuids := w.uuids + 1, outbox := w.outbox ++ ems } w.uuids
          chain t row) w.uuids eid messageId) := by
  obtain ⟨table, links, hrec, hlinks, hnodup, htable⟩ := recordTriggerEvent_spec env
    { w with uuids := w.uuids + 1, outbox := w.outbox ++ ems } w.uuids chain t row hid
  obtain ⟨ds, hds⟩ := recordTriggerDelivery_frame env
    (recordTriggerEvent env { w with uuids := w.uuids + 1, outbox := w.outbox ++ ems } w.uuids
      chain t row) w.uuids eid messageId
  rw [hds, hrec]
  refine ⟨Nat.le_succ _, rfl, ?_, ⟨links, rfl, ?_, hnodup⟩, ⟨ems, rfl, ?_⟩, fun _ _ h => h⟩
  · intro k
    rcases htable with hsame | ⟨n, hget⟩
    · exact Or.inl (hsame k)
    · by_cases hk : w.uuids = k
      · refine Or.inr ⟨row n, (hget k).trans (if_pos hk), hk.le, ?_, hpulse n⟩
        rw [← hk]
        exact Nat.lt_succ_self _
      · exact Or.inl ((hget k).trans (if_neg hk))
  · intro l hl
    rw [hlinks l hl]
  · intro e he
    obtain ⟨hevent, hagrees⟩ := hems e he
    refine ⟨hevent.ge, ?_, status, hagrees, ?_⟩
    · rw [hevent]
      exact Nat.lt_succ_self _
    · rcases htable with hsame | ⟨n, hget⟩
      · exact Or.inl (hsame _)
      · exact Or.inr ⟨row n, (hget _).trans (if_pos hevent.symm), hstatus n⟩

/-- The status and the payload of a trigger event of the unified loop agree. -/
theorem agrees_triggerExecution (finality : Option FinalityStatus) :
    Agrees (if finality.any (·.isFinalized) then .finalized else .confirmed)
      (triggerExecution finality) := by
  unfold triggerExecution
  by_cases hfinal : finality.any (·.isFinalized) = true
  · rw [if_pos hfinal, if_pos hfinal]
    rfl
  · rw [if_neg hfinal, if_neg hfinal]
    rfl

/-- When there is a webhook of a trigger event, and which. -/
theorem triggerWebhook_eq_some {env : Env} {id : EventId} {ctx : TriggerContext} {d : DecodedEvent}
    {out : TriggerDispatch} {e : Emission} (h : triggerWebhook env id ctx d out = some e) :
    e =
      { event := id
        endpoint := out.endpoint
        message := .webhook (out.endpoint.convoyProjectId.getD "") none out.payload
          (if env.raises (.send id out.endpoint.id) then none
            else some (env.messageId out.endpoint.id))
        blockNumber := d.blockNumber
        height := observedHeight env ctx.finality } := by
  unfold triggerWebhook at h
  by_cases hpush : out.endpoint.mode = .execute ∧ truthy out.endpoint.convoyProjectId = true
  · rw [if_pos hpush] at h
    exact (Option.some.inj h).symm
  · rw [if_neg hpush] at h
    cases h

/-- When there is a realtime row of a trigger event, and which. -/
theorem triggerRealtime_eq_some {env : Env} {w : World} {id : EventId} {ctx : TriggerContext}
    {d : DecodedEvent} {out : TriggerDispatch} {e : Emission}
    (h : triggerRealtime env w id ctx d out = some e) :
    ∃ chain, ctx.chainId = some chain ∧ e =
      { event := id
        endpoint := out.endpoint
        message := .realtime .triggerMatched chain
          ((d.paymentTo.filter (· ≠ "")).getD d.contractAddress) (.event out.payload)
        blockNumber := d.blockNumber
        height := observedHeight env ctx.finality } := by
  unfold triggerRealtime at h
  by_cases hnotify : out.endpoint.mode = .notify ∧ env.raises (.insertRealtime id) = false
  · rw [if_pos hnotify] at h
    dsimp only at h
    split at h
    · cases h
    · rename_i chain hchain
      generalize (if env.raises (.fetchSubscriptions out.endpoint.id) = true then []
        else w.activeSubscriptions out.endpoint.id) = subs at h
      by_cases hlistens : (subs.isEmpty || subs.any fun s => listFilter s.filters.chains chain) =
        true
      · rw [if_pos hlistens] at h
        exact ⟨chain, hchain, (Option.some.inj h).symm⟩
      · rw [if_neg hlistens] at h
        cases h
  · rw [if_neg hnotify] at h
    cases h

theorem triggerWebhook_spec {env : Env} {id : EventId} {ctx : TriggerContext} {d : DecodedEvent}
    {out : TriggerDispatch} {e : Emission} (h : triggerWebhook env id ctx d out = some e) :
    e.event = id ∧ e.message.trigger? = out.payload.triggerId ∧
      e.execution = out.payload.execution := by
  obtain rfl := triggerWebhook_eq_some h
  exact ⟨rfl, rfl, rfl⟩

theorem triggerRealtime_spec {env : Env} {w : World} {id : EventId} {ctx : TriggerContext}
    {d : DecodedEvent} {out : TriggerDispatch} {e : Emission}
    (h : triggerRealtime env w id ctx d out = some e) :
    e.event = id ∧ e.message.trigger? = out.payload.triggerId ∧
      e.execution = out.payload.execution := by
  obtain ⟨chain, -, rfl⟩ := triggerRealtime_eq_some h
  exact ⟨rfl, rfl, rfl⟩

theorem dynamicWebhook_spec {env : Env} {id : EventId} {d : DecodedEvent} {out : TriggerDispatch}
    {e : Emission} (h : dynamicWebhook env id d out = some e) :
    e.event = id ∧ e.message.trigger? = out.payload.triggerId ∧
      e.execution = out.payload.execution := by
  unfold dynamicWebhook at h
  by_cases hproject : truthy out.endpoint.convoyProjectId = true
  · rw [if_pos hproject] at h
    obtain rfl := Option.some.inj h
    exact ⟨rfl, rfl, rfl⟩
  · rw [if_neg hproject] at h
    cases h

theorem dispatchTrigger_effect (env : Env) (w : World) (ctx : TriggerContext) (d : DecodedEvent)
    (t : Trigger) (ep : Endpoint) : PulseEffect w (dispatchTrigger env w ctx d t ep).1 := by
  have hround := triggerRound_effect env w ctx.chainId t
    (fun chain => triggerRow env.now w.uuids
      (if ctx.finality.any (·.isFinalized) then .finalized else .confirmed)
      ((ctx.finality.map (·.confirmations)).getD 0) ((d.identityAddress.filter (· ≠ "")).getD "")
      ctx.txHash chain d t)
    ((triggerWebhook env w.uuids ctx d (triggerDispatch ctx d t ep)).toList ++
      (triggerRealtime env w.uuid4.1 w.uuids ctx d (triggerDispatch ctx d t ep)).toList)
    ep.id ((triggerWebhook env w.uuids ctx d (triggerDispatch ctx d t ep)).bind Emission.messageId)
    (fun _ => rfl) (fun _ => ⟨rfl, rfl⟩) (fun _ => rfl) ?_
  · rw [← List.append_assoc] at hround
    exact hround
  · intro e he
    rcases List.mem_append.mp he with he | he
    · obtain ⟨hevent, -, hexec⟩ := triggerWebhook_spec (Option.mem_toList.mp he)
      rw [hexec]
      exact ⟨hevent, agrees_triggerExecution ctx.finality⟩
    · obtain ⟨hevent, -, hexec⟩ := triggerRealtime_spec (Option.mem_toList.mp he)
      rw [hexec]
      exact ⟨hevent, agrees_triggerExecution ctx.finality⟩

theorem dispatchDynamic_effect (env : Env) (lib : Library) (w : World) (raw : RawLog)
    (identity : Option AgentIdentity) (d : DecodedEvent) (t : Trigger) (ep : Endpoint) :
    PulseEffect w (dispatchDynamic env lib w raw identity d t ep).1 := by
  refine triggerRound_effect env w d.chainId t
    (fun chain => triggerRow env.now w.uuids .confirmed 0 (d.identityAddress.getD "")
      raw.transactionHash chain d t)
    (dynamicWebhook env w.uuids d (dynamicDispatch lib raw identity d t ep)).toList ep.id
    ((dynamicWebhook env w.uuids d (dynamicDispatch lib raw identity d t ep)).bind
      Emission.messageId)
    (fun _ => rfl) (fun _ => ⟨rfl, rfl⟩) (fun _ => rfl) ?_
  intro e he
  obtain ⟨hevent, -, hexec⟩ := dynamicWebhook_spec (Option.mem_toList.mp he)
  rw [hexec]
  exact ⟨hevent, rfl⟩

/-! ### The loops -/

theorem dispatchTriggers_effect (env : Env) (lib : Library) (ctx : TriggerContext)
    (pairs : List (DecodedEvent × Trigger)) (w : World) :
    PulseEffect w (dispatchTriggers env lib ctx pairs w).1 := by
  induction pairs generalizing w with
  | nil => exact PulseEffect.refl w
  | cons p ps ih =>
    obtain ⟨d, t⟩ := p
    rw [dispatchTriggers]
    split
    · exact PulseEffect.refl w
    · exact ih w
    · rename_i ep _
      exact (dispatchTrigger_effect env w ctx d t ep).trans (ih _)

/-- **The unified loop.** -/
theorem processUnified_effect (env : Env) (lib : Library) (w : World) (raw : RawLog)
    (triggers : List Trigger) : PulseEffect w (processUnified env lib w raw triggers).1 := by
  change PulseEffect w (processUnifiedTraced env lib w raw triggers).1
  unfold processUnifiedTraced
  split
  · exact PulseEffect.refl w
  · exact PulseEffect.refl w
  · rename_i primary pairs _
    have hdedup := dedupPairs_effect env primary.1.chainId (primary :: pairs) w
    dsimp only
    split_ifs
    · exact hdedup
    · exact hdedup
    · exact hdedup.trans (dispatchTriggers_effect env lib _ _ _)

theorem processDynamicMatch_effect (env : Env) (lib : Library) (w : World) (raw : RawLog)
    (d : DecodedEvent) (t : Trigger) :
    PulseEffect w (processDynamicMatch env lib w raw d t).1 := by
  have hnonce := recordNonce_effect w env.now (dynamicNonceKey lib raw t) none
  unfold processDynamicMatch
  by_cases hraise : env.raises (.recordTriggerNonce t.id) = true
  · rw [if_pos hraise]
    exact PulseEffect.refl w
  · rw [if_neg hraise]
    dsimp only
    split_ifs
    · exact hnonce
    · exact hnonce
    · exact hnonce
    · split
      · exact hnonce
      · exact hnonce.trans (dispatchDynamic_effect env lib _ raw _ d t _)

theorem processDynamicTriggers_effect (env : Env) (lib : Library) (raw : RawLog)
    (triggers : List Trigger) (w : World) :
    PulseEffect w (processDynamicTriggers env lib raw triggers w).1 := by
  induction triggers generalizing w with
  | nil => exact PulseEffect.refl w
  | cons t ts ih =>
    rw [processDynamicTriggers]
    split
    · exact ih w
    · split
      · exact PulseEffect.refl w
      · exact ih w
      · exact (processDynamicMatch_effect env lib w raw _ t).trans (ih _)

/-- **The legacy loop.** -/
theorem processDynamicEvent_effect (env : Env) (lib : Library) (w : World) (raw : RawLog)
    (triggers : List Trigger) : PulseEffect w (processDynamicEvent env lib w raw triggers).1 :=
  processDynamicTriggers_effect env lib raw triggers w

/-! ### Runs of the pipeline -/

/-- One step of a run of the pipeline. -/
inductive PipelineAction where
  | keeper (a : KeeperAction)
  | unified (env : Env) (lib : Library) (raw : RawLog) (triggers : List Trigger)
  | dynamic (env : Env) (lib : Library) (raw : RawLog) (triggers : List Trigger)

/-- The world after a step. -/
def pipelineStep (w : World) : PipelineAction → World
  | .keeper a => keeperStep w a
  | .unified env lib raw triggers => (processUnified env lib w raw triggers).1
  | .dynamic env lib raw triggers => (processDynamicEvent env lib w raw triggers).1

/-- A step is a Keeper step or has a Pulse effect. -/
theorem pipelineStep_cases (w : World) (a : PipelineAction) :
    (∃ k, a = .keeper k ∧ pipelineStep w a = keeperStep w k) ∨
      PulseEffect w (pipelineStep w a) := by
  cases a with
  | keeper k => exact Or.inl ⟨k, rfl, rfl⟩
  | unified env lib raw triggers => exact Or.inr (processUnified_effect env lib w raw triggers)
  | dynamic env lib raw triggers => exact Or.inr (processDynamicEvent_effect env lib w raw triggers)

end TripWire
