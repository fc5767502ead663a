import TripWire.Pulse.Isolation
import TripWire.Pulse.System

/-!
# The gates of a trigger

A trigger may ask for a payment, for a reputation and for an agent class of the sender
(SKILL-SPEC, section 4).  `Gated` is what a message about the trigger promises of the decoded event
and of the identity that was resolved for it.

Two loops send such messages.  Both compare the reputation; the payment gate stands in the unified
loop only; and the class is a column of the triggers table that neither loop reads.  `gated_iff`
says what is left to the caller: a message keeps the promise exactly if the identity happens to have
the class and, on the legacy path, the event happens to pass the payment gate.
-/

namespace TripWire

open Py

/-! ### The promise -/

/-- The reputation of the identity reaches the threshold of the trigger, if it has one. -/
def HasReputation (identity : Option AgentIdentity) (t : Trigger) : Prop :=
  0 < t.reputationThreshold → ∃ i ∈ identity, t.reputationThreshold ≤ i.reputationScore.val

/-- The identity has the class the trigger asks for, if it asks for one. -/
def HasClass (identity : Option AgentIdentity) (t : Trigger) : Prop :=
  ∀ required ∈ t.requiredAgentClass, ∃ i ∈ identity, i.agentClass = required

/-- All gates of the trigger pass. -/
structure Gated (d : DecodedEvent) (identity : Option AgentIdentity) (t : Trigger) : Prop where
  payment : t.requirePayment = true → checkPaymentGate d t = none
  reputation : HasReputation identity t
  agentClass : HasClass identity t

/-- An unresolved identity counts as reputation zero, which reaches no positive threshold. -/
theorem reputationGate_iff (identity : Option AgentIdentity) (t : Trigger) :
    reputationGate identity t = true ↔ HasReputation identity t := by
  unfold reputationGate HasReputation
  cases identity with
  | none =>
    simp only [Option.map_none, Option.getD_none, Bool.not_eq_true', Bool.and_eq_false_iff,
      decide_eq_false_iff_not, not_lt, Option.not_mem_none, false_and, exists_false, imp_false,
      or_self]
  | some i =>
    simp only [Option.map_some, Option.getD_some, Bool.not_eq_true', Bool.and_eq_false_iff,
      decide_eq_false_iff_not, not_lt, Option.mem_def, Option.some.injEq, exists_eq_left']
    rw [← not_lt, imp_iff_not_or]

/-! ### The two paths -/

/-- The loops that dispatch triggers. -/
inductive TriggerPath where
  /-- `_process_unified` -/
  | unified
  /-- `_process_dynamic_event` -/
  | dynamic
  deriving DecidableEq

/-- A delivery of a log to a list of triggers. -/
structure TriggerDelivery where
  path : TriggerPath
  env : Env
  lib : Library
  raw : RawLog
  triggers : List Trigger

namespace TriggerDelivery

/-- The world after the delivery. -/
def after (x : TriggerDelivery) (w : World) : World :=
  match x.path with
  | .unified => (processUnified x.env x.lib w x.raw x.triggers).1
  | .dynamic => (processDynamicEvent x.env x.lib w x.raw x.triggers).1

/-- The webhooks and realtime rows of the delivery. -/
def messages (x : TriggerDelivery) (w : World) : List Emission :=
  (x.after w).outbox.drop w.outbox.length

/-- The identity that is resolved for a trigger with the event `d`: the unified loop resolves one
for all, from the first surviving event. -/
def identity (x : TriggerDelivery) (d : DecodedEvent) : Option AgentIdentity :=
  match x.path with
  | .unified => (primaryDecoded x.lib x.raw x.triggers).bind (triggerIdentity x.env)
  | .dynamic => triggerIdentity x.env d

/-- What no gate of the path sees to. -/
def Unchecked (x : TriggerDelivery) (d : DecodedEvent) (t : Trigger) : Prop :=
  HasClass (x.identity d) t ∧
    (x.path = .dynamic → t.requirePayment = true → checkPaymentGate d t = none)

end TriggerDelivery

/-! ### Which pairs send -/

theorem recordTriggerEvent_outbox (env : Env) (w : World) (id : EventId) (chain : Option ℤ)
    (t : Trigger) (row : ℤ → EventRow) :
    (recordTriggerEvent env w id chain t row).outbox = w.outbox := by
  obtain ⟨table, links, h⟩ := recordTriggerEvent_frame env w id chain t row
  rw [h]

theorem recordTriggerDelivery_outbox (env : Env) (w : World) (id : EventId) (eid : EndpointId)
    (messageId : Option String) :
    (recordTriggerDelivery env w id eid messageId).outbox = w.outbox := by
  obtain ⟨ds, hds⟩ := recordTriggerDelivery_frame env w id eid messageId
  rw [hds]

/-- The messages of one dispatched pair are about its trigger. -/
theorem dispatchTrigger_outbox (env : Env) (w : World) (ctx : TriggerContext) (d : DecodedEvent)
    (t : Trigger) (ep : Endpoint) :
    OutboxGrows (fun e => e.message.trigger? = some t.id) w
      (dispatchTrigger env w ctx d t ep).1 := by
  refine ⟨(triggerWebhook env w.uuids ctx d (triggerDispatch ctx d t ep)).toList ++
    (triggerRealtime env w.uuid4.1 w.uuids ctx d (triggerDispatch ctx d t ep)).toList, ?_, ?_⟩
  · unfold dispatchTrigger
    simp only
    rw [recordTriggerDelivery_outbox, recordTriggerEvent_outbox, ← List.append_assoc]
    rfl
  · intro e he
    rcases List.mem_append.mp he with he | he
    · exact (triggerWebhook_spec (Option.mem_toList.mp he)).2.1
    · exact (triggerRealtime_spec (Option.mem_toList.mp he)).2.1

theorem dispatchDynamic_outbox (env : Env) (lib : Library) (w : World) (raw : RawLog)
    (identity : Option AgentIdentity) (d : DecodedEvent) (t : Trigger) (ep : Endpoint) :
    OutboxGrows (fun e => e.message.trigger? = some t.id) w
      (dispatchDynamic env lib w raw identity d t ep).1 := by
  refine ⟨(dynamicWebhook env w.uuids d (dynamicDispatch lib raw identity d t ep)).toList, ?_, ?_⟩
  · unfold dispatchDynamic
    simp only
    rw [recordTriggerDelivery_outbox, recordTriggerEvent_outbox]
    rfl
  · intro e he
    exact (dynamicWebhook_spec (Option.mem_toList.mp he)).2.1

theorem OutboxGrows.mono {P Q : Emission → Prop} {w w' : World} (h : OutboxGrows P w w')
    (hPQ : ∀ e, P e → Q e) : OutboxGrows Q w w' := by
  obtain ⟨ems, hems, hP⟩ := h
  exact ⟨ems, hems, fun e he => hPQ e (hP e he)⟩

/-- The dispatch loop sends about triggers of its pairs. -/
theorem dispatchTriggers_outbox (env : Env) (lib : Library) (ctx : TriggerContext)
    (pairs : List (DecodedEvent × Trigger)) (w : World) :
    OutboxGrows (fun e => ∃ p ∈ pairs, e.message.trigger? = some p.2.id) w
      (dispatchTriggers env lib ctx pairs w).1 := by
  induction pairs generalizing w with
  | nil => exact OutboxGrows.refl rfl
  | cons q qs ih =>
    obtain ⟨d, t⟩ := q
    have hrest : ∀ w' : World, OutboxGrows (fun e => ∃ p ∈ (d, t) :: qs,
        e.message.trigger? = some p.2.id) w' (dispatchTriggers env lib ctx qs w').1 := by
      intro w'
      refine (ih w').mono ?_
      rintro e ⟨p, hp, he⟩
      exact ⟨p, List.mem_cons_of_mem _ hp, he⟩
    rw [dispatchTriggers]
    split
    · exact OutboxGrows.refl rfl
    · exact hrest w
    · rename_i ep _
      refine OutboxGrows.trans ((dispatchTrigger_outbox env w ctx d t ep).mono ?_) (hrest _)
      intro e he
      exact ⟨(d, t), List.mem_cons_self, he⟩

/-- What the unified loop has checked of a trigger it sends about. -/
theorem processUnified_outbox (env : Env) (lib : Library) (w : World) (raw : RawLog)
    (triggers : List Trigger) :
    OutboxGrows (fun e => ∃ t ∈ triggers, ∃ d, e.message.trigger? = some t.id ∧
        survivingEvent lib raw t = some d ∧
        reputationGate ((primaryDecoded lib raw triggers).bind (triggerIdentity env)) t = true) w
      (processUnified env lib w raw triggers).1 := by
  change OutboxGrows _ w (processUnifiedTraced env lib w raw triggers).1
  by_cases hok : ∀ u ∈ triggers, filtersRaise lib raw u = false
  · rw [processUnifiedTraced, decodedPairs_of_ok hok, primaryDecoded_eq]
    cases hpairs : survivors lib raw triggers with
    | nil => exact OutboxGrows.refl rfl
    | cons primary pairs =>
      have hdedup : (dedupPairs env primary.1.chainId (primary :: pairs) w).1.outbox =
          w.outbox := by
        obtain ⟨table, htable⟩ := dedupPairs_frame env primary.1.chainId (primary :: pairs) w
        rw [htable]
      simp only
      split_ifs
      · exact OutboxGrows.refl hdedup
      · exact OutboxGrows.refl hdedup
      · refine OutboxGrows.trans (OutboxGrows.refl hdedup)
          ((dispatchTriggers_outbox env lib _ _ _).mono ?_)
        rintro e ⟨p, hp, he⟩
        obtain ⟨hactive, hgate⟩ := List.mem_filter.mp hp
        have hmem : p ∈ survivors lib raw triggers := by
          rw [hpairs]
          exact mem_of_mem_dedupPairs hactive
        obtain ⟨ht, hd⟩ := mem_survivors.mp hmem
        exact ⟨p.2, ht, p.1, he, hd, hgate⟩
  · have hraise : ∃ u ∈ triggers, filtersRaise lib raw u = true := by
      push Not at hok
      simpa using hok
    obtain ⟨err, herr⟩ := decodedPairs_of_raise hraise
    rw [processUnifiedTraced, herr]
    exact OutboxGrows.refl rfl

/-- What the legacy loop has checked of a trigger it sends about. -/
theorem processDynamicTriggers_outbox (env : Env) (lib : Library) (raw : RawLog)
    (triggers : List Trigger) (w : World) :
    OutboxGrows (fun e => ∃ t ∈ triggers, ∃ d, e.message.trigger? = some t.id ∧
        AbiGenericDecoder.decode lib t.abi raw = .ok d ∧
        reputationGate (triggerIdentity env d) t = true) w
      (processDynamicTriggers env lib raw triggers w).1 := by
  induction triggers generalizing w with
  | nil => exact OutboxGrows.refl rfl
  | cons t ts ih =>
    have hrest : ∀ w' : World, OutboxGrows (fun e => ∃ u ∈ t :: ts, ∃ d,
        e.message.trigger? = some u.id ∧ AbiGenericDecoder.decode lib u.abi raw = .ok d ∧
        reputationGate (triggerIdentity env d) u = true) w'
        (processDynamicTriggers env lib raw ts w').1 := by
      intro w'
      refine (ih w').mono ?_
      rintro e ⟨u, hu, hsent⟩
      exact ⟨u, List.mem_cons_of_mem t hu, hsent⟩
    rw [processDynamicTriggers]
    split
    · exact hrest w
    · rename_i d hd
      split
      · exact OutboxGrows.refl rfl
      · exact hrest w
      · refine OutboxGrows.trans ?_ (hrest _)
        -- this round: whatever stops it, it stops before the dispatch
        obtain ⟨table, htable⟩ := w.recordNonce_frame env.now (dynamicNonceKey lib raw t) none
        have hnonce : (w.recordNonce env.now (dynamicNonceKey lib raw t) none).1.outbox =
            w.outbox := by
          rw [htable]
        unfold processDynamicMatch
        by_cases hraise : env.raises (.recordTriggerNonce t.id) = true
        · rw [if_pos hraise]
          exact OutboxGrows.refl rfl
        · rw [if_neg hraise]
          dsimp only
          split_ifs with hnew hgate hfetch
          · exact OutboxGrows.refl hnonce
          · exact OutboxGrows.refl hnonce
          · exact OutboxGrows.refl hnonce
          · split
            · exact OutboxGrows.refl hnonce
            · refine OutboxGrows.trans (OutboxGrows.refl hnonce)
                ((dispatchDynamic_outbox env lib _ raw _ d t _).mono ?_)
              intro e he
              exact ⟨t, List.mem_cons_self, d, he, hd, by simpa using hgate⟩

/-! ### The gates that are there -/

/-- **Three-layer gating.** A message about a trigger keeps the promise of all three gates if and
only if what its path leaves unchecked happens to hold. -/
theorem gated_iff {x : TriggerDelivery} {w : World} (hnodup : (x.triggers.map (·.id)).Nodup)
    {t : Trigger} (ht : t ∈ x.triggers) {d : DecodedEvent}
    (hd : AbiGenericDecoder.decode x.lib t.abi x.raw = .ok d) {e : Emission}
    (he : e ∈ x.messages w) (htrigger : e.message.trigger? = some t.id) :
    Gated d (x.identity d) t ↔ x.Unchecked d t := by
  obtain ⟨path, env, lib, raw, triggers⟩ := x
  simp only at hnodup ht hd
  have hsame : ∀ u ∈ triggers, e.message.trigger? = some u.id → u = t := by
    intro u hu hid
    rw [htrigger] at hid
    exact List.inj_on_of_nodup_map hnodup hu ht (Option.some.inj hid).symm
  unfold TriggerDelivery.messages TriggerDelivery.after at he
  cases path with
  | unified =>
    obtain ⟨ems, hems, hsent⟩ := processUnified_outbox env lib w raw triggers
    simp only at he
    rw [hems, List.drop_left] at he
    obtain ⟨u, hu, d', hid, hsurvives, hgate⟩ := hsent e he
    obtain rfl := hsame u hu hid
    obtain ⟨hdecode, hpayment⟩ := survivingEvent_eq_some hsurvives
    rw [hd] at hdecode
    obtain rfl := Except.ok.inj hdecode
    constructor
    · intro h
      exact ⟨h.agentClass, fun hpath => by cases hpath⟩
    · intro h
      exact ⟨fun _ => hpayment, (reputationGate_iff _ _).mp hgate, h.1⟩
  | dynamic =>
    have hstep : (processDynamicEvent env lib w raw triggers).1 =
        (processDynamicTriggers env lib raw triggers w).1 := rfl
    obtain ⟨ems, hems, hsent⟩ := processDynamicTriggers_outbox env lib raw triggers w
    simp only at he
    rw [hstep, hems, List.drop_left] at he
    obtain ⟨u, hu, d', hid, hdecode, hgate⟩ := hsent e he
    obtain rfl := hsame u hu hid
    rw [hd] at hdecode
    obtain rfl := Except.ok.inj hdecode
    constructor
    · intro h
      exact ⟨h.agentClass, fun _ => h.payment⟩
    · intro h
      exact ⟨h.2 rfl, (reputationGate_iff _ _).mp hgate, h.1⟩

namespace Sample

/-- The delivery of the sample log to one trigger, a hundred blocks deep. -/
def delivered (path : TriggerPath) (t : Trigger) : TriggerDelivery where
  path
  env := height 200
  lib := emptyExpression
  raw := rawLog
  triggers := [t]

/-- A trigger for agents of one class. -/
def forBots : Trigger := { trigger "t" [] with requiredAgentClass := some "trading-bot" }

/-- A trigger that asks for a payment. -/
def forPayment : Trigger := { trigger "t" [] with requirePayment := true }

/-- The event that the sample log decodes to. -/
theorem decoded_rawLog (id : String) : ∃ d,
    AbiGenericDecoder.decode emptyExpression (trigger id []).abi rawLog = .ok d ∧
      d.paymentAmount = none ∧ d.identityAddress = none := by
  have hdecoded : ∃ d ∈ (AbiGenericDecoder.decode emptyExpression [[("type", .str "event")]]
      rawLog).toOption, d.paymentAmount = none ∧ d.identityAddress = none := by
    decide +kernel
  obtain ⟨d, hd, hfields⟩ := hdecoded
  refine ⟨d, ?_, hfields⟩
  show AbiGenericDecoder.decode emptyExpression [[("type", .str "event")]] rawLog = .ok d
  cases hp : AbiGenericDecoder.decode emptyExpression [[("type", .str "event")]] rawLog with
  | error err =>
    rw [hp] at hd
    cases hd
  | ok d' =>
    rw [hp] at hd
    obtain rfl := Option.some.inj hd
    rfl

end Sample

/-- A trigger without gates: its message promises nothing that could fail. -/
theorem gated_iff_plain :
    ∃ e ∈ (Sample.delivered .unified (Sample.trigger "t" [])).messages Sample.pulse,
      ∃ d, e.message.trigger? = some "t" ∧
        Gated d ((Sample.delivered .unified (Sample.trigger "t" [])).identity d)
          (Sample.trigger "t" []) := by
  obtain ⟨e, he, htrigger⟩ :
      ∃ e ∈ (Sample.delivered .unified (Sample.trigger "t" [])).messages Sample.pulse,
        e.message.trigger? = some "t" := by
    decide +kernel
  obtain ⟨d, hd, -⟩ := Sample.decoded_rawLog "t"
  have hone : ((Sample.delivered .unified (Sample.trigger "t" [])).triggers.map (·.id)).Nodup :=
    List.nodup_singleton "t"
  refine ⟨e, he, d, htrigger, ?_⟩
  refine (gated_iff hone List.mem_cons_self hd he htrigger).mpr ⟨?_, ?_⟩
  · intro required hrequired
    cases hrequired
  · intro hpath
    cases hpath

/-- The unified loop sends about a trigger that asks for trading bots although there is no identity
at all, and the legacy loop about one that asks for a payment although the event has none. -/
theorem not_gated_unchecked :
    (∃ e ∈ (Sample.delivered .unified Sample.forBots).messages Sample.pulse,
      ∃ d, AbiGenericDecoder.decode Sample.emptyExpression Sample.forBots.abi Sample.rawLog =
          .ok d ∧
        e.message.trigger? = some Sample.forBots.id ∧
        ¬ Gated d ((Sample.delivered .unified Sample.forBots).identity d) Sample.forBots) ∧
      ∃ e ∈ (Sample.delivered .dynamic Sample.forPayment).messages Sample.pulse,
        ∃ d, AbiGenericDecoder.decode Sample.emptyExpression Sample.forPayment.abi Sample.rawLog =
            .ok d ∧
          e.message.trigger? = some Sample.forPayment.id ∧
          ¬ Gated d ((Sample.delivered .dynamic Sample.forPayment).identity d)
            Sample.forPayment := by
  obtain ⟨d, hd, hamount, -⟩ := Sample.decoded_rawLog "t"
  constructor
  · obtain ⟨e, he, htrigger, hidentity⟩ :
        ∃ e ∈ (Sample.delivered .unified Sample.forBots).messages Sample.pulse,
          e.message.trigger? = some Sample.forBots.id ∧
            (primaryDecoded Sample.emptyExpression Sample.rawLog [Sample.forBots]).bind
              (triggerIdentity (Sample.height 200)) = none := by
      decide +kernel
    refine ⟨e, he, d, hd, htrigger, ?_⟩
    intro hgated
    obtain ⟨i, hi, -⟩ := hgated.agentClass "trading-bot" rfl
    change i ∈ (primaryDecoded Sample.emptyExpression Sample.rawLog [Sample.forBots]).bind
      (triggerIdentity (Sample.height 200)) at hi
    rw [hidentity] at hi
    cases hi
  · obtain ⟨e, he, htrigger⟩ :
        ∃ e ∈ (Sample.delivered .dynamic Sample.forPayment).messages Sample.pulse,
          e.message.trigger? = some Sample.forPayment.id := by
      decide +kernel
    refine ⟨e, he, d, hd, htrigger, ?_⟩
    intro hgated
    have hrequired : Sample.forPayment.requirePayment = true := rfl
    have hpayment := hgated.payment hrequired
    rw [checkPaymentGate, if_pos hrequired, hamount] at hpayment
    cases hpayment

end TripWire
