import Mathlib
import TripWire.Ingestion.Recording
import TripWire.Pulse.Gating

/-!
# Subscription filters on the notify paths

Three paths insert `realtime_events` rows for notify endpoints: the direct dispatch of a transfer,
the promotion of a pre-confirmed event and the unified loop of the trigger handler.  Each decides on
its own what the subscriptions of an endpoint mean for an event.

`SubscriptionFilter.Accepts` says what they mean: the five filters all accept the payment data of
the event, where an absent or empty filter accepts everything.  The direct dispatch asks for that
(`subscriptionMatches_iff`), the unified loop looks at the chains only, and the promotion does not
look at the subscriptions.  `subscriptions_respected_iff` says for each path which calls respect
them all the same.
-/

namespace TripWire

open Py

/-! ### What a subscription accepts -/

/-- The payment data of an event that the filters look at. -/
structure PaymentData where
  chainId : ℤ
  fromAddress : String
  toAddress : String
  amount : String

/-- The payment data of a transfer. -/
def ERC3009Transfer.paymentData (t : ERC3009Transfer) : PaymentData where
  chainId := t.chainId.value
  fromAddress := t.fromAddress.val
  toAddress := t.toAddress.val
  amount := t.value

/-- The payment data of a trigger event, as the policies see them. -/
def DecodedEvent.paymentData (chainId : ℤ) (d : DecodedEvent) : PaymentData where
  chainId
  fromAddress := (triggerTransferData d).fromAddress
  toAddress := (triggerTransferData d).toAddress
  amount := (triggerTransferData d).amount

/-- All filters accept: an absent or empty one accepts everything, addresses are compared without
case, and amounts as numbers. -/
structure SubscriptionFilter.Accepts (f : SubscriptionFilter) (p : PaymentData)
    (identity : Option AgentIdentity) : Prop where
  chains : listFilter f.chains p.chainId = true
  senders : listFilter (f.senders.map (List.map lower)) (lower p.fromAddress) = true
  recipients : listFilter (f.recipients.map (List.map lower)) (lower p.toAddress) = true
  minAmount : ∀ minimum, f.minAmount.filter (· ≠ "") = some minimum →
    ∃ amount required, int p.amount = .ok amount ∧ int minimum = .ok required ∧ required ≤ amount
  agentClass : ∀ required, f.agentClass.filter (· ≠ "") = some required →
    ∃ agent, identity = some agent ∧ agent.agentClass = required

/-- **The filters of one subscription**, as `match_subscriptions` applies them. -/
theorem subscriptionMatches_iff {t : ERC3009Transfer} {identity : Option AgentIdentity}
    {f : SubscriptionFilter} :
    subscriptionMatches t identity f = .ok true ↔ f.Accepts t.paymentData identity := by
  have hfalse : (pure false : Except PyError Bool) ≠ .ok true := nofun
  unfold subscriptionMatches
  by_cases hchains : listFilter f.chains t.chainId.value = true
  swap
  · simp only [hchains]
    exact ⟨fun h => absurd h hfalse, fun h => absurd h.chains hchains⟩
  by_cases hsenders :
      listFilter (f.senders.map (List.map lower)) (lower t.fromAddress.val) = true
  swap
  · simp only [hchains, hsenders]
    exact ⟨fun h => absurd h hfalse, fun h => absurd h.senders hsenders⟩
  by_cases hrecipients :
      listFilter (f.recipients.map (List.map lower)) (lower t.toAddress.val) = true
  swap
  · simp only [hchains, hsenders, hrecipients]
    exact ⟨fun h => absurd h hfalse, fun h => absurd h.recipients hrecipients⟩
  have haccepts : f.Accepts t.paymentData identity ↔
      (∀ minimum, f.minAmount.filter (· ≠ "") = some minimum → ∃ amount required,
        int t.value = .ok amount ∧ int minimum = .ok required ∧ required ≤ amount) ∧
      ∀ required, f.agentClass.filter (· ≠ "") = some required →
        ∃ agent, identity = some agent ∧ agent.agentClass = required :=
    ⟨fun h => ⟨h.minAmount, h.agentClass⟩, fun h => ⟨hchains, hsenders, hrecipients, h.1, h.2⟩⟩
  rw [haccepts]
  simp only [hchains, hsenders, hrecipients, Bool.not_true, Bool.false_eq_true, if_false]
  generalize f.minAmount.filter (· ≠ "") = minAmount
  generalize f.agentClass.filter (· ≠ "") = agentClass
  cases minAmount with
  | none => cases agentClass <;> cases identity <;> simp [pure, Except.pure]
  | some minimum =>
    cases hamount : int t.value with
    | error e => simp [bind, Except.bind]
    | ok amount =>
      cases hrequired : int minimum with
      | error e => simp [bind, Except.bind, hrequired]
      | ok required =>
        by_cases hlt : amount < required
        · simp [bind, Except.bind, hrequired, hlt, pure, Except.pure]
        · cases agentClass <;> cases identity <;>
            simp [bind, Except.bind, hrequired, hlt, not_lt.mp hlt, pure, Except.pure]

theorem matchSubscriptions_cons {t : ERC3009Transfer} {identity : Option AgentIdentity}
    {sub : Subscription} {subs : List Subscription} :
    matchSubscriptions t identity (sub :: subs) =
      (if sub.active then subscriptionMatches t identity sub.filters else pure false) >>= fun hit =>
        matchSubscriptions t identity subs >>= fun rest =>
          pure (if hit then sub :: rest else rest) := by
  rw [matchSubscriptions]
  split_ifs <;> rfl

/-- A subscription that `match_subscriptions` returns matches. -/
theorem mem_of_mem_matchSubscriptions {t : ERC3009Transfer} {identity : Option AgentIdentity}
    {subs matched : List Subscription} (h : matchSubscriptions t identity subs = .ok matched)
    {s : Subscription} (hs : s ∈ matched) :
    s ∈ subs ∧ subscriptionMatches t identity s.filters = .ok true := by
  induction subs generalizing matched with
  | nil =>
    obtain rfl := Except.ok.inj h
    cases hs
  | cons sub subs ih =>
    obtain ⟨hit, hhit, h⟩ := bind_eq_ok_iff.mp (matchSubscriptions_cons ▸ h)
    obtain ⟨rest, hrest, h⟩ := bind_eq_ok_iff.mp h
    obtain rfl := Except.ok.inj h
    have hold : s ∈ rest → s ∈ sub :: subs ∧ subscriptionMatches t identity s.filters = .ok true :=
      fun hmem => ⟨List.mem_cons_of_mem sub (ih hrest hmem).1, (ih hrest hmem).2⟩
    cases hit with
    | false => exact hold hs
    | true =>
      rcases List.mem_cons.mp hs with rfl | hmem
      · refine ⟨List.mem_cons_self, ?_⟩
        split_ifs at hhit
        · exact hhit
        · cases hhit
      · exact hold hmem

/-- An endpoint with active subscriptions that could be fetched has one that accepts. -/
def Admits (env : Env) (w : World) (ep : Endpoint) (p : PaymentData)
    (identity : Option AgentIdentity) : Prop :=
  env.raises (.fetchSubscriptions ep.id) = false → w.activeSubscriptions ep.id ≠ [] →
    ∃ s ∈ w.activeSubscriptions ep.id, s.filters.Accepts p identity

/-- The subscription stage of the direct dispatch keeps endpoints that admit the transfer. -/
theorem admits_of_subscribed {env : Env} {w : World} {t : ERC3009Transfer}
    {identity : Option AgentIdentity} {ep : Endpoint}
    (h : subscribed env w t identity ep = .ok true) :
    Admits env w ep t.paymentData identity := by
  intro hfetch hsubs
  rw [subscribed, hfetch] at h
  simp only [Bool.false_eq_true, if_false, List.isEmpty_iff, hsubs] at h
  cases hmatch : matchSubscriptions t identity (w.activeSubscriptions ep.id) with
  | error e =>
    rw [hmatch] at h
    cases h
  | ok matched =>
    rw [hmatch] at h
    have hne : matched ≠ [] := by
      rintro rfl
      cases h
    obtain ⟨s, hs⟩ := List.exists_mem_of_ne_nil matched hne
    obtain ⟨hmem, hok⟩ := mem_of_mem_matchSubscriptions hmatch hs
    exact ⟨s, hmem, subscriptionMatches_iff.mp hok⟩

/-! ### What the unified loop pushes -/

/-- A dispatch of the unified loop: the event id it draws, the pair and the endpoint. -/
structure TriggerPush where
  ctx : TriggerContext
  event : EventId
  decoded : DecodedEvent
  trigger : Trigger
  endpoint : Endpoint

/-- The dispatches of the loop, the next event id being `n`. -/
def triggerPushes (env : Env) (lib : Library) (ctx : TriggerContext)
    (endpoints : KeyedTable Endpoint.id) :
    EventId → List (DecodedEvent × Trigger) → List TriggerPush
  | _, [] => []
  | n, (d, t) :: pairs =>
    match triggerVerdict env lib endpoints ctx d t with
    -- A policy raised: the triggers after this one are not reached.
    | .error _ => []
    | .ok (.inl _) => triggerPushes env lib ctx endpoints n pairs
    | .ok (.inr ep) => ⟨ctx, n, d, t, ep⟩ :: triggerPushes env lib ctx endpoints (n + 1) pairs

/-- The dispatches of `_process_unified`: to the endpoints of the triggers that decode, pass their
filters and the payment gate, are new, and pass the reputation gate and the policies. -/
def unifiedPushes (env : Env) (lib : Library) (w : World) (raw : RawLog) (triggers : List Trigger) :
    List TriggerPush :=
  match decodedPairs lib raw triggers with
  | .ok (primary :: pairs) =>
    let ctx := triggerContext env primary.1
    triggerPushes env lib ctx w.endpoints w.uuids
      ((dedupPairs env primary.1.chainId (primary :: pairs) w).2.filter fun p =>
        reputationGate ctx.identity p.2)
  | _ => []

/-- A dispatch inserts a row when its endpoint wants one and the subscriptions, where there are any,
listen on the chain. -/
structure TriggerPush.Inserts (env : Env) (p : TriggerPush) : Prop where
  notify : p.endpoint.mode = .notify
  inserted : env.raises (.insertRealtime p.event) = false
  chain : p.ctx.chainId ≠ none

/-- The realtime row of a dispatch. -/
def TriggerPush.row? (env : Env) (w : World) (p : TriggerPush) : Option Emission :=
  triggerRealtime env w p.event p.ctx p.decoded
    (triggerDispatch p.ctx p.decoded p.trigger p.endpoint)

/-- The payment data of the event of a dispatch. -/
def TriggerPush.payment (p : TriggerPush) : PaymentData :=
  p.decoded.paymentData (p.ctx.chainId.getD 0)

theorem exists_row?_iff {env : Env} {w : World} {p : TriggerPush} :
    (∃ e, p.row? env w = some e) ↔
      p.Inserts env ∧
        (env.raises (.fetchSubscriptions p.endpoint.id) = true ∨
          w.activeSubscriptions p.endpoint.id = [] ∨
          ∃ s ∈ w.activeSubscriptions p.endpoint.id,
            listFilter s.filters.chains p.payment.chainId = true) := by
  have hinserts : p.Inserts env ↔ (p.endpoint.mode = .notify ∧
      env.raises (.insertRealtime p.event) = false) ∧ p.ctx.chainId ≠ none :=
    ⟨fun h => ⟨⟨h.notify, h.inserted⟩, h.chain⟩, fun h => ⟨h.1.1, h.1.2, h.2⟩⟩
  rw [hinserts, TriggerPush.row?, triggerRealtime, TriggerPush.payment, DecodedEvent.paymentData]
  simp only [triggerDispatch]
  by_cases hnotify : p.endpoint.mode = .notify ∧ env.raises (.insertRealtime p.event) = false
  swap
  · simp [hnotify]
  cases hchain : p.ctx.chainId with
  | none => simp [hnotify]
  | some chain =>
    by_cases hfetch : env.raises (.fetchSubscriptions p.endpoint.id) = true
    · simp [hnotify, hfetch]
    · simp [hnotify, hfetch, List.isEmpty_iff]

theorem isWebhook_triggerRealtime {env : Env} {w : World} {id : EventId} {ctx : TriggerContext}
    {d : DecodedEvent} {out : TriggerDispatch} {e : Emission}
    (h : triggerRealtime env w id ctx d out = some e) :
    e.message.isWebhook = false ∧ e.endpoint = out.endpoint := by
  obtain ⟨chain, -, rfl⟩ := triggerRealtime_eq_some h
  exact ⟨rfl, rfl⟩

theorem isWebhook_triggerWebhook {env : Env} {id : EventId} {ctx : TriggerContext}
    {d : DecodedEvent} {out : TriggerDispatch} {e : Emission}
    (h : triggerWebhook env id ctx d out = some e) :
    e.message.isWebhook = true := by
  obtain rfl := triggerWebhook_eq_some h
  rfl

/-- The realtime rows among emissions. -/
def realtimeOf (emissions : List Emission) : List Emission :=
  emissions.filter fun e => !e.message.isWebhook

theorem realtimeOf_append (es es' : List Emission) :
    realtimeOf (es ++ es') = realtimeOf es ++ realtimeOf es' := List.filter_append ..

theorem realtimeOf_eq_nil {es : List Emission} (h : ∀ e ∈ es, e.message.isWebhook = true) :
    realtimeOf es = [] := by
  apply List.filter_eq_nil_iff.mpr
  intro e he
  simp [h e he]

theorem realtimeOf_eq_self {es : List Emission} (h : ∀ e ∈ es, e.message.isWebhook = false) :
    realtimeOf es = es := by
  apply List.filter_eq_self.mpr
  intro e he
  simp [h e he]

/-- What one dispatch leaves behind. -/
theorem dispatchTrigger_eq (env : Env) (w : World) (ctx : TriggerContext) (d : DecodedEvent)
    (t : Trigger) (ep : Endpoint) :
    ∃ table links ds, (dispatchTrigger env w ctx d t ep).1 =
      { w with
        uuids := w.uuids + 1
        outbox := w.outbox ++
          (triggerWebhook env w.uuids ctx d (triggerDispatch ctx d t ep)).toList ++
          (TriggerPush.row? env w ⟨ctx, w.uuids, d, t, ep⟩).toList
        events := table
        eventEndpoints := links
        deliveries := ds } := by
  obtain ⟨w₂, hw₂⟩ : ∃ w₂ : World, w₂ =
      { w with
        uuids := w.uuids + 1
        outbox := w.outbox ++
          (triggerWebhook env w.uuids ctx d (triggerDispatch ctx d t ep)).toList ++
          (TriggerPush.row? env w ⟨ctx, w.uuids, d, t, ep⟩).toList } := ⟨_, rfl⟩
  obtain ⟨row, hrow⟩ : ∃ row : ℤ → EventRow, row = fun chain => triggerRow env.now w.uuids
      (if ctx.finality.any (·.isFinalized) then .finalized else .confirmed)
      ((ctx.finality.map (·.confirmations)).getD 0) ((d.identityAddress.filter (· ≠ "")).getD "")
      ctx.txHash chain d t := ⟨_, rfl⟩
  have hdispatch : (dispatchTrigger env w ctx d t ep).1 =
      recordTriggerDelivery env (recordTriggerEvent env w₂ w.uuids ctx.chainId t row) w.uuids ep.id
        ((triggerWebhook env w.uuids ctx d (triggerDispatch ctx d t ep)).bind
          Emission.messageId) := by
    rw [hw₂, hrow]
    rfl
  obtain ⟨table, links, hevent⟩ := recordTriggerEvent_frame env w₂ w.uuids ctx.chainId t row
  obtain ⟨ds, hdelivery⟩ := recordTriggerDelivery_frame env
    (recordTriggerEvent env w₂ w.uuids ctx.chainId t row) w.uuids ep.id
    ((triggerWebhook env w.uuids ctx d (triggerDispatch ctx d t ep)).bind Emission.messageId)
  refine ⟨table, links, ds, ?_⟩
  rw [hdispatch, hdelivery, hevent, hw₂]

theorem row?_congr {env : Env} {w w' : World} (h : w'.subscriptions = w.subscriptions)
    (p : TriggerPush) : p.row? env w' = p.row? env w := by
  have hsubs : ∀ eid, w'.activeSubscriptions eid = w.activeSubscriptions eid := by
    intro eid
    rw [World.activeSubscriptions, World.activeSubscriptions, h]
  unfold TriggerPush.row? triggerRealtime
  rw [hsubs]

theorem realtimeOf_triggerWebhook (env : Env) (id : EventId) (ctx : TriggerContext)
    (d : DecodedEvent) (out : TriggerDispatch) :
    realtimeOf (triggerWebhook env id ctx d out).toList = [] :=
  realtimeOf_eq_nil fun _ he => isWebhook_triggerWebhook (Option.mem_toList.mp he)

theorem realtimeOf_row? (env : Env) (w : World) (p : TriggerPush) :
    realtimeOf (p.row? env w).toList = (p.row? env w).toList :=
  realtimeOf_eq_self fun _ he => (isWebhook_triggerRealtime (Option.mem_toList.mp he)).1

/-- **The dispatch loop** inserts the rows of its dispatches. -/
theorem realtimeOf_dispatchTriggers (env : Env) (lib : Library) (ctx : TriggerContext)
    (pairs : List (DecodedEvent × Trigger)) (w : World) :
    ∃ new, (dispatchTriggers env lib ctx pairs w).1.outbox = w.outbox ++ new ∧
      realtimeOf new =
        (triggerPushes env lib ctx w.endpoints w.uuids pairs).filterMap (·.row? env w) := by
  induction pairs generalizing w with
  | nil => exact ⟨[], (List.append_nil _).symm, rfl⟩
  | cons pair pairs ih =>
    obtain ⟨d, t⟩ := pair
    rw [dispatchTriggers, triggerPushes]
    cases hverdict : triggerVerdict env lib w.endpoints ctx d t with
    | error e => exact ⟨[], (List.append_nil _).symm, rfl⟩
    | ok verdict =>
      cases verdict with
      | inl result => exact ih w
      | inr ep =>
        obtain ⟨table, links, ds, hone⟩ := dispatchTrigger_eq env w ctx d t ep
        obtain ⟨new, hnew, hrows⟩ := ih (dispatchTrigger env w ctx d t ep).1
        have houtbox : (dispatchTrigger env w ctx d t ep).1.outbox = w.outbox ++
            (triggerWebhook env w.uuids ctx d (triggerDispatch ctx d t ep)).toList ++
              (TriggerPush.row? env w ⟨ctx, w.uuids, d, t, ep⟩).toList := by rw [hone]
        have hendpoints : (dispatchTrigger env w ctx d t ep).1.endpoints = w.endpoints := by
          rw [hone]
        have huuids : (dispatchTrigger env w ctx d t ep).1.uuids = w.uuids + 1 := by rw [hone]
        have hsubs : (dispatchTrigger env w ctx d t ep).1.subscriptions = w.subscriptions := by
          rw [hone]
        simp only [row?_congr hsubs, hendpoints, huuids] at hrows
        refine ⟨(triggerWebhook env w.uuids ctx d (triggerDispatch ctx d t ep)).toList ++
          ((TriggerPush.row? env w ⟨ctx, w.uuids, d, t, ep⟩).toList ++ new), ?_, ?_⟩
        · show (dispatchTriggers env lib ctx pairs
            (dispatchTrigger env w ctx d t ep).1).1.outbox = _
          rw [hnew, houtbox, List.append_assoc, List.append_assoc]
        · rw [realtimeOf_append, realtimeOf_append, realtimeOf_triggerWebhook, realtimeOf_row?,
            hrows, List.nil_append, List.filterMap_cons]
          cases TriggerPush.row? env w ⟨ctx, w.uuids, d, t, ep⟩ <;> rfl

/-! ### The three paths -/

/-- A call that inserts realtime rows. -/
inductive NotifyCall where
  | dispatchForTransfer (t : ERC3009Transfer) (finality : Option FinalityStatus)
      (identity : Option AgentIdentity) (eventTypeOverride : Option WebhookEventType)
      (eventId : Option EventId)
  | promotePreConfirmedEvent (id : EventId) (t : ERC3009Transfer)
  | processUnified (lib : Library) (raw : RawLog) (triggers : List Trigger)

/-- A realtime row, with the payment data and the identity of its event. -/
structure RealtimeRow where
  emission : Emission
  payment : PaymentData
  identity : Option AgentIdentity

namespace NotifyCall

/-- The world after the call. -/
def run (env : Env) (w : World) : NotifyCall → World
  | .dispatchForTransfer t finality identity eventTypeOverride eventId =>
    (TripWire.dispatchForTransfer env w t finality identity eventTypeOverride eventId).1
  | .promotePreConfirmedEvent id t => (TripWire.promotePreConfirmedEvent env w id t).1
  | .processUnified lib raw triggers => (TripWire.processUnified env lib w raw triggers).1

/-- The realtime rows that the call inserts. -/
def inserted (env : Env) (w : World) (c : NotifyCall) : List Emission :=
  realtimeOf ((c.run env w).outbox.drop w.outbox.length)

/-- The rows with the events they are about: all rows of a payment call are about its transfer, and
the identity of a promotion is that of the authorizer. -/
def rows (env : Env) (w : World) : NotifyCall → List RealtimeRow
  | .dispatchForTransfer t finality identity eventTypeOverride eventId =>
    (inserted env w (.dispatchForTransfer t finality identity eventTypeOverride eventId)).map
      fun e => ⟨e, t.paymentData, identity⟩
  | .promotePreConfirmedEvent id t =>
    (inserted env w (.promotePreConfirmedEvent id t)).map
      fun e => ⟨e, t.paymentData, resolveIdentity env t.authorizer.val t.chainId.value⟩
  | .processUnified lib raw triggers =>
    (unifiedPushes env lib w raw triggers).filterMap fun p =>
      (p.row? env w).map fun e => ⟨e, p.payment, p.ctx.identity⟩

/-- What a promotion needs to insert a row for `ep`: its row exists, no policies of the linked
active endpoints raise, those of the notify endpoint `ep` accept, and no call raises. -/
structure PromotionInserts (env : Env) (w : World) (id : EventId) (t : ERC3009Transfer)
    (old : EventRow) (ep : Endpoint) : Prop where
  recorded : w.events.get? id = some old
  promoted : env.raises (.promoteToConfirmed id) = false
  inserted : env.raises (.insertRealtime id) = false
  policies : ∀ other ∈ promotionEndpoints env w (old.promoted env.now t),
    ∃ v, evaluatePolicy (buildTransferData t)
      (resolveIdentity env t.authorizer.val t.chainId.value) other.policies = .ok v
  linked : ep ∈ promotionEndpoints env w (old.promoted env.now t)
  notify : ep.mode = .notify
  accepted : evaluatePolicy (buildTransferData t)
    (resolveIdentity env t.authorizer.val t.chainId.value) ep.policies = .ok none

/-- The filters that the path of the call does not look at would have let the event through. -/
def SkipsNothing (env : Env) (w : World) : NotifyCall → Prop
  | .dispatchForTransfer .. => True
  | .promotePreConfirmedEvent id t =>
    ∀ old ep, PromotionInserts env w id t old ep →
      Admits env w ep t.paymentData (resolveIdentity env t.authorizer.val t.chainId.value)
  | .processUnified lib raw triggers =>
    ∀ p ∈ unifiedPushes env lib w raw triggers, p.Inserts env →
      (∃ s ∈ w.activeSubscriptions p.endpoint.id,
        listFilter s.filters.chains p.payment.chainId = true) →
      Admits env w p.endpoint p.payment p.ctx.identity

variable {env : Env} {w : World}

/-- The direct dispatch inserts rows for endpoints that admit the transfer. -/
theorem admits_of_mem_dispatchForTransfer {t : ERC3009Transfer} {finality : Option FinalityStatus}
    {identity : Option AgentIdentity} {eventTypeOverride : Option WebhookEventType}
    {eventId : Option EventId} {e : Emission}
    (he : e ∈ inserted env w
      (.dispatchForTransfer t finality identity eventTypeOverride eventId)) :
    Admits env w e.endpoint t.paymentData identity := by
  obtain ⟨hnew, hrealtime⟩ := List.mem_filter.mp he
  rw [run] at hnew
  cases hfetch : fetchMatchingEndpoints env w t with
  | error err =>
    simp [TripWire.dispatchForTransfer, hfetch] at hnew
  | ok endpoints =>
    cases hplan : planDispatch t finality identity eventTypeOverride endpoints with
    | error err =>
      rw [outbox_dispatchForTransfer_of_error finality identity eventTypeOverride eventId hfetch
        hplan, List.drop_length] at hnew
      cases hnew
    | ok plan =>
      rw [outbox_dispatchForTransfer_of_plan finality identity eventTypeOverride eventId hfetch
        hplan, List.drop_left] at hnew
      rcases List.mem_append.mp hnew with hweb | hrow
      · obtain ⟨ep, -, hsent⟩ := mem_dispatchEvent hweb
        rw [(webhookEmission_spec hsent).2.2.2.2.1] at hrealtime
        cases hrealtime
      · exact admits_of_subscribed (exists_realtimeRows_iff.mp ⟨e, hrow, rfl⟩).2.1

theorem outbox_dispatchPromotion_of_error {row : EventRow} {t : ERC3009Transfer} {err : PyError}
    (h : policyVerdicts (buildTransferData t) (promotionDispatch env row t).identity
      (promotionEndpoints env w row) = .error err) :
    (dispatchPromotion env w row t).1.outbox = w.outbox := by
  simp only [dispatchPromotion, h]

theorem outbox_dispatchPromotion_of_verdicts {row : EventRow} {t : ERC3009Transfer}
    {verdicts : List (Endpoint × Option PolicyDenial)}
    (h : policyVerdicts (buildTransferData t) (promotionDispatch env row t).identity
      (promotionEndpoints env w row) = .ok verdicts) :
    (dispatchPromotion env w row t).1.outbox = w.outbox ++
      (dispatchEvent env (promotionDispatch env row t) (inMode .execute (approvedOf verdicts)) ++
        notifyBatch env w (promotionDispatch env row t)
          (inMode .notify (approvedOf verdicts))) := by
  obtain ⟨ds, hds⟩ := pushWebhooks_eq env w (promotionDispatch env row t)
    (inMode .execute (approvedOf verdicts))
  simp only [dispatchPromotion, h, pushRealtime, hds, List.append_assoc]
  rfl

/-- A promotion inserts rows for its notify endpoints whose policies accept, whatever their
subscriptions. -/
theorem exists_realtimeOf_dispatchPromotion_iff {row : EventRow} {t : ERC3009Transfer}
    {ep : Endpoint} :
    (∃ e ∈ realtimeOf ((dispatchPromotion env w row t).1.outbox.drop w.outbox.length),
      e.endpoint = ep) ↔
      (∀ other ∈ promotionEndpoints env w row, ∃ v, evaluatePolicy (buildTransferData t)
        (promotionDispatch env row t).identity other.policies = .ok v) ∧
      (ep ∈ promotionEndpoints env w row ∧ evaluatePolicy (buildTransferData t)
        (promotionDispatch env row t).identity ep.policies = .ok none) ∧
      ep.mode = .notify ∧ env.raises (.insertRealtime row.id) = false := by
  rw [← exists_policyVerdicts_iff]
  cases hverdicts : policyVerdicts (buildTransferData t) (promotionDispatch env row t).identity
      (promotionEndpoints env w row) with
  | error err =>
    rw [outbox_dispatchPromotion_of_error hverdicts, List.drop_length]
    simp [realtimeOf]
  | ok verdicts =>
    have hweb : ∀ e ∈ dispatchEvent env (promotionDispatch env row t)
        (inMode .execute (approvedOf verdicts)), e.message.isWebhook = true := by
      intro e he
      obtain ⟨ep, -, hsent⟩ := mem_dispatchEvent he
      exact (webhookEmission_spec hsent).2.2.2.2.1
    have hrealtime : ∀ e ∈ notifyBatch env w (promotionDispatch env row t)
        (inMode .notify (approvedOf verdicts)), e.message.isWebhook = false := by
      intro e he
      obtain ⟨ep, -, rfl⟩ := mem_notifyBatch he
      rfl
    have hknown : ∀ other ∈ inMode .notify (approvedOf verdicts),
        w.endpoints.get? other.id ≠ none := by
      intro other hother
      have hmem := ((mem_approvedOf hverdicts).mp (mem_inMode.mp hother).1).1
      rw [(get?_of_mem_promotionEndpoints hmem).1]
      exact Option.some_ne_none other
    rw [outbox_dispatchPromotion_of_verdicts hverdicts, List.drop_left, realtimeOf_append,
      realtimeOf_eq_nil hweb, realtimeOf_eq_self hrealtime, List.nil_append, exists_notifyBatch_iff,
      mem_inMode, mem_approvedOf hverdicts]
    constructor
    · rintro ⟨⟨hep, hmode⟩, hraise, -⟩
      exact ⟨⟨verdicts, rfl⟩, hep, hmode, hraise⟩
    · rintro ⟨-, hep, hmode, hraise⟩
      exact ⟨⟨hep, hmode⟩, hraise, hknown⟩

/-- The rows of a promotion. -/
theorem exists_inserted_promotion_iff {id : EventId} {t : ERC3009Transfer} {ep : Endpoint} :
    (∃ e ∈ inserted env w (.promotePreConfirmedEvent id t), e.endpoint = ep) ↔
      ∃ old, PromotionInserts env w id t old ep := by
  rw [inserted, run]
  constructor
  · rintro ⟨e, he, hep⟩
    rcases promotePreConfirmedEvent_cases env w id t with hsame | ⟨old, hold, hraise, hcall⟩
    · rw [hsame, List.drop_length] at he
      cases he
    · rw [hcall] at he
      obtain ⟨hpolicies, ⟨hlinked, haccepted⟩, hmode, hinserted⟩ :=
        (exists_realtimeOf_dispatchPromotion_iff (w := (w.promoteToConfirmed env.now id t).1)).mp
          ⟨e, he, hep⟩
      have hid : old.id = id := KeyedTable.key_of_get? hold
      exact ⟨old, hold, hraise, hid ▸ hinserted, hpolicies, hlinked, hmode, haccepted⟩
  · rintro ⟨old, h⟩
    have hid : old.id = id := KeyedTable.key_of_get? h.recorded
    rw [promotePreConfirmedEvent_of_recorded t h.promoted h.recorded]
    exact (exists_realtimeOf_dispatchPromotion_iff (w := (w.promoteToConfirmed env.now id t).1)).mpr
      ⟨h.policies, ⟨h.linked, h.accepted⟩, h.notify, hid ▸ h.inserted⟩

/-- The unified loop inserts the rows of its dispatches. -/
theorem inserted_processUnified (lib : Library) (raw : RawLog) (triggers : List Trigger) :
    inserted env w (.processUnified lib raw triggers) =
      (unifiedPushes env lib w raw triggers).filterMap (·.row? env w) := by
  rw [inserted, run, unifiedPushes]
  show realtimeOf ((processUnifiedTraced env lib w raw triggers).1.outbox.drop _) = _
  unfold processUnifiedTraced
  cases decodedPairs lib raw triggers with
  | error e => simp [realtimeOf]
  | ok pairs =>
    cases pairs with
    | nil => simp [realtimeOf]
    | cons primary pairs =>
      obtain ⟨table, hdedup⟩ := dedupPairs_frame env primary.1.chainId (primary :: pairs) w
      rcases hpair : dedupPairs env primary.1.chainId (primary :: pairs) w with ⟨w₁, active⟩
      rw [hpair] at hdedup
      simp only [hpair]
      subst hdedup
      by_cases hactive : active.isEmpty = true
      · rw [if_pos hactive, List.isEmpty_iff.mp hactive]
        simp [realtimeOf, triggerPushes]
      rw [if_neg hactive]
      by_cases hgated : (active.filter fun p =>
          reputationGate (triggerContext env primary.1).identity p.2).isEmpty = true
      · rw [if_pos hgated, List.isEmpty_iff.mp hgated]
        simp [realtimeOf, triggerPushes]
      rw [if_neg hgated]
      obtain ⟨new, hnew, hrows⟩ := realtimeOf_dispatchTriggers env lib
        (triggerContext env primary.1)
        (active.filter fun p => reputationGate (triggerContext env primary.1).identity p.2)
        { w with nonces := table }
      rw [hnew, List.drop_left, hrows]
      rfl

/-- The rows with their events are the rows that are inserted. -/
theorem map_emission_rows (c : NotifyCall) :
    (c.rows env w).map RealtimeRow.emission = c.inserted env w := by
  cases c with
  | dispatchForTransfer =>
    rw [rows, List.map_map]
    exact List.map_id _
  | promotePreConfirmedEvent =>
    rw [rows, List.map_map]
    exact List.map_id _
  | processUnified lib raw triggers =>
    rw [inserted_processUnified, rows, List.map_filterMap]
    congr 1
    funext p
    rw [Option.map_map]
    exact Option.map_id' ..

/-- **When the subscriptions are respected.** The rows of a call, with the events they are about:
the direct dispatch inserts them only for endpoints that admit the event, and a promotion or a
unified loop does exactly when the filters it skips would have let the event through. -/
theorem subscriptions_respected_iff (env : Env) (w : World) (c : NotifyCall) :
    (c.rows env w).map RealtimeRow.emission = c.inserted env w ∧
      ((∀ row ∈ c.rows env w, Admits env w row.emission.endpoint row.payment row.identity) ↔
        c.SkipsNothing env w) := by
  refine ⟨map_emission_rows c, ?_⟩
  cases c with
  | dispatchForTransfer t finality identity eventTypeOverride eventId =>
    refine ⟨fun _ => trivial, ?_⟩
    rintro - row hrow
    obtain ⟨e, he, rfl⟩ := List.mem_map.mp hrow
    exact admits_of_mem_dispatchForTransfer he
  | promotePreConfirmedEvent id t =>
    constructor
    · rintro hadmits old ep hinserts
      obtain ⟨e, he, rfl⟩ := exists_inserted_promotion_iff.mpr ⟨old, hinserts⟩
      exact hadmits _ (List.mem_map_of_mem he)
    · rintro hskips row hrow
      obtain ⟨e, he, rfl⟩ := List.mem_map.mp hrow
      obtain ⟨old, hinserts⟩ := exists_inserted_promotion_iff.mp ⟨e, he, rfl⟩
      exact hskips old e.endpoint hinserts
  | processUnified lib raw triggers =>
    constructor
    · rintro hadmits p hp hinserts hchain hfetch hsubs
      obtain ⟨e, he⟩ := exists_row?_iff.mpr ⟨hinserts, .inr (.inr hchain)⟩
      have hrow : (⟨e, p.payment, p.ctx.identity⟩ : RealtimeRow) ∈
          rows env w (.processUnified lib raw triggers) :=
        List.mem_filterMap.mpr ⟨p, hp, by rw [he]; rfl⟩
      have hendpoint : e.endpoint = p.endpoint := (isWebhook_triggerRealtime he).2
      have := hadmits _ hrow
      rw [hendpoint] at this
      exact this hfetch hsubs
    · rintro hskips row hrow
      obtain ⟨p, hp, hmap⟩ := List.mem_filterMap.mp hrow
      obtain ⟨e, he, rfl⟩ := Option.map_eq_some_iff.mp hmap
      have hendpoint : e.endpoint = p.endpoint := (isWebhook_triggerRealtime he).2
      obtain ⟨hinserts, hlistens⟩ := exists_row?_iff.mp ⟨e, he⟩
      show Admits env w e.endpoint p.payment p.ctx.identity
      rw [hendpoint]
      rcases hlistens with hraise | hnone | hchain
      · intro hfetch
        rw [hraise] at hfetch
        cases hfetch
      · exact fun _ hsubs => absurd hnone hsubs
      · exact hskips p hp hinserts hchain

end NotifyCall

namespace Sample

/-- A notify endpoint of the recipient. -/
def notifyEndpoint : Endpoint := { endpoint {} with mode := .notify, convoyProjectId := none }

/-- Its subscription to the payments of one sender, who is not the payer. -/
def forOneSender : Subscription where
  endpointId := notifyEndpoint.id
  filters := { senders := some ["0x9999999999999999999999999999999999999999"] }

/-- The database with the endpoint and its subscription. -/
def subscribedWorld : World where
  endpoints := ⟨[notifyEndpoint], List.nodup_singleton _⟩
  subscriptions := [forOneSender]

/-- The database after the facilitator has announced the payment. -/
def subscribedAnnounced : World := (processPreConfirmedEvent {} subscribedWorld announced).1

theorem not_admits_of_sender {w : World} (hw : w.subscriptions = [forOneSender]) {p : PaymentData}
    (hp : lower p.fromAddress ≠ "0x9999999999999999999999999999999999999999") (blockNumber : ℤ)
    (identity : Option AgentIdentity) :
    ¬Admits (height blockNumber) w notifyEndpoint p identity := by
  intro hadmits
  have hsubs : w.activeSubscriptions notifyEndpoint.id = [forOneSender] := by
    rw [World.activeSubscriptions, hw]
    decide
  obtain ⟨s, hs, haccepts⟩ := hadmits rfl (by rw [hsubs]; exact List.cons_ne_nil _ _)
  rw [hsubs, List.mem_singleton] at hs
  subst hs
  have hlower : lower "0x9999999999999999999999999999999999999999" =
      "0x9999999999999999999999999999999999999999" := by decide +kernel
  have := haccepts.senders
  simp [forOneSender, listFilter, hlower, hp] at this

end Sample

/-- **The direct dispatch inserts no row** for the endpoint whose subscription names another sender;
the promotion of the same payment inserts one, and so does the unified loop for a log. -/
theorem subscription_bypassed :
    NotifyCall.rows (Sample.height 200) Sample.subscribedWorld
        (.dispatchForTransfer (Sample.onchain 100) none none none none) = [] ∧
      (∃ row ∈ NotifyCall.rows (Sample.height 200) Sample.subscribedAnnounced
          (.promotePreConfirmedEvent 0 (Sample.onchain 100)),
        ¬Admits (Sample.height 200) Sample.subscribedAnnounced row.emission.endpoint row.payment
          row.identity) ∧
      ∃ row ∈ NotifyCall.rows (Sample.height 200) Sample.subscribedWorld
          (.processUnified Sample.emptyExpression Sample.rawLog [Sample.trigger "t" []]),
        ¬Admits (Sample.height 200) Sample.subscribedWorld row.emission.endpoint row.payment
          row.identity := by
  have hpromotion : ∃ row ∈ NotifyCall.rows (Sample.height 200) Sample.subscribedAnnounced
      (.promotePreConfirmedEvent 0 (Sample.onchain 100)),
      row.emission.endpoint = Sample.notifyEndpoint ∧
        lower row.payment.fromAddress ≠ "0x9999999999999999999999999999999999999999" := by
    decide +kernel
  have hunified : ∃ row ∈ NotifyCall.rows (Sample.height 200) Sample.subscribedWorld
      (.processUnified Sample.emptyExpression Sample.rawLog [Sample.trigger "t" []]),
      row.emission.endpoint = Sample.notifyEndpoint ∧
        lower row.payment.fromAddress ≠ "0x9999999999999999999999999999999999999999" := by
    decide +kernel
  refine ⟨?_, ?_, ?_⟩
  · have hlength : (NotifyCall.rows (Sample.height 200) Sample.subscribedWorld
        (.dispatchForTransfer (Sample.onchain 100) none none none none)).length = 0 := by
      decide +kernel
    exact List.length_eq_zero_iff.mp hlength
  · obtain ⟨row, hrow, hendpoint, hsender⟩ := hpromotion
    refine ⟨row, hrow, ?_⟩
    rw [hendpoint]
    exact Sample.not_admits_of_sender (by decide +kernel) hsender 200 row.identity
  · obtain ⟨row, hrow, hendpoint, hsender⟩ := hunified
    refine ⟨row, hrow, ?_⟩
    rw [hendpoint]
    exact Sample.not_admits_of_sender rfl hsender 200 row.identity

end TripWire
