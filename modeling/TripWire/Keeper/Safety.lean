import Mathlib
import TripWire.Keeper.System

/-!
# The safety rule and the finality depth of an endpoint

Two properties of every message the Keeper pipeline sends.

* `SafetyRule` (SKILL-SPEC, section 2.3): a message that says `safe_to_execute` is finalized and
  onchain, and carries a finality block whose confirmations reach the required ones.
* `DepthHonoured`: a message that says `safe_to_execute` to an endpoint with a finality depth of its
  own was produced at a block height that reaches this depth.

Neither holds of every run.  The type `payment.finalized` is safe whatever its finality block says
(`deriveExecutionMetadata`), and two paths use it without comparing the depth of the endpoint: a
promotion compares the confirmations with the depth of the chain alone, and the poller shows the
depth that was stored when it read the row, before its own update.  `DepthsReached` and
`DepthsObserved` are the conditions on a step under which these two paths do no harm; `Emitted` then
reduces both properties to one case per path.
-/

namespace TripWire

open Py

/-! ### Execution metadata -/

/-- The safety rule for an execution block. -/
def SafetyRule (x : ExecutionBlock) : Prop :=
  x.safeToExecute = true →
    x.state = .finalized ∧ x.trustSource = .onchain ∧
      ∃ f ∈ x.finality, f.requiredConfirmations ≤ f.confirmations ∧ f.isFinalized = true

instance (x : ExecutionBlock) : Decidable (SafetyRule x) := by
  unfold SafetyRule
  infer_instance

/-- The finality block of a payload is final exactly when it shows enough confirmations. -/
theorem mem_buildFinalityData {finality : Option FinalityStatus} {required : Option ℤ}
    {fd : FinalityData} (h : fd ∈ buildFinalityData finality required) :
    ∃ f, finality = some f ∧ fd.confirmations = f.confirmations ∧
      fd.requiredConfirmations = required.getD f.requiredConfirmations ∧
      (fd.isFinalized = true ↔ required.getD f.requiredConfirmations ≤ f.confirmations) := by
  cases finality with
  | none => cases h
  | some f =>
    obtain rfl := Option.some.inj h
    exact ⟨f, rfl, rfl, rfl, decide_eq_true_iff⟩

/-- When a block says `safe_to_execute`: the type is a finalized one, or the finality block is
final and the type is neither provisional nor a failure. -/
theorem safe_deriveExecutionMetadata {type : WebhookEventType} {fd : Option FinalityData}
    (h : (deriveExecutionMetadata type fd).safeToExecute = true) :
    type ≠ .paymentPreConfirmed ∧ type ≠ .paymentReorged ∧ type ≠ .paymentFailed ∧
      (type = .paymentFinalized ∨ type = .triggerFinalized ∨ ∃ f ∈ fd, f.isFinalized = true) := by
  unfold deriveExecutionMetadata at h
  split_ifs at h with hpre hfail hfinal hfd
  · push Not at hfail
    rcases hfinal with hfinal | hfinal
    · exact ⟨hpre, hfail.1, hfail.2, Or.inl hfinal⟩
    · exact ⟨hpre, hfail.1, hfail.2, Or.inr (Or.inl hfinal)⟩
  · push Not at hfail
    cases fd with
    | none => cases hfd
    | some f => exact ⟨hpre, hfail.1, hfail.2, Or.inr (Or.inr ⟨f, rfl, hfd⟩)⟩

/-- A safe block is always labelled finalized and onchain, and it carries the finality block it was
derived from. -/
theorem labels_of_safe {type : WebhookEventType} {fd : Option FinalityData}
    (h : (deriveExecutionMetadata type fd).safeToExecute = true) :
    (deriveExecutionMetadata type fd).state = .finalized ∧
      (deriveExecutionMetadata type fd).trustSource = .onchain ∧
      (deriveExecutionMetadata type fd).finality = fd := by
  unfold deriveExecutionMetadata at h ⊢
  split_ifs at h ⊢ <;> exact ⟨rfl, rfl, rfl⟩

/-- **The safety rule for a payload.** A payload built from a finality status follows the rule
unless it has a finalized type and shows too few confirmations, or none. -/
theorem safetyRule_of_finalized {type : WebhookEventType} {finality : Option FinalityStatus}
    {required : Option ℤ}
    (h : type = .paymentFinalized ∨ type = .triggerFinalized →
      ∃ f, finality = some f ∧ required.getD f.requiredConfirmations ≤ f.confirmations) :
    SafetyRule (deriveExecutionMetadata type (buildFinalityData finality required)) := by
  intro hsafe
  obtain ⟨hstate, htrust, hfinality⟩ := labels_of_safe hsafe
  obtain ⟨-, -, -, hcase⟩ := safe_deriveExecutionMetadata hsafe
  refine ⟨hstate, htrust, ?_⟩
  rw [hfinality]
  -- The block is final: by `h` when the type alone made the payload safe, else by the derivation.
  have hblock : ∃ fd ∈ buildFinalityData finality required, fd.isFinalized = true := by
    have hfinal : type = .paymentFinalized ∨ type = .triggerFinalized →
        ∃ fd ∈ buildFinalityData finality required, fd.isFinalized = true := by
      intro htype
      obtain ⟨f, rfl, hle⟩ := h htype
      exact ⟨_, rfl, decide_eq_true hle⟩
    rcases hcase with htype | htype | hfd
    · exact hfinal (Or.inl htype)
    · exact hfinal (Or.inr htype)
    · exact hfd
  obtain ⟨fd, hfd, htrue⟩ := hblock
  obtain ⟨f, -, hconf, hreq, hiff⟩ := mem_buildFinalityData hfd
  refine ⟨fd, hfd, ?_, htrue⟩
  rw [hconf, hreq]
  exact hiff.mp htrue

/-! ### Finality statuses of the paths -/

/-- The transfer rebuilt from a row has the chain and the block of the row. -/
theorem reconstructTransfer_spec {row : EventRow} {t : ERC3009Transfer}
    (h : reconstructTransfer row = some t) :
    ChainId.ofValue row.chainId = .ok t.chainId ∧ row.blockNumber = some t.blockNumber := by
  obtain ⟨hchain, -, hblock, -⟩ := reconstructTransfer_eq_some_iff.mp h
  refine ⟨?_, hblock⟩
  cases hof : ChainId.ofValue row.chainId with
  | error e =>
    rw [hof] at hchain
    cases hchain
  | ok chain =>
    rw [hof] at hchain
    obtain rfl := Option.some.inj hchain
    rfl

/-- The call of a transition shows the depth stored in the snapshot against the chain's depth. -/
theorem transitionDispatch_spec {env : Env} {w : World} {chain : ChainId} {row : EventRow}
    {newStatus : EventStatus} {type : WebhookEventType} {d : Dispatch}
    (hrow : row ∈ polledRows env w chain)
    (h : transitionDispatch env row newStatus type = some d) :
    (reconstructTransfer row).isSome = true ∧ d.type = type ∧
      d.height = some env.blockNumber ∧ row.blockNumber = some d.transfer.blockNumber ∧
      ∃ f, d.finality = some f ∧ f.confirmations = row.finalityDepth ∧
        f.requiredConfirmations = finalityDepths chain := by
  unfold transitionDispatch at h
  obtain ⟨t, ht, rfl⟩ := Option.map_eq_some_iff.mp h
  obtain ⟨hchain, hblock⟩ := reconstructTransfer_spec ht
  obtain ⟨-, -, hvalue⟩ := mem_polledRows hrow
  have hsame : t.chainId = chain := by
    rw [hvalue, ChainId.ofValue_value] at hchain
    exact (Except.ok.inj hchain).symm
  refine ⟨by rw [ht]; rfl, rfl, rfl, hblock, _, rfl, rfl, ?_⟩
  rw [← hsame]
  rfl

/-! ### The safety rule over runs -/

/-- The poller moves the row, once read, to `finalized` and sends a webhook. -/
def Finalizes (env : Env) (chain : ChainId) (row : EventRow) : Prop :=
  isReorged env row = false ∧ row.status = .confirmed ∧
    finalityDepths chain ≤ polledConfirmations env row ∧ (reconstructTransfer row).isSome = true

instance (env : Env) (chain : ChainId) (row : EventRow) : Decidable (Finalizes env chain row) := by
  unfold Finalizes
  infer_instance

/-- A promotion whose block is final for the chain has the confirmations that each endpoint it sends
a webhook to asks for. -/
def PromotionReaches (env : Env) (w : World) (t : ERC3009Transfer) : Prop :=
  ∀ old ∈ promotedRow w t, ∀ f ∈ checkFinality env t.chainId t.blockNumber, f.isFinalized = true →
    ∀ ep ∈ promotionEndpoints env w old,
      evaluatePolicy (buildTransferData t) (resolveIdentity env t.authorizer.val t.chainId.value)
        ep.policies = .ok none →
      ep.mode = .execute → truthy ep.convoyProjectId = true →
      requiredDepth ep t.chainId ≤ f.confirmations

instance (env : Env) (w : World) (t : ERC3009Transfer) : Decidable (PromotionReaches env w t) := by
  unfold PromotionReaches
  infer_instance

/-- Each row that a poll cycle finalizes has stored the depth that each endpoint it sends a webhook
to asks for. -/
def FinalizationReaches (env : Env) (w : World) (chain : ChainId) : Prop :=
  ∀ row ∈ polledRows env w chain, Finalizes env chain row →
    ∀ ep ∈ polledEndpoints env w row, truthy ep.convoyProjectId = true →
      requiredDepth ep chain ≤ row.finalityDepth

instance (env : Env) (w : World) (chain : ChainId) :
    Decidable (FinalizationReaches env w chain) := by
  unfold FinalizationReaches
  infer_instance

/-- Where a step uses the type `payment.finalized`, the confirmations it shows reach the depth of
every endpoint it sends a webhook to. -/
def DepthsReached (w : World) : KeeperAction → Prop
  | .goldsky env _ (.ok t) => PromotionReaches env w t
  | .poll env chain => FinalizationReaches env w chain
  | _ => True

instance (w : World) : ∀ a, Decidable (DepthsReached w a)
  | .goldsky env _ (.ok t) => inferInstanceAs (Decidable (PromotionReaches env w t))
  | .poll env chain => inferInstanceAs (Decidable (FinalizationReaches env w chain))
  | .goldsky _ _ (.error _) => isTrue trivial
  | .facilitator .. => isTrue trivial
  | .sweep .. => isTrue trivial
  | .configure .. => isTrue trivial

/-- A payload of a type that is not a finalized one follows the safety rule. -/
theorem safetyRule_of_ne_finalized {type : WebhookEventType} {finality : Option FinalityStatus}
    {required : Option ℤ} (hpayment : type ≠ .paymentFinalized)
    (htrigger : type ≠ .triggerFinalized) :
    SafetyRule (deriveExecutionMetadata type (buildFinalityData finality required)) := by
  refine safetyRule_of_finalized ?_
  rintro (h | h)
  · exact absurd h hpayment
  · exact absurd h htrigger

/-- The same for a message, whichever channel it takes. -/
theorem safetyRule_of_sent {env : Env} {d : Dispatch} {ep : Endpoint} {e : Emission}
    (h : Sent env d ep e) (hpayment : d.type ≠ .paymentFinalized)
    (htrigger : d.type ≠ .triggerFinalized) : SafetyRule e.execution := by
  rcases h.execution with ⟨-, -, hx⟩ | ⟨-, hx⟩
  · rw [hx]
    exact safetyRule_of_ne_finalized hpayment htrigger
  · rw [hx]
    exact safetyRule_of_ne_finalized hpayment htrigger

theorem defaultEventType_ne (finality : Option FinalityStatus) :
    defaultEventType finality ≠ .paymentFinalized ∧
      defaultEventType finality ≠ .triggerFinalized := by
  rcases defaultEventType_cases finality with htype | htype <;> rw [htype] <;> decide

/-- A promotion has the type `payment.finalized` only when its block is final for the chain. -/
theorem final_of_promotionDispatch_type {env : Env} {old : EventRow} {t : ERC3009Transfer}
    (h : (promotionDispatch env old t).type ≠ .paymentConfirmed) :
    ∃ f, checkFinality env t.chainId t.blockNumber = some f ∧ f.isFinalized = true := by
  by_contra hcon
  push Not at hcon
  have hany : (checkFinality env t.chainId t.blockNumber).any (·.isFinalized) = false := by
    cases hc : checkFinality env t.chainId t.blockNumber with
    | none => rfl
    | some f => simpa using hcon f hc
  apply h
  simp [promotionDispatch, promotionType, hany]

/-- Every message of a step that meets the condition follows the safety rule. -/
theorem safetyRule_of_emitted {w : World} {a : KeeperAction} {e : Emission}
    (hmeets : DepthsReached w a) (h : Emitted w a e) : SafetyRule e.execution := by
  cases h with
  | preConfirmed _ _ planned _ sent =>
    obtain ⟨-, htype, -⟩ := planDispatch_spec planned
    have hpre : Plan.type _ = .paymentPreConfirmed := htype
    refine safetyRule_of_sent sent ?_ ?_
    · simp [hpre]
    · simp [hpre]
  | ingested _ _ planned _ sent =>
    obtain ⟨-, htype, -⟩ := planDispatch_spec planned
    obtain ⟨h₁, h₂⟩ := defaultEventType_ne (paymentFinality _ _ _)
    exact safetyRule_of_sent sent (fun h => h₁ (htype.symm.trans h))
      (fun h => h₂ (htype.symm.trans h))
  | @promoted env unified t old ep _ promotes linked accepted sent =>
    -- a final promotion shows the endpoint's depth in a webhook and the chain's depth otherwise
    have hfinal : ∀ required : Option ℤ,
        (∀ f, checkFinality env t.chainId t.blockNumber = some f → f.isFinalized = true →
          required.getD (finalityDepths t.chainId) ≤ f.confirmations) →
        SafetyRule (deriveExecutionMetadata (promotionDispatch env old t).type
          (buildFinalityData (promotionDispatch env old t).finality required)) := by
      intro required hreach
      refine safetyRule_of_finalized ?_
      intro htype
      have hne : (promotionDispatch env old t).type ≠ .paymentConfirmed := by
        rcases htype with htype | htype <;> rw [htype] <;> decide
      obtain ⟨f, hf, hfin⟩ := final_of_promotionDispatch_type hne
      refine ⟨f, hf, ?_⟩
      rw [(checkFinality_eq_some hf).2.1]
      exact hreach f hf hfin
    rcases sent.execution with ⟨hmode, hproject, hx⟩ | ⟨-, hx⟩
    · rw [hx]
      exact hfinal _ fun f hf hfin =>
        hmeets old promotes f hf hfin ep linked accepted hmode hproject
    · rw [hx]
      exact hfinal none fun f hf hfin => (checkFinality_eq_some hf).2.2.mp hfin
  | @transitioned env chain row newStatus type d ep _ pending canonical reached moves dispatch
      linked sent =>
    obtain ⟨hrecon, htype, -, -, f, hf, hconf, hreq⟩ := transitionDispatch_spec pending dispatch
    obtain ⟨-, -, -, -, -, hx⟩ := webhookEmission_spec sent
    rw [hx, htype]
    refine safetyRule_of_finalized ?_
    intro hfinal
    -- A confirmation is not of a finalized type; a finalization shows the stored depth.
    rcases moves with ⟨-, -, rfl⟩ | ⟨hstatus, -, rfl⟩
    · rcases hfinal with hfinal | hfinal <;> cases hfinal
    · have hdepth := hmeets row pending ⟨canonical, hstatus, reached, hrecon⟩ ep linked
        (truthy_of_webhookEmission sent)
      refine ⟨f, hf, ?_⟩
      rw [hconf, hreq]
      exact hdepth
  | reorged _ _ dispatch _ sent =>
    obtain ⟨t, -, rfl⟩ := Option.map_eq_some_iff.mp dispatch
    obtain ⟨-, -, -, -, -, hx⟩ := webhookEmission_spec sent
    rw [hx]
    exact safetyRule_of_ne_finalized (by simp) (by simp)
  | expired _ _ dispatch _ sent =>
    obtain ⟨t, -, rfl⟩ := Option.map_eq_some_iff.mp dispatch
    obtain ⟨-, -, -, -, -, hx⟩ := webhookEmission_spec sent
    rw [hx]
    exact safetyRule_of_ne_finalized (by simp) (by simp)

/-- **The safety rule over runs.** In every run whose steps meet `DepthsReached`, every message in
the outbox follows the safety rule. -/
theorem safetyRule_of_run {w : World} {as : List KeeperAction}
    (hw : ∀ e ∈ w.outbox, SafetyRule e.execution)
    (hmeets : Machine.Meets keeperStep DepthsReached w as) :
    ∀ e ∈ (Machine.run keeperStep w as).outbox, SafetyRule e.execution :=
  Machine.run_induction (I := fun w => ∀ e ∈ w.outbox, SafetyRule e.execution)
    (fun _ _ hw' ha => outbox_of_emitted hw' fun _ he => safetyRule_of_emitted ha he) hw hmeets

/-- The world after Goldsky reports the payment at height 105 and a poll cycle runs at another. -/
def Sample.polledAt (policies : EndpointPolicies) (blockNumber : ℤ) : World :=
  Machine.run keeperStep {}
    [register policies, .goldsky (height 105) false (.ok (onchain 100)),
      .poll (height blockNumber) .base]

/-- A payment that Goldsky reports first and with enough confirmations keeps the rule through its
finalization: the depth it was recorded with is enough. -/
theorem safetyRule_of_run_direct :
    (∃ e ∈ (Sample.polledAt {} 106).outbox, e.execution.safeToExecute = true) ∧
      ∀ e ∈ (Sample.polledAt {} 106).outbox, SafetyRule e.execution :=
  ⟨by decide +kernel, safetyRule_of_run (by decide) (by decide +kernel)⟩

/-- A payment that the facilitator announced is finalized with the depth zero it was recorded with:
the webhook says `safe_to_execute` next to no confirmations out of three. -/
theorem not_safetyRule_promoted :
    ∃ e ∈ (Machine.run keeperStep {}
      [Sample.register {}, .facilitator (Sample.height 99) Sample.announced,
        .goldsky (Sample.height 101) false (.ok (Sample.onchain 100)),
        .poll (Sample.height 103) .base]).outbox, ¬ SafetyRule e.execution := by
  decide +kernel

/-! ### The finality depth of an endpoint over runs -/

/-- A safe message to an endpoint with its own depth was produced at a height that reaches it. -/
def DepthHonoured (e : Emission) : Prop :=
  e.execution.safeToExecute = true →
    ∀ d ∈ e.endpoint.policies.finalityDepth, ∃ h ∈ e.height, d.val ≤ h - e.blockNumber

instance (e : Emission) : Decidable (DepthHonoured e) := by
  unfold DepthHonoured
  infer_instance

/-- A promotion whose block is final for the chain observes a height that reaches the own depth of
each endpoint it sends to. -/
def PromotionObserves (env : Env) (w : World) (t : ERC3009Transfer) : Prop :=
  ∀ old ∈ promotedRow w t, ∀ f ∈ checkFinality env t.chainId t.blockNumber, f.isFinalized = true →
    ∀ ep ∈ promotionEndpoints env w old,
      evaluatePolicy (buildTransferData t) (resolveIdentity env t.authorizer.val t.chainId.value)
        ep.policies = .ok none →
      ∀ d ∈ ep.policies.finalityDepth, d.val ≤ f.confirmations

instance (env : Env) (w : World) (t : ERC3009Transfer) : Decidable (PromotionObserves env w t) := by
  unfold PromotionObserves
  infer_instance

/-- The poller moves the row, once read, on by one status and sends a webhook. -/
def Advances (env : Env) (chain : ChainId) (row : EventRow) : Prop :=
  isReorged env row = false ∧ finalityDepths chain ≤ polledConfirmations env row ∧
    (reconstructTransfer row).isSome = true

instance (env : Env) (chain : ChainId) (row : EventRow) : Decidable (Advances env chain row) := by
  unfold Advances
  infer_instance

/-- Each row that a poll cycle moves on is observed at a height that reaches the own depth of each
endpoint it sends to; a confirmation has to reach only the depths that the stored one reaches. -/
def PollObserves (env : Env) (w : World) (chain : ChainId) : Prop :=
  ∀ row ∈ polledRows env w chain, Advances env chain row →
    ∀ ep ∈ polledEndpoints env w row, truthy ep.convoyProjectId = true →
      ∀ d ∈ ep.policies.finalityDepth,
        (row.status = .pending → d.val ≤ row.finalityDepth) → d.val ≤ polledConfirmations env row

instance (env : Env) (w : World) (chain : ChainId) : Decidable (PollObserves env w chain) := by
  unfold PollObserves
  infer_instance

/-- Where a step sends a safe message without having compared the endpoint's own depth with the
height it observed, that height reaches the depth. -/
def DepthsObserved (w : World) : KeeperAction → Prop
  | .goldsky env _ (.ok t) => PromotionObserves env w t
  | .poll env chain => PollObserves env w chain
  | _ => True

instance (w : World) : ∀ a, Decidable (DepthsObserved w a)
  | .goldsky env _ (.ok t) => inferInstanceAs (Decidable (PromotionObserves env w t))
  | .poll env chain => inferInstanceAs (Decidable (PollObserves env w chain))
  | .goldsky _ _ (.error _) => isTrue trivial
  | .facilitator .. => isTrue trivial
  | .sweep .. => isTrue trivial
  | .configure .. => isTrue trivial

/-- A depth is at least one, so reaching it is reaching it by blocks that exist. -/
theorem le_sub_of_le_max {d : FinalityDepth} {h b : ℤ} (hle : d.val ≤ max 0 (h - b)) :
    d.val ≤ h - b := by
  have hpos : 1 ≤ d.val := d.property.1
  omega

theorem requiredDepth_of_own {ep : Endpoint} {d : FinalityDepth}
    (h : d ∈ ep.policies.finalityDepth) (n : ℤ) : (resolveEndpointDepth ep).getD n = d.val := by
  have hd : ep.policies.finalityDepth = some d := h
  simp [resolveEndpointDepth, hd]

/-- A safe message whose type is not a finalized one shows a final block: against the endpoint's own
depth in a webhook, against the depth of the status in a realtime row. -/
theorem Sent.final_of_safe {env : Env} {d : Dispatch} {ep : Endpoint} {e : Emission}
    (h : Sent env d ep e) (hpayment : d.type ≠ .paymentFinalized)
    (htrigger : d.type ≠ .triggerFinalized) (hsafe : e.execution.safeToExecute = true) :
    ∃ required, (required = resolveEndpointDepth ep ∨ required = none) ∧
      ∃ fd ∈ buildFinalityData d.finality required, fd.isFinalized = true := by
  have hblock : ∀ required,
      e.execution = deriveExecutionMetadata d.type (buildFinalityData d.finality required) →
      ∃ fd ∈ buildFinalityData d.finality required, fd.isFinalized = true := by
    intro required hx
    rw [hx] at hsafe
    obtain ⟨-, -, -, htype | htype | hfd⟩ := safe_deriveExecutionMetadata hsafe
    · exact absurd htype hpayment
    · exact absurd htype htrigger
    · exact hfd
  rcases h.execution with ⟨-, -, hx⟩ | ⟨-, hx⟩
  · exact ⟨resolveEndpointDepth ep, Or.inl rfl, hblock _ hx⟩
  · exact ⟨none, Or.inr rfl, hblock none hx⟩

/-- A safe message of a new transfer has passed the depth gate. -/
theorem depthHonoured_of_ingested {env : Env} {unified : Bool} {t : ERC3009Transfer}
    {endpoints : List Endpoint} {plan : Plan} {ep : Endpoint} {e : Emission} {event : EventId}
    {identity : Option AgentIdentity}
    (planned : planDispatch t (paymentFinality env unified t) identity none endpoints = .ok plan)
    (approved : ep ∈ plan.approved)
    (sent : Sent env
      { event, transfer := t, type := plan.type, finality := paymentFinality env unified t,
        identity, height := observedHeight env (paymentFinality env unified t) } ep e) :
    DepthHonoured e := by
  intro hsafe d hd
  rw [sent.endpoint] at hd
  obtain ⟨-, htype, verdicts, -, -, happroved⟩ := planDispatch_spec planned
  obtain ⟨hne, hne'⟩ := defaultEventType_ne (paymentFinality env unified t)
  have hty : plan.type = defaultEventType (paymentFinality env unified t) := htype
  -- a safe block of this type carries a final status, so the finality is known
  obtain ⟨required, -, fd, hfd, -⟩ := sent.final_of_safe (fun h => hne (hty.symm.trans h))
    (fun h => hne' (hty.symm.trans h)) hsafe
  obtain ⟨f, hfinality, -⟩ := mem_buildFinalityData hfd
  have hf : paymentFinality env unified t = some f := hfinality
  -- With a known status the endpoint was let through by the gate, which compares its own depth.
  rw [happroved, hf] at approved
  have hgate : (resolveEndpointDepth ep).getD (finalityDepths t.chainId) ≤ f.confirmations :=
    mem_depthGate approved
  rw [requiredDepth_of_own hd, (checkFinality_eq_some (paymentFinality_eq_some hf)).1] at hgate
  refine ⟨env.blockNumber, ?_, ?_⟩
  · rw [sent.height, hf]
    rfl
  · rw [sent.blockNumber]
    exact le_sub_of_le_max hgate

/-- A safe message of a promotion: either the block is final for the chain, or a webhook whose own
depth is reached. -/
theorem reached_of_promoted {env : Env} {t : ERC3009Transfer} {old : EventRow} {ep : Endpoint}
    {e : Emission} {d : FinalityDepth} (hd : d ∈ ep.policies.finalityDepth)
    (sent : Sent env (promotionDispatch env old t) ep e)
    (hsafe : e.execution.safeToExecute = true) :
    ∃ f, checkFinality env t.chainId t.blockNumber = some f ∧
      (f.isFinalized = true ∨ d.val ≤ f.confirmations) := by
  -- `payment.confirmed` is safe through its finality block alone, whose depth is the endpoint's own
  -- in a webhook and the chain's in a realtime row.
  by_cases htype : (promotionDispatch env old t).type = .paymentConfirmed
  · obtain ⟨required, hrequired, fd, hfd, hfin⟩ :=
      sent.final_of_safe (by rw [htype]; decide) (by rw [htype]; decide) hsafe
    obtain ⟨f, hf, -, -, hiff⟩ := mem_buildFinalityData hfd
    have hle : required.getD f.requiredConfirmations ≤ f.confirmations := hiff.mp hfin
    refine ⟨f, hf, ?_⟩
    rcases hrequired with rfl | rfl
    · right
      rw [requiredDepth_of_own hd] at hle
      exact hle
    · left
      rw [Option.getD_none, (checkFinality_eq_some hf).2.1] at hle
      exact (checkFinality_eq_some hf).2.2.mpr hle
  · obtain ⟨f, hf, hfin⟩ := final_of_promotionDispatch_type htype
    exact ⟨f, hf, Or.inl hfin⟩

/-- Every message of a step that meets the condition honours the endpoint's depth. -/
theorem depthHonoured_of_emitted {w : World} {a : KeeperAction} {e : Emission}
    (hmeets : DepthsObserved w a) (h : Emitted w a e) : DepthHonoured e := by
  cases h with
  | preConfirmed _ _ planned _ sent =>
    obtain ⟨-, htype, -⟩ := planDispatch_spec planned
    intro hsafe
    rcases sent.execution with ⟨-, -, hx⟩ | ⟨-, hx⟩
    · rw [hx] at hsafe
      exact absurd htype (safe_deriveExecutionMetadata hsafe).1
    · rw [hx] at hsafe
      exact absurd htype (safe_deriveExecutionMetadata hsafe).1
  | ingested _ _ planned approved sent => exact depthHonoured_of_ingested planned approved sent
  | @promoted env unified t old ep _ promotes linked accepted sent =>
    intro hsafe d hd
    rw [sent.endpoint] at hd
    obtain ⟨f, hf, hreached⟩ := reached_of_promoted hd sent hsafe
    have hle : d.val ≤ f.confirmations := by
      rcases hreached with hfin | hle
      · exact hmeets old promotes f hf hfin ep linked accepted d hd
      · exact hle
    rw [(checkFinality_eq_some hf).1] at hle
    refine ⟨env.blockNumber, ?_, ?_⟩
    · rw [sent.height]
      simp [promotionDispatch, hf, observedHeight]
    · rw [sent.blockNumber]
      exact le_sub_of_le_max hle
  | @transitioned env chain row newStatus type c ep _ pending canonical reached moves dispatch
      linked sent =>
    intro hsafe d hd
    obtain ⟨hrecon, htype, hheight, hblock, f, hf, hconf, -⟩ :=
      transitionDispatch_spec pending dispatch
    obtain ⟨-, hep, hbn, hh, -, hx⟩ := webhookEmission_spec sent
    rw [hep] at hd
    have hle : d.val ≤ polledConfirmations env row := by
      refine hmeets row pending ⟨canonical, reached, hrecon⟩ ep linked
        (truthy_of_webhookEmission sent) d hd ?_
      intro hstatus
      rcases moves with ⟨-, -, rfl⟩ | ⟨hstatus', -, -⟩
      · -- a confirmation is safe only when the stored depth reaches the endpoint's own
        rw [hx, htype] at hsafe
        obtain ⟨-, -, -, h | h | ⟨fd, hfd, hfin⟩⟩ := safe_deriveExecutionMetadata hsafe
        · cases h
        · cases h
        · obtain ⟨f', hf', -, -, hiff⟩ := mem_buildFinalityData hfd
          have hdepth := hiff.mp hfin
          rw [hf] at hf'
          obtain rfl := Option.some.inj hf'
          rw [requiredDepth_of_own hd, hconf] at hdepth
          exact hdepth
      · rw [hstatus] at hstatus'
        cases hstatus'
    rw [polledConfirmations, hblock] at hle
    refine ⟨env.blockNumber, ?_, ?_⟩
    · rw [hh, hheight]
      rfl
    · rw [hbn]
      exact le_sub_of_le_max hle
  | reorged _ _ dispatch _ sent =>
    intro hsafe
    obtain ⟨t, -, rfl⟩ := Option.map_eq_some_iff.mp dispatch
    obtain ⟨-, -, -, -, -, hx⟩ := webhookEmission_spec sent
    rw [hx] at hsafe
    exact absurd rfl (safe_deriveExecutionMetadata hsafe).2.1
  | expired _ _ dispatch _ sent =>
    intro hsafe
    obtain ⟨t, -, rfl⟩ := Option.map_eq_some_iff.mp dispatch
    obtain ⟨-, -, -, -, -, hx⟩ := webhookEmission_spec sent
    rw [hx] at hsafe
    exact absurd rfl (safe_deriveExecutionMetadata hsafe).2.2.1

/-- **Finality depths over runs.** In every run whose steps meet `DepthsObserved`, every safe
message to an endpoint with its own depth was produced at a height that reaches it. -/
theorem depthHonoured_of_run {w : World} {as : List KeeperAction}
    (hw : ∀ e ∈ w.outbox, DepthHonoured e)
    (hmeets : Machine.Meets keeperStep DepthsObserved w as) :
    ∀ e ∈ (Machine.run keeperStep w as).outbox, DepthHonoured e :=
  Machine.run_induction (I := fun w => ∀ e ∈ w.outbox, DepthHonoured e)
    (fun _ _ hw' ha => outbox_of_emitted hw' fun _ he => depthHonoured_of_emitted ha he) hw hmeets

/-- An endpoint that waits for ten blocks: the payment is recorded at height 105, confirmed at once
for the chain, and finalized at height 112. -/
theorem depthHonoured_of_run_ten :
    (∃ e ∈ (Sample.polledAt { finalityDepth := some ⟨10, by decide⟩ } 112).outbox,
        e.execution.safeToExecute = true) ∧
      ∀ e ∈ (Sample.polledAt { finalityDepth := some ⟨10, by decide⟩ } 112).outbox,
        DepthHonoured e :=
  ⟨by decide +kernel, depthHonoured_of_run (by decide) (by decide +kernel)⟩

/-- The same endpoint gets the finalization at height 106, six blocks after the payment. -/
theorem not_depthHonoured_poll :
    ∃ e ∈ (Sample.polledAt { finalityDepth := some ⟨10, by decide⟩ } 106).outbox,
      ¬ DepthHonoured e := by
  decide +kernel

end TripWire
