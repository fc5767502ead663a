import Mathlib
import TripWire.Keeper.System

/-!
# Policy enforcement over runs

Ingestion links every matched endpoint to the event, the rejected ones included, and the later steps
work from these links.  A promotion evaluates the policies again and skips inactive endpoints; the
poller, its reorg handler and the sweeper do neither.

`Barred w event id` says that the endpoint must not hear of the event any more: its policies
rejected the transfer when the event was recorded, or it is inactive now.  `NoBarredWebhook` asks
that a step sends no webhook about an earlier event to an endpoint that is barred when the step
runs, and `EndpointsClear` is what a run has to provide for that: the three steps without a check
find no barred endpoint behind the rows they move, and a promotion finds none whose policies have
changed their mind.
-/

namespace TripWire

open Py

/-- The endpoint was turned away when the event was recorded, or it is inactive. -/
def Barred (w : World) (event : EventId) (id : EndpointId) : Prop :=
  (event, id) ∈ w.policyLog ∨ ∃ ep ∈ w.endpoints.get? id, ep.active = false

instance (w : World) (event : EventId) (id : EndpointId) : Decidable (Barred w event id) := by
  unfold Barred
  infer_instance

/-- **What the log of rejections says.** Recording an event adds the endpoints that matched the
transfer and whose policies turned it away, and no others. -/
theorem Dispatched.mem_policyLog {env : Env} {w : World} {t : ERC3009Transfer}
    {finality : Option FinalityStatus} {identity : Option AgentIdentity}
    {eventTypeOverride : Option WebhookEventType} {eventId : Option EventId}
    (D : Dispatched env w t finality identity eventTypeOverride eventId) {event : EventId}
    {id : EndpointId} :
    (event, id) ∈ D.after.policyLog ↔ (event, id) ∈ w.policyLog ∨
      (event = D.row.id ∧ ∃ ep ∈ matchEndpoints t D.endpoints, ep.id = id ∧
        ∃ denial,
          evaluatePolicy (buildTransferData t) identity ep.policies = .ok (some denial)) := by
  obtain ⟨hmatched, -, verdicts, hverdicts, hrejected, -⟩ := planDispatch_spec D.planned
  have hlog : D.after.policyLog =
      w.policyLog ++ D.plan.rejected.map fun ep => (D.row.id, ep.id) := rfl
  rw [hlog, List.mem_append, hrejected]
  refine or_congr_right ?_
  constructor
  · intro h
    obtain ⟨ep, hep, heq⟩ := List.mem_map.mp h
    obtain ⟨hevent, hid⟩ := Prod.mk.inj heq
    obtain ⟨hmem, hdenial⟩ := (mem_rejectedOf hverdicts).mp hep
    exact ⟨hevent.symm, ep, hmatched ▸ hmem, hid, hdenial⟩
  · rintro ⟨rfl, ep, hep, rfl, hdenial⟩
    rw [← hmatched] at hep
    exact List.mem_map_of_mem ((mem_rejectedOf hverdicts).mpr ⟨hep, hdenial⟩)

/-- The step sends no barred endpoint a webhook about an event that an earlier step recorded.  The
event that the step itself records, if any, has the next free id. -/
def NoBarredWebhook (w : World) (a : KeeperAction) : Prop :=
  ∀ e ∈ newMessages w a, e.message.isWebhook = true → e.event ≠ w.uuids →
    ¬ Barred w e.event e.endpoint.id

instance (w : World) (a : KeeperAction) : Decidable (NoBarredWebhook w a) := by
  unfold NoBarredWebhook
  infer_instance

/-! ### The condition -/

/-- An endpoint that was turned away at ingestion is turned away again by the promotion. -/
def PromotionClear (env : Env) (w : World) (t : ERC3009Transfer) : Prop :=
  ∀ old ∈ promotedRow w t, ∀ ep ∈ promotionEndpoints env w old, ep.mode = .execute →
    truthy ep.convoyProjectId = true → (old.id, ep.id) ∈ w.policyLog →
    evaluatePolicy (buildTransferData t) (resolveIdentity env t.authorizer.val t.chainId.value)
      ep.policies ≠ .ok none

instance (env : Env) (w : World) (t : ERC3009Transfer) : Decidable (PromotionClear env w t) := by
  unfold PromotionClear
  infer_instance

/-- The endpoints behind each row that a poll cycle moves or finds reorged are active and were
accepted at ingestion. -/
def PollClear (env : Env) (w : World) (chain : ChainId) : Prop :=
  ∀ row ∈ polledRows env w chain,
    isReorged env row = true ∨ finalityDepths chain ≤ polledConfirmations env row →
    (reconstructTransfer row).isSome = true →
    ∀ ep ∈ polledEndpoints env w row, truthy ep.convoyProjectId = true →
      ep.active = true ∧ (row.id, ep.id) ∉ w.policyLog

instance (env : Env) (w : World) (chain : ChainId) : Decidable (PollClear env w chain) := by
  unfold PollClear
  infer_instance

/-- The endpoints behind each row that a sweep reports are active and were accepted at ingestion. -/
def SweepClear (env : Env) (route : SweepRoute) (ttl : ℤ) (w : World) : Prop :=
  ∀ row ∈ sweptRows env route ttl w, expiryDispatches env route row = true →
    (reconstructTransfer row).isSome = true →
    ∀ ep ∈ sweptEndpoints env w row, truthy ep.convoyProjectId = true →
      ep.active = true ∧ (row.id, ep.id) ∉ w.policyLog

instance (env : Env) (route : SweepRoute) (ttl : ℤ) (w : World) :
    Decidable (SweepClear env route ttl w) := by
  unfold SweepClear
  infer_instance

/-- No barred endpoint stands behind the rows of a step that does not check. -/
def EndpointsClear (w : World) : KeeperAction → Prop
  | .goldsky env _ (.ok t) => PromotionClear env w t
  | .poll env chain => PollClear env w chain
  | .sweep env route ttl => SweepClear env route ttl w
  | _ => True

instance (w : World) : ∀ a, Decidable (EndpointsClear w a)
  | .goldsky env _ (.ok t) => inferInstanceAs (Decidable (PromotionClear env w t))
  | .poll env chain => inferInstanceAs (Decidable (PollClear env w chain))
  | .sweep env route ttl => inferInstanceAs (Decidable (SweepClear env route ttl w))
  | .goldsky _ _ (.error _) => isTrue trivial
  | .facilitator .. => isTrue trivial
  | .configure .. => isTrue trivial

/-! ### The theorem -/

theorem get?_of_mem_polledEndpoints {env : Env} {w : World} {row : EventRow} {ep : Endpoint}
    (h : ep ∈ polledEndpoints env w row) : w.endpoints.get? ep.id = some ep :=
  get?_of_mem_fetchEndpoints h

theorem get?_of_mem_sweptEndpoints {env : Env} {w : World} {row : EventRow} {ep : Endpoint}
    (h : ep ∈ sweptEndpoints env w row) : w.endpoints.get? ep.id = some ep := by
  unfold sweptEndpoints at h
  split_ifs at h
  · cases h
  · exact get?_of_mem_fetchEndpoints h

theorem not_barred {w : World} {event : EventId} {ep : Endpoint}
    (hget : w.endpoints.get? ep.id = some ep) (hactive : ep.active = true)
    (hlog : (event, ep.id) ∉ w.policyLog) : ¬ Barred w event ep.id := by
  rintro (hmem | ⟨ep', hget', hinactive⟩)
  · exact hlog hmem
  · rw [hget] at hget'
    obtain rfl := Option.some.inj hget'
    rw [hactive] at hinactive
    cases hinactive

/-- A step without barred endpoints in its way sends none of them a webhook. -/
theorem noBarredWebhook_of_endpointsClear {w : World} {a : KeeperAction}
    (hclear : EndpointsClear w a) : NoBarredWebhook w a := by
  intro e he hweb hlater
  cases emitted_of_mem_newMessages he with
  -- The event is the one that this very step records.
  | preConfirmed _ _ _ _ sent => exact absurd sent.event hlater
  | ingested _ _ _ _ sent => exact absurd sent.event hlater
  | @promoted env unified t old ep _ promotes linked accepted sent =>
    rw [sent.event, sent.endpoint]
    obtain ⟨hget, hactive⟩ := get?_of_mem_promotionEndpoints linked
    rcases sent with ⟨hmode, hsent⟩ | ⟨-, rfl⟩
    · -- had the endpoint been turned away at ingestion, the promotion would have done so again
      refine not_barred hget hactive fun hlog => ?_
      exact hclear old promotes ep linked hmode (truthy_of_webhookEmission hsent) hlog accepted
    · cases hweb
  | @transitioned env chain row newStatus type d ep _ pending canonical reached moves dispatch
      linked sent =>
    obtain ⟨t, ht, rfl⟩ := Option.map_eq_some_iff.mp dispatch
    obtain ⟨hevent, hep, -⟩ := webhookEmission_spec sent
    have hrecon : (reconstructTransfer row).isSome = true := by rw [ht]; rfl
    obtain ⟨hactive, hlog⟩ := hclear row pending (Or.inr reached) hrecon ep linked
      (truthy_of_webhookEmission sent)
    rw [hevent, hep]
    exact not_barred (get?_of_mem_polledEndpoints linked) hactive hlog
  | @reorged env chain row d ep _ pending orphaned dispatch linked sent =>
    obtain ⟨t, ht, rfl⟩ := Option.map_eq_some_iff.mp dispatch
    obtain ⟨hevent, hep, -⟩ := webhookEmission_spec sent
    have hrecon : (reconstructTransfer row).isSome = true := by rw [ht]; rfl
    obtain ⟨hactive, hlog⟩ := hclear row pending (Or.inl orphaned) hrecon ep linked
      (truthy_of_webhookEmission sent)
    rw [hevent, hep]
    exact not_barred (get?_of_mem_polledEndpoints linked) hactive hlog
  | @expired env route ttl row d ep _ stale dispatches dispatch linked sent =>
    obtain ⟨t, ht, rfl⟩ := Option.map_eq_some_iff.mp dispatch
    obtain ⟨hevent, hep, -⟩ := webhookEmission_spec sent
    have hrecon : (reconstructTransfer row).isSome = true := by rw [ht]; rfl
    obtain ⟨hactive, hlog⟩ := hclear row stale dispatches hrecon ep linked
      (truthy_of_webhookEmission sent)
    rw [hevent, hep]
    exact not_barred (get?_of_mem_sweptEndpoints linked) hactive hlog

/-- **Policy enforcement over runs.** In every run whose steps meet `EndpointsClear`, no step sends
a barred endpoint a webhook about an earlier event. -/
theorem noBarredWebhook_of_run {w : World} {as : List KeeperAction}
    (hmeets : Machine.Meets keeperStep EndpointsClear w as) :
    Machine.Meets keeperStep NoBarredWebhook w as :=
  Machine.meets_of_meets (I := fun _ => True)
    (fun _ _ _ ha => ⟨noBarredWebhook_of_endpointsClear ha, trivial⟩) trivial hmeets

/-- An endpoint that accepts the payment, followed through confirmation and finalization. -/
theorem noBarredWebhook_of_run_accepted :
    Machine.Meets keeperStep NoBarredWebhook {}
      [Sample.register {}, .goldsky (Sample.height 101) false (.ok (Sample.onchain 100)),
        .poll (Sample.height 103) .base, .poll (Sample.height 104) .base] :=
  noBarredWebhook_of_run (by decide +kernel)

/-- An endpoint that blocks the sender is sent `payment.confirmed` by the poller. -/
theorem not_noBarredWebhook_blocked :
    ¬ Machine.Meets keeperStep NoBarredWebhook {}
      [Sample.register { blockedSenders := some [Sample.payer] },
        .goldsky (Sample.height 101) false (.ok (Sample.onchain 100)),
        .poll (Sample.height 103) .base] := by
  decide +kernel

end TripWire
