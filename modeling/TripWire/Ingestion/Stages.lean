import TripWire.Ingestion.Effects
import TripWire.Lib.Machine

/-!
# A delivery, statement by statement

`process_pre_confirmed_event` and the payment handlers await several calls one after the other, and
another delivery may run between any two of them.  `Stage` says where a delivery stands, with the
values it has collected so far, and `stageStep` takes it one call further with the functions of the
pipeline.

`stages_alone` ties the two models together: a delivery whose stages run without interruption does
what `processPreConfirmedEvent` or `processErc3009Event` does in one step.
-/

namespace TripWire

open Py

/-- A delivery of a transfer: from the facilitator, or of its log by Goldsky to one of the two
handlers. -/
structure Delivery where
  source : NonceSource
  transfer : ERC3009Transfer
  unified : Bool := false

/-- What a delivery passes to `_dispatch_for_transfer`, the identity apart. -/
structure TransferCall where
  finality : Option FinalityStatus := none
  /-- The block height behind `finality`. -/
  height : Option ℤ := none
  eventTypeOverride : Option WebhookEventType := none
  eventId : Option EventId := none

/-- The call that a stage of the delivery makes next. -/
inductive Stage where
  | claim
  | finality
  | identify (c : TransferCall)
  | fetch (c : TransferCall) (identity : Option AgentIdentity)
  | record (c : TransferCall) (identity : Option AgentIdentity) (endpoints : List Endpoint)
      (plan : Plan)
  | link (c : TransferCall) (identity : Option AgentIdentity) (endpoints : List Endpoint)
      (plan : Plan) (id : EventId)
  | deliver (c : TransferCall) (identity : Option AgentIdentity) (endpoints : List Endpoint)
      (plan : Plan) (id : EventId)
  | promote (id : EventId)
  | report (row : EventRow)
  | done (result : Except PyError ProcessResult)

/-- Whether the delivery has returned or raised. -/
def Stage.isDone : Stage → Bool
  | .done _ => true
  | _ => false

/-- The facilitator's call of `_dispatch_for_transfer`, for the id it drew. -/
def announcedCall (id : EventId) : TransferCall :=
  { eventTypeOverride := some .paymentPreConfirmed, eventId := some id }

/-- The first stage: the nonce.  The facilitator draws the event id before it. -/
def claimStage (env : Env) (d : Delivery) (w : World) : World × Stage :=
  match d.source with
  | .facilitator =>
    let (w₁, id) := w.uuid4
    if env.raises .recordNonce then
      (w₁, .done (errorResult "nonce_dedup_failed" d.transfer.txHash))
    else
      let (w₂, answer) :=
        w₁.recordNonceOrCorrelate env.now d.transfer.nonceKey (some id) .facilitator
      (w₂, if answer.isNew then .identify (announcedCall id)
        else .done (.ok { status := .duplicate, txHash := some d.transfer.txHash }))
  | .goldsky =>
    if env.raises .recordNonce then
      (w, .done (errorResult (if d.unified then "dedup_failed" else "nonce_dedup_failed")
        d.transfer.txHash))
    else
      let (w₁, answer) := w.recordNonceOrCorrelate env.now d.transfer.nonceKey none .goldsky
      (w₁, if answer.isNew then .finality
        else
          match answer.existingSource, answer.existingEventId with
          | some .facilitator, some id => .promote id
          | _, _ => .done (.ok { status := .duplicate, txHash := some d.transfer.txHash }))

/-- The call behind the messages of a recorded transfer. -/
def TransferCall.dispatch (c : TransferCall) (t : ERC3009Transfer) (identity : Option AgentIdentity)
    (plan : Plan) (id : EventId) : Dispatch :=
  { event := id, transfer := t, type := plan.type, finality := c.finality, identity,
    height := c.height }

/-- One call of a delivery. -/
def stageStep (env : Env) (d : Delivery) (w : World) : Stage → World × Stage
  | .claim => claimStage env d w
  | .finality =>
    let finality := paymentFinality env d.unified d.transfer
    (w, .identify { finality, height := observedHeight env finality })
  | .identify c =>
    (w, .fetch c (resolveIdentity env d.transfer.authorizer.val d.transfer.chainId.value))
  | .fetch c identity =>
    match fetchMatchingEndpoints env w d.transfer with
    | .error _ => (w, .done (errorResult "endpoint_fetch_failed" d.transfer.txHash))
    | .ok endpoints =>
      match planDispatch d.transfer c.finality identity c.eventTypeOverride endpoints with
      | .error e => (w, .done (.error e))
      | .ok plan => (w, .record c identity endpoints plan)
  | .record c identity endpoints plan =>
    let (w₁, id) := chooseEventId w c.eventId
    let row := eventRow env.now id d.transfer c.finality plan.type (plan.matched.head?.map (·.id))
    (recordEvent env w₁ row, .link c identity endpoints plan id)
  -- Policies and gate were settled with the fetch; the stages from here on work with that plan.
  | .link c identity endpoints plan id =>
    (linkStage env w id plan, .deliver c identity endpoints plan id)
  | .deliver c identity endpoints plan id =>
    let call := c.dispatch d.transfer identity plan id
    let (w₁, sent) := deliver env w call plan.approved
    (w₁, .done (sent.map (dispatchResult env call endpoints plan)))
  | .promote id =>
    if env.raises (.promoteToConfirmed id) then
      (w, .done (errorResult "promote_failed" d.transfer.txHash))
    else
      match w.promoteToConfirmed env.now id d.transfer with
      | (w₁, none) => (w₁, .done (errorResult "event_not_found" d.transfer.txHash))
      | (w₁, some row) => (w₁, .report row)
  | .report row =>
    let (w₁, result) := dispatchPromotion env w row d.transfer
    (w₁, .done result)
  | .done result => (w, .done result)

/-! ### A delivery that is not interrupted -/

/-- The stages of a delivery as a machine whose actions are the answers of the outside world. -/
def stageMachine (d : Delivery) (s : World × Stage) (env : Env) : World × Stage :=
  stageStep env d s.1 s.2

/-- A delivery as one step of the pipeline. -/
def Delivery.process (d : Delivery) (env : Env) (w : World) : Outcome :=
  match d.source with
  | .facilitator => processPreConfirmedEvent env w d.transfer
  | .goldsky => processErc3009Event env d.unified w (.ok d.transfer)

theorem stageMachine_done (d : Delivery) (envs : List Env) (w : World)
    (result : Except PyError ProcessResult) :
    Machine.run (stageMachine d) (w, .done result) envs = (w, .done result) := by
  induction envs with
  | nil => rfl
  | cons env envs ih => exact ih

/-- The last four stages are `_dispatch_for_transfer`. -/
theorem stageMachine_fetch (env : Env) (d : Delivery) (w : World) (c : TransferCall)
    (identity : Option AgentIdentity) (envs : List Env)
    (hheight : c.height = observedHeight env c.finality) :
    Machine.run (stageMachine d) (w, .fetch c identity) (env :: env :: env :: env :: envs) =
      ((dispatchForTransfer env w d.transfer c.finality identity c.eventTypeOverride c.eventId).1,
        .done (dispatchForTransfer env w d.transfer c.finality identity c.eventTypeOverride
          c.eventId).2) := by
  rw [Machine.run_cons]
  cases hfetch : fetchMatchingEndpoints env w d.transfer with
  | error e =>
    simp only [stageMachine, stageStep, hfetch, dispatchForTransfer]
    exact stageMachine_done d _ w _
  | ok endpoints =>
    cases hplan : planDispatch d.transfer c.finality identity c.eventTypeOverride endpoints with
    | error e =>
      simp only [stageMachine, stageStep, hfetch, hplan, dispatchForTransfer]
      exact stageMachine_done d _ w _
    | ok plan =>
      simp only [stageMachine, stageStep, hfetch, hplan, dispatchForTransfer, Machine.run_cons,
        TransferCall.dispatch, hheight]
      exact stageMachine_done d envs _ _

/-- The promotion and its report are `_promote_pre_confirmed_event`. -/
theorem stageMachine_promote (env : Env) (d : Delivery) (w : World) (id : EventId)
    (envs : List Env) :
    Machine.run (stageMachine d) (w, .promote id) (env :: env :: envs) =
      ((promotePreConfirmedEvent env w id d.transfer).1,
        .done (promotePreConfirmedEvent env w id d.transfer).2) := by
  rw [Machine.run_cons, Machine.run_cons]
  by_cases hraise : env.raises (.promoteToConfirmed id) = true
  · simp only [stageMachine, stageStep, promotePreConfirmedEvent, hraise, if_true]
    exact stageMachine_done d _ w _
  · cases hrow : w.promoteToConfirmed env.now id d.transfer with
    | mk w₁ found =>
      cases found with
      | none =>
        simp only [stageMachine, stageStep, promotePreConfirmedEvent, hraise, hrow, if_false,
          Bool.false_eq_true]
        exact stageMachine_done d _ w₁ _
      | some row =>
        simp only [stageMachine, stageStep, promotePreConfirmedEvent, hraise, hrow, if_false,
          Bool.false_eq_true]
        exact stageMachine_done d _ _ _

/-- **The stages of a delivery.** Seven stages without interruption are the delivery of the
pipeline. -/
theorem stages_alone (env : Env) (d : Delivery) (w : World) :
    Machine.run (stageMachine d) (w, .claim) (List.replicate 7 env) =
      ((d.process env w).1, .done (d.process env w).2) := by
  obtain ⟨source, t, unified⟩ := d
  have hstages : List.replicate 7 env = [env, env, env, env, env, env, env] := rfl
  have hclaim : stageMachine ⟨source, t, unified⟩ (w, .claim) env =
      claimStage env ⟨source, t, unified⟩ w := rfl
  rw [hstages, Machine.run_cons, hclaim]
  -- After `done` the remaining answers are not asked for, so seven suffice for every path.
  by_cases hraise : env.raises .recordNonce = true
  · cases source with
    | facilitator =>
      simp only [claimStage, hraise, if_true, Delivery.process, processPreConfirmedEvent]
      exact stageMachine_done _ _ _ _
    | goldsky =>
      simp only [claimStage, hraise, if_true, Delivery.process, processErc3009Event]
      exact stageMachine_done _ _ _ _
  cases source with
  | facilitator =>
    simp only [claimStage, Delivery.process, processPreConfirmedEvent, hraise, Bool.false_eq_true,
      if_false]
    split_ifs with hnew
    · rw [Machine.run_cons]
      exact stageMachine_fetch env _ _ (announcedCall _) _ [env] rfl
    · exact stageMachine_done _ _ _ _
  | goldsky =>
    rcases hanswer : w.recordNonceOrCorrelate env.now t.nonceKey none .goldsky with
      ⟨w₁, isNew, existingId, existingSource⟩
    simp only [claimStage, Delivery.process, processErc3009Event, processCorrelated, hraise,
      hanswer, Bool.false_eq_true, if_false]
    split_ifs with hnew
    · rw [Machine.run_cons, Machine.run_cons]
      exact stageMachine_fetch env _ _ { finality := paymentFinality env unified t, height := _ } _
        [] rfl
    · rcases existingSource with _ | _ | _ <;> rcases existingId with _ | id
      case some.facilitator.some => exact stageMachine_promote env _ _ _ [env, env, env, env]
      all_goals exact stageMachine_done _ _ _ _

end TripWire
