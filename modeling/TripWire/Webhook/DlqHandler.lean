import Mathlib
import TripWire.Lib.KeyedTable
import TripWire.Lib.Machine
import TripWire.Db.World

/-!
# The handler of failed Convoy deliveries

`DLQHandler` polls Convoy for the failed event deliveries of every active endpoint
(`tripwire/webhook/dlq_handler.py`).  It resends each of them until the counter of its local row has
reached `dlq_max_retries`, and then marks the row `dead_lettered` and posts an alert.

The counter lives in the `webhook_deliveries` row whose `provider_message_id` is the uid of the
delivery.  What `send_webhook` returns, and the recording loops store there, is the uid of the
Convoy *event*.  Where the two kinds of uid differ no row is ever found: `resendCount_step` says
that a poll then resends what it lists, whatever happened before, and `retries_bounded_iff` says
which runs stay within the bound.
-/

namespace TripWire

open Py Machine

namespace DLQHandler

/-! ### Data -/

/-- The column `webhook_deliveries.status`, as the program writes it. -/
inductive Status where
  | pending
  | sent
  | failed
  | deadLettered
  deriving DecidableEq, Repr

/-- A row of the `webhook_deliveries` table. -/
structure Delivery where
  id : String
  endpointId : EndpointId
  eventId : EventId
  providerMessageId : Option String
  status : Status := .pending
  dlqRetryCount : ℕ := 0
  deriving DecidableEq

/-- An event delivery in an answer of Convoy.  `metadataUid` is the `uid` of `event_metadata`, where
that is a dict that has one. -/
structure ConvoyDelivery where
  uid : Option String
  metadataUid : Option String := none
  eventId : Option String := none
  deriving DecidableEq

/-- `_extract_event_id`. -/
def extractEventId (delivery : ConvoyDelivery) : String :=
  if truthy delivery.metadataUid then delivery.metadataUid.getD ""
  else delivery.eventId.getD "unknown"

/-- The settings the handler reads. -/
structure Settings where
  dlqMaxRetries : ℤ := 3
  dlqAlertWebhookUrl : String := ""

/-- The payload of an alert, of the type `dlq.dead_lettered`. -/
structure Alert where
  endpointId : EndpointId
  deliveryId : String
  eventId : String
  error : String
  deriving DecidableEq

/-- The local table, the calls of `force_resend` with their project and uids, and the alerts that
were posted. -/
structure State where
  deliveries : KeyedTable Delivery.id := .empty
  resends : List (String × List String) := []
  alerts : List Alert := []

/-- A delivery that Convoy lists, with the calls that raise while the handler deals with it: its
first lookup, `increment_dlq_retry`, and the lookup or the update in `_dead_letter`. -/
structure Listed where
  delivery : ConvoyDelivery
  lookupRaises : Bool := false
  incrementRaises : Bool := false
  deadLetterRaises : Bool := false

/-- `delivery.get("uid", "")`; a `null` is skipped like the empty string. -/
def Listed.uid (l : Listed) : String := l.delivery.uid.getD ""

/-- What Convoy and the database answer in one poll: the active endpoints and, for each, its failed
deliveries; `none` where the call raises. -/
structure Answers where
  listActive : Option (List Endpoint)
  listFailedDeliveries : EndpointId → Option (List Listed)

/-! ### The handler -/

/-- `get_by_provider_message_id`. -/
def State.getByProviderMessageId (s : State) (providerMessageId : String) : Option Delivery :=
  s.deliveries.rows.find? fun r => r.providerMessageId = some providerMessageId

/-- `update_status`. -/
def State.updateStatus (id : String) (status : Status) (s : State) : State :=
  { s with
    deliveries := s.deliveries.updateWhere (fun r => r.id = id) (fun r => { r with status })
      fun _ => rfl }

/-- `increment_dlq_retry`. -/
def State.incrementDlqRetry (id : String) (s : State) : State :=
  { s with
    deliveries := s.deliveries.updateWhere (fun r => r.id = id)
      (fun r => { r with dlqRetryCount := r.dlqRetryCount + 1 }) fun _ => rfl }

/-- `_send_alert`. -/
def sendAlert (settings : Settings) (alert : Alert) (s : State) : State :=
  if settings.dlqAlertWebhookUrl = "" then s else { s with alerts := s.alerts ++ [alert] }

/-- `_dead_letter`: the alert is sent whether or not there is a row to mark. -/
def deadLetter (settings : Settings) (endpointId : EndpointId) (l : Listed) (s : State) : State :=
  let marked :=
    if l.deadLetterRaises then s
    else
      match s.getByProviderMessageId l.uid with
      | some row => s.updateStatus row.id .deadLettered
      | none => s
  sendAlert settings
    { endpointId
      deliveryId := l.uid
      eventId := extractEventId l.delivery
      error := s!"Delivery {l.uid} for event {extractEventId l.delivery} exceeded " ++
        s!"{settings.dlqMaxRetries} retries and has been dead-lettered." }
    marked

/-- The loop of `_process_endpoint` over the failed deliveries, with the uids to resend so far; the
list is `none` when a call outside a `try` raises. -/
def collectRetryable (settings : Settings) (endpointId : EndpointId) :
    State → List String → List Listed → State × Option (List String)
  | s, retryable, [] => (s, some retryable)
  | s, retryable, l :: ls =>
    if l.uid = "" then collectRetryable settings endpointId s retryable ls
    else if l.lookupRaises then (s, none)
    else
      let row := s.getByProviderMessageId l.uid
      if settings.dlqMaxRetries ≤ (row.map Delivery.dlqRetryCount).getD 0 then
        collectRetryable settings endpointId (deadLetter settings endpointId l s) retryable ls
      else
        match row with
        | some r =>
          if l.incrementRaises then (s, none)
          else
            collectRetryable settings endpointId (s.incrementDlqRetry r.id) (retryable ++ [l.uid])
              ls
        | none => collectRetryable settings endpointId s (retryable ++ [l.uid]) ls

/-- The batch retry: the call is made whether or not Convoy accepts it. -/
def forceResend (project : String) (retryable : List String) (s : State) : State :=
  if retryable = [] then s else { s with resends := s.resends ++ [(project, retryable)] }

/-- `_process_endpoint`. -/
def processEndpoint (settings : Settings) (answers : Answers) (endpointId : EndpointId)
    (project : String) (s : State) : State :=
  match answers.listFailedDeliveries endpointId with
  | none => s
  | some failed =>
    match collectRetryable settings endpointId s [] failed with
    | (s', none) => s'
    | (s', some retryable) => forceResend project retryable s'

/-- One endpoint of `_poll_once`; what raises inside is caught here. -/
def pollEndpoint (settings : Settings) (answers : Answers) (s : State) (ep : Endpoint) : State :=
  if truthy ep.convoyProjectId then
    processEndpoint settings answers ep.id (ep.convoyProjectId.getD "") s
  else s

/-- `_poll_once`. -/
def pollOnce (settings : Settings) (answers : Answers) (s : State) : State :=
  match answers.listActive with
  | none => s
  | some endpoints => endpoints.foldl (pollEndpoint settings answers) s

/-- What happens to the deliveries: a poll, `WebhookDeliveryRepository.create` by a path that has
called `send_webhook`, or the status that `retry_delivery` writes. -/
inductive Action where
  | poll (answers : Answers)
  | create (id : String) (endpointId : EndpointId) (eventId : EventId)
      (providerMessageId : Option String)
  | retryDelivery (id : String)

/-- The row that a recording loop creates. -/
def createdRow (id : String) (endpointId : EndpointId) (eventId : EventId)
    (providerMessageId : Option String) : Delivery where
  id
  endpointId
  eventId
  providerMessageId
  status := if truthy providerMessageId then .sent else .failed

/-- One step. -/
def step (settings : Settings) (s : State) : Action → State
  | .poll answers => pollOnce settings answers s
  | .create id endpointId eventId providerMessageId =>
    { s with
      deliveries :=
        s.deliveries.insertOrSkip (createdRow id endpointId eventId providerMessageId) }
  | .retryDelivery id => s.updateStatus id .pending

/-! ### What was sent -/

/-- How often the delivery was passed to `force_resend`. -/
def State.resendCount (s : State) (uid : String) : ℕ := (s.resends.flatMap Prod.snd).count uid

/-- How often an alert was posted about the delivery. -/
def State.alertCount (s : State) (uid : String) : ℕ := s.alerts.countP fun a => a.deliveryId = uid

/-- How often a list of failed deliveries has the uid; a list with a lookup that raises is given up
before the batch retry. -/
def listingsIn (failed : List Listed) (uid : String) : ℕ :=
  if failed.any fun l => l.uid ≠ "" ∧ l.lookupRaises then 0 else failed.countP fun l => l.uid = uid

/-- How often the answer for one endpoint lists the delivery. -/
def Answers.listingsFor (answers : Answers) (uid : String) (ep : Endpoint) : ℕ :=
  if truthy ep.convoyProjectId then
    ((answers.listFailedDeliveries ep.id).map (listingsIn · uid)).getD 0
  else 0

/-- How often an action lists the delivery as failed. -/
def Action.listings (uid : String) : Action → ℕ
  | .poll answers => ((answers.listActive.getD []).map (answers.listingsFor uid)).sum
  | .create .. => 0
  | .retryDelivery _ => 0

/-- How often a run lists the delivery as failed. -/
def listings (uid : String) (as : List Action) : ℕ := (as.map (Action.listings uid)).sum

/-- The retries of a delivery that has been listed `n` times are bounded: it was resent at most
`dlq_max_retries` times and, once it has been listed more often than that, the row of its event is
`dead_lettered` and one alert was posted. -/
def State.Bounded (settings : Settings) (s : State) (delivery : ConvoyDelivery) (n : ℕ) : Prop :=
  s.resendCount (delivery.uid.getD "") ≤ settings.dlqMaxRetries.toNat ∧
    (settings.dlqMaxRetries.toNat < n →
      (∃ row ∈ s.deliveries.rows, row.providerMessageId = some (extractEventId delivery) ∧
        row.status = .deadLettered) ∧
      (settings.dlqAlertWebhookUrl ≠ "" → s.alertCount (delivery.uid.getD "") = 1))

/-! ### No row is found -/

/-- `send_webhook` returns uids of events only, and no delivery that Convoy lists has such a uid. -/
def Action.Separates (IsEventUid : String → Prop) : Action → Prop
  | .poll answers =>
    ∀ endpointId failed, answers.listFailedDeliveries endpointId = some failed →
      ∀ l ∈ failed, ¬IsEventUid l.uid
  | .create _ _ _ providerMessageId => ∀ uid, providerMessageId = some uid → IsEventUid uid
  | .retryDelivery _ => True

/-- The stored uids are uids of events, and no row is marked. -/
def State.Unmarked (IsEventUid : String → Prop) (s : State) : Prop :=
  ∀ row ∈ s.deliveries.rows,
    (∀ uid, row.providerMessageId = some uid → IsEventUid uid) ∧ row.status ≠ .deadLettered

variable {IsEventUid : String → Prop} {settings : Settings} {s : State}

theorem getByProviderMessageId_eq_none (hs : s.Unmarked IsEventUid) {uid : String}
    (huid : ¬IsEventUid uid) : s.getByProviderMessageId uid = none := by
  apply List.find?_eq_none.mpr
  intro row hrow heq
  exact huid ((hs row hrow).1 uid (by simpa using heq))

theorem sendAlert_frame (alert : Alert) :
    (sendAlert settings alert s).deliveries = s.deliveries ∧
      (sendAlert settings alert s).resends = s.resends := by
  unfold sendAlert
  split_ifs <;> exact ⟨rfl, rfl⟩

/-- Without a row `_dead_letter` only alerts. -/
theorem deadLetter_frame (settings : Settings) (hs : s.Unmarked IsEventUid) {l : Listed}
    (hl : ¬IsEventUid l.uid) (endpointId : EndpointId) :
    (deadLetter settings endpointId l s).deliveries = s.deliveries ∧
      (deadLetter settings endpointId l s).resends = s.resends := by
  unfold deadLetter
  rw [getByProviderMessageId_eq_none hs hl, ite_self]
  exact sendAlert_frame _

/-- The uids of a list that are not empty. -/
def uidsOf (failed : List Listed) : List String := (failed.map Listed.uid).filter (· ≠ "")

/-- Without rows the loop leaves the table and the resends alone.  It collects every uid where the
bound is positive and none where it is not, unless a lookup raises. -/
theorem collectRetryable_spec (settings : Settings) (endpointId : EndpointId) (failed : List Listed)
    (s : State) (retryable : List String) (hs : s.Unmarked IsEventUid)
    (hfailed : ∀ l ∈ failed, ¬IsEventUid l.uid) :
    (collectRetryable settings endpointId s retryable failed).1.deliveries = s.deliveries ∧
      (collectRetryable settings endpointId s retryable failed).1.resends = s.resends ∧
      (collectRetryable settings endpointId s retryable failed).2 =
        if failed.any fun l => l.uid ≠ "" ∧ l.lookupRaises then none
        else some (retryable ++ if 0 < settings.dlqMaxRetries then uidsOf failed else []) := by
  induction failed generalizing s retryable with
  | nil => simp [collectRetryable, uidsOf]
  | cons l ls ih =>
    have hl := hfailed l List.mem_cons_self
    have hls : ∀ l ∈ ls, ¬IsEventUid l.uid := fun l' hl' => hfailed l' (List.mem_cons_of_mem l hl')
    rw [collectRetryable]
    by_cases huid : l.uid = ""
    · rw [if_pos huid]
      simpa [huid, uidsOf] using ih s retryable hs hls
    rw [if_neg huid]
    by_cases hraise : l.lookupRaises = true
    · simp [hraise, huid]
    rw [if_neg hraise, getByProviderMessageId_eq_none hs hl]
    by_cases hmax : settings.dlqMaxRetries ≤ 0
    · -- the counter of a delivery without a row is 0, which has reached the bound
      have hframe := deadLetter_frame settings hs hl endpointId
      have hs' : (deadLetter settings endpointId l s).Unmarked IsEventUid := by
        rw [State.Unmarked, hframe.1]
        exact hs
      have := ih _ retryable hs' hls
      rw [hframe.1, hframe.2] at this
      simpa [hmax, huid, hraise, not_lt.mpr hmax] using this
    · have hpos : 0 < settings.dlqMaxRetries := by omega
      simpa [hmax, huid, hraise, hpos, uidsOf] using ih s (retryable ++ [l.uid]) hs hls

theorem count_uidsOf {uid : String} (huid : uid ≠ "") (failed : List Listed) :
    (uidsOf failed).count uid = failed.countP fun l => l.uid = uid := by
  rw [uidsOf, List.count_filter (by simpa using huid), List.count, List.countP_map]
  congr 1

/-! ### One poll -/

/-- What a step did to a state: the table is as it was, and the delivery was resent `n` more times
if the bound is positive. -/
structure Resent (settings : Settings) (uid : String) (s s' : State) (n : ℕ) : Prop where
  deliveries : s'.deliveries = s.deliveries
  resendCount : s'.resendCount uid = s.resendCount uid + if 0 < settings.dlqMaxRetries then n else 0

theorem Resent.refl (uid : String) (s : State) : Resent settings uid s s 0 :=
  ⟨rfl, by rw [ite_self, Nat.add_zero]⟩

theorem Resent.trans {uid : String} {s s' s'' : State} {m n : ℕ} (h : Resent settings uid s s' m)
    (h' : Resent settings uid s' s'' n) : Resent settings uid s s'' (m + n) := by
  refine ⟨h'.deliveries.trans h.deliveries, ?_⟩
  rw [h'.resendCount, h.resendCount]
  split_ifs <;> omega

theorem resendCount_forceResend (project : String) (retryable : List String) (s : State)
    (uid : String) :
    (forceResend project retryable s).resendCount uid =
      s.resendCount uid + retryable.count uid := by
  unfold forceResend
  by_cases hnil : retryable = []
  · rw [if_pos hnil, hnil, List.count_nil, Nat.add_zero]
  · rw [if_neg hnil, State.resendCount, State.resendCount, List.flatMap_append, List.count_append]
    simp

theorem forceResend_deliveries (project : String) (retryable : List String) (s : State) :
    (forceResend project retryable s).deliveries = s.deliveries := by
  unfold forceResend
  split_ifs <;> rfl

theorem resent_processEndpoint {answers : Answers} (endpointId : EndpointId) (project : String)
    (hs : s.Unmarked IsEventUid) (hanswers : (Action.poll answers).Separates IsEventUid)
    {uid : String} (huid : uid ≠ "") :
    Resent settings uid s (processEndpoint settings answers endpointId project s)
      (((answers.listFailedDeliveries endpointId).map (listingsIn · uid)).getD 0) := by
  unfold processEndpoint
  cases hlist : answers.listFailedDeliveries endpointId with
  | none => exact Resent.refl uid s
  | some failed =>
    obtain ⟨hdeliveries, hresends, hids⟩ := collectRetryable_spec settings endpointId failed s []
      hs (hanswers endpointId failed hlist)
    rcases hcollect : collectRetryable settings endpointId s [] failed with ⟨s', ids⟩
    rw [hcollect] at hdeliveries hresends hids
    have hcount : s'.resendCount uid = s.resendCount uid := by
      rw [State.resendCount, State.resendCount, hresends]
    simp only [hcollect, Option.map_some, Option.getD_some, listingsIn]
    by_cases hraise : failed.any (fun l => l.uid ≠ "" ∧ l.lookupRaises) = true
    · rw [if_pos hraise] at hids ⊢
      subst hids
      exact ⟨hdeliveries, by rw [hcount, ite_self, Nat.add_zero]⟩
    · rw [if_neg hraise] at hids ⊢
      subst hids
      refine ⟨(forceResend_deliveries _ _ _).trans hdeliveries, ?_⟩
      show (forceResend _ _ s').resendCount uid = _
      rw [resendCount_forceResend, hcount, List.nil_append]
      split_ifs
      · rw [count_uidsOf huid]
      · rw [List.count_nil]

theorem resent_pollEndpoints (settings : Settings) {answers : Answers}
    (hanswers : (Action.poll answers).Separates IsEventUid) {uid : String} (huid : uid ≠ "")
    (endpoints : List Endpoint) (s : State) (hs : s.Unmarked IsEventUid) :
    Resent settings uid s (endpoints.foldl (pollEndpoint settings answers) s)
      (endpoints.map (answers.listingsFor uid)).sum := by
  induction endpoints generalizing s with
  | nil => exact Resent.refl uid s
  | cons ep eps ih =>
    have hep : Resent settings uid s (pollEndpoint settings answers s ep)
        (answers.listingsFor uid ep) := by
      rw [pollEndpoint, Answers.listingsFor]
      split_ifs
      · exact resent_processEndpoint ep.id _ hs hanswers huid
      · exact Resent.refl uid s
    have hs' : (pollEndpoint settings answers s ep).Unmarked IsEventUid := by
      rw [State.Unmarked, hep.deliveries]
      exact hs
    rw [List.foldl_cons, List.map_cons, List.sum_cons]
    exact hep.trans (ih _ hs')

/-! ### Runs -/

theorem unmarked_step (settings : Settings) {a : Action} (hs : s.Unmarked IsEventUid)
    (ha : a.Separates IsEventUid) :
    (step settings s a).Unmarked IsEventUid := by
  cases a with
  | poll answers =>
    rw [step, pollOnce]
    cases hactive : answers.listActive with
    | none => exact hs
    | some endpoints =>
      have hpoll := resent_pollEndpoints settings ha (show "uid" ≠ "" by decide) endpoints s hs
      rw [State.Unmarked, hpoll.deliveries]
      exact hs
  | create id endpointId eventId providerMessageId =>
    intro row hrow
    rcases KeyedTable.mem_or_eq_of_mem_insertOrSkip hrow with hold | rfl
    · exact hs row hold
    · refine ⟨ha, ?_⟩
      unfold createdRow
      split_ifs <;> exact Status.noConfusion
  | retryDelivery id =>
    intro row hrow
    obtain ⟨old, hold, rfl⟩ := List.mem_map.mp hrow
    split_ifs
    · exact ⟨(hs old hold).1, Status.noConfusion⟩
    · exact hs old hold

/-- A step resends a delivery as often as it is listed, however often that was done before. -/
theorem resendCount_step {a : Action} (hs : s.Unmarked IsEventUid) (ha : a.Separates IsEventUid)
    {uid : String} (huid : uid ≠ "") :
    (step settings s a).resendCount uid =
      s.resendCount uid + if 0 < settings.dlqMaxRetries then a.listings uid else 0 := by
  cases a with
  | poll answers =>
    rw [step, pollOnce, Action.listings]
    cases answers.listActive with
    | none => exact (Resent.refl uid s).resendCount
    | some endpoints => exact (resent_pollEndpoints settings ha huid endpoints s hs).resendCount
  | create => rw [Action.listings, ite_self]; rfl
  | retryDelivery => rw [Action.listings, ite_self]; rfl

theorem run_spec (settings : Settings) {as : List Action} (has : ∀ a ∈ as, a.Separates IsEventUid)
    (hs : s.Unmarked IsEventUid) {uid : String} (huid : uid ≠ "") :
    (run (step settings) s as).Unmarked IsEventUid ∧
      (run (step settings) s as).resendCount uid =
        s.resendCount uid + if 0 < settings.dlqMaxRetries then listings uid as else 0 := by
  induction as generalizing s with
  | nil => exact ⟨hs, (Resent.refl uid s).resendCount⟩
  | cons a as ih =>
    have ha := has a List.mem_cons_self
    obtain ⟨hrun, hcount⟩ :=
      ih (fun b hb => has b (List.mem_cons_of_mem a hb)) (unmarked_step settings hs ha)
    refine ⟨hrun, ?_⟩
    rw [run_cons, hcount, resendCount_step hs ha huid, listings, listings, List.map_cons,
      List.sum_cons]
    split_ifs <;> omega

/-- **When the retries stay bounded.** Where the uids that Convoy gives to deliveries are not those
it gives to events, the retries of every delivery are bounded exactly when no delivery is listed
more than `dlq_max_retries` times. -/
theorem retries_bounded_iff (settings : Settings) {IsEventUid : String → Prop} {as : List Action}
    (has : ∀ a ∈ as, a.Separates IsEventUid) :
    (∀ delivery : ConvoyDelivery, truthy delivery.uid = true →
      (run (step settings) {} as).Bounded settings delivery
        (listings (delivery.uid.getD "") as)) ↔
      ∀ uid, uid ≠ "" → listings uid as ≤ settings.dlqMaxRetries.toNat := by
  have hinit : State.Unmarked IsEventUid {} := fun _ hrow => absurd hrow List.not_mem_nil
  constructor
  · intro hbounded uid huid
    obtain ⟨hunmarked, hcount⟩ := run_spec settings has hinit huid
    obtain ⟨hresent, hdead⟩ := hbounded { uid := some uid } (decide_eq_true huid)
    by_contra hmore
    obtain ⟨⟨row, hrow, -, hstatus⟩, -⟩ := hdead (by simpa using hmore)
    exact (hunmarked row hrow).2 hstatus
  · intro hlistings delivery huid
    have huid' : delivery.uid.getD "" ≠ "" := by
      cases huid'' : delivery.uid with
      | none => rw [huid''] at huid; cases huid
      | some uid => simpa [huid'', truthy] using huid
    have hle := hlistings _ huid'
    refine ⟨?_, fun hlt => absurd hle (by omega)⟩
    rw [(run_spec settings has hinit huid').2]
    show 0 + _ ≤ _
    split_ifs <;> omega

/-! ### A delivery that keeps failing -/

/-- A delivery of the event `evt_1`. -/
def failingDelivery : ConvoyDelivery where
  uid := some "dlv_1"
  metadataUid := some "evt_1"

/-- One endpoint, whose project lists the delivery as failed. -/
def failingPoll : Answers where
  listActive := some [Sample.endpoint {}]
  listFailedDeliveries _ := some [{ delivery := failingDelivery }]

/-- The event is sent, and its delivery is then found failed in `n` polls. -/
def failingRun (n : ℕ) : List Action :=
  .create "row" "endpoint" 0 (some "evt_1") :: List.replicate n (.poll failingPoll)

theorem separates_failingRun (n : ℕ) : ∀ a ∈ failingRun n, a.Separates (· = "evt_1") := by
  intro a ha
  rcases List.mem_cons.mp ha with rfl | hpoll
  · rintro uid huid
    exact (Option.some.inj huid).symm
  · rw [List.eq_of_mem_replicate hpoll]
    rintro endpointId failed heq l hl
    obtain rfl := Option.some.inj heq
    rw [List.mem_singleton.mp hl]
    decide

theorem listings_failingRun (n : ℕ) (uid : String) :
    listings uid (failingRun n) = if uid = "dlv_1" then n else 0 := by
  have hpoll : (Action.poll failingPoll).listings uid = if uid = "dlv_1" then 1 else 0 := by
    by_cases huid : uid = "dlv_1"
    · subst huid
      decide
    · rw [if_neg huid]
      simp [Action.listings, failingPoll, failingDelivery, Answers.listingsFor, listingsIn, truthy,
        Listed.uid, Ne.symm huid]
  rw [failingRun, listings, List.map_cons, List.map_replicate, List.sum_cons, List.sum_replicate,
    hpoll]
  split_ifs <;> simp [Action.listings]

/-- Three polls are within the bound of three. -/
theorem retries_bounded_three_polls :
    (run (step {}) {} (failingRun 3)).Bounded {} failingDelivery
      (listings "dlv_1" (failingRun 3)) := by
  apply (retries_bounded_iff {} (separates_failingRun 3)).mpr
  · intro uid _
    rw [listings_failingRun]
    split_ifs <;> decide
  · rfl

/-- **The fourth poll resends the delivery again**: its row, found under the uid of the event, is
neither counted nor marked, and no alert is posted. -/
theorem resent_a_fourth_time :
    (∀ a ∈ failingRun 4, a.Separates (· = "evt_1")) ∧
      (run (step {}) {} (failingRun 4)).resendCount "dlv_1" = 4 ∧
      ¬(run (step {}) {} (failingRun 4)).Bounded {} failingDelivery
        (listings "dlv_1" (failingRun 4)) := by
  have hcount : (run (step {}) {} (failingRun 4)).resendCount "dlv_1" = 4 := by decide +kernel
  refine ⟨separates_failingRun 4, hcount, ?_⟩
  rintro ⟨hbound, -⟩
  change (run (step {}) {} (failingRun 4)).resendCount "dlv_1" ≤ _ at hbound
  rw [hcount] at hbound
  exact absurd hbound (by decide)

end DLQHandler

end TripWire
