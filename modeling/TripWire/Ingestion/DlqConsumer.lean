import TripWire.Ingestion.BusSystem
import TripWire.Lib.LogReader

/-!
# The consumer of the dead-letter stream

`RedisDLQConsumer` (`tripwire/ingestion/dlq_consumer.py`) reads what `_send_to_dlq` writes to the
stream `tripwire:dlq`: fifty entries at a time behind the last id it has seen, and posts an alert
for each of them.  The id is kept in memory, so a new process starts from the beginning; the stream
is only ever trimmed by its writers, since a poll never sees as many entries as it takes to trim
(`stream_pollOnce`).

A consumer is a reader of a log (`reader_step`): it alerts in the order of the stream, no entry
twice, and skips none (`alerts_in_order`).  It gets to an entry after enough polls, unless one up to
it has a payload that is JSON but no object: there `_handle_message` raises before the id is stored,
and every later poll starts with the same entry.  The workers write objects only, so what they
dead-letter gets its alert (`dead_letter_alerted`).
-/

namespace TripWire

open Py Machine

/-! ### Messages -/

/-- `_BATCH_SIZE`. -/
def dlqBatchSize : ℕ := 50

/-- `_TRIM_THRESHOLD`. -/
def dlqTrimThreshold : ℕ := 100

/-- What `json.loads` makes of the payload of an entry, `{}` where it has none. -/
inductive DlqPayload where
  | parsed (v : Value)
  /-- It raises `JSONDecodeError` or `TypeError`. -/
  | invalid
  /-- It raises another exception. -/
  | raises (e : PyError)
  deriving DecidableEq

/-- The payload that `_send_to_dlq` writes. -/
def DlqEntry.payload (e : DlqEntry) (timestamp : ℚ) : Dict :=
  [("source_stream", .str e.source.1), ("source_message_id", .str e.source.2),
    ("raw_log", e.rawLog), ("error_count", .int e.errorCount), ("timestamp", .float timestamp)]

/-- What `_send_alert` posts. -/
structure DlqAlert (κ : Type) where
  type : String := "redis_dlq.event_dead_lettered"
  dlqMessageId : κ
  sourceStream : Value
  sourceMessageId : Value
  errorCount : Value
  timestamp : Value

section Messages

variable {κ : Type} (alertUrl : String)

/-- The alert for a payload. -/
def dlqAlert (messageId : κ) (payload : Dict) : DlqAlert κ where
  dlqMessageId := messageId
  sourceStream := payload.getD "source_stream" (.str "unknown")
  sourceMessageId := payload.getD "source_message_id" (.str "unknown")
  errorCount := payload.getD "error_count" (.int 0)
  timestamp := payload.getD "timestamp" (.int 0)

/-- `_handle_message`: the alerts that it posts.  Whether a post succeeds makes no difference. -/
def handleMessage (messageId : κ) : DlqPayload → Except PyError (List (DlqAlert κ))
  | .raises e => .error e
  | .invalid => .ok []
  | .parsed (.dict payload) => .ok (if alertUrl = "" then [] else [dlqAlert messageId payload])
  | .parsed _ => .error .attributeError

/-- The state of a `RedisDLQConsumer`, and what it has done since it was started. -/
structure DlqConsumer (κ : Type) where
  /-- `_last_id`, which starts below every id. -/
  lastId : WithBot κ := ⊥
  totalProcessed : ℕ := 0
  /-- The messages that `_handle_message` has returned for. -/
  handled : List (κ × DlqPayload) := []
  alerts : List (DlqAlert κ) := []

/-- The consumer after a message that was handled. -/
def DlqConsumer.handle (c : DlqConsumer κ) (message : κ × DlqPayload)
    (alerts : List (DlqAlert κ)) : DlqConsumer κ where
  lastId := message.1
  totalProcessed := c.totalProcessed + 1
  handled := c.handled ++ [message]
  alerts := c.alerts ++ alerts

/-- The loop of `_poll_once` over the messages, and the number of `processed_ids`. -/
def handleMessages :
    List (κ × DlqPayload) → DlqConsumer κ → DlqConsumer κ × Except PyError ℕ
  | [], c => (c, .ok 0)
  | message :: messages, c =>
    match handleMessage alertUrl message.1 message.2 with
    | .error e => (c, .error e)
    | .ok alerts =>
      let (c', processed) := handleMessages messages (c.handle message alerts)
      (c', processed.map (· + 1))

end Messages

/-! ### Runs -/

/-- The stream `tripwire:dlq` and its consumer. -/
structure DlqSystem (κ : Type) [LinearOrder κ] where
  stream : OrderedLog κ DlqPayload := {}
  consumer : DlqConsumer κ := {}

/-- One step of a run. -/
inductive DlqAction (κ : Type) where
  /-- `_send_to_dlq`, whose `XADD` may trim. -/
  | sendToDlq (id : κ) (entry : DlqEntry) (timestamp : ℚ) (trim : ℕ)
  /-- Another client of Redis writes to the stream. -/
  | write (id : κ) (payload : DlqPayload)
  /-- Another client trims it. -/
  | xtrim (n : ℕ)
  /-- A poll, where `XREAD` is answered or raises. -/
  | poll (answered : Bool) (trim : ℕ)
  /-- The process of the consumer ends, and another starts. -/
  | restart

namespace DlqSystem

variable {κ : Type} [LinearOrder κ] (alertUrl : String)

/-- `_poll_once`. -/
def pollOnce (s : DlqSystem κ) (trim : ℕ) : DlqSystem κ :=
  let messages := (s.stream.after s.consumer.lastId).take dlqBatchSize
  let (consumer, processed) := handleMessages alertUrl messages s.consumer
  match processed with
  | .ok n =>
    -- an `XTRIM` that fails trims nothing
    if dlqTrimThreshold ≤ n then { stream := s.stream.limit 10000 trim, consumer }
    else { s with consumer }
  | .error _ => { s with consumer }

/-- The system after a step. -/
def step (s : DlqSystem κ) : DlqAction κ → DlqSystem κ
  | .sendToDlq id entry timestamp trim =>
    { s with
      stream := (s.stream.add id (.parsed (.dict (entry.payload timestamp)))).limit
        maxStreamLen trim }
  | .write id payload => { s with stream := s.stream.add id payload }
  | .xtrim n => { s with stream := s.stream.trim n }
  | .poll answered trim => if answered then s.pollOnce alertUrl trim else s
  | .restart => { s with consumer := {} }

end DlqSystem

/-! ### The consumer as a reader -/

section Reader

variable {κ : Type} (alertUrl : String)

/-- `_handle_message` returns. -/
def DlqPayload.readable : DlqPayload → Bool
  | .parsed (.dict _) => true
  | .invalid => true
  | _ => false

/-- The alerts of a message that is handled. -/
def alertsOf (message : κ × DlqPayload) : List (DlqAlert κ) :=
  match message.2 with
  | .parsed (.dict payload) => if alertUrl = "" then [] else [dlqAlert message.1 payload]
  | _ => []

theorem handleMessage_of_readable {message : κ × DlqPayload}
    (h : message.2.readable = true) :
    handleMessage alertUrl message.1 message.2 = .ok (alertsOf alertUrl message) := by
  obtain ⟨id, payload⟩ := message
  cases payload with
  | invalid => rfl
  | raises e => cases h
  | parsed v => cases v <;> first | rfl | cases h

theorem handleMessage_of_not_readable {message : κ × DlqPayload}
    (h : message.2.readable = false) :
    ∃ e, handleMessage alertUrl message.1 message.2 = .error e := by
  obtain ⟨id, payload⟩ := message
  cases payload with
  | invalid => cases h
  | raises e => exact ⟨e, rfl⟩
  | parsed v => cases v <;> first | exact ⟨_, rfl⟩ | cases h

/-- **The loop** handles the messages up to the first that is not readable. -/
theorem handleMessages_eq (messages : List (κ × DlqPayload)) (c : DlqConsumer κ) :
    let taken := messages.takeWhile fun m => m.2.readable
    (handleMessages alertUrl messages c).1 =
      { lastId := LogReader.advance c.lastId taken
        totalProcessed := c.totalProcessed + taken.length
        handled := c.handled ++ taken
        alerts := c.alerts ++ taken.flatMap (alertsOf alertUrl) } := by
  induction messages generalizing c with
  | nil => simp [handleMessages, LogReader.advance]
  | cons message messages ih =>
    cases hreadable : message.2.readable with
    | false =>
      obtain ⟨e, he⟩ := handleMessage_of_not_readable alertUrl hreadable
      simp [handleMessages, he, hreadable, LogReader.advance]
    | true =>
      have hhandled := handleMessage_of_readable alertUrl hreadable
      simp only [handleMessages, hhandled, List.takeWhile_cons, hreadable, if_true]
      rw [ih]
      simp [DlqConsumer.handle, LogReader.advance, Nat.add_assoc, Nat.add_comm 1]

theorem processed_eq {messages : List (κ × DlqPayload)} {c : DlqConsumer κ} {n : ℕ}
    (h : (handleMessages alertUrl messages c).2 = .ok n) : n = messages.length := by
  induction messages generalizing c n with
  | nil => exact (Except.ok.inj h).symm
  | cons message messages ih =>
    rw [handleMessages] at h
    split at h
    case h_1 => cases h
    case h_2 alerts _ =>
      dsimp only at h
      cases hrest : (handleMessages alertUrl messages (c.handle message alerts)).2 with
      | error e =>
        rw [hrest] at h
        cases h
      | ok m =>
        rw [hrest] at h
        rw [List.length_cons, ← ih hrest]
        exact (Except.ok.inj h).symm

variable [LinearOrder κ]

/-- The consumer, as a reader of the stream. -/
def DlqSystem.reader (s : DlqSystem κ) : LogReader κ DlqPayload where
  log := s.stream
  position := s.consumer.lastId
  handled := s.consumer.handled

/-- What a step is to the reader. -/
def DlqAction.toReader : DlqAction κ → LogReader.Action κ DlqPayload
  | .sendToDlq id entry timestamp trim =>
    .add id (.parsed (.dict (entry.payload timestamp))) maxStreamLen trim
  | .write id payload => .add id payload 0 0
  | .xtrim n => .trim n
  | .poll answered _ => if answered then .read else .idle
  | .restart => .restart

theorem consumer_pollOnce (s : DlqSystem κ) (trim : ℕ) :
    (s.pollOnce alertUrl trim).consumer =
      (handleMessages alertUrl ((s.stream.after s.consumer.lastId).take dlqBatchSize)
        s.consumer).1 := by
  unfold DlqSystem.pollOnce
  dsimp only
  split
  · split <;> rfl
  · rfl

/-- **A poll does not trim**: it sees fifty entries at most. -/
theorem stream_pollOnce (s : DlqSystem κ) (trim : ℕ) :
    (s.pollOnce alertUrl trim).stream = s.stream := by
  unfold DlqSystem.pollOnce
  dsimp only
  split
  case h_2 => rfl
  case h_1 n hn =>
    have hbatch : n ≤ 50 := processed_eq alertUrl hn ▸ List.length_take_le _ _
    have hthreshold : ¬ 100 ≤ n := by omega
    exact if_neg hthreshold ▸ rfl

/-- **The consumer is a reader.** -/
theorem reader_step (s : DlqSystem κ) (a : DlqAction κ) :
    (s.step alertUrl a).reader =
      s.reader.step DlqPayload.readable dlqBatchSize a.toReader := by
  cases a with
  | sendToDlq id entry timestamp trim => rfl
  | write id payload => rfl
  | xtrim n => rfl
  | restart => rfl
  | poll answered trim =>
    cases answered with
    | false => rfl
    | true =>
      show (s.pollOnce alertUrl trim).reader = s.reader.readBatch _ _
      rw [DlqSystem.reader, consumer_pollOnce, stream_pollOnce, handleMessages_eq]
      rfl

/-- The reader over a run. -/
theorem reader_run (s : DlqSystem κ) (actions : List (DlqAction κ)) :
    (run (DlqSystem.step alertUrl) s actions).reader =
      run (LogReader.step DlqPayload.readable dlqBatchSize) s.reader
        (actions.map DlqAction.toReader) := by
  have hsteps : (run (DlqSystem.step alertUrl) s actions).reader =
      run (fun r a => LogReader.step DlqPayload.readable dlqBatchSize r a.toReader) s.reader
        actions :=
    run_map (reader_step alertUrl) s actions
  rw [hsteps, run, run, List.foldl_map]

/-- The invariant of the consumer: the reader's, and its alerts are those of what it handled. -/
structure DlqSystem.Invariant (s : DlqSystem κ) : Prop where
  reader : s.reader.Invariant DlqPayload.readable
  alerts : s.consumer.alerts = s.consumer.handled.flatMap (alertsOf alertUrl)
  totalProcessed : s.consumer.totalProcessed = s.consumer.handled.length

theorem DlqSystem.Invariant.step {s : DlqSystem κ} (h : s.Invariant alertUrl) (a : DlqAction κ) :
    (s.step alertUrl a).Invariant alertUrl := by
  have hreader : (s.step alertUrl a).reader.Invariant DlqPayload.readable := by
    rw [reader_step]
    exact h.reader.step dlqBatchSize _
  cases a with
  | sendToDlq id entry timestamp trim => exact ⟨hreader, h.alerts, h.totalProcessed⟩
  | write id payload => exact ⟨hreader, h.alerts, h.totalProcessed⟩
  | xtrim n => exact ⟨hreader, h.alerts, h.totalProcessed⟩
  | restart => exact ⟨hreader, rfl, rfl⟩
  | poll answered trim =>
    cases answered with
    | false => exact h
    | true =>
      refine ⟨hreader, ?_, ?_⟩
      · show (s.pollOnce alertUrl trim).consumer.alerts =
          (s.pollOnce alertUrl trim).consumer.handled.flatMap _
        rw [consumer_pollOnce, handleMessages_eq, List.flatMap_append, ← h.alerts]
      · show (s.pollOnce alertUrl trim).consumer.totalProcessed =
          (s.pollOnce alertUrl trim).consumer.handled.length
        rw [consumer_pollOnce, handleMessages_eq, List.length_append, ← h.totalProcessed]

theorem dlqInvariant_run (actions : List (DlqAction κ)) :
    (run (DlqSystem.step alertUrl) ({} : DlqSystem κ) actions).Invariant alertUrl :=
  run_invariant (I := DlqSystem.Invariant alertUrl) (fun _ a h => h.step alertUrl a) actions
    ⟨LogReader.Invariant.init _, rfl, rfl⟩

end Reader

/-! ### Alerts -/

section Alerts

variable {κ : Type} (alertUrl : String)

theorem id_of_mem_alertsOf {message : κ × DlqPayload} {alert : DlqAlert κ}
    (h : alert ∈ alertsOf alertUrl message) : alert.dlqMessageId = message.1 := by
  unfold alertsOf at h
  split at h
  · split_ifs at h
    · cases h
    · rw [List.mem_singleton.mp h]
      rfl
  · cases h

/-- A message gets one alert at most. -/
theorem ids_alertsOf_sublist (messages : List (κ × DlqPayload)) :
    ((messages.flatMap (alertsOf alertUrl)).map DlqAlert.dlqMessageId).Sublist
      (messages.map Prod.fst) := by
  induction messages with
  | nil => exact List.Sublist.refl _
  | cons message messages ih =>
    rw [List.flatMap_cons, List.map_append, List.map_cons]
    have hone : ((alertsOf alertUrl message).map DlqAlert.dlqMessageId).Sublist [message.1] := by
      unfold alertsOf
      split
      · split_ifs
        · exact List.nil_sublist _
        · exact List.Sublist.refl _
      · exact List.nil_sublist _
    exact hone.append ih

variable [LinearOrder κ]

/-- **Alerts come in the order of the stream**, one for a message at most.  No message up to
`_last_id` is passed over, and the consumer does not get past one that is not readable. -/
theorem alerts_in_order (actions : List (DlqAction κ)) :
    let s := run (DlqSystem.step alertUrl) ({} : DlqSystem κ) actions
    (s.consumer.alerts.map DlqAlert.dlqMessageId).Pairwise (· < ·) ∧
      (∀ m ∈ s.stream.entries, (m.1 : WithBot κ) ≤ s.consumer.lastId →
        m ∈ s.consumer.handled ∧ ∀ alert ∈ alertsOf alertUrl m, alert ∈ s.consumer.alerts) ∧
      ∀ m ∈ s.stream.entries, m.2.readable = false →
        s.consumer.lastId < m.1 ∧ ∀ alert ∈ s.consumer.alerts, alert.dlqMessageId < m.1 := by
  intro s
  have h : s.Invariant alertUrl := dlqInvariant_run alertUrl actions
  refine ⟨?_, ?_, ?_⟩
  · rw [h.alerts]
    exact (List.pairwise_map.mpr h.reader.ascending).sublist (ids_alertsOf_sublist alertUrl _)
  · intro m hm hposition
    have hhandled := h.reader.handled_of_le m hm hposition
    refine ⟨hhandled, fun alert halert => ?_⟩
    rw [h.alerts]
    exact List.mem_flatMap.mpr ⟨m, hhandled, halert⟩
  · intro m hm hreadable
    have hposition := h.reader.position_lt hm hreadable
    refine ⟨hposition, fun alert halert => ?_⟩
    rw [h.alerts] at halert
    obtain ⟨m', hm', halert⟩ := List.mem_flatMap.mp halert
    rw [id_of_mem_alertsOf alertUrl halert]
    exact WithBot.coe_lt_coe.mp ((h.reader.le_position m' hm').trans_lt hposition)

/-- The action is a poll that `XREAD` answers. -/
def DlqAction.isPoll : DlqAction κ → Bool
  | .poll answered _ => answered
  | _ => false

/-- A new process starts. -/
def DlqAction.isRestart : DlqAction κ → Bool
  | .restart => true
  | _ => false

/-- Nobody else writes a payload that is not readable. -/
def DlqAction.writesReadable : DlqAction κ → Bool
  | .write _ payload => payload.readable
  | _ => true

omit [LinearOrder κ] in
theorem countP_isPoll (actions : List (DlqAction κ)) :
    actions.countP DlqAction.isPoll =
      (actions.map DlqAction.toReader).countP LogReader.Action.isRead := by
  rw [List.countP_map]
  refine List.countP_congr fun a _ => ?_
  cases a with
  | poll answered trim => cases answered <;> exact Iff.rfl
  | sendToDlq id entry timestamp trim => exact Iff.rfl
  | write id payload => exact Iff.rfl
  | xtrim n => exact Iff.rfl
  | restart => exact Iff.rfl

omit [LinearOrder κ] in
theorem isRestart_toReader {a : DlqAction κ} (h : a.isRestart = false) :
    a.toReader.isRestart = false := by
  cases a with
  | poll answered trim => cases answered <;> rfl
  | sendToDlq id entry timestamp trim => rfl
  | write id payload => rfl
  | xtrim n => rfl
  | restart => cases h

/-- What is in the stream is readable, as long as nobody else writes what is not. -/
theorem readable_step {s : DlqSystem κ} (h : ∀ m ∈ s.stream.entries, m.2.readable = true)
    {a : DlqAction κ} (ha : a.writesReadable = true) :
    ∀ m ∈ (s.step alertUrl a).stream.entries, m.2.readable = true := by
  cases a with
  | restart => exact h
  | xtrim n => exact fun m hm => h m (List.mem_of_mem_drop hm)
  | poll answered trim =>
    cases answered with
    | false => exact h
    | true =>
      show ∀ m ∈ (s.pollOnce alertUrl trim).stream.entries, _
      rw [stream_pollOnce]
      exact h
  | write id payload =>
    intro m hm
    rcases OrderedLog.mem_entries_add hm with hm | ⟨rfl, -⟩
    · exact h m hm
    · exact ha
  | sendToDlq id entry timestamp trim =>
    intro m hm
    rcases OrderedLog.mem_entries_add (List.mem_of_mem_drop hm) with hm | ⟨rfl, -⟩
    · exact h m hm
    · rfl

/-- **A message gets its alert.**  Let a message be in the stream after any history, with nothing
up to it that is not readable.  When the consumer has polled often enough since, without a restart,
and the message has not been trimmed, it was handled and its alerts were posted. -/
theorem handled_of_polls (history : List (DlqAction κ)) {actions : List (DlqAction κ)}
    (hactions : ∀ a ∈ actions, a.isRestart = false) {m : κ × DlqPayload} :
    let s := run (DlqSystem.step alertUrl) ({} : DlqSystem κ) history
    let s' := run (DlqSystem.step alertUrl) s actions
    m ∈ s.stream.entries → (∀ x ∈ s.stream.entries, x.1 ≤ m.1 → x.2.readable = true) →
    s.reader.unread m.1 ≤ dlqBatchSize * actions.countP DlqAction.isPoll →
    m ∈ s'.stream.entries →
      m ∈ s'.consumer.handled ∧ ∀ alert ∈ alertsOf alertUrl m, alert ∈ s'.consumer.alerts := by
  intro s s' hm hreadable hpolls hkept
  have h : s.Invariant alertUrl := dlqInvariant_run alertUrl history
  have h' : s'.Invariant alertUrl :=
    run_invariant (I := DlqSystem.Invariant alertUrl) (fun _ a h => h.step alertUrl a) actions h
  have hreader : s'.reader = run (LogReader.step DlqPayload.readable dlqBatchSize) s.reader
      (actions.map DlqAction.toReader) := reader_run alertUrl s actions
  have hrestart : ∀ a ∈ actions.map DlqAction.toReader, a.isRestart = false := by
    intro a ha
    obtain ⟨b, hb, rfl⟩ := List.mem_map.mp ha
    exact isRestart_toReader (hactions b hb)
  rw [countP_isPoll] at hpolls
  have hhandled : m ∈ s'.reader.handled := by
    rw [hreader]
    refine h.reader.handled_run (s.stream.le_last m hm) hreadable hrestart hpolls ?_
    rw [← hreader]
    exact hkept
  refine ⟨hhandled, fun alert halert => ?_⟩
  rw [h'.alerts]
  exact List.mem_flatMap.mpr ⟨m, hhandled, halert⟩

/-- **Every message that a worker dead-letters** gets exactly one alert, which names its stream and
id, however the polls interleave with writes and failures.  For this nobody else may write payloads
that are not readable, the process has to go on for some polls, and the message has to stay in the
stream for as long. -/
theorem dead_letter_alerted (hurl : alertUrl ≠ "") {history actions : List (DlqAction κ)}
    (hhistory : ∀ a ∈ history, a.writesReadable = true)
    (hactions : ∀ a ∈ actions, a.isRestart = false) {id : κ} {entry : DlqEntry} {timestamp : ℚ} :
    let m : κ × DlqPayload := (id, .parsed (.dict (entry.payload timestamp)))
    let s := run (DlqSystem.step alertUrl) ({} : DlqSystem κ) history
    let s' := run (DlqSystem.step alertUrl) s actions
    m ∈ s.stream.entries →
    s.reader.unread id ≤ dlqBatchSize * actions.countP DlqAction.isPoll →
    m ∈ s'.stream.entries →
      ∃ alert ∈ s'.consumer.alerts, alert.dlqMessageId = id ∧
        alert.sourceStream = .str entry.source.1 ∧ alert.sourceMessageId = .str entry.source.2 ∧
        alert.errorCount = .int entry.errorCount ∧
        ∀ other ∈ s'.consumer.alerts, other.dlqMessageId = id → other = alert := by
  intro m s s' hm hpolls hkept
  have hreadable : ∀ x ∈ s.stream.entries, x.2.readable = true :=
    run_induction (I := fun s : DlqSystem κ => ∀ x ∈ s.stream.entries, x.2.readable = true)
      (fun _ _ h ha => readable_step alertUrl h ha) (by simp) (meets_of_forall hhistory _)
  obtain ⟨-, hposted⟩ := handled_of_polls alertUrl history hactions hm
    (fun x hx _ => hreadable x hx) hpolls hkept
  have halert : dlqAlert id (entry.payload timestamp) ∈ s'.consumer.alerts := by
    refine hposted _ ?_
    show _ ∈ if alertUrl = "" then _ else _
    rw [if_neg hurl]
    exact List.mem_singleton_self _
  refine ⟨_, halert, rfl, rfl, rfl, rfl, fun other hother hid => ?_⟩
  have hids := (alerts_in_order alertUrl (history ++ actions)).1
  rw [run_append] at hids
  exact List.inj_on_of_nodup_map (hids.imp ne_of_lt) hother halert hid

/-- A message is handled, the process restarts, and another message follows. -/
def restartedConsumer : List (DlqAction ℕ) :=
  [.sendToDlq 1 ⟨("tripwire:events:a", "1-0"), .dict [], 5⟩ 0 0, .poll true 0, .restart,
    .write 2 .invalid, .sendToDlq 3 ⟨("tripwire:events:a", "2-0"), .dict [], 5⟩ 1 0]

/-- `XREAD` raises, and then it is answered. -/
def twoPolls : List (DlqAction ℕ) := [.poll false 0, .poll true 0]

theorem dead_letter_alerted_restarted :
    let s := run (DlqSystem.step "alerts")
      (run (DlqSystem.step "alerts") ({} : DlqSystem ℕ) restartedConsumer) twoPolls
    ∃ alert ∈ s.consumer.alerts, alert.dlqMessageId = 3 ∧
      alert.sourceStream = .str "tripwire:events:a" ∧ alert.sourceMessageId = .str "2-0" ∧
      alert.errorCount = .int 5 ∧
      ∀ other ∈ s.consumer.alerts, other.dlqMessageId = 3 → other = alert :=
  @dead_letter_alerted ℕ "alerts" _ (by decide) restartedConsumer twoPolls (by decide) (by decide)
    3 ⟨("tripwire:events:a", "2-0"), .dict [], 5⟩ 1 (by decide) (by decide) (by decide)

end Alerts

end TripWire
