import Mathlib
import TripWire.Api.Ingest
import TripWire.Ingestion.Readable

/-!
# What an accepted log is worth

A log is accepted when its request is answered with a success.  `Carried` is the invariant over the
requests and the steps of the workers: an accepted log was processed, with the result that the
answer reports, or its entry is in a stream under the id that the answer reports.
`accepted_delivered` follows with what `Ingestion/AtLeastOnce` says of entries: the entry of a
queued log is unread or waits, or some worker processed it or wrote it to the dead-letter stream.

Redis gives an id once in a stream (`FreshIds`).
-/

namespace TripWire

open Py Machine BusSystem

/-! ### The entries of a call -/

/-- The ids that Redis gives to the entries of a call are new. -/
def FreshIds (s : BusSystem) (call : PublishCall) : Prop :=
  let new := (s.publisher.step call).entries.drop s.publisher.entries.length
  (new.map fun e => (e.streamKey, e.messageId)).Nodup ∧
    ∀ e ∈ new, e.messageId ∉ (s.streams e.streamKey).added.map Prod.fst

instance (s : BusSystem) (call : PublishCall) : Decidable (FreshIds s call) := by
  unfold FreshIds
  infer_instance

/-- Entries with new ids are added. -/
theorem mem_addEntries {entries : List StreamEntry} {streams : String → EventStream}
    (hnodup : (entries.map fun e => (e.streamKey, e.messageId)).Nodup)
    (hfresh : ∀ e ∈ entries, e.messageId ∉ (streams e.streamKey).added.map Prod.fst) (trim : ℕ) :
    ∀ e ∈ entries, (e.messageId, some (.dict e.payload)) ∈
      (addEntries trim streams entries e.streamKey).added := by
  induction entries generalizing streams with
  | nil => exact fun _ he => absurd he List.not_mem_nil
  | cons first entries ih =>
    rw [List.map_cons, List.nodup_cons] at hnodup
    rw [List.forall_mem_cons] at hfresh ⊢
    constructor
    · refine mem_added_addEntries ?_ trim entries
      dsimp only
      rw [Function.update_self, GroupedStream.added_add hfresh.1]
      exact List.mem_append_right _ (List.mem_singleton_self _)
    · refine ih hnodup.2 fun e he => ?_
      dsimp only
      by_cases hkey : e.streamKey = first.streamKey
      · rw [hkey, Function.update_self, GroupedStream.mem_added_add, not_or]
        constructor
        · rw [← hkey]
          exact hfresh.2 e he
        · intro hid
          exact hnodup.1 (List.mem_map.mpr ⟨e, he, by rw [hkey, hid]⟩)
      · rw [Function.update_of_ne hkey]
        exact hfresh.2 e he

/-- A single call that is answered adds its log under the id of the answer. -/
theorem publishEvent_id {s : Publisher} {raw : Dict} {fate : XaddFate} {messageId : String}
    (h : (s.publishEvent raw fate).2 = .ok messageId) :
    ∃ key, (s.publishEvent raw fate).1.entries = s.entries ++ [⟨key, messageId, raw⟩] := by
  unfold Publisher.publishEvent at h ⊢
  cases hattempted : streamKeyFor raw with
  | error error =>
    rw [hattempted] at h
    cases h
  | ok attempted =>
    rw [hattempted] at h
    dsimp only at h ⊢
    cases fate with
    | answered answer =>
      obtain rfl := Except.ok.inj h
      exact ⟨_, rfl⟩
    | lost answer => cases h
    | failed => cases h

/-! ### The invariant -/

namespace IngestSystem

/-- What the answer says of a log is true. -/
def Holds (s : IngestSystem) (raw : Dict) : IngestItem → Prop
  | .queued streamId => ∃ key, (streamId, some (.dict raw)) ∈ (s.bus.streams key).added
  | .result r => ∃ outcome, (raw, outcome) ∈ s.processed ∧ boundedResult outcome = r

/-- The workers lose nothing, and what was answered is true. -/
structure Carried (s : IngestSystem) : Prop where
  accounted : s.bus.Accounted
  limited : s.bus.Limited
  truthful : s.bus.Truthful
  holds : ∀ log ∈ s.accepted, s.Holds log.1 log.2

/-- The steps that `accepted_delivered` is about: the ids are new, and no `process_event` of a
worker returns a result with status `error`. -/
def Regular (s : IngestSystem) : IngestAction → Prop
  | .goldsky _ body env => FreshIds s.bus (.batch body.rawLogs env.fates)
  | .event _ raw env => FreshIds s.bus (.event raw (env.fates 0))
  | .bus a => s.bus.NoErrorStep a

instance (s : IngestSystem) (a : IngestAction) : Decidable (s.Regular a) :=
  match a with
  | .goldsky _ body env =>
    inferInstanceAs (Decidable (FreshIds s.bus (.batch body.rawLogs env.fates)))
  | .event _ raw env => inferInstanceAs (Decidable (FreshIds s.bus (.event raw (env.fates 0))))
  | .bus a => inferInstanceAs (Decidable (s.bus.NoErrorStep a))

/-- What was true stays true. -/
theorem Holds.mono {s s' : IngestSystem} {raw : Dict} {item : IngestItem} (h : s.Holds raw item)
    (hprocessed : s.processed ⊆ s'.processed)
    (hadded : ∀ key, ∀ x ∈ (s.bus.streams key).added, x ∈ (s'.bus.streams key).added) :
    s'.Holds raw item := by
  cases item with
  | queued streamId =>
    obtain ⟨key, hmem⟩ := h
    exact ⟨key, hadded key _ hmem⟩
  | result r =>
    obtain ⟨outcome, hmem, hresult⟩ := h
    exact ⟨outcome, hprocessed hmem, hresult⟩

variable {s : IngestSystem}

/-- A step of the bus. -/
theorem Carried.bus (h : s.Carried) {a : BusAction} (ha : s.bus.NoErrorStep a) :
    Carried { s with bus := s.bus.step a } where
  accounted := h.accounted.step ha
  limited := h.limited.step a
  truthful := h.truthful.step a
  holds log hlog := (h.holds log hlog).mono (fun _ hx => hx) fun _ _ hx => mem_added_step hx a

/-- More processed logs. -/
theorem Carried.processed (h : s.Carried) (calls : List (Dict × Except PyError ProcessResult)) :
    Carried { s with processed := s.processed ++ calls } where
  accounted := h.accounted
  limited := h.limited
  truthful := h.truthful
  holds log hlog :=
    (h.holds log hlog).mono (fun _ hx => List.mem_append_left _ hx) fun _ _ hx => hx

/-- Logs are accepted with a true answer. -/
theorem Carried.accept {raws : List Dict}
    {r : IngestSystem × Except HttpException (List IngestItem)} (h : r.1.Carried)
    (hitems : ∀ items, r.2 = .ok items → ∀ log ∈ raws.zip items, r.1.Holds log.1 log.2) :
    (accept raws r).Carried := by
  unfold IngestSystem.accept
  split
  case h_2 => exact h
  case h_1 items hok =>
    refine ⟨h.accounted, h.limited, h.truthful, fun log hlog => ?_⟩
    have htrue : r.1.Holds log.1 log.2 := by
      rcases List.mem_append.mp hlog with hlog | hlog
      · exact h.holds log hlog
      · exact hitems items hok log hlog
    exact htrue.mono (fun _ hx => hx) fun _ _ hx => hx

/-- What `process_batch` returns for its logs, log by log. -/
theorem zip_processBatch (process : ℕ → Except PyError ProcessResult) (raws : List Dict) :
    raws.zip ((processBatch process raws).2.map IngestItem.result) =
      (processBatch process raws).1.map fun call =>
        (call.1, IngestItem.result (boundedResult call.2)) := by
  have hraws : raws = (processBatch process raws).1.map Prod.fst := by
    show raws = (raws.zipIdx.map fun log => (log.1, process log.2)).map Prod.fst
    rw [List.map_map]
    exact (List.zipIdx_map_fst 0 raws).symm
  have hresults : (processBatch process raws).2 =
      (processBatch process raws).1.map fun call => boundedResult call.2 := rfl
  calc raws.zip ((processBatch process raws).2.map IngestItem.result)
      = ((processBatch process raws).1.map Prod.fst).zip
          ((processBatch process raws).2.map IngestItem.result) := by rw [← hraws]
    _ = _ := by
        rw [hresults, List.map_map, List.zip_map']
        rfl

/-- The route processes its logs. -/
theorem carried_answerProcessed (h : s.Carried) (env : IngestEnv) (raws : List Dict) :
    (accept raws (s.answerProcessed env raws)).Carried := by
  refine (h.processed _).accept fun items hitems log hlog => ?_
  obtain rfl := Except.ok.inj hitems
  rw [zip_processBatch] at hlog
  obtain ⟨call, hcall, rfl⟩ := List.mem_map.mp hlog
  exact ⟨call.2, List.mem_append_right _ hcall, rfl⟩

theorem carried_answerEvent (h : s.Carried) (env : IngestEnv) (raw : Dict) :
    (accept [raw] ((s.answerEvent env raw).1, (s.answerEvent env raw).2.map ([·]))).Carried := by
  unfold answerEvent
  cases hprocess : env.process 0 with
  | error error => exact h.processed _
  | ok result =>
    refine (h.processed _).accept fun items hitems log hlog => ?_
    obtain rfl := Except.ok.inj hitems
    rw [List.zip_cons_cons, List.zip_nil_left, List.mem_singleton] at hlog
    subst hlog
    exact ⟨.ok result, List.mem_append_right _ (List.mem_singleton_self _), rfl⟩

/-- The route publishes a batch. -/
theorem carried_goldsky {settings : IngestSettings} (h : s.Carried) (authorization : String)
    (body : IngestBody) {env : IngestEnv}
    (hfresh : FreshIds s.bus (.batch body.rawLogs env.fates)) :
    (s.step settings (.goldsky authorization body env)).Carried := by
  show (accept body.rawLogs (s.ingestGoldskyBatch settings authorization body env)).Carried
  unfold ingestGoldskyBatch
  split
  · exact h
  dsimp only
  split
  · exact h
  split
  · exact h
  split
  case isFalse => exact carried_answerProcessed h env body.rawLogs
  have hbus : Carried
      { s with bus := s.bus.step (.publish (.batch body.rawLogs env.fates) env.trim) } :=
    h.bus trivial
  split
  case h_2 => exact carried_answerProcessed hbus env body.rawLogs
  case h_1 messageIds hids =>
    obtain ⟨added, hentries, hpayloads, hmessageIds⟩ := Publisher.publishBatch_ids hids
    refine hbus.accept fun items hitems log hlog => ?_
    obtain rfl := Except.ok.inj hitems
    rw [← hpayloads, ← hmessageIds, List.map_map, List.zip_map'] at hlog
    obtain ⟨e, he, rfl⟩ := List.mem_map.mp hlog
    have hnew : (s.bus.publisher.step (.batch body.rawLogs env.fates)).entries.drop
        s.bus.publisher.entries.length = added := by
      show ((s.bus.publisher.publishBatch body.rawLogs env.fates).1.entries).drop _ = _
      rw [hentries, List.drop_left]
    unfold FreshIds at hfresh
    dsimp only at hfresh
    rw [hnew] at hfresh
    refine ⟨e.streamKey, ?_⟩
    show _ ∈ (addEntries env.trim s.bus.streams ((s.bus.publisher.step
      (.batch body.rawLogs env.fates)).entries.drop s.bus.publisher.entries.length)
        e.streamKey).added
    rw [hnew]
    exact mem_addEntries hfresh.1 hfresh.2 env.trim e he

/-- The route publishes a log. -/
theorem carried_event {settings : IngestSettings} (h : s.Carried) (authorization : String)
    (raw : Dict) {env : IngestEnv} (hfresh : FreshIds s.bus (.event raw (env.fates 0))) :
    (s.step settings (.event authorization raw env)).Carried := by
  show (accept [raw] ((s.ingestSingleEvent settings authorization raw env).1,
    (s.ingestSingleEvent settings authorization raw env).2.map ([·]))).Carried
  unfold ingestSingleEvent
  split
  · exact h
  dsimp only
  split
  · exact h
  split
  case isFalse => exact carried_answerEvent h env raw
  have hbus : Carried { s with bus := s.bus.step (.publish (.event raw (env.fates 0)) env.trim) } :=
    h.bus trivial
  split
  case h_2 => exact carried_answerEvent hbus env raw
  case h_1 messageId hid =>
    split
    case isFalse => exact hbus
    obtain ⟨key, hentries⟩ := publishEvent_id hid
    refine hbus.accept fun items hitems log hlog => ?_
    obtain rfl := Except.ok.inj hitems
    rw [List.zip_cons_cons, List.zip_nil_left, List.mem_singleton] at hlog
    subst hlog
    have hnew : (s.bus.publisher.step (.event raw (env.fates 0))).entries.drop
        s.bus.publisher.entries.length = [⟨key, messageId, raw⟩] := by
      show ((s.bus.publisher.publishEvent raw (env.fates 0)).1.entries).drop _ = _
      rw [hentries, List.drop_left]
    unfold FreshIds at hfresh
    dsimp only at hfresh
    rw [hnew] at hfresh
    refine ⟨key, ?_⟩
    show _ ∈ (addEntries env.trim s.bus.streams ((s.bus.publisher.step
      (.event raw (env.fates 0))).entries.drop s.bus.publisher.entries.length) key).added
    rw [hnew]
    exact mem_addEntries hfresh.1 hfresh.2 env.trim _ (List.mem_singleton_self _)

/-- **The step lemma.** -/
theorem Carried.step (settings : IngestSettings) (h : s.Carried) {a : IngestAction}
    (ha : s.Regular a) : (s.step settings a).Carried := by
  cases a with
  | goldsky authorization body env => exact carried_goldsky h authorization body ha
  | event authorization raw env => exact carried_event h authorization raw ha
  | bus a => exact h.bus ha

theorem carried_start (publisher : Publisher) (workers : ℕ → PoolWorker)
    (hfresh : ∀ w, (workers w).worker = {}) :
    Carried { bus := { publisher, streams := fun _ => {}, workers } } where
  accounted := accounted_start publisher workers hfresh
  limited := limited_start publisher workers
  truthful := by
    intro w m hm
    rw [hfresh w] at hm
    exact absurd hm List.not_mem_nil
  holds _ hlog := absurd hlog List.not_mem_nil

end IngestSystem

open IngestSystem

/-! ### The theorem -/

/-- **An accepted log is delivered.**  In every run of requests, worker iterations, crashes, foreign
writes and lost groups in which Redis gives new ids and no `process_event` of a worker returns a
result with status `error`: where a request was answered with a result for a log, the log was
processed with this result; where it was answered with an id, the log is in a stream under this id,
and while the entry is among the 100,000 newest ones it is unread, or waits for its acknowledgement,
or some worker processed it or wrote it to the dead-letter stream. -/
theorem accepted_delivered (settings : IngestSettings) (publisher : Publisher)
    (workers : ℕ → PoolWorker) (hfresh : ∀ w, (workers w).worker = {}) {actions : List IngestAction}
    (hactions : Meets (IngestSystem.step settings) Regular
      { bus := { publisher, streams := fun _ => {}, workers } } actions) :
    let s := run (IngestSystem.step settings)
      { bus := { publisher, streams := fun _ => {}, workers } } actions
    ∀ log ∈ s.accepted,
      (∀ r, log.2 = .result r → ∃ outcome, (log.1, outcome) ∈ s.processed ∧
        boundedResult outcome = r) ∧
      (∀ id, log.2 = .queued id → ∃ key, (id, some (.dict log.1)) ∈ (s.bus.streams key).added ∧
        (id ∈ ((s.bus.streams key).added.drop
            ((s.bus.streams key).added.length - maxStreamLen)).map Prod.fst →
          (s.bus.streams key).Unread id ∨ (s.bus.streams key).Waiting id ∨
            ∃ w, (∃ r ∈ (s.bus.workers w).worker.results, r.1 = (key, id) ∧ r.2 ≠ .error) ∨
              ∃ e ∈ (s.bus.workers w).worker.bus.dlq, e.source = (key, id))) := by
  intro s log hlog
  have hs : s.Carried :=
    run_induction (fun _ _ h ha => h.step settings ha) (carried_start publisher workers hfresh)
      hactions
  have hholds := hs.holds log hlog
  constructor
  · intro r hr
    rw [hr] at hholds
    exact hholds
  · intro id hid
    rw [hid] at hholds
    obtain ⟨key, hadded⟩ := hholds
    refine ⟨key, hadded, fun hnewest => ?_⟩
    have hkept := GroupedStream.kept_of_newest (hs.limited key) le_rfl hnewest
    rcases hs.accounted.settled key id hkept with (hunread | hwaiting) | ⟨w, hw⟩
    · exact .inl hunread
    · exact .inr (.inl hwaiting)
    · exact .inr (.inr ⟨w, hw.resolve_left (hs.truthful.readable hadded w)⟩)

namespace Sample

/-- A batch whose second log cannot be routed is processed at once, a single log is queued and then
processed by a worker. -/
def ingestRun : List IngestAction :=
  let env (n : ℕ) : IngestEnv :=
    { fates := fun i => .answered (toString (n + i) ++ "-0")
      process := fun _ => .ok { status := .processed } }
  [.goldsky "Bearer key" (.many [[("block_number", .int 1)], [("topics", .list [.int 5])]]) (env 1),
    .event "Bearer key" [("block_number", .int 2)] (env 3), .event "Bearer guess" [] (env 4),
    .bus (.assign 0 (streamPrefix ++ "unknown")), .bus (.iterate 0 (allEnd (.returned .processed)))]

/-- A deployment with an event bus. -/
def ingestSettings : IngestSettings where
  goldskyWebhookSecret := "key"
  appEnv := "production"
  eventBusEnabled := true
  hasWorkerPool := true

end Sample

theorem accepted_delivered_run :
    let s := run (IngestSystem.step Sample.ingestSettings) {} Sample.ingestRun
    ∀ log ∈ s.accepted,
      (∀ r, log.2 = .result r → ∃ outcome, (log.1, outcome) ∈ s.processed ∧
        boundedResult outcome = r) ∧
      (∀ id, log.2 = .queued id → ∃ key, (id, some (.dict log.1)) ∈ (s.bus.streams key).added ∧
        (id ∈ ((s.bus.streams key).added.drop
            ((s.bus.streams key).added.length - maxStreamLen)).map Prod.fst →
          (s.bus.streams key).Unread id ∨ (s.bus.streams key).Waiting id ∨
            ∃ w, (∃ r ∈ (s.bus.workers w).worker.results, r.1 = (key, id) ∧ r.2 ≠ .error) ∨
              ∃ e ∈ (s.bus.workers w).worker.bus.dlq, e.source = (key, id))) :=
  @accepted_delivered Sample.ingestSettings { known := [] } (fun _ => {}) (fun _ => rfl)
    Sample.ingestRun (by decide +kernel)

end TripWire
