import Mathlib
import TripWire.Api.Endpoints
import TripWire.Ingestion.AtLeastOnce
import TripWire.Webhook.Verify

/-!
# What the ingest routes accept

The routes that Goldsky posts logs to (`tripwire/api/routes/ingest.py`), over the publishers,
streams and workers of `Ingestion/BusSystem`.  A request that is authorized publishes its logs, or
has them processed at once: where there is no worker pool, and where publishing raises, although
some of its commands may have taken effect.

`accepted` lists the logs of the requests that were answered with a success, each with its part of
the answer.  `Carried` says what such an answer is worth: the log was processed, or it is in a
stream, where `Ingestion/AtLeastOnce` keeps it.  Since its entry is readable (`Truthful`), no worker
can have put it aside as undecodable.
-/

namespace TripWire

open Py Machine

/-! ### Requests and answers -/

/-- The settings that the routes read, and whether the application has a worker pool. -/
structure IngestSettings where
  goldskyWebhookSecret : String := ""
  appEnv : String := "development"
  eventBusEnabled : Bool := false
  hasWorkerPool : Bool := false

/-- The routes publish. -/
def IngestSettings.publishes (settings : IngestSettings) : Bool :=
  settings.eventBusEnabled && settings.hasWorkerPool

/-- The body of a batch: an array of logs, or one. -/
inductive IngestBody where
  | one (raw : Dict)
  | many (raws : List Dict)

/-- `raw_logs`. -/
def IngestBody.rawLogs : IngestBody → List Dict
  | .one raw => [raw]
  | .many raws => raws

/-- What the outside does during a request. -/
structure IngestEnv where
  /-- The limiter refuses the request. -/
  limited : Bool := false
  /-- The fate of each `XADD`, and how many old entries go. -/
  fates : ℕ → XaddFate
  trim : ℕ := 0
  /-- How each call of `process_event` ends. -/
  process : ℕ → Except PyError ProcessResult

/-- The part of an answer that concerns one log. -/
inductive IngestItem where
  | queued (streamId : String)
  | result (r : ProcessResult)
  deriving DecidableEq

/-- The publishers, streams and workers, the calls of `process_event` that the routes have made with
what came of them, and the logs that were accepted. -/
structure IngestSystem where
  bus : BusSystem := {}
  processed : List (Dict × Except PyError ProcessResult) := []
  accepted : List (Dict × IngestItem) := []

/-! ### The routes -/

/-- `_verify_goldsky_request`. -/
def verifyGoldskyRequest (settings : IngestSettings) (authorization : String) :
    Except HttpException Unit :=
  if settings.goldskyWebhookSecret = "" then
    if settings.appEnv ≠ "development" then
      .error ⟨500, "GOLDSKY_WEBHOOK_SECRET must be set in production"⟩
    else .ok ()
  else
    match compareDigest authorization ("Bearer " ++ settings.goldskyWebhookSecret) with
    -- a header outside ASCII
    | .error _ => .error internalError
    | .ok true => .ok ()
    | .ok false => .error ⟨401, "Invalid or missing Authorization"⟩

/-- What `process_batch` returns for a log: an exception of `process_event` becomes an error
result. -/
def boundedResult : Except PyError ProcessResult → ProcessResult
  | .ok result => result
  | .error _ => { status := .error, reason := some "unexpected_failure" }

/-- `process_batch`. -/
def processBatch (process : ℕ → Except PyError ProcessResult) (raws : List Dict) :
    List (Dict × Except PyError ProcessResult) × List ProcessResult :=
  let calls := raws.zipIdx.map fun log => (log.1, process log.2)
  (calls, calls.map fun call => boundedResult call.2)

namespace IngestSystem

/-- The answer of a route that has its logs processed. -/
def answerProcessed (s : IngestSystem) (env : IngestEnv) (raws : List Dict) :
    IngestSystem × Except HttpException (List IngestItem) :=
  let batch := processBatch env.process raws
  ({ s with processed := s.processed ++ batch.1 }, .ok (batch.2.map .result))

/-- `ingest_goldsky_batch`. -/
def ingestGoldskyBatch (settings : IngestSettings) (s : IngestSystem) (authorization : String)
    (body : IngestBody) (env : IngestEnv) :
    IngestSystem × Except HttpException (List IngestItem) :=
  match verifyGoldskyRequest settings authorization with
  | .error error => (s, .error error)
  | .ok () =>
    if env.limited then (s, .error ⟨429, "Rate limit exceeded: 100 per 1 minute"⟩)
    else
      let raws := body.rawLogs
      if 1000 < raws.length then (s, .error ⟨400, "Batch too large (max 1000)"⟩)
      else if settings.publishes then
        let s' := { s with bus := s.bus.step (.publish (.batch raws env.fates) env.trim) }
        match (s.bus.publisher.publishBatch raws env.fates).2 with
        | .ok messageIds => (s', .ok (messageIds.map .queued))
        -- some of the commands may have taken effect
        | .error _ => s'.answerProcessed env raws
      else s.answerProcessed env raws

/-- `body.get("transaction_hash")` as the field `tx_hash` of the response. -/
def isTextOrNone : Option Value → Bool
  | none | some .none | some (.str _) => true
  | _ => false

/-- A log processed by the route of single events: an exception is an internal error. -/
def answerEvent (s : IngestSystem) (env : IngestEnv) (raw : Dict) :
    IngestSystem × Except HttpException IngestItem :=
  let s' := { s with processed := s.processed ++ [(raw, env.process 0)] }
  match env.process 0 with
  | .ok result => (s', .ok (.result result))
  | .error _ => (s', .error internalError)

/-- `ingest_single_event`. -/
def ingestSingleEvent (settings : IngestSettings) (s : IngestSystem) (authorization : String)
    (raw : Dict) (env : IngestEnv) : IngestSystem × Except HttpException IngestItem :=
  match verifyGoldskyRequest settings authorization with
  | .error error => (s, .error error)
  | .ok () =>
    if env.limited then (s, .error ⟨429, "Rate limit exceeded: 100 per 1 minute"⟩)
    else if settings.publishes then
      let s' := { s with bus := s.bus.step (.publish (.event raw (env.fates 0)) env.trim) }
      match (s.bus.publisher.publishEvent raw (env.fates 0)).2 with
      | .ok messageId =>
        -- the log is in its stream although the response cannot be built
        if isTextOrNone (raw.get? "transaction_hash") then (s', .ok (.queued messageId))
        else (s', .error internalError)
      | .error _ => s'.answerEvent env raw
    else s.answerEvent env raw

/-- The state with the logs of a request that was answered with a success. -/
def accept (raws : List Dict) (r : IngestSystem × Except HttpException (List IngestItem)) :
    IngestSystem :=
  match r.2 with
  | .ok items => { r.1 with accepted := r.1.accepted ++ raws.zip items }
  | .error _ => r.1

end IngestSystem

/-- A request, or a step of the rest. -/
inductive IngestAction where
  | goldsky (authorization : String) (body : IngestBody) (env : IngestEnv)
  | event (authorization : String) (raw : Dict) (env : IngestEnv)
  | bus (a : BusAction)

namespace IngestSystem

/-- The state after a step. -/
def step (settings : IngestSettings) (s : IngestSystem) : IngestAction → IngestSystem
  | .goldsky authorization body env =>
    accept body.rawLogs (s.ingestGoldskyBatch settings authorization body env)
  | .event authorization raw env =>
    let r := s.ingestSingleEvent settings authorization raw env
    accept [raw] (r.1, r.2.map ([·]))
  | .bus a => { s with bus := s.bus.step a }

end IngestSystem

end TripWire
