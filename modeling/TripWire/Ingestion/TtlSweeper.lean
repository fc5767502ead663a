import TripWire.Ingestion.FinalityPoller

/-!
# The sweeper of stale pre-confirmed events

A sweep (`tripwire/ingestion/ttl_sweeper.py`) reads up to a hundred `pre_confirmed` rows older than
the TTL and then, row by row, writes `payment.failed` and sends the webhook.  The write addresses
the row by id alone, whatever its status has become since it was read.

The read runs through `asyncpg` or through the Supabase client (`SweepRoute`).  A driver that
refuses the cutoff, which the code passes to `asyncpg` as text, is a query that raises.  Through
`asyncpg` the row carries `created_at` as a `datetime`, on which `_iso_to_timestamp` raises a
`TypeError` that it does not catch: the row is written and no webhook follows.
-/

namespace TripWire

open Py

/-- How the sweeper reaches the database. -/
inductive SweepRoute where
  | asyncpg
  | supabase
  deriving DecidableEq, Repr

/-- The stale rows a sweep reads; `now` and `ttl` are in seconds.  The `asyncpg` query is ordered by
age, the Supabase query is not. -/
def fetchStalePreconfirmed (route : SweepRoute) (w : World) (now ttl : ℤ) : List EventRow :=
  let stale := w.events.rows.filter fun r => r.status = .preConfirmed && r.createdAt < now - ttl
  match route with
  | .asyncpg => (stale.insertionSort fun r s => r.createdAt ≤ s.createdAt).take 100
  | .supabase => stale.take 100

/-- The transfer of a swept row: read as the poller reads it. -/
def failureDispatch (row : EventRow) : Option Dispatch :=
  (reconstructTransfer row).map fun t =>
    { event := row.id, transfer := t, type := .paymentFailed }

/-- The endpoints of a failure webhook: linked and readable, active or not.  There is no legacy
fallback here: a join table that cannot be read is an empty one. -/
def sweptEndpoints (env : Env) (w : World) (row : EventRow) : List Endpoint :=
  if env.raises (.getEndpointIds row.id) then []
  else fetchEndpoints env w row.id (w.getEndpointIds row.id)

/-- The first statement of `_expire_event`. -/
def expireWrite (env : Env) (w : World) (row : EventRow) : World :=
  if env.raises (.updateStatus row.id) then w
  -- The row may have been promoted since it was read; the statement does not ask.
  else w.updateStatus env.now row.id .paymentFailed

/-- `_dispatch_failure_webhook`. -/
def dispatchFailureWebhook (env : Env) (w : World) (row : EventRow) : World :=
  match failureDispatch row with
  | none => w
  | some d => { w with outbox := w.outbox ++ dispatchEvent env d (sweptEndpoints env w row) }

/-- Whether `_expire_event` gets past its write. -/
def expiryDispatches (env : Env) (route : SweepRoute) (row : EventRow) : Bool :=
  !env.raises (.updateStatus row.id) && route = .supabase

/-- `_expire_event`. -/
def expireEvent (env : Env) (route : SweepRoute) (w : World) (row : EventRow) : World :=
  let w₁ := expireWrite env w row
  if expiryDispatches env route row then dispatchFailureWebhook env w₁ row else w₁

/-- The rows a sweep works through: none when the query raises. -/
def sweptRows (env : Env) (route : SweepRoute) (ttl : ℤ) (w : World) : List EventRow :=
  if env.raises .fetchStale then [] else fetchStalePreconfirmed route w env.now ttl

/-- `_sweep_once`. -/
def sweepOnce (env : Env) (route : SweepRoute) (ttl : ℤ) (w : World) : World :=
  (sweptRows env route ttl w).foldl (expireEvent env route) w

end TripWire
