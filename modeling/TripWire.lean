import TripWire.Api.Agreement
import TripWire.Api.Endpoints
import TripWire.Api.Facilitator
import TripWire.Api.Ingest
import TripWire.Api.IngestDelivery
import TripWire.Api.Lookup
import TripWire.Api.Pagination
import TripWire.Api.Provider
import TripWire.Api.Quota
import TripWire.Api.Subscriptions
import TripWire.Auth.Siwe
import TripWire.Auth.SiweMessage
import TripWire.Cache.Coherence
import TripWire.Cache.RedisCache
import TripWire.Db.InstallCount
import TripWire.Db.Migrations
import TripWire.Db.NonceArchive
import TripWire.Db.NonceClaims
import TripWire.Db.NonceReclaims
import TripWire.Db.NonceStore
import TripWire.Db.Repositories
import TripWire.Db.World
import TripWire.Ingestion.AtLeastOnce
import TripWire.Ingestion.Attribution
import TripWire.Ingestion.BusSystem
import TripWire.Ingestion.Decoders.AbiGeneric
import TripWire.Ingestion.Decoders.AbiLogs
import TripWire.Ingestion.Decoders.Erc3009
import TripWire.Ingestion.Decoders.RawTransfer
import TripWire.Ingestion.Decoders.TopicText
import TripWire.Ingestion.Detection
import TripWire.Ingestion.DlqConsumer
import TripWire.Ingestion.Drain
import TripWire.Ingestion.Effects
import TripWire.Ingestion.EndpointIsolation
import TripWire.Ingestion.EventBus
import TripWire.Ingestion.FilterEngine
import TripWire.Ingestion.FilterLaws
import TripWire.Ingestion.FilterOperators
import TripWire.Ingestion.FilterRules
import TripWire.Ingestion.FinalityPoller
import TripWire.Ingestion.Freshness
import TripWire.Ingestion.Handlers.Payment
import TripWire.Ingestion.Handlers.Trigger
import TripWire.Ingestion.Pairing
import TripWire.Ingestion.PaymentPaths
import TripWire.Ingestion.Pipeline
import TripWire.Ingestion.Processor
import TripWire.Ingestion.Readable
import TripWire.Ingestion.Recording
import TripWire.Ingestion.Retry
import TripWire.Ingestion.Stages
import TripWire.Ingestion.StreamRouting
import TripWire.Ingestion.Streams
import TripWire.Ingestion.TopicFormats
import TripWire.Ingestion.TopicLookup
import TripWire.Ingestion.TriggerRegistry
import TripWire.Ingestion.TriggerWorker
import TripWire.Ingestion.TtlSweeper
import TripWire.Ingestion.WorkerPool
import TripWire.Keeper.Correlation
import TripWire.Keeper.Election
import TripWire.Keeper.Lifecycle
import TripWire.Keeper.Nonces
import TripWire.Keeper.Ordering
import TripWire.Keeper.Outputs
import TripWire.Keeper.Policy
import TripWire.Keeper.PollCycle
import TripWire.Keeper.Polling
import TripWire.Keeper.Provenance
import TripWire.Keeper.Safety
import TripWire.Keeper.Sweep
import TripWire.Keeper.System
import TripWire.Keeper.Tables
import TripWire.Lib.AbiWords
import TripWire.Lib.AdvisoryLock
import TripWire.Lib.Backoff
import TripWire.Lib.Bins
import TripWire.Lib.CheckThenAct
import TripWire.Lib.ConsumerGroup
import TripWire.Lib.KeyedTable
import TripWire.Lib.Keyset
import TripWire.Lib.LogReader
import TripWire.Lib.Machine
import TripWire.Lib.Noninterference
import TripWire.Lib.Search
import TripWire.Lib.Separator
import TripWire.Lib.Sequential
import TripWire.Lib.TablePart
import TripWire.Mcp.Auth
import TripWire.Mcp.Authority
import TripWire.Mcp.Compensation
import TripWire.Mcp.QuotaBound
import TripWire.Mcp.RateLimit
import TripWire.Mcp.Registering
import TripWire.Mcp.Replay
import TripWire.Mcp.Server
import TripWire.Mcp.SessionTier
import TripWire.Mcp.Tenancy
import TripWire.Mcp.Tenants
import TripWire.Mcp.Tools
import TripWire.Mcp.TriggerTools
import TripWire.Mcp.TriggerTurns
import TripWire.Mcp.TriggerValidation
import TripWire.Notify.Subscriptions
import TripWire.Policies.Engine
import TripWire.Pulse.Consumption
import TripWire.Pulse.Deferral
import TripWire.Pulse.Effects
import TripWire.Pulse.Gating
import TripWire.Pulse.Isolation
import TripWire.Pulse.System
import TripWire.Pulse.Transitions
import TripWire.Py.Basic
import TripWire.Py.Decimal
import TripWire.Py.DecimalText
import TripWire.Py.Hex
import TripWire.Py.Lower
import TripWire.Py.Value
import TripWire.Session.Calls
import TripWire.Session.Manager
import TripWire.Types.Models
import TripWire.Webhook.CircuitBreaker
import TripWire.Webhook.Dispatcher
import TripWire.Webhook.DlqHandler
import TripWire.Webhook.IdempotencyKey
import TripWire.Webhook.Verify
