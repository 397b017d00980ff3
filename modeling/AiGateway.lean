import AiGateway.Base.Text
import AiGateway.Base.Json
import AiGateway.Base.Relational
import AiGateway.Base.Table
import AiGateway.Base.Bounded
import AiGateway.Domain.Protocol
import AiGateway.Domain.Catalog
import AiGateway.Domain.Config
import AiGateway.Domain.Routing
import AiGateway.Infra.Health
import AiGateway.Infra.Breaker
import AiGateway.Proxy.Usage
import AiGateway.Proxy.Stream
import AiGateway.Proxy.Native
import AiGateway.Proxy.NativeStep
import AiGateway.Proxy.Policy
import AiGateway.Proxy.StreamHealth
import AiGateway.Proxy.Fallback
import AiGateway.Proxy.Service
import AiGateway.Proxy.Attribution
import AiGateway.Proxy.Passthrough
import AiGateway.Proxy.Standalone
import AiGateway.Proxy.ErrorFrame
import AiGateway.Proxy.Counting
import AiGateway.Proxy.FeedFrame
import AiGateway.Proxy.Observe
import AiGateway.Proxy.Agreement
import AiGateway.ControlPlane.Schema
import AiGateway.ControlPlane.Snapshot
import AiGateway.ControlPlane.Validation
import AiGateway.ControlPlane.Service
import AiGateway.ControlPlane.ModelRouting
import AiGateway.ControlPlane.ModelCatalog
import AiGateway.ControlPlane.SnapshotRows
import AiGateway.ControlPlane.Sound
import AiGateway.ControlPlane.Writes
import AiGateway.ControlPlane.Discovery
import AiGateway.ControlPlane.Loadable
import AiGateway.ControlPlane.Runs
import AiGateway.Base.Concurrent
import AiGateway.Proxy.Settlement
import AiGateway.Infra.Events
import AiGateway.Infra.Incidents
import AiGateway.Infra.Cancellation
import AiGateway.Proxy.SettledOnce
import AiGateway.Base.Batches
import AiGateway.Infra.Retention
import AiGateway.Infra.Cleanup
import AiGateway.Infra.StoreAgreement
import AiGateway.Sse.Client
import AiGateway.Proxy.Heartbeat
import AiGateway.Proxy.OrderedRun
import AiGateway.Proxy.WeightedRun
import AiGateway.ControlPlane.Coherent
import AiGateway.ControlPlane.Import
import AiGateway.ControlPlane.ImportRuns
import AiGateway.Infra.Redaction
import AiGateway.Infra.Restore
import AiGateway.ControlPlane.Publication
import AiGateway.Infra.Serving
import AiGateway.Infra.Reproduced
import AiGateway.Base.Order
import AiGateway.Infra.SameSnapshot
import AiGateway.Infra.RestoreSteps
import AiGateway.Infra.RoundTrip
import AiGateway.Infra.RestoredRuns
import AiGateway.Infra.Migrations
import AiGateway.Proxy.Chunking
import AiGateway.Proxy.Classify
import AiGateway.Proxy.Frames
import AiGateway.Proxy.ChatDone
import AiGateway.Proxy.DoneAppended
import AiGateway.Proxy.Metadata
import AiGateway.Base.Upsert
import AiGateway.ControlPlane.Closed
import AiGateway.Proxy.Published
import AiGateway.Infra.VirtualKeys
import AiGateway.Infra.AuditTrail
import AiGateway.Infra.PolicySnapshot
import AiGateway.Infra.Frozen
import AiGateway.ControlPlane.RoutingView
import AiGateway.ControlPlane.RoutingWritten
import AiGateway.ControlPlane.RoutedLines
import AiGateway.ControlPlane.RoutedRuns
import AiGateway.Infra.Replay
import AiGateway.Infra.ReplayedRuns
import AiGateway.Base.Lossy
import AiGateway.Proxy.Bounded
import AiGateway.Proxy.Readings
import AiGateway.Proxy.StreamUsage
import AiGateway.Proxy.UsageAgreement
import AiGateway.Proxy.UsageSafety
import AiGateway.Base.Search
import AiGateway.Base.LossySearch
import AiGateway.Proxy.Thinking
import AiGateway.Infra.BreakerSafety
import AiGateway.Infra.Backoff
import AiGateway.Base.Cycle
import AiGateway.Proxy.Selection
import AiGateway.Base.Ip
import AiGateway.Base.IpText
import AiGateway.Infra.SourceUrl
import AiGateway.Infra.SourceUrlSafety
import AiGateway.Infra.Redirects
import AiGateway.Infra.AddressClasses
import AiGateway.Base.HeaderMap
import AiGateway.Proxy.Transport
import AiGateway.Proxy.WholeBody
import AiGateway.Proxy.Forwarding
import AiGateway.Infra.Auth
import AiGateway.Base.Base64
import AiGateway.Infra.Secrets
import AiGateway.ControlPlane.AccountBinding
import AiGateway.Domain.Overrides
import AiGateway.ControlPlane.ImportOrder
import AiGateway.Base.Keyset
import AiGateway.Base.IntText
import AiGateway.Infra.Cursors
import AiGateway.Infra.EventFeed
import AiGateway.Infra.EventPages
import AiGateway.Infra.UsagePages
import AiGateway.Domain.Precedence
import AiGateway.Base.Collect
import AiGateway.Domain.Capabilities
import AiGateway.ControlPlane.CapabilityMatrix
import AiGateway.Domain.CapabilityRows
import AiGateway.Base.Members
import AiGateway.ControlPlane.DiscoveryDiff
import AiGateway.ControlPlane.DiscoveryRows
import AiGateway.ControlPlane.DiscoveryMerge
import AiGateway.ControlPlane.DiscoveryOutcome
import AiGateway.ControlPlane.DiscoveryApplied
import AiGateway.ControlPlane.ModelDiscovery
import AiGateway.ControlPlane.DiscoveryRequests
import AiGateway.Base.Entries
import AiGateway.Base.Alike
import AiGateway.Infra.AuditDiff
import AiGateway.Infra.AuditTruncation
import AiGateway.Infra.Noninterference
import AiGateway.Infra.AuditLog
import AiGateway.Infra.AdminRequests
import AiGateway.Base.Octets
import AiGateway.Infra.MasterKeys
import AiGateway.Infra.ExportRows
import AiGateway.Infra.CleanupStarts
import AiGateway.Base.JsonText
import AiGateway.Base.SameDoc
import AiGateway.Proxy.Rewriting
import AiGateway.Infra.UsageWrites
import AiGateway.Base.Grouped
import AiGateway.Infra.UsageReports
import AiGateway.Infra.UsageQueries
import AiGateway.Infra.WrittenRows
import AiGateway.Base.Where
import AiGateway.Infra.UsageStatements
import AiGateway.Base.Csv
import AiGateway.Infra.UsageExport
import AiGateway.Infra.Sealing
import AiGateway.Infra.KeyRequests
