import GuardianPi.Library.Transition
import GuardianPi.Library.Decimal
import GuardianPi.Library.Json
import GuardianPi.Library.JsonText
import GuardianPi.Library.Calendar
import GuardianPi.Library.Slice
import GuardianPi.Library.BoundedFifo
import GuardianPi.EdgeAgent.Directory
import GuardianPi.EdgeAgent.DiskQueue
import GuardianPi.EdgeAgent.QueueRefinement
import GuardianPi.EdgeAgent.Marshal
import GuardianPi.EdgeAgent.Sender
import GuardianPi.EdgeAgent.Conservation
import GuardianPi.Backend.Schemas
import GuardianPi.EdgeAgent.MessageFormat
import GuardianPi.Backend.RateLimit
import GuardianPi.Backend.Investigations
import GuardianPi.Backend.Detection
import GuardianPi.Backend.AlertPipeline
import GuardianPi.Backend.AlertDecisions
import GuardianPi.Backend.AlertStore
import GuardianPi.Backend.EventBus
import GuardianPi.EdgeAgent.Detector
import GuardianPi.Backend.FileScan
import GuardianPi.Backend.RuleCoverage
import GuardianPi.EdgeAgent.Shutdown
import GuardianPi.EdgeAgent.DrainOrder
import GuardianPi.EdgeAgent.FaultyDrain
import GuardianPi.Library.Encodings
import GuardianPi.Agent.TelemetrySender
import GuardianPi.Backend.Ingest
import GuardianPi.Agent.Acceptance
import GuardianPi.EdgeAgent.Acceptance
import GuardianPi.EdgeAgent.FileIntegrity
import GuardianPi.EdgeAgent.ProcessReuse
import GuardianPi.Agent.FlushTask
import GuardianPi.Agent.QueueGuarantees
import GuardianPi.Backend.IngestTransaction
import GuardianPi.RunLocal.Telemetry
import GuardianPi.Agent.Duplicates
import GuardianPi.Backend.Auth
import GuardianPi.Backend.AccessControl
import GuardianPi.Backend.Endpoints
import GuardianPi.Library.TwoRuns
import GuardianPi.Backend.Exposure
import GuardianPi.Backend.AuditLog
import GuardianPi.Backend.AuditChain
import GuardianPi.Library.Validation
import GuardianPi.Backend.Responses
import GuardianPi.Agent.FirewallManager
import GuardianPi.Agent.FirewallBooks
import GuardianPi.Agent.FileIntegrityMonitor
import GuardianPi.Library.History
import GuardianPi.Backend.ConnectionPool
import GuardianPi.Backend.AlertsSocket
import GuardianPi.Library.Paging
import GuardianPi.Backend.ListPages
import GuardianPi.Library.DottedVersion
import GuardianPi.Backend.AgentUpdate
import GuardianPi.Library.RowUpdate
import GuardianPi.Backend.RowUpdates
import GuardianPi.Backend.AlertLifecycle
import GuardianPi.Backend.InvestigationLifecycle
import GuardianPi.Backend.PolicyStore
import GuardianPi.Backend.Rollbacks
import GuardianPi.Backend.Posture
import GuardianPi.Backend.GdprExport
import GuardianPi.EdgeAgent.Registration
import GuardianPi.Backend.Verdicts
import GuardianPi.Backend.AgentMetrics
import GuardianPi.Agent.Quarantine
import GuardianPi.Agent.QuarantineSafety
import GuardianPi.Agent.QuarantineBooks
import GuardianPi.EdgeAgent.QueueQuota
import GuardianPi.EdgeAgent.Eviction
import GuardianPi.Agent.EncryptedTrip
import GuardianPi.Backend.Passwords
import GuardianPi.Agent.PrivateAddresses
import GuardianPi.Backend.ReverseShells
import GuardianPi.Backend.AnomalyOrder
import GuardianPi.Backend.RiskScore
import GuardianPi.Agent.UsbMonitor
import GuardianPi.Agent.NetworkMonitor
import GuardianPi.EdgeAgent.NetworkMonitor
import GuardianPi.Backend.BadCredentials
import GuardianPi.Backend.TokenClaims
import GuardianPi.Backend.AlertStats
import GuardianPi.Agent.IpValidator
import GuardianPi.Library.Rotation
import GuardianPi.EdgeAgent.RefusedBatches
import GuardianPi.EdgeAgent.Delivery
import GuardianPi.Backend.Authority
import GuardianPi.Library.Keyed
import GuardianPi.Backend.PolicyBook
import GuardianPi.Backend.Signatures
import GuardianPi.Agent.ProcessMonitor
import GuardianPi.Library.Interleaving
import GuardianPi.Agent.GuardianAgent
import GuardianPi.Mobile.AuthService
import GuardianPi.EdgeAgent.NetworkHistory
import GuardianPi.EdgeAgent.Collected
import GuardianPi.RunLocal.Server
import GuardianPi.RunLocal.Sessions
import GuardianPi.EdgeAgent.Heartbeats
import GuardianPi.Library.Lines
import GuardianPi.Legacy.ThreatLog
import GuardianPi.EdgeAgent.WholeAgent
