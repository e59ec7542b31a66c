import PfsenseMcp.Concurrency.Pool
import PfsenseMcp.Graph.Chain
import PfsenseMcp.Python.Bytes
import PfsenseMcp.Python.DateTime
import PfsenseMcp.Python.Json
import PfsenseMcp.Tier1.StateMachine
import PfsenseMcp.Tier1.Canonical
import PfsenseMcp.Tier1.Contract
import PfsenseMcp.Tier1.Payload
import PfsenseMcp.Tier1.Evidence
import PfsenseMcp.Tier1.Database
import PfsenseMcp.Tier1.AntiRollback
import PfsenseMcp.Tier1.RatePolicy
import PfsenseMcp.Tier1.Transport
import PfsenseMcp.Tier1.World
import PfsenseMcp.Tier1.Store
import PfsenseMcp.Tier1.Executor
import PfsenseMcp.Concurrency.Journal
import PfsenseMcp.Tier1.History
import PfsenseMcp.Tier1.Representation
import PfsenseMcp.Tier1.Operations
import PfsenseMcp.Tier1.Execution
import PfsenseMcp.Tier1.Runs
import PfsenseMcp.Tier1.Progress
import PfsenseMcp.Tier1.Guarantees
import PfsenseMcp.Tier1.Lifecycle
import PfsenseMcp.Tier1.Provisioning
import PfsenseMcp.Tier1.NonceCounter
import PfsenseMcp.Python.JsonOrder
import PfsenseMcp.Tier1.CanonicalForm
import PfsenseMcp.Administration.OperationJournal
import PfsenseMcp.Administration.CrashConsistency
import PfsenseMcp.Tier1.RateLimiting
import PfsenseMcp.Tier1.Fleet
import PfsenseMcp.Administration.BootstrapClient
import PfsenseMcp.Administration.AuthTransition
import PfsenseMcp.Administration.OneShot
import PfsenseMcp.Administration.TamperEvidence
import PfsenseMcp.Administration.OperationLock
import PfsenseMcp.Administration.Bootstrap
import PfsenseMcp.Administration.JournalCalls
import PfsenseMcp.Administration.BootstrapRuns
import PfsenseMcp.Administration.BootstrapAlone
import PfsenseMcp.Administration.EngineOnce
import PfsenseMcp.Administration.LateAttempts
import PfsenseMcp.Tier1.CounterFile
import PfsenseMcp.Tier1.Codec
import PfsenseMcp.Concurrency.Steps
import PfsenseMcp.Python.Calendar
import PfsenseMcp.Tier1.Cooldown
import PfsenseMcp.Tier1.SharedWitness
import PfsenseMcp.Tier1.ExecutionCore
import PfsenseMcp.Tier1.KeyRotation
import PfsenseMcp.Posture.Types
import PfsenseMcp.Administration.SetupConfirmation
import PfsenseMcp.Administration.SetupApply
import PfsenseMcp.Posture.Discovery
import PfsenseMcp.Posture.Plan
import PfsenseMcp.Posture.ExportedEvidence
import PfsenseMcp.Python.Equality
import PfsenseMcp.Tier1.Records
import PfsenseMcp.Tier1.SettingsAdapters
import PfsenseMcp.Administration.JournalSize
import PfsenseMcp.Tier1.ExecutionSteps
import PfsenseMcp.Tier1.DomainSeparation
import PfsenseMcp.Tier1.PreparedExecutionIntent
import PfsenseMcp.Administration.ClientConfigMerge
import PfsenseMcp.Administration.ClientConfigWrite
import PfsenseMcp.PfrestDocs.SchemaDiff
import PfsenseMcp.Tier1.ArtifactExchange
import PfsenseMcp.Tier1.ResumePrepared
import PfsenseMcp.Guidance.Applicability
import PfsenseMcp.Guidance.Supersession
import PfsenseMcp.Guidance.Guarantees
import PfsenseMcp.Fixtures.Placeholders
import PfsenseMcp.Collections.Numbered
import PfsenseMcp.Administration.Privileges
import PfsenseMcp.Administration.ProvisioningClient
import PfsenseMcp.Administration.Recovery
import PfsenseMcp.Administration.RecoveryGuarantees
import PfsenseMcp.Administration.Appliance
import PfsenseMcp.Administration.DescribedSchema
import PfsenseMcp.Administration.ProvisioningEngine
import PfsenseMcp.Administration.ProvisioningGuarantees
import PfsenseMcp.Administration.KeyFile
import PfsenseMcp.Python.Url
import PfsenseMcp.PfrestDocs.Fetch
import PfsenseMcp.Python.Repr
import PfsenseMcp.Tier1.ReviewFields
import PfsenseMcp.Collections.Blocks
import PfsenseMcp.Tier1.BatchManifest
import PfsenseMcp.Tier1.CanonicalLimits
import PfsenseMcp.Signing.Artifacts
import PfsenseMcp.Signing.Payloads
import PfsenseMcp.Signing.Separation
import PfsenseMcp.Signing.Verification
import PfsenseMcp.Python.Raises
import PfsenseMcp.Tier1.Document
import PfsenseMcp.Signing.Exchange
import PfsenseMcp.Signing.ExchangeRoundTrip
import PfsenseMcp.Signing.ReviewExchange
import PfsenseMcp.Signing.ExchangeAgreement
import PfsenseMcp.Posture.DeclaredVersion
import PfsenseMcp.Python.JsonRemainder
import PfsenseMcp.Concurrency.CutOff
import PfsenseMcp.Tier1.CounterCrash
import PfsenseMcp.Backends.NexusSession
import PfsenseMcp.PfrestDocs.Symmetry
import PfsenseMcp.Tier1.Reconciliation
import PfsenseMcp.Tier1.MarkSteps
import PfsenseMcp.Tier1.Lockstep
import PfsenseMcp.Concurrency.Locked
import PfsenseMcp.Witness.Service
import PfsenseMcp.Witness.Daemon
import PfsenseMcp.Witness.Anchor
import PfsenseMcp.Tier1.Consumption
import PfsenseMcp.Tier1.Coordinator
import PfsenseMcp.Concurrency.Recorded
import PfsenseMcp.Tier1.Seen
import PfsenseMcp.Tier1.Gates
import PfsenseMcp.Tier1.RollbackGates
