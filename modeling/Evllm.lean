import Evllm.Lib.Except
import Evllm.Lib.JsMap
import Evllm.Lib.Run
import Evllm.Lib.Calls
import Evllm.Lib.Loop
import Evllm.Lib.ObjectMap
import Evllm.Lib.JsString
import Evllm.Decision.Decimal
import Evllm.Decision.Assessment
import Evllm.Decision.Preference
import Evllm.Assistant.Candidate
import Evllm.Assistant.Service
import Evllm.Assistant.Binding
import Evllm.Indexer.CanonicalProjector
import Evllm.Keys.Lifecycle
import Evllm.Keys.Revocation
import Evllm.Evidence.Proofs
import Evllm.Evidence.KeyOperations
import Evllm.Evidence.BundleRecords
import Evllm.Evidence.BundleService
import Evllm.Contracts.Solidity
import Evllm.Contracts.AuthorityProfileRegistry
import Evllm.Contracts.ProtectedBundleRegistry
import Evllm.Contracts.BatteryOwnershipRegistry
import Evllm.Contracts.DeploymentRegistry
import Evllm.Contracts.Marketplace
import Evllm.Contracts.Chain
import Evllm.Contracts.Trade
import Evllm.Contracts.Escrow
import Evllm.Contracts.Coherence
import Evllm.Contracts.Locks
import Evllm.Evidence.OneUse
import Evllm.Evidence.Workflow
import Evllm.Lib.Keccak
import Evllm.Evidence.Finality
import Evllm.Contracts.Ownership
import Evllm.Contracts.OwnershipHistory
import Evllm.Contracts.Hierarchy
import Evllm.Contracts.EvidenceRegistry
import Evllm.Contracts.Bundles
import Evllm.Contracts.Ledger
import Evllm.Contracts.Attestation
import Evllm.Contracts.EvidenceVersions
import Evllm.Contracts.EvidenceLinks
import Evllm.Indexer.EvidenceProjection
import Evllm.Marketplace.Gateway
import Evllm.Marketplace.OneExecution
import Evllm.Contracts.Settlement
import Evllm.Contracts.Records
import Evllm.Evidence.OnChain
import Evllm.Contracts.AuditAnchor
import Evllm.Evidence.EvidenceLedger
import Evllm.Evidence.LedgerSimulation
import Evllm.Evidence.LiveAssertions
import Evllm.Evidence.PostgresRepository
import Evllm.Assistant.RecordMode
import Evllm.Evidence.Grants
import Evllm.Evidence.GrantKeys
import Evllm.Evidence.Replication
import Evllm.Keys.Authorizations
import Evllm.Evidence.Rotation
import Evllm.Lib.Digits
import Evllm.Decision.CanonicalDecimal
import Evllm.Contracts.Admission
import Evllm.Contracts.AcceptanceWindow
import Evllm.Contracts.EffectiveOffers
import Evllm.Decision.Magnitude
import Evllm.Decision.NoOverflow
import Evllm.Evidence.PreparationReplay
import Evllm.Assistant.AuditLedger
import Evllm.Decision.RuleRegistry
import Evllm.Evaluation.TransportJournal
import Evllm.Evaluation.JournalAgreement
import Evllm.Evidence.PackageReference
import Evllm.Keys.Withdrawal
import Evllm.Lib.StableSort
import Evllm.Lib.Alike
import Evllm.Lib.Json
import Evllm.Keys.Snapshot
import Evllm.Keys.Similar
import Evllm.Keys.RoundTrip
import Evllm.Lib.HalfEven
import Evllm.Decision.Exactness
import Evllm.Decision.Balance
import Evllm.Decision.PresentValue
import Evllm.Decision.Circularity
import Evllm.Decision.Gates
import Evllm.Decision.Support
import Evllm.Assistant.Schema
import Evllm.Assistant.Releasable
import Evllm.Evaluation.Conditions
import Evllm.Evaluation.Deployment
import Evllm.Evaluation.Refusals
import Evllm.Assistant.Idempotency
import Evllm.Assistant.Sessions
import Evllm.Lib.Chunks
import Evllm.Lib.Interaction
import Evllm.Repository.ObjectStore
import Evllm.Repository.Coordinator
import Evllm.Lib.Schedule
import Evllm.Repository.Lock
import Evllm.Lib.Linearizable
import Evllm.Repository.Validation
import Evllm.Repository.MemoryStore
import Evllm.Lib.FileSystem
import Evllm.Repository.FilesystemStore
import Evllm.Lib.Base64
import Evllm.Repository.OrganizationStore
import Evllm.Repository.Recovery
import Evllm.Lib.Utf8
import Evllm.Schemas.Common
import Evllm.Schemas.Crypto
import Evllm.Protected.Canonical
import Evllm.Protected.Content
import Evllm.Indexer.Selection
import Evllm.Evaluation.JournaledModel
import Evllm.Evaluation.AppendFailures
import Evllm.Evaluation.Holm
import Evllm.Evaluation.Resampling
import Evllm.Operations.HttpControls
import Evllm.Operations.RateLimit
import Evllm.Assistant.WalletMessage
import Evllm.Assistant.NumericTokens
import Evllm.Assistant.NumberForms
import Evllm.Lib.Transducer
import Evllm.Assistant.NumberReader
import Evllm.Assistant.SupportNumbers
import Evllm.Contracts.Delivery
import Evllm.Evaluation.FormalPlan
import Evllm.Evaluation.ObservationStore
import Evllm.Evaluation.Collection
import Evllm.Contracts.Lockout
