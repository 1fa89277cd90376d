import TrustLens.Backend.Idempotency
import TrustLens.Backend.EvaluationFencing
import TrustLens.Backend.EvidenceFencing
import TrustLens.Backend.TamperEvidence
import TrustLens.Backend.LiveCues
import TrustLens.Backend.SettledText
import TrustLens.Backend.FindingSpans
import TrustLens.Backend.LowerView
import TrustLens.Backend.Listing
import TrustLens.Backend.KnowledgeActivation
import TrustLens.Ai.ReplayRestore
import TrustLens.Ai.CanonicalRoundTrip
import TrustLens.Runtime.DeclaredSuppression
import TrustLens.Runtime.LiveMonotone
import TrustLens.Runtime.LiveNegatives
import TrustLens.Runtime.LoadedRules
import TrustLens.Runtime.NoScam
import TrustLens.Runtime.NonLive
import TrustLens.Runtime.RiskMonotone
import TrustLens.Runtime.Snapshot
import TrustLens.Runtime.BorrowedConfidence
import TrustLens.Runtime.ContextBoundary
import TrustLens.Runtime.ForgedDecisions
import TrustLens.Runtime.Rearranged
import TrustLens.Runtime.ProvenIndependence
import TrustLens.Runtime.ConsistentAxes
import TrustLens.Runtime.OccurrenceScope
import TrustLens.Runtime.SuppressionMapping
import TrustLens.Runtime.SuppressionReport
import TrustLens.Runtime.Recommendations
import TrustLens.Validation.SatisfyingSets
import TrustLens.Validation.DeadRules
import TrustLens.Validation.LintGate
import TrustLens.Loader.TypedLoading
import TrustLens.Publish.AcceptedIndexes
import TrustLens.Ai.ExtractionOrder
import TrustLens.Backend.Admission
import TrustLens.Backend.SessionLifetimes
import TrustLens.Backend.AuditFormats
import TrustLens.Backend.RoleSeparation
import TrustLens.Frontend.LoadedPages
import TrustLens.Backend.EnrichmentRecords
import TrustLens.Lib.JsonNesting
import TrustLens.Backend.SignInSafety
import TrustLens.Backend.RequestReading
import TrustLens.Backend.ContentStoreRuns
import TrustLens.Publish.DigestDetermines
import TrustLens.Backend.Segmentation
import TrustLens.Backend.EgressEscapes
import TrustLens.Ai.Integration
