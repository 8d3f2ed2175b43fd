import QrTrust.Lib.DecisionList
import QrTrust.Lib.Fallible
import QrTrust.Lib.OrderedMap
import QrTrust.Lib.PrefixCode
import QrTrust.Lib.RepeatedWrites
import QrTrust.Lib.Runs
import QrTrust.Lib.Latch
import QrTrust.Lib.InsertionOrder
import QrTrust.Lib.Replay
import QrTrust.Lib.KeyedSort
import QrTrust.Lib.Custody
import QrTrust.Lib.TimedDecision
import QrTrust.Lib.VersionedHistory
import QrTrust.Network.Json
import QrTrust.Network.StoredJson
import QrTrust.Network.VerifierCache
import QrTrust.Network.VerifierCacheProofs
import QrTrust.Network.NatsPropagation
import QrTrust.Network.PolicyDecoding
import QrTrust.Network.DomainProof
import QrTrust.Network.JsStringProofs
import QrTrust.Network.PublicationGate
import QrTrust.Network.PublicationGateProofs
import QrTrust.Network.TrustKeys
import QrTrust.Network.PostgresTrustKeys
import QrTrust.Network.PostgresVerifierCache
import QrTrust.Network.CacheMirrorProofs
import QrTrust.Network.RegistryAgreementProofs
import QrTrust.Network.VerifierSync
import QrTrust.Network.SignatureVerification
import QrTrust.Network.SignatureAcceptanceProofs
import QrTrust.Network.CanonicalJsonProofs
import QrTrust.Network.SigningCustody
import QrTrust.Network.GovernancePublication
import QrTrust.Network.GovernancePublicationSource
import QrTrust.Network.SigningCustodyProofs
import QrTrust.Network.SignedPublicationProofs
import QrTrust.Network.GovernanceRoundTripProofs
import QrTrust.Network.GovernanceSubscriber
import QrTrust.Network.GovernanceSubscriberProofs
import QrTrust.Network.WorkQueue
import QrTrust.Network.WorkQueueProofs
import QrTrust.Network.KeyRotationPolicy
import QrTrust.Network.KeyRotationProofs
import QrTrust.Network.SignerConfinementProofs
import QrTrust.Network.PolicyDecodingProofs
import QrTrust.Network.SyncGateProofs
import QrTrust.Network.SyncAcceptanceProofs
import QrTrust.Network.SyncReplayProofs
import QrTrust.Network.SyncIdempotenceProofs
import QrTrust.Network.LatestRecordProofs
import QrTrust.Network.TrustFactProofs
import QrTrust.Network.PublishedPolicyProofs
import QrTrust.Network.PolicyInterferenceProofs
import QrTrust.Backend.TrustResiduals
import QrTrust.Backend.TrustResidualsProofs
import QrTrust.Backend.PyRuntime
import QrTrust.Backend.TrustKeyEnrolment
import QrTrust.Backend.TrustKeyWindowProofs
import QrTrust.Backend.DestinationCanonicalization
import QrTrust.Backend.PayloadRevalidation
import QrTrust.Backend.SignedSchema
import QrTrust.Backend.TrustStore
import QrTrust.Backend.NarrowedVerifier
import QrTrust.Backend.TrustProjection
import QrTrust.Backend.DomainMapProofs
import QrTrust.Backend.TrustProjectionProofs
import QrTrust.Backend.ProjectionIsolationProofs
import QrTrust.Backend.ManagementAuth
import QrTrust.Backend.ManagementAuthProofs
import QrTrust.Backend.ManagementPlane
import QrTrust.Backend.GovernanceMutations
import QrTrust.Backend.GovernanceBuilders
import QrTrust.Backend.GovernanceMutationsProofs
import QrTrust.Backend.ProjectionFreshness
import QrTrust.Backend.ProjectionFreshnessProofs
import QrTrust.Backend.VerdictCache
import QrTrust.Backend.VerdictTimeline
import QrTrust.Backend.VerdictCacheProofs
import QrTrust.Network.EventOutbox
import QrTrust.Network.EventOutboxProofs
import QrTrust.Network.WorkItems
import QrTrust.Network.WorkItemsProofs
import QrTrust.Network.EventOutboxOrderProofs
import QrTrust.Network.ArtifactPublication
import QrTrust.Network.ArtifactPublicationProofs
import QrTrust.Network.BundlePublication
import QrTrust.Network.BundleArtifactProofs
import QrTrust.Network.BundlePublicationProofs
import QrTrust.Network.DestinationPolicyPublicationProofs
import QrTrust.Lib.Separated
import QrTrust.Network.ArtifactIdentityProofs
import QrTrust.Backend.VerifierApiKeys
import QrTrust.Backend.VerifierApiKeysProofs
import QrTrust.Backend.VerifierKeyRotationProofs
import QrTrust.Network.NatsPropagationProofs
import QrTrust.Network.ManagementEventProofs
import QrTrust.Network.PublicationWorkers
import QrTrust.Network.PublicationWorkersProofs
import QrTrust.Network.PostgresArtifactStore
import QrTrust.Network.PostgresArtifactStoreProofs
import QrTrust.Network.RuntimeSubscriber
import QrTrust.Network.RuntimeSubscriberProofs
import QrTrust.Network.CanonicalTextProofs
import QrTrust.Network.DocumentReads
import QrTrust.Network.SignatureCoverageProofs
import QrTrust.Network.KeyStatusProofs
import QrTrust.Network.KeyStatusConfinementProofs
import QrTrust.Network.RepeatedCallProofs
import QrTrust.Network.GovernanceRedeliveryProofs
import QrTrust.Network.CacheMaterialization
import QrTrust.Network.CacheMaterializationProofs
import QrTrust.Network.ChainSoundnessProofs
import QrTrust.Network.ReadModelWorker
import QrTrust.Network.ReadModelWorkerProofs
import QrTrust.Network.AuthorizedMaterializationProofs
import QrTrust.Lib.RowLocks
import QrTrust.Backend.IssuerCertificates
import QrTrust.Backend.KeyLifecycle
import QrTrust.Backend.DestinationPolicies
import QrTrust.Backend.ManagementEndpoints
import QrTrust.Backend.ResourceConfinementProofs
import QrTrust.Lib.LikePattern
import QrTrust.Lib.MergedFlags
import QrTrust.Backend.PolicyActivation
import QrTrust.Backend.GateAgreementProofs
import QrTrust.Backend.DemoMaterials
import QrTrust.Backend.DemoShadowProofs
import QrTrust.Backend.VerdictLifetimeProofs
import QrTrust.Backend.VerifiedDomainProofs
import QrTrust.Backend.MatchedDomainProofs
import QrTrust.Backend.RedirectPolicy
import QrTrust.Backend.ResolverRecognitionProofs
import QrTrust.Backend.ClaimsTextProofs
import QrTrust.Lib.SlidingWindow
import QrTrust.Backend.ScanFloodBudget
import QrTrust.Backend.ScanFloodBudgetProofs
import QrTrust.Backend.ScannerRecord
import QrTrust.Backend.RecordRoundTripProofs
import QrTrust.Backend.IssuerBudgetProofs
import QrTrust.Network.RevokedKeyProofs
import QrTrust.Network.RejectedMessageProofs
import QrTrust.Network.RuntimeSafety
import QrTrust.Network.ScannerDecision
import QrTrust.Network.CacheHoldingsProofs
import QrTrust.Network.GreenDecisionProofs
import QrTrust.Network.DecisionConsistencyProofs
import QrTrust.Network.StatusEventRowsProofs
import QrTrust.Lib.SpacedLog
import QrTrust.Backend.RequestRateLimiter
import QrTrust.Backend.RequestRateLimiterProofs
import QrTrust.Backend.CachedScans
import QrTrust.Backend.CachedScansProofs
import QrTrust.Lib.SplitPieces
import QrTrust.Backend.PathCanonicalizationProofs
import QrTrust.Backend.HostCanonicalizationProofs
import QrTrust.Backend.CanonicalMatchProofs
import QrTrust.Backend.DestinationErrorProofs
import QrTrust.Backend.FormQuery
import QrTrust.Backend.QueryKeysProofs
import QrTrust.Backend.ClaimsParsingProofs
import QrTrust.Backend.TimeWindowProofs
import QrTrust.Backend.JsonText
import QrTrust.Backend.EnvelopeCodec
import QrTrust.Backend.EnvelopeCodecProofs
import QrTrust.Backend.KeyRetirementProofs
import QrTrust.Lib.Subsumption
import QrTrust.Backend.QrArtifact
import QrTrust.Backend.PdfEvidenceProofs
import QrTrust.Network.DirectBindingProofs
import QrTrust.Network.RedirectBindingProofs
import QrTrust.Network.PolicyCodecProofs
import QrTrust.Lib.SubjectPattern
import QrTrust.Network.NatsSubjects
import QrTrust.Network.NatsSubjectsProofs
import QrTrust.Network.SubjectInclusionProofs
import QrTrust.Network.NatsSubscribers
import QrTrust.Network.SubjectGrammarProofs
import QrTrust.Network.SubjectIsolationProofs
import QrTrust.Backend.ScannerUx
import QrTrust.Backend.ScannerUxProofs
import QrTrust.Lib.TopRanked
import QrTrust.Network.DomainProofOrderProofs
import QrTrust.Network.CanonicalValueProofs
import QrTrust.Network.FreshnessWindowProofs
import QrTrust.Lib.SortedCut
import QrTrust.Backend.SpikeDetection
import QrTrust.Backend.SpikeDetectionProofs
import QrTrust.Backend.ScannerDecisions
import QrTrust.Backend.ScannerPipeline
import QrTrust.Backend.ScannerPipelineProofs
import QrTrust.Backend.ScanSoundnessProofs
import QrTrust.Backend.ScanRevocationProofs
