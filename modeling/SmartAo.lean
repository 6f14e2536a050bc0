import SmartAo.Foundation.Text
import SmartAo.Foundation.Transition
import SmartAo.Foundation.Guard
import SmartAo.Foundation.Table
import SmartAo.Foundation.Succession
import SmartAo.Foundation.Json
import SmartAo.Foundation.Instant
import SmartAo.Foundation.Digest
import SmartAo.Membership.TaskConsistency
import SmartAo.Dce.Writes
import SmartAo.Pricing.Scenario
import SmartAo.Pricing.Imports
import SmartAo.Decision.Risk
import SmartAo.Decision.FrozenContext
import SmartAo.Decision.Freshness
import SmartAo.PatronAction.Projection
import SmartAo.Submission.GateSoundness
import SmartAo.Decision.CurrentReferences
import SmartAo.Decision.PricingReaders
import SmartAo.Decision.ReferenceKeys
import SmartAo.Decision.Fingerprint
import SmartAo.Preparation.Generation
import SmartAo.Preparation.Isolation
import SmartAo.Submission.EnterpriseEntries
import SmartAo.Preparation.StorageRetry
import SmartAo.Enterprise.Verification
import SmartAo.Assignment.History
import SmartAo.Assignment.Grants
import SmartAo.Foundation.Sessions
import SmartAo.Decision.ConditionSessions
import SmartAo.Decision.ConditionAgreement
import SmartAo.Submission.ConditionChecks
import SmartAo.Platform.Uuid
import SmartAo.Dce.Fragments
import SmartAo.Dce.FragmentAgreement
import SmartAo.Dce.Materialization
import SmartAo.Dce.RcRecords
import SmartAo.Dce.Requirements
import SmartAo.Dce.MaterializationAgreement
import SmartAo.Platform.Dispatcher
import SmartAo.Platform.ExactlyOnce
import SmartAo.Foundation.RowLocks
import SmartAo.Dce.Confirmations
import SmartAo.Platform.Replay
import SmartAo.Dce.ExtractionService
import SmartAo.Dce.ExtractionRetry
import SmartAo.Dce.Impact
import SmartAo.Dce.ImpactAgreement
import SmartAo.Foundation.Utf8
import SmartAo.Foundation.Regex
import SmartAo.Dce.TextRules
import SmartAo.Dce.Classification
import SmartAo.Dce.ClassificationRun
import SmartAo.Dce.ClassificationHistory
import SmartAo.Foundation.RowSets
import SmartAo.Dce.Staging
import SmartAo.Dce.StagingHistory
import SmartAo.Foundation.Dict
import SmartAo.Security.RateLimit
import SmartAo.Security.LockoutRuns
import SmartAo.Security.BucketIsolation
import SmartAo.Security.Records
import SmartAo.Security.Totp
import SmartAo.Security.TotpHistory
import SmartAo.Foundation.LockScript
import SmartAo.Security.RecoveryCodes
import SmartAo.Security.AccessToken
import SmartAo.Security.RefreshLineage
import SmartAo.Worker.Kinds
import SmartAo.Worker.Leases
import SmartAo.Worker.Lifecycle
import SmartAo.PatronAction.ActionHistory
import SmartAo.Decision.RiskHistory
import SmartAo.Preparation.ReviewHistory
import SmartAo.Enterprise.VerificationRevisions
import SmartAo.Membership.CapabilityAssessment
import SmartAo.Submission.SignatureFinality
import SmartAo.Pricing.ScenarioSelection
import SmartAo.Pricing.SelectionHistory
import SmartAo.Pricing.FinancialReport
import SmartAo.Pricing.FinancialTotals
import SmartAo.Pricing.FinancialRuns
import SmartAo.Pricing.FinancialHistory
import SmartAo.Pricing.PublishedMargins
import SmartAo.Foundation.Decimal
import SmartAo.Pricing.ImportPreview
import SmartAo.Pricing.PreviewRows
import SmartAo.Pricing.PreviewCompleteness
import SmartAo.Pricing.RowCommands
import SmartAo.Pricing.ImportCreation
import SmartAo.Security.Authorization
import SmartAo.Submission.SignatureAccess
import SmartAo.Foundation.Mutation
import SmartAo.Decision.Aggregate
import SmartAo.Decision.AggregateHistory
import SmartAo.Foundation.DecimalValue
import SmartAo.Pricing.RowTotals
import SmartAo.Case.Creation
import SmartAo.Case.FunctionalIdentity
import SmartAo.Opportunity.Ingestion
import SmartAo.Opportunity.IngestionCompleteness
import SmartAo.Opportunity.Observations
import SmartAo.Opportunity.RunScores
import SmartAo.Opportunity.Qualification
import SmartAo.Opportunity.CaseCreation
import SmartAo.Opportunity.QualifiedCases
import SmartAo.SubmissionPackage.Prepare
import SmartAo.SubmissionPackage.Export
import SmartAo.SubmissionPackage.ExportIntegrity
import SmartAo.Worker.Decoders
import SmartAo.Worker.DeliveryEvents
import SmartAo.Foundation.Ranking
import SmartAo.Knowledge.Retrieval
import SmartAo.Knowledge.VectorIndex
import SmartAo.Knowledge.IndexAgreement
import SmartAo.Pricing.ImportCommit
import SmartAo.Pricing.CommittablePreviews
import SmartAo.Pricing.CostBasis
import SmartAo.Security.EnrollmentExpiry
import SmartAo.Security.RetryAfter
import SmartAo.Pricing.UnderstoodRows
import SmartAo.Decision.PricingCrossing
import SmartAo.Platform.ClamdReplies
import SmartAo.Security.DeclaredFailures
import SmartAo.Foundation.ZeroOne
import SmartAo.Optimization.ResourceAssignment
import SmartAo.Optimization.CapacityRuns
import SmartAo.Optimization.CapacityReplay
import SmartAo.Pricing.ScenarioTotality
import SmartAo.Worker.CockpitEvents
import SmartAo.Pricing.ImportedSheets
import SmartAo.Preparation.ManifestOrder
import SmartAo.Dce.Aggregate
import SmartAo.Decision.LinkPaging
import SmartAo.Knowledge.Benchmark
import SmartAo.Decision.DocumentContradictions
import SmartAo.Opportunity.WatchProfile
import SmartAo.Dce.ClassificationOutcome
import SmartAo.Dce.ExcerptWindows
import SmartAo.Dce.UploadIntegrity
import SmartAo.Worker.Progress
import SmartAo.Dce.QuarantineFiles
import SmartAo.Security.FirstPatron
