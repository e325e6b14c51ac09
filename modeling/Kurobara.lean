import Kurobara.Foundation.TransitionSystem
import Kurobara.Foundation.DependencyOrder
import Kurobara.Foundation.Double
import Kurobara.Foundation.DoubleSum
import Kurobara.Foundation.NumberText
import Kurobara.Application.CanonicalContentHash
import Kurobara.Application.ExportDataset
import Kurobara.Persistence.RecipePersistence
import Kurobara.Kernel.Generation.Ambiguity
import Kurobara.Kernel.Generation.Page
import Kurobara.Kernel.Step.Invariant
import Kurobara.Kernel.Run.Lifecycle
import Kurobara.Kernel.Run.History
import Kurobara.Kernel.Run.Convergence
import Kurobara.Persistence.ParentEffects
import Kurobara.Persistence.StepRows
import Kurobara.Application.TransitionReplay
import Kurobara.Application.RouteAndClaim
import Kurobara.Engine.EvaluateContactPrivacy
import Kurobara.Engine.SourcingBudgetPreflight
import Kurobara.Application.TransitionStepAttempt
import Kurobara.Kernel.Step.EffectThreshold
import Kurobara.Application.ExecuteLeafAttempt
import Kurobara.Application.EffectPermission
import Kurobara.Plugin.LeafEffect
import Kurobara.Plugin.Outcome
import Kurobara.Foundation.Warrant
import Kurobara.Foundation.AmongOthers
import Kurobara.Foundation.FieldCycle
import Kurobara.Application.TransitionAnswer
import Kurobara.Application.ExecutorReports
import Kurobara.Application.PluginPool
import Kurobara.Application.StoredAmbiguity
import Kurobara.Application.UnknownOutcome
import Kurobara.Application.CheckpointAtomicity
import Kurobara.Application.CheckpointDatasetGenerationPage
import Kurobara.Persistence.RunRows
import Kurobara.Application.AuthorizeDatasetGenerationPage
import Kurobara.Application.CancelDatasetGeneration
import Kurobara.Application.PageMoves
import Kurobara.Application.GenerationActivity
import Kurobara.Application.GenerationCancellation
import Kurobara.Engine.CompileWorkflow
import Kurobara.Engine.WorkflowOrder
import Kurobara.Engine.WorkflowCompilation
import Kurobara.Engine.WorkflowFingerprint
import Kurobara.Engine.RecipeGraphFingerprint
import Kurobara.Engine.EvaluatePolicy
import Kurobara.Kernel.Run.Routing
import Kurobara.Kernel.Run.Creation
import Kurobara.Persistence.RunCreationRows
import Kurobara.Application.PrepareRunPlan
import Kurobara.Application.CreateRunFromPlan
import Kurobara.Application.PageRunPlanning
import Kurobara.Application.PageAuthorization
import Kurobara.Application.PageAuthorizationAtomicity
import Kurobara.Application.PageAuthorizationActivity
import Kurobara.Application.PageAuthorizationOnce
import Kurobara.Application.PagePayability
import Kurobara.Kernel.Generation.Ending
import Kurobara.Kernel.NormalizedJson
import Kurobara.Application.ParsePageArtifact
import Kurobara.Foundation.Custody
import Kurobara.Persistence.RunOutboxRows
import Kurobara.Application.DispatchRuns
import Kurobara.Application.RunDispatchPool
import Kurobara.Application.RunDispatchCustody
import Kurobara.Application.RunDispatchDiscipline
import Kurobara.Application.RunReconcilerDiscipline
import Kurobara.Application.RunDispatchSafety
import Kurobara.Kernel.CellResult
import Kurobara.Application.ProjectCellResult
import Kurobara.Application.MaterializeNextDagRun
import Kurobara.Foundation.Keyed
import Kurobara.Foundation.RevisionLog
import Kurobara.Persistence.GtmRows
import Kurobara.Application.GtmPlay
import Kurobara.Application.ApplyPlay
import Kurobara.Application.PlayLifecycle
import Kurobara.Persistence.WorkbookRows
import Kurobara.Application.SaveWorkbook
import Kurobara.Application.WorkbookHistory
import Kurobara.Persistence.PlayRunRows
import Kurobara.Application.AdvancePlayRun
import Kurobara.Application.PlayRunProgression
import Kurobara.Application.PlayRunInterleaving
import Kurobara.Application.GtmPlayExecutor
import Kurobara.Foundation.Funding
import Kurobara.Application.PlaySpending
import Kurobara.Kernel.Run.Convergent
import Kurobara.Application.CellConclusion
import Kurobara.Application.RunFinalization
import Kurobara.Kernel.Step.Conclusion
import Kurobara.Persistence.AttemptReceipts
import Kurobara.Persistence.SettlementProof
import Kurobara.Application.DagRun
import Kurobara.Application.DagRunSettlement
import Kurobara.Application.DagSchedulingUnitOfWork
import Kurobara.Application.CancellationSettlement
import Kurobara.Application.DagScheduling
import Kurobara.Application.ExportRecipeApplication
import Kurobara.Application.PlanDatasetGeneration
import Kurobara.Application.ReadyGenerationCandidatePage
import Kurobara.Application.ExportDelivery
import Kurobara.Application.VerifiedDelivery
import Kurobara.DatasetCodec.CsvFraming
import Kurobara.DatasetCodec.StrictJson
import Kurobara.Foundation.ByteLength
import Kurobara.Foundation.JsHeap
import Kurobara.Kernel.Generation.QuerySnapshot
import Kurobara.Foundation.Batching
import Kurobara.Foundation.CountText
import Kurobara.DatasetCodec.Jsonl
import Kurobara.Kernel.ProductUnits
import Kurobara.Application.ContentSize
import Kurobara.Application.ImportDataset
import Kurobara.Application.ImportBatches
import Kurobara.Foundation.JsonMeasure
import Kurobara.Plugin.Json
import Kurobara.Plugin.JsonLimits
import Kurobara.Plugin.JsonExactness
import Kurobara.Foundation.NumberGrammar
import Kurobara.Foundation.JsonGrammar
import Kurobara.ProviderSearch.StrictJsonParser
import Kurobara.ProviderSearch.StrictJsonExactness
import Kurobara.ProviderSearch.StrictJsonTokens
import Kurobara.Foundation.JsonSchema
import Kurobara.Foundation.PrintableText
import Kurobara.Plugin.Protocol
import Kurobara.Plugin.Sidecar
import Kurobara.Plugin.FrameSchema
import Kurobara.Plugin.FrameLimits
import Kurobara.Foundation.JsonWriting
import Kurobara.Plugin.Framing
import Kurobara.Engine.CompileRecipeFieldGraph
import Kurobara.Application.RecipeCellLifecycle
