import RolloutPlan.Json.Reader
import RolloutPlan.Log.Filter
import RolloutPlan.Main
import RolloutPlan.Proofs.Dependency
import RolloutPlan.Proofs.WiredValues
import RolloutPlan.Proofs.Contribution
import RolloutPlan.Proofs.Itinerary
import RolloutPlan.Proofs.Layout
import RolloutPlan.Proofs.Block
import RolloutPlan.Proofs.Linking
import RolloutPlan.Proofs.Assembly
import RolloutPlan.Proofs.Check
import RolloutPlan.Proofs.PipelineObjections
import RolloutPlan.Proofs.Inventory
import RolloutPlan.Proofs.Declarations
import RolloutPlan.Proofs.RolloutObjections
import RolloutPlan.Proofs.Search
import RolloutPlan.Proofs.SearchOutcome
import RolloutPlan.Proofs.Neighbours
import RolloutPlan.Proofs.Representation
import RolloutPlan.Proofs.Bookkeeping
import RolloutPlan.Proofs.DirectEdges
import RolloutPlan.Proofs.Acyclicity
import RolloutPlan.Proofs.ExecutionOrder
import RolloutPlan.Proofs.AssemblyOutcome
import RolloutPlan.Proofs.SharedTargets
import RolloutPlan.Proofs.PipelineSoundness
import RolloutPlan.Proofs.TopologySoundness
import RolloutPlan.Proofs.Loading
import RolloutPlan.Proofs.Drawing
import RolloutPlan.Proofs.ValidatedRollout
import RolloutPlan.Proofs.CycleReport
import RolloutPlan.Proofs.SingleService
import RolloutPlan.Proofs.ValidationSteps
import RolloutPlan.Proofs.Reordering
import RolloutPlan.Proofs.ReorderedRollout
import RolloutPlan.Proofs.LaterEntrypoints
import RolloutPlan.Proofs.CommandEffects
import RolloutPlan.Proofs.NumberText
import RolloutPlan.Proofs.PipelineRoundTrip
import RolloutPlan.Proofs.PathSearch
import RolloutPlan.Proofs.PipelineAgreement
import RolloutPlan.Proofs.IndexedMoments
import RolloutPlan.Proofs.TopologyReport
import RolloutPlan.Proofs.TargetComparison
import RolloutPlan.Proofs.LoadedPipelines
import RolloutPlan.Proofs.RearrangedDocuments
import RolloutPlan.Proofs.DrawnGraph
import RolloutPlan.Proofs.TopologyRoundTrip
import RolloutPlan.Proofs.ReadDrawing
import RolloutPlan.Proofs.DrawnApart
import RolloutPlan.Proofs.NodeListing
