import Taskweavn.Interaction.AskResolved
import Taskweavn.Interaction.AskStrings
import Taskweavn.Interaction.AskRefinement
import Taskweavn.Task.BusCoherence
import Taskweavn.Task.ExecutionRuns
import Taskweavn.Task.PipelineReplay
import Taskweavn.Execution.PublishRuns
import Taskweavn.Task.ScheduledStores
import Taskweavn.Task.RawTaskReadiness
import Taskweavn.RuntimeConfig.Compose
import Taskweavn.Workspace.PathGuards
import Taskweavn.Context.Transcript
import Taskweavn.Task.PlanArchived
import Taskweavn.Contract.RemovedNodes
import Taskweavn.Server.RouterReplay
import Taskweavn.Server.ResumeDispatch
import Taskweavn.Server.SnapshotCursor
import Taskweavn.Contract.GuidanceContext
import Taskweavn.Contract.NodeOrder
import Taskweavn.Task.PlanRepublish
import Taskweavn.Task.ApiPublisher
import Taskweavn.Server.PublishGateway
import Taskweavn.Server.RuntimeRegistry
import Taskweavn.Server.SettingsRuns
import Taskweavn.Task.TickReports
import Taskweavn.Task.PublishExact
import Taskweavn.Task.PlanProposal
import Taskweavn.Task.FlatInput
import Taskweavn.Task.DraftValidator
import Taskweavn.Workspace.ChangedRanges
import Taskweavn.Interaction.WaitCoordinator
import Taskweavn.Context.PriorMessages
import Taskweavn.Server.SseFrames
import Taskweavn.Task.ProjectionExact
import Taskweavn.Server.HttpRoutes
import Taskweavn.Workspace.DiffText
import Taskweavn.Workspace.GitStatus
import Taskweavn.Llm.Retry
import Taskweavn.Llm.AnthropicCompat
import Taskweavn.Skills.ContextSource
import Taskweavn.Server.SessionActivity
import Taskweavn.Interaction.Risk
