import IgaScheduler.AttemptCounter
import IgaScheduler.AuditTrail
import IgaScheduler.BatchClaimExclusivity
import IgaScheduler.CancelAcknowledgement
import IgaScheduler.CancelColumns
import IgaScheduler.ConfidentialParameters
import IgaScheduler.DeclaredRuns
import IgaScheduler.DeletedDefinitions
import IgaScheduler.DeletedInstances
import IgaScheduler.DispatchDisclosure
import IgaScheduler.DispatchFencing
import IgaScheduler.EditSerialization
import IgaScheduler.EntrypointSyntax
import IgaScheduler.ExecutionSettlement
import IgaScheduler.IgaProxyBinding
import IgaScheduler.InstanceRows
import IgaScheduler.InternalAccess
import IgaScheduler.JobContext
import IgaScheduler.KillTimers
import IgaScheduler.LocalDefinitions
import IgaScheduler.LocalInstances
import IgaScheduler.LocalStandIn
import IgaScheduler.MetadataSnapshot
import IgaScheduler.OutcomeRecords
import IgaScheduler.OutputCapture
import IgaScheduler.PipelineRefinement
import IgaScheduler.PollTimers
import IgaScheduler.ProxyProtocol
import IgaScheduler.PythonJson
import IgaScheduler.PythonResults
import IgaScheduler.RelationalViews
import IgaScheduler.RequiredParameters
import IgaScheduler.ResourceLimits
import IgaScheduler.RunDispatcher
import IgaScheduler.RunIdCollisions
import IgaScheduler.RunLifecycle
import IgaScheduler.ScheduledFireTimes
import IgaScheduler.SecretConfinement
import IgaScheduler.StaleClaims
import IgaScheduler.StartGate
import IgaScheduler.Starvation
import IgaScheduler.TickIsolation
import IgaScheduler.TickSummary
import IgaScheduler.TokenRefreshes
import IgaScheduler.VersionPinning
import IgaScheduler.WorkerDrain
import IgaScheduler.WorkerRegistry
import IgaScheduler.CivilOrder
