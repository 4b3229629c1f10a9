import Savor.Execution.PumpLoop
import Savor.Execution.Cleanup
import Savor.Execution.Effects
import Savor.Codec.ProgramDefinitionStore
import Savor.Worksets.LedgerLaws
import Savor.Resources.ResourceLaws
import Savor.StopPoints.ShutdownLaws
import Savor.StopPoints.PlanExactness
import Savor.Input.PortLaws
import Savor.Input.DeliveryLaws
import Savor.Wrms.PayloadLaws
import Savor.Wrms.OutboundPublisher
import Savor.Guest.MutationLaws
import Savor.Guest.PowerPcMemoryAccess
import Savor.Probe.HitLaws
import Savor.Probe.LossLaws
import Savor.Probe.AddressPrograms
import Savor.Workflow.CancellationLaws
import Savor.Workflow.LaunchLaws
import Savor.Predicates.PackageLaws
import Savor.Movie.HeritageLaws
import Savor.Movie.PollEditing
import Savor.DerivedState.DerivedLaws
import Savor.Execution.CompletionBudget
import Savor.Execution.CheckedIntegers
import Savor.Verify.Dominance
import Savor.Value.Utf8
