import CallGuard.Hierarchy.Declare
import CallGuard.Interceptor.Chain
import CallGuard.Metrics
import CallGuard.Proofs.Call.Sequence
import CallGuard.Rehearsal.Action
import CallGuard.Rehearsal.Names
import CallGuard.Rehearsal.Recording
import CallGuard.Rehearsal.Step
import CallGuard.Settings.Loader
import CallGuard.Setup
import CallGuard.Telemetry.Basic
import CallGuard.Proofs.Call.Interleaving
import CallGuard.Proofs.Advice.Registration
import CallGuard.Proofs.Advice.Resolution
import CallGuard.Proofs.Advice.Specificity
import CallGuard.Proofs.Advice.Acceptance
import CallGuard.Proofs.Advice.Argument
import CallGuard.Proofs.Call.Closing
import CallGuard.Proofs.Call.Escape
import CallGuard.Proofs.Interceptor.Outermost
import CallGuard.Proofs.Settings.Layering
import CallGuard.Proofs.Setup.Settling
import CallGuard.Proofs.Setup.Conservation
import CallGuard.Proofs.Setup.Deciding
import CallGuard.Proofs.Hierarchy.Walk
import CallGuard.Proofs.Hierarchy.Declarations
import CallGuard.Proofs.Call.Unmapped
import CallGuard.Proofs.Interceptor.Stacking
import CallGuard.Proofs.Hierarchy.Order
import CallGuard.Proofs.Fault.Derivation
import CallGuard.Proofs.Advice.Handling
import CallGuard.Proofs.Interceptor.Delivery
import CallGuard.Proofs.Advice.Extension
import CallGuard.Proofs.Advice.Repetition
import CallGuard.Proofs.Advice.Reordering
import CallGuard.Proofs.Interceptor.Failing
import CallGuard.Proofs.Metadata.Merging
import CallGuard.Proofs.Interceptor.Passing
import CallGuard.Proofs.Fault.Identity
