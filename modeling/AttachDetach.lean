import AttachDetach.Types
import AttachDetach.StateMachine
import AttachDetach.Mutators
import AttachDetach.Reconcile
import AttachDetach.System
import AttachDetach.Recover
import AttachDetach.Analyze
import AttachDetach.Proofs.Events
import AttachDetach.Proofs.StoreStep
import AttachDetach.Proofs.Transitions
import AttachDetach.Proofs.Detail
import AttachDetach.Proofs.Races
import AttachDetach.Proofs.Retry
import AttachDetach.Proofs.Promote
import AttachDetach.Proofs.Conflicts
import AttachDetach.Proofs.Recover
import AttachDetach.Proofs.Lock
import AttachDetach.Proofs.Calls
import AttachDetach.Proofs.Rerun
import AttachDetach.Proofs.Stranded
import AttachDetach.Proofs.Progress
import AttachDetach.Proofs.RecoverSteps
import AttachDetach.Proofs.Lifetime
import AttachDetach.Proofs.Analyze
import AttachDetach.Proofs.Queries
