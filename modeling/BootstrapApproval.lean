import BootstrapApproval.Handler
import BootstrapApproval.Http
import BootstrapApproval.Lifecycle
import BootstrapApproval.Main
import BootstrapApproval.Text.Template
import BootstrapApproval.Logging.Composition
import BootstrapApproval.Logging.Invocation
import BootstrapApproval.Proofs.Interleaving.Approvals
import BootstrapApproval.Proofs.Interleaving.ConditionalWrites
import BootstrapApproval.Proofs.Interleaving.Finality
import BootstrapApproval.Proofs.Reconciler.Decision
import BootstrapApproval.Proofs.Reconciler.Filter
import BootstrapApproval.Proofs.Request.Fidelity
import BootstrapApproval.Proofs.Carried
import BootstrapApproval.Proofs.Discreet
import BootstrapApproval.Proofs.Handler.Reports
import BootstrapApproval.Proofs.Handler.Story
import BootstrapApproval.Proofs.Handler.Replies
import BootstrapApproval.Proofs.Handler.Errands
import BootstrapApproval.Proofs.Reconciler.Steady
import BootstrapApproval.Proofs.Request.Versioned
import BootstrapApproval.Proofs.Handler.Retries
import BootstrapApproval.Proofs.Handler.Counters
import BootstrapApproval.Proofs.Interleaving.Identities
import BootstrapApproval.Proofs.Reconciler.Trial
import BootstrapApproval.Proofs.Isolation.Runs
import BootstrapApproval.Proofs.Health.Surfaces
import BootstrapApproval.Proofs.Reconciler.Indifference
import BootstrapApproval.Proofs.Reconciler.Lookups
import BootstrapApproval.Proofs.Handler.Malformed
import BootstrapApproval.Proofs.Handler.Silence
import BootstrapApproval.Proofs.Request.Cycles
import BootstrapApproval.Proofs.Handler.Probes
import BootstrapApproval.Proofs.Handler.Correlation
import BootstrapApproval.Proofs.Logging.Lines
import BootstrapApproval.Proofs.Loading
import BootstrapApproval.Proofs.Lifecycle
import BootstrapApproval.Proofs.Logging.Levels
import BootstrapApproval.Proofs.Handler.Credentials
import BootstrapApproval.Proofs.Settings.Fields
import BootstrapApproval.Proofs.Settings.Files
import BootstrapApproval.Proofs.Settings.Lines
import BootstrapApproval.Proofs.Settings.Resolution
