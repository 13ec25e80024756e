import PolicyOperator.ApiServer.Objects
import PolicyOperator.Controller
import PolicyOperator.Json.Path
import PolicyOperator.Json.Pointer
import PolicyOperator.Main
import PolicyOperator.Release.Helm
import PolicyOperator.Proofs.Computation
import PolicyOperator.Proofs.Store.Writes
import PolicyOperator.Proofs.Cluster.Writes
import PolicyOperator.Proofs.Artifact
import PolicyOperator.Proofs.Engine.Rendered
import PolicyOperator.Proofs.Engine.Experiments
import PolicyOperator.Proofs.Engine.Rules
import PolicyOperator.Proofs.Engine.Scans
import PolicyOperator.Proofs.Engine
import PolicyOperator.Proofs.Lifecycle.Finalizers
import PolicyOperator.Proofs.Policies.Leftovers
import PolicyOperator.Proofs.Policies.Orphans
import PolicyOperator.Proofs.Policies.Truthful
import PolicyOperator.Proofs.Cluster.Reached
import PolicyOperator.Proofs.Lifecycle.Reached
import PolicyOperator.Proofs.Artifact.Current
import PolicyOperator.Proofs.Engine.Settled
import PolicyOperator.Proofs.Lifecycle.Settled
import PolicyOperator.Proofs.Policies.Convergence
import PolicyOperator.Proofs.Engine.Reconciled
import PolicyOperator.Proofs.Policies.Interference
import PolicyOperator.Proofs.Lifecycle.Work
import PolicyOperator.Proofs.Policies.Staleness
import PolicyOperator.Proofs.Release.Calls
import PolicyOperator.Proofs.Release.Package
import PolicyOperator.Proofs.Lifecycle.Tool
import PolicyOperator.Proofs.Tools.Releases
import PolicyOperator.Proofs.Store.Requests
import PolicyOperator.Proofs.Engine.Upserts
import PolicyOperator.Proofs.Engine.Idempotence
import PolicyOperator.Proofs.Engine.Retired
import PolicyOperator.Proofs.Engine.Interrupted
import PolicyOperator.Proofs.Engine.Outcome
import PolicyOperator.Proofs.Policies.Replay
import PolicyOperator.Proofs.Lifecycle.Amended
import PolicyOperator.Proofs.Store.Lifetimes
import PolicyOperator.Proofs.Lifecycle.Rejected
import PolicyOperator.Proofs.Engine.Removed
import PolicyOperator.Proofs.Lifecycle.Finalized
import PolicyOperator.Proofs.Tools.Serviced
import PolicyOperator.Proofs.Policies.Rescans
import PolicyOperator.Proofs.Reports.Reviewed
import PolicyOperator.Proofs.Engine.Jobs
import PolicyOperator.Proofs.Store.Parts
import PolicyOperator.Proofs.Store.Encoded
import PolicyOperator.Proofs.Tools.Health
import PolicyOperator.Proofs.Wire.Canonical
import PolicyOperator.Proofs.Reports.Severity
import PolicyOperator.Proofs.Reports.Published
import PolicyOperator.Proofs.Reports.Scanned
import PolicyOperator.Proofs.Reports.Quiescent
import PolicyOperator.Proofs.Reports.Paced
import PolicyOperator.Proofs.Engine.Coverage
import PolicyOperator.Proofs.Release.Values
import PolicyOperator.Proofs.Release.Polling
import PolicyOperator.Proofs.Text.Order
import PolicyOperator.Proofs.Engine.Scoping
import PolicyOperator.Proofs.Engine.Documents
import PolicyOperator.Proofs.Condition
import PolicyOperator.Proofs.Naming
import PolicyOperator.Proofs.ApiServer.Selection
