import PodTelemetry.Agent.Codec
import PodTelemetry.Cluster.ApiServer
import PodTelemetry.Cluster.Description
import PodTelemetry.Http.Router
import PodTelemetry.Main
import PodTelemetry.Proofs.Admission.Answer
import PodTelemetry.Proofs.Admission.Refusal
import PodTelemetry.Proofs.Admission.Timing
import PodTelemetry.Proofs.Agent.Forms
import PodTelemetry.Proofs.Agent.RoundTrip
import PodTelemetry.Proofs.Attributes.Closure
import PodTelemetry.Proofs.Attributes.Derivation
import PodTelemetry.Proofs.Attributes.Filling
import PodTelemetry.Proofs.Attributes.Merging
import PodTelemetry.Proofs.Attributes.Owners
import PodTelemetry.Proofs.Attributes.Rendering
import PodTelemetry.Proofs.Attributes.RoundTrip
import PodTelemetry.Proofs.Cluster.Paths
import PodTelemetry.Proofs.Cluster.Serving
import PodTelemetry.Proofs.Deadline
import PodTelemetry.Proofs.Entries
import PodTelemetry.Proofs.Extends
import PodTelemetry.Proofs.Injection.Additive
import PodTelemetry.Proofs.Injection.Declarations
import PodTelemetry.Proofs.Injection.Duplicates
import PodTelemetry.Proofs.Injection.Failure
import PodTelemetry.Proofs.Injection.Filling
import PodTelemetry.Proofs.Injection.Footprint
import PodTelemetry.Proofs.Injection.Influence
import PodTelemetry.Proofs.Injection.Injectors
import PodTelemetry.Proofs.Injection.Lists
import PodTelemetry.Proofs.Injection.Loading
import PodTelemetry.Proofs.Injection.Precedence
import PodTelemetry.Proofs.Injection.Repetition
import PodTelemetry.Proofs.Injection.ServiceName
import PodTelemetry.Proofs.Injection.Stability
import PodTelemetry.Proofs.Injection.Subsumption
import PodTelemetry.Proofs.Injection.Variables
import PodTelemetry.Proofs.Json.Decoding
import PodTelemetry.Proofs.Json.Differences
import PodTelemetry.Proofs.Json.Operations
import PodTelemetry.Proofs.Json.Ordered
import PodTelemetry.Proofs.Json.Pointer
import PodTelemetry.Proofs.Json.Transfer
import PodTelemetry.Proofs.Kubernetes.Codec
import PodTelemetry.Proofs.Kubernetes.FirstContainer
import PodTelemetry.Proofs.Kubernetes.Growth
import PodTelemetry.Proofs.Kubernetes.Ordered
import PodTelemetry.Proofs.Mutation.Decision
import PodTelemetry.Proofs.Mutation.Discipline
import PodTelemetry.Proofs.Mutation.Footprint
import PodTelemetry.Proofs.Mutation.Influence
import PodTelemetry.Proofs.Mutation.Outcome
import PodTelemetry.Proofs.Mutation.Patching
import PodTelemetry.Proofs.Mutation.Reports
import PodTelemetry.Proofs.Mutation.Resemblance
import PodTelemetry.Proofs.Mutation.Stability
import PodTelemetry.Proofs.Procedure
import PodTelemetry.Proofs.Resemblance
import PodTelemetry.Proofs.Session.Admissions
import PodTelemetry.Proofs.Session.Readmission
import PodTelemetry.Proofs.Session.Settings
import PodTelemetry.Proofs.Text.Blank
import PodTelemetry.Proofs.Text.Bytes
import PodTelemetry.Proofs.Text.Pieces
import PodTelemetry.Session
