import TopologyHooks.Main
import TopologyHooks.Proofs.Handler.Survival
import TopologyHooks.Proofs.Mutation.Reachability
import TopologyHooks.Proofs.Handler.Independence
import TopologyHooks.Proofs.Encoding.Base64
import TopologyHooks.Proofs.Json.Lexing
import TopologyHooks.Proofs.Json.RoundTrip
import TopologyHooks.Proofs.Patch.Attempts
import TopologyHooks.Proofs.Patch.Wire
import TopologyHooks.Proofs.Mutation.Calls
import TopologyHooks.Proofs.Handler.Lookup
import TopologyHooks.Proofs.Handler.Building
import TopologyHooks.Proofs.Handler.Validation
import TopologyHooks.Proofs.Handler.Agreement
import TopologyHooks.Proofs.Handler.Separation
import TopologyHooks.Proofs.Handler.Selection
import TopologyHooks.Proofs.Endpoint.Calls
import TopologyHooks.Proofs.Endpoint.Classification
import TopologyHooks.Proofs.Lifecycle.Frame
import TopologyHooks.Proofs.Lifecycle.Race
import TopologyHooks.Proofs.Schema.Acceptance
import TopologyHooks.Proofs.Handler.Discovery
import TopologyHooks.Proofs.Template.Canonical
import TopologyHooks.Proofs.Variable.PointUpdate
import TopologyHooks.Proofs.Lifecycle.Discipline
import TopologyHooks.Proofs.Schema.Bounds
import TopologyHooks.Proofs.Feature.Users
import TopologyHooks.Proofs.Feature.NodeImage
import TopologyHooks.Proofs.Feature.NodeFiles
import TopologyHooks.Proofs.Feature.Certificates
import TopologyHooks.Proofs.Handler.Reordering
import TopologyHooks.Proofs.Template.Editing
