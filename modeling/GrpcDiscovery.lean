import GrpcDiscovery.Config.Location
import GrpcDiscovery.Discovery.Json
import GrpcDiscovery.Proofs.Descriptor.RoundTrip
import GrpcDiscovery.Proofs.Discovery.Fresh
import GrpcDiscovery.Proofs.Template.Accepted
import GrpcDiscovery.Wire.Step
import GrpcDiscovery.Proofs.Discovery.Requests
import GrpcDiscovery.Proofs.Schema.Earlier
import GrpcDiscovery.Proofs.Discovery.Lookups
import GrpcDiscovery.Proofs.Index.Lookup
import GrpcDiscovery.Proofs.Schema.Overlay
import GrpcDiscovery.Proofs.Discovery.Informed
import GrpcDiscovery.Proofs.Discovery.Lockstep
import GrpcDiscovery.Proofs.Discovery.Described
import GrpcDiscovery.Proofs.Discovery.Versions
import GrpcDiscovery.Proofs.Discovery.Latest
import GrpcDiscovery.Proofs.Discovery.Fallback
import GrpcDiscovery.Proofs.Discovery.Undecodable
import GrpcDiscovery.Proofs.Discovery.Repeats
import GrpcDiscovery.Proofs.Schema.Levels
import GrpcDiscovery.Proofs.Template.Budgets
import GrpcDiscovery.Proofs.Validation.Deeper
import GrpcDiscovery.Proofs.Wire.Skipping
import GrpcDiscovery.Proofs.Descriptor.Unrecognized
import GrpcDiscovery.Proofs.Descriptor.Merge
import GrpcDiscovery.Proofs.Validation.Conformance
import GrpcDiscovery.Proofs.Schema.JsonForm
import GrpcDiscovery.Proofs.Schema.Memo
import GrpcDiscovery.Proofs.Index.LastWrite
import GrpcDiscovery.Proofs.Index.Replaced
import GrpcDiscovery.Proofs.Schema.FullNames
import GrpcDiscovery.Proofs.Validation.Paths
import GrpcDiscovery.Proofs.Discovery.Reported
import GrpcDiscovery.Proofs.Reflection.Outcomes
import GrpcDiscovery.Proofs.Validation.Spellings
import GrpcDiscovery.Proofs.Text.Base64
import GrpcDiscovery.Proofs.Wire.Bounds
import GrpcDiscovery.Proofs.Descriptor.Failures
import GrpcDiscovery.Proofs.Reflection.Endpoint
import GrpcDiscovery.Proofs.Descriptor.Aliases
