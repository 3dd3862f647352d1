import ScopeGateway.Gateway.Deadline
import ScopeGateway.Gateway.Latch
import ScopeGateway.Gateway.Run
import ScopeGateway.Main
import ScopeGateway.Proofs.Text.Words
import ScopeGateway.Proofs.Text.Utf8
import ScopeGateway.Proofs.Form.Component
import ScopeGateway.Proofs.Form.Params
import ScopeGateway.Proofs.Scope.Amendment
import ScopeGateway.Proofs.Scope.Idempotence
import ScopeGateway.Proofs.Except
import ScopeGateway.Proofs.Http.Uri
import ScopeGateway.Proofs.Url.Path
import ScopeGateway.Proofs.Gateway.Target
import ScopeGateway.Proofs.Gateway.Forwarding
import ScopeGateway.Proofs.Gateway.Transparency
import ScopeGateway.Proofs.Gateway.Overflow
import ScopeGateway.Proofs.Net.Address
import ScopeGateway.Proofs.Http.Field
import ScopeGateway.Proofs.Http.Authority
import ScopeGateway.Proofs.Http.HopByHop
import ScopeGateway.Proofs.Gateway.Fields
import ScopeGateway.Proofs.Gateway.Host
import ScopeGateway.Proofs.Http.ResponseHead
import ScopeGateway.Proofs.Gateway.Conversation
import ScopeGateway.Proofs.Gateway.Relay
import ScopeGateway.Proofs.Gateway.Outcome
import ScopeGateway.Proofs.Gateway.Switch
import ScopeGateway.Proofs.Scope.Sequence
import ScopeGateway.Proofs.Http.UriForms
import ScopeGateway.Proofs.Gateway.Routing
import ScopeGateway.Proofs.Gateway.Stops
import ScopeGateway.Proofs.Gateway.Runs
import ScopeGateway.Proofs.Gateway.LatchLog
import ScopeGateway.Proofs.Gateway.LatchAlone
import ScopeGateway.Proofs.Gateway.LatchStep
import ScopeGateway.Proofs.Gateway.Listening
import ScopeGateway.Proofs.Gateway.Counts
import ScopeGateway.Proofs.Gateway.Sendable
import ScopeGateway.Proofs.Http.Listing
import ScopeGateway.Proofs.Settings.Conditions
import ScopeGateway.Proofs.Settings.Independence
import ScopeGateway.Proofs.Http.PathText
import ScopeGateway.Proofs.Gateway.Requestable
import ScopeGateway.Proofs.Form.Lossless
import ScopeGateway.Proofs.Scope.Unparseable
import ScopeGateway.Proofs.Gateway.Silence
import ScopeGateway.Proofs.Scope.Modes
import ScopeGateway.Proofs.Http.Chain
import ScopeGateway.Proofs.CommandLine.Overrides
import ScopeGateway.Proofs.Toml.Names
import ScopeGateway.Proofs.Settings.Given
import ScopeGateway.Proofs.Settings.Overlay
import ScopeGateway.Proofs.Gateway.Seam
import ScopeGateway.Proofs.Gateway.Retarget
