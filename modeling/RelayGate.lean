import RelayGate.Authorization.Grants
import RelayGate.Destination.Grammar
import RelayGate.Gateway.Answers
import RelayGate.Gateway.Batching
import RelayGate.Gateway.Departure
import RelayGate.Gateway.Drain
import RelayGate.Gateway.Provenance
import RelayGate.Gateway.RateBounds
import RelayGate.Gateway.Rotation
import RelayGate.Peer.Attempts
import RelayGate.Peer.Probing
import RelayGate.Peer.RoundTrip
import RelayGate.Protocol.RoundTrip
import RelayGate.Relay.Recovery
import RelayGate.RouteTable.Refinement
import RelayGate.RouteTable.Revisions
import RelayGate.Routing.Desired
import RelayGate.Routing.Renewal
import RelayGate.Routing.Terminality
import RelayGate.Sdk.Closing
import RelayGate.Sdk.Delivery
import RelayGate.Sdk.Dialing
