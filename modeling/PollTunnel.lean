import PollTunnel.Access.Algorithm
import PollTunnel.Access.Error
import PollTunnel.Access.Key
import PollTunnel.Access.Policy
import PollTunnel.Access.SharedSecret
import PollTunnel.Access.Token
import PollTunnel.Access.TokenCheck
import PollTunnel.Bytes
import PollTunnel.Calendar
import PollTunnel.Command.Arguments
import PollTunnel.Command.Startup
import PollTunnel.Config.Binding
import PollTunnel.Config.Environment
import PollTunnel.Config.Form
import PollTunnel.Config.Loading
import PollTunnel.Config.Location
import PollTunnel.Config.Schema
import PollTunnel.Config.Validation
import PollTunnel.Crypto.Edwards
import PollTunnel.Crypto.Hmac
import PollTunnel.Crypto.Power
import PollTunnel.Crypto.Rsa
import PollTunnel.Crypto.Sha2
import PollTunnel.Crypto.Weierstrass
import PollTunnel.Duration
import PollTunnel.Encoding.Base64
import PollTunnel.Encoding.Der
import PollTunnel.Encoding.Pem
import PollTunnel.Files
import PollTunnel.Http.Connection
import PollTunnel.Http.Gateway
import PollTunnel.Http.Header
import PollTunnel.Http.Message
import PollTunnel.Http.Route
import PollTunnel.IoError
import PollTunnel.Json
import PollTunnel.Json.Reader
import PollTunnel.Lifecycle.Signal
import PollTunnel.Live.Basic
import PollTunnel.Live.Exporter
import PollTunnel.Live.Local
import PollTunnel.Live.Remote
import PollTunnel.Live.Running
import PollTunnel.Log
import PollTunnel.Log.Line
import PollTunnel.Main
import PollTunnel.Metrics
import PollTunnel.Net.Listener
import PollTunnel.Net.SocketAddress
import PollTunnel.Net.Tracker
import PollTunnel.Number.Binary64
import PollTunnel.Number.Decimal
import PollTunnel.Number.Shortest
import PollTunnel.Payload
import PollTunnel.Payload.Forwarder
import PollTunnel.Payload.Framing
import PollTunnel.Payload.Sink
import PollTunnel.Payload.Source
import PollTunnel.Proofs.Access.Credentials
import PollTunnel.Proofs.Access.Soundness
import PollTunnel.Proofs.Circuit.Closing
import PollTunnel.Proofs.Circuit.Overlap
import PollTunnel.Proofs.Circuit.Polling
import PollTunnel.Proofs.Circuit.Streams
import PollTunnel.Proofs.Clients.Turns
import PollTunnel.Proofs.Delivery.Admission
import PollTunnel.Proofs.Delivery.Failure
import PollTunnel.Proofs.Delivery.Reading
import PollTunnel.Proofs.Delivery.Recovery
import PollTunnel.Proofs.Delivery.Window
import PollTunnel.Proofs.Gateway.Refusals
import PollTunnel.Proofs.Handover.Runs
import PollTunnel.Proofs.Layers.Binding
import PollTunnel.Proofs.Layers.Confinement
import PollTunnel.Proofs.Layers.Failing
import PollTunnel.Proofs.Layers.Merging
import PollTunnel.Proofs.Layers.Readable
import PollTunnel.Proofs.Pairing.Paired
import PollTunnel.Proofs.Requests.Answered
import PollTunnel.Proofs.Sessions.Expiry
import PollTunnel.Proofs.Sessions.Succession
import PollTunnel.Proofs.Startup.Secrets
import PollTunnel.Proofs.Startup.Serving
import PollTunnel.Text.Blank
import PollTunnel.Text.Case
import PollTunnel.Text.Printable
import PollTunnel.Text.Quoted
import PollTunnel.Text.Utf8
import PollTunnel.Toml
import PollTunnel.Toml.Outline
import PollTunnel.Toml.Reader
import PollTunnel.Toml.Scalar
import PollTunnel.Tunnel.Answer
import PollTunnel.Tunnel.Channel
import PollTunnel.Tunnel.Client
import PollTunnel.Tunnel.Endpoint
import PollTunnel.Tunnel.Error
import PollTunnel.Tunnel.Server
import PollTunnel.Tunnel.Session
import PollTunnel.Tunnel.Tasks
import PollTunnel.Tunnel.Waiting
import PollTunnel.Url
import PollTunnel.Url.Host
import PollTunnel.Url.Percent
import PollTunnel.Url.Punycode
import PollTunnel.Proofs.Clients.Census
import PollTunnel.Proofs.Startup.Reports
