import ClusterProbe.Endpoint.Json
import ClusterProbe.Main
import ClusterProbe.Messages.Generic
import ClusterProbe.Protobuf.Document
import ClusterProbe.Report.Document
import ClusterProbe.Report.Entry
import ClusterProbe.Service
import ClusterProbe.Proofs.World
import ClusterProbe.Session.Guard
import ClusterProbe.Proofs.Session.Framing
import ClusterProbe.Proofs.World.Run
import ClusterProbe.Proofs.World.Connection
import ClusterProbe.Proofs.World.Shared
import ClusterProbe.Proofs.World.Account
import ClusterProbe.Proofs.Session.Exchange
import ClusterProbe.Proofs.Session.Guarded
import ClusterProbe.Proofs.Session.Call
import ClusterProbe.Proofs.Session.Routing
import ClusterProbe.Proofs.Session.Survival
import ClusterProbe.Proofs.Cluster.Connecting
import ClusterProbe.Proofs.Traversal
import ClusterProbe.Proofs.Cluster.Discovery
import ClusterProbe.Proofs.Cluster.Standing
import ClusterProbe.Proofs.World.Queues
import ClusterProbe.Proofs.Cluster.Lookup
import ClusterProbe.Proofs.Cluster.Tenure
import ClusterProbe.Proofs.Cluster.Pool
import ClusterProbe.Proofs.Cluster.Slots
import ClusterProbe.Proofs.Cluster.Scene
import ClusterProbe.Proofs.Cluster.Refusal
import ClusterProbe.Proofs.Cluster.Dialing
import ClusterProbe.Proofs.Cluster.SingleFlight
import ClusterProbe.Proofs.Protobuf.Scalars
import ClusterProbe.Proofs.Protobuf.RoundTrip
import ClusterProbe.Proofs.Frame
import ClusterProbe.Proofs.World.Crew
import ClusterProbe.Proofs.World.Custody
import ClusterProbe.Proofs.Session.Clerk
import ClusterProbe.Proofs.Session.Requests
import ClusterProbe.Proofs.Session.Integrity
import ClusterProbe.Proofs.Session.Operations
import ClusterProbe.Proofs.Session.Closing
import ClusterProbe.Proofs.Cluster.Disposal
import ClusterProbe.Proofs.World.Inevitable
import ClusterProbe.Proofs.World.Rehearsal
import ClusterProbe.Proofs.World.Serving
import ClusterProbe.Proofs.Session.Delivery
import ClusterProbe.Proofs.Session.Dialogue
import ClusterProbe.Proofs.Session.Agreement
import ClusterProbe.Proofs.Protobuf.Wire
import ClusterProbe.Proofs.Messages
import ClusterProbe.Proofs.Cluster.Acquaintance
import ClusterProbe.Proofs.Cluster.Resolution
import ClusterProbe.Proofs.Settings
import ClusterProbe.Proofs.Session.Numbering
import ClusterProbe.Proofs.World.Ensemble
import ClusterProbe.Proofs.World.Holdings
import ClusterProbe.Proofs.World.Hands
import ClusterProbe.Proofs.World.Estate
import ClusterProbe.Proofs.Plan
import ClusterProbe.Proofs.Survey
import ClusterProbe.Proofs.Task
import ClusterProbe.Proofs.Frame.Truncation
import ClusterProbe.Proofs.Frame.Normalizing
import ClusterProbe.Proofs.Session.Reception
import ClusterProbe.Proofs.Cluster.Usability
import ClusterProbe.Proofs.Endpoint.RoundTrip
import ClusterProbe.Proofs.Cluster.Attempt
import ClusterProbe.Proofs.Cluster.Roundup
import ClusterProbe.Proofs.Duration
import ClusterProbe.Proofs.Endpoint.Shown
import ClusterProbe.Proofs.Tls
import ClusterProbe.Proofs.Cluster.Belongings
import ClusterProbe.Proofs.Cluster.Isolation
import ClusterProbe.Proofs.Ping
import ClusterProbe.Proofs.Table
import ClusterProbe.Proofs.Testbed.History
import ClusterProbe.Proofs.Testbed.Network
import ClusterProbe.Proofs.Testbed.Books
import ClusterProbe.Proofs.Testbed.Accounts
