import ErieCanalNet.Lib.Bytes
import ErieCanalNet.Lib.Packet
import ErieCanalNet.Lib.Dns
import ErieCanalNet.Lib.Interact
import ErieCanalNet.Lib.Run
import ErieCanalNet.Go.Strings
import ErieCanalNet.Go.Map
import ErieCanalNet.Go.Net
import ErieCanalNet.K8s.Types
import ErieCanalNet.Mesh.Service
import ErieCanalNet.K8s.Client
import ErieCanalNet.Mesh.Multicluster
import ErieCanalNet.Mesh.Providers
import ErieCanalNet.Mesh.Proof.Upstream
import ErieCanalNet.Repo.Client
import ErieCanalNet.Repo.Publish
import ErieCanalNet.Repo.Proof.ETag
import ErieCanalNet.Bridge.Maps
import ErieCanalNet.Bridge.Sync
import ErieCanalNet.Bridge.Proof.Endpoints
import ErieCanalNet.Bridge.Proof.Resolves
import ErieCanalNet.Bpf.DnsProxy
import ErieCanalNet.Bpf.Sockets
import ErieCanalNet.Bpf.Connections
import ErieCanalNet.Bpf.Proof.ParseQuery
import ErieCanalNet.Bpf.Proof.Pass
import ErieCanalNet.Bpf.Proof.Reply
import ErieCanalNet.Bpf.Proof.Sockets
import ErieCanalNet.Bpf.Proof.Connections
import ErieCanalNet.Bpf.Proof.OrigDst
import ErieCanalNet.Bpf.Proof.Redirmsg
import ErieCanalNet.Messaging.Dispatcher
import ErieCanalNet.Messaging.Proof.Dispatcher
import ErieCanalNet.Go.Time
import ErieCanalNet.Ticker.Resync
import ErieCanalNet.Ticker.Proof.Resync
import ErieCanalNet.Mesh.Catalog
import ErieCanalNet.Mesh.Outbound
import ErieCanalNet.Lib.Table
import ErieCanalNet.Ctrl.PipyConf
import ErieCanalNet.Ctrl.Generate
import ErieCanalNet.Ctrl.Job
import ErieCanalNet.Mesh.Proof.Names
import ErieCanalNet.Mesh.Proof.Outbound
import ErieCanalNet.Ctrl.Proof.Compile
import ErieCanalNet.Ctrl.Proof.Routes
import ErieCanalNet.Ctrl.Proof.Clusters
import ErieCanalNet.Ctrl.Proof.Job
import ErieCanalNet.Ctrl.Proof.Weights
import ErieCanalNet.Ctrl.Proof.Dial
import ErieCanalNet.Mesh.Proof.Listed
import ErieCanalNet.Mesh.Proof.Lookups
import ErieCanalNet.Ctrl.Proof.Planes
import ErieCanalNet.Messaging.Events
import ErieCanalNet.Messaging.Proof.Events
import ErieCanalNet.Go.Json
import ErieCanalNet.Go.JsonDecode
import ErieCanalNet.Ctrl.Marshal
import ErieCanalNet.Ctrl.Proof.Marshal
import ErieCanalNet.Mesh.Proof.Relisted
import ErieCanalNet.Ctrl.Proof.Text
import ErieCanalNet.Ctrl.Proof.Order
import ErieCanalNet.Ticker.Proof.Single
import ErieCanalNet.Lib.Checksum
import ErieCanalNet.Bpf.Proof.IpChecksum
import ErieCanalNet.Bpf.Proof.Frame
import ErieCanalNet.Bpf.Proof.UdpChecksum
import ErieCanalNet.Lib.Ipv4
import ErieCanalNet.Bpf.Proof.Consumed
import ErieCanalNet.Bridge.Proof.Installs
import ErieCanalNet.Bridge.Proof.Delete
import ErieCanalNet.Bridge.Proof.Panics
import ErieCanalNet.Repo.Proof.Exchange
import ErieCanalNet.Mesh.Proof.Excluded
import ErieCanalNet.Mesh.Proof.Decoys
import ErieCanalNet.Ctrl.Proof.Exclusion
import ErieCanalNet.Proxy.CircuitBreaker
import ErieCanalNet.Proxy.Proof.CircuitBreaker
import ErieCanalNet.Ctrl.Proof.Codec
import ErieCanalNet.Ctrl.Proof.Rebalance
import ErieCanalNet.Mesh.Proof.TargetPorts
import ErieCanalNet.Mesh.Hostname
import ErieCanalNet.Mesh.Proof.Hostname
import ErieCanalNet.Lib.Sort
import ErieCanalNet.Proxy.Routing
import ErieCanalNet.Ctrl.Proof.RuleOrder
import ErieCanalNet.Go.IpText
import ErieCanalNet.Ctrl.Proof.EndpointKeys
import ErieCanalNet.Mesh.Proof.OneToOne
import ErieCanalNet.Mesh.Proof.Annotations
import ErieCanalNet.Proxy.Config
import ErieCanalNet.Proxy.Proof.Visits
import ErieCanalNet.Proxy.Proof.Config
import ErieCanalNet.Proxy.Load
import ErieCanalNet.Proxy.Proof.Load
import ErieCanalNet.Proxy.Balancer
import ErieCanalNet.Proxy.Outbound
import ErieCanalNet.Proxy.Proof.Retry
import ErieCanalNet.Proxy.Proof.Outbound
import ErieCanalNet.Proxy.Proof.Loads
import ErieCanalNet.Proxy.Proof.Published
import ErieCanalNet.Proxy.Proof.Serves
import ErieCanalNet.Proxy.Proof.Connects
import ErieCanalNet.Bridge.Node
import ErieCanalNet.Bridge.Proof.Node
import ErieCanalNet.Bpf.Proof.Node
import ErieCanalNet.Bpf.Proof.Redirects
import ErieCanalNet.Proxy.Proof.Path
import ErieCanalNet.Lib.Arena
import ErieCanalNet.Ctrl.Pointers
import ErieCanalNet.Ctrl.Proof.Pointers
import ErieCanalNet.Ctrl.Proof.Indexes
import ErieCanalNet.Lib.WorkQueue
import ErieCanalNet.Lib.PubSub
import ErieCanalNet.Workerpool.Pool
import ErieCanalNet.Workerpool.Proof.Pool
import ErieCanalNet.Messaging.Broker
import ErieCanalNet.Messaging.System
import ErieCanalNet.Messaging.Proof.Steps
import ErieCanalNet.Messaging.Proof.System
import ErieCanalNet.Messaging.Proof.Updates
import ErieCanalNet.Messaging.Proof.Progress
import ErieCanalNet.Messaging.Proof.Stuck
import ErieCanalNet.Messaging.Proof.Rest
import ErieCanalNet.Messaging.Proof.Counters
import ErieCanalNet.Messaging.Informers
import ErieCanalNet.Messaging.Proof.Informers
