import ErieCanalNet.Bridge.Sync
import ErieCanalNet.Lib.Run

/-!
# The bridge of a node

`pkg/ecnet/bridge/dataplane/server`: the server of a node and the job it runs after every update of
the proxies. The shadow maps are the server's, and empty when it is made (`NewBridgeServer`). The
kernel maps are pinned: a server that is started again finds them as they were left, unless the
last one was stopped, which removes them (`UnLoadProgs`, `make -k clean`). They are LRU maps, so
that an entry can go at any time.

A job that panics takes its process with it, and is no step here.
-/

namespace Bridge

open Go K8s Lib

/-- `BridgeNodeWatcherJob`: what its run reads, and which updates of the kernel map succeed. -/
structure BridgeNodeWatcherJob where
  dns : DNSSpec
  kubeController : K8s.Client
  policy : OutboundMeshTrafficPolicy
  endpointOrder : RangeOrder
  resolveOrder : RangeOrder
  updateOk : String → BitVec 16 → Bool
  deleteOk : String → BitVec 16 → Bool

/-- The maps of the server and of the kernel. -/
structure Node where
  endpoints : EndpointState
  resolves : ResolveState

/-- Nothing in any map. -/
def Node.new : Node := ⟨⟨∅, fun _ => none⟩, ⟨∅, fun _ => none⟩⟩

section

variable (pack : List Byte → Option (List Byte)) (bridgeIPInt : BitVec 32)

/-- The kernel side of a run. -/
def BridgeNodeWatcherJob.env (job : BridgeNodeWatcherJob) : ResolveEnv :=
  ⟨pack, bridgeIPInt, job.updateOk, job.deleteOk⟩

/-- `Run`. -/
def BridgeNodeWatcherJob.run (job : BridgeNodeWatcherJob) (node : Node) : Except GoPanic Node := do
  let endpoints ← syncDNSEndpoints job.endpointOrder job.dns job.kubeController node.endpoints
  return {
    endpoints
    resolves := syncDNSResolves (job.env pack bridgeIPInt) job.resolveOrder job.policy
      node.resolves }

inductive NodeEvent
  | job (job : BridgeNodeWatcherJob)
  /-- The process ends and a new one is started; `stopped` if it ended by `Stop`. -/
  | restart (stopped : Bool)
  | evictResolve (q : DnsQuery)
  | evictEndpoint (eip : Addr)

def Node.step (node : Node) : NodeEvent → Option Node
  | .job job => (job.run pack bridgeIPInt node).toOption
  | .restart true => some .new
  | .restart false => some ⟨⟨∅, node.endpoints.endpt⟩, ⟨∅, node.resolves.resdb⟩⟩
  | .evictResolve q =>
    some { node with
      resolves := { node.resolves with resdb := Function.update node.resolves.resdb q none } }
  | .evictEndpoint eip =>
    some { node with
      endpoints := { node.endpoints with endpt := Function.update node.endpoints.endpt eip none } }

/-- The states a node can reach, with the events on the way. -/
def Node.Reaches (events : List NodeEvent) (node : Node) : Prop :=
  Run (fun node e node' => node.step pack bridgeIPInt e = some node') Node.new events node

end

end Bridge
