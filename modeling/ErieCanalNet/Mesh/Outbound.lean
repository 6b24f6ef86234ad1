import Mathlib.Data.Finset.Card
import ErieCanalNet.Mesh.Catalog

/-!
# The outbound traffic policy

`pkg/ecnet/service/policy` and `GetOutboundMeshTrafficPolicy` of `pkg/ecnet/catalog`: every
service of the mesh gets a cluster, a traffic match and, unless its protocol is spelled `tcp` or
`tcp-server-first`, a route by its hostnames.

A set of clusters is a list without duplicates. The addresses of a name are a set; the slice made
of them has its order from the job that encodes it.
-/

namespace Policy

open Go K8s Mesh

/-! ## Policies -/

/-- `weight` is an `int`. -/
structure WeightedCluster where
  clusterName : String
  weight : Int
deriving DecidableEq, Repr

inductive PathMatchType
  | pathMatchRegex
  | pathMatchExact
  | pathMatchPrefix
deriving DecidableEq, Repr

structure HTTPRouteMatch where
  path : String
  pathMatchType : PathMatchType
  methods : List String
  headers : Dict String
deriving DecidableEq

/-- `constants.RegexMatchAll`. -/
def regexMatchAll : String := ".*"

def wildCardRouteMatch : HTTPRouteMatch where
  path := regexMatchAll
  pathMatchType := .pathMatchRegex
  methods := ["*"]
  headers := ∅

structure HTTPRouteMatchWithWeightedClusters where
  upstreamClusters : List WeightedCluster
  routeMatches : List HTTPRouteMatch := []
  hasSplitMatches : Bool := false

structure RouteWeightedClusters where
  httpRouteMatch : HTTPRouteMatch
  weightedClusters : List WeightedCluster
deriving DecidableEq

structure OutboundTrafficPolicy where
  name : String
  hostnames : List String
  routes : List RouteWeightedClusters
deriving DecidableEq

def newOutboundTrafficPolicy (name : String) (hostnames : List String) : OutboundTrafficPolicy :=
  ⟨name, hostnames, []⟩

/-- The set of the given clusters. -/
def clusterSet (clusters : List WeightedCluster) : List WeightedCluster :=
  clusters.foldl (fun set c => if c ∈ set then set else set ++ [c]) []

/-- `AddRoute`; `none` is the error of a match that is there with other clusters. -/
def OutboundTrafficPolicy.addRoute (out : OutboundTrafficPolicy) (httpRouteMatch : HTTPRouteMatch)
    (weightedClusters : List WeightedCluster) : Option OutboundTrafficPolicy :=
  let wc := clusterSet weightedClusters
  match out.routes.find? fun route => route.httpRouteMatch = httpRouteMatch with
  | some route =>
    if route.weightedClusters.length = wc.length ∧ ∀ c ∈ route.weightedClusters, c ∈ wc then some out
    else none
  | none => some { out with routes := out.routes ++ [⟨httpRouteMatch, wc⟩] }

structure TrafficMatch where
  name : String
  destinationPort : Int
  destinationProtocol : String
  weightedClusters : List WeightedCluster
deriving DecidableEq

structure MeshClusterConfig where
  name : String
  service : MeshService
deriving DecidableEq

structure OutboundMeshTrafficPolicy where
  trafficMatches : List TrafficMatch := []
  httpRouteConfigsPerPort : Map Int (List OutboundTrafficPolicy) := ∅
  clustersConfigs : List MeshClusterConfig := []
  servicesResolvableSet : Dict (Finset String) := ∅
deriving DecidableEq

/-! ## Hostnames -/

/-- The hostnames below the trust domain, one pair for each of its segments. -/
def trustHostnames (port hostname : String) : List String → List String
  | [] => []
  | seg :: segs =>
    if seg.isEmpty then trustHostnames port hostname segs
    else
      let hostname := hostname ++ "." ++ seg
      hostname :: (hostname ++ ":" ++ port) :: trustHostnames port hostname segs

/-- `GetHostnamesForService`. -/
def getHostnamesForService (trustDomain : String) (svc : MeshService) (localNamespace : Bool) :
    List String :=
  let port := toString svc.port.toNat
  let hostname := svc.name ++ "." ++ svc.ns
  (if localNamespace then [svc.name, svc.name ++ ":" ++ port] else []) ++
    [hostname, hostname ++ ":" ++ port, hostname ++ ".svc", hostname ++ ".svc" ++ ":" ++ port] ++
    trustHostnames port (hostname ++ ".svc") (split trustDomain '.')

/-! ## The policy of the mesh -/

/-- The first cluster of each name, with the given weights. -/
def firstClusters (weight : WeightedCluster → Int) (clusters : List WeightedCluster) :
    List WeightedCluster :=
  clusters.foldl (fun acc c =>
    if acc.any fun c' => c'.clusterName == c.clusterName then acc
    else acc ++ [⟨c.clusterName, weight c⟩]) []

def getWildCardRouteUpstreamClusters (hasTrafficSplitWildCard : Bool)
    (routeMatches : List HTTPRouteMatchWithWeightedClusters) : List WeightedCluster :=
  if hasTrafficSplitWildCard then
    firstClusters (·.weight)
      ((routeMatches.filter fun rm => !rm.hasSplitMatches).flatMap (·.upstreamClusters))
  else
    firstClusters (fun _ => Multicluster.clusterWeightAcceptAll)
      (routeMatches.flatMap (·.upstreamClusters))

/-- The weight `mergeUpstreamClusters` gives a service. -/
def upstreamWeight (mc : MeshCatalog) (meshSvc : MeshService) : Int :=
  if meshSvc.isMultiClusterService then
    let lb := mc.mc.getLbWeightForService meshSvc
    if lb.aa && 0 < lb.weight then lb.weight
    else if lb.fo then Multicluster.clusterWeightFailOver
    else Multicluster.clusterWeightAcceptAll
  else Multicluster.clusterWeightAcceptAll

def mergeUpstreamClusters (mc : MeshCatalog) (meshSvc : MeshService)
    (upstreamClusters : List WeightedCluster) : List WeightedCluster :=
  upstreamClusters ++ [⟨meshSvc.clusterName, upstreamWeight mc meshSvc⟩]

/-- The route by the hostnames of a service; `none` when it could not be added. -/
def outboundTrafficPolicyOf (trustDomain : String) (meshSvc : MeshService)
    (routeMatches : List HTTPRouteMatchWithWeightedClusters) : Option OutboundTrafficPolicy :=
  let out := newOutboundTrafficPolicy meshSvc.fqdn (getHostnamesForService trustDomain meshSvc false)
  let out := routeMatches.foldl (fun out rm =>
    rm.routeMatches.foldl (fun out route => (out.addRoute route rm.upstreamClusters).getD out) out)
    out
  if routeMatches.any fun rm => rm.routeMatches.any fun route => route.path == regexMatchAll then
    some out
  else out.addRoute wildCardRouteMatch (getWildCardRouteUpstreamClusters true routeMatches)

/-- The protocols whose services have no route by hostname. -/
def isTCP (protocol : String) : Bool := protocol == "tcp" || protocol == "tcp-server-first"

/-- The addresses the name of a service resolves to, if one of them is imported. -/
def resolvableIPSet (mc : MeshCatalog) (meshSvc : MeshService) : Option (Finset String) :=
  let endpoints := mc.getDNSResolvableServiceEndpoints meshSvc
  if endpoints.any fun endp => 0 < endp.clusterKey.length then
    let set := (endpoints.map fun endp => endp.ip.string).toFinset
    if 0 < set.card then some set else none
  else none

/-- The body of the loop over the services. -/
def addService (trustDomain : String) (mc : MeshCatalog) (acc : OutboundMeshTrafficPolicy)
    (meshSvc : MeshService) : OutboundMeshTrafficPolicy :=
  let resolvable :=
    match resolvableIPSet mc meshSvc with
    | some set => acc.servicesResolvableSet.insert meshSvc.fqdn set
    | none => acc.servicesResolvableSet
  let routeMatches : List HTTPRouteMatchWithWeightedClusters :=
    [{ upstreamClusters := mergeUpstreamClusters mc meshSvc [] }]
  let acc := { acc with
    servicesResolvableSet := resolvable
    clustersConfigs := acc.clustersConfigs ++ [⟨meshSvc.clusterName, meshSvc⟩]
    trafficMatches := acc.trafficMatches ++ routeMatches.map fun rm =>
      { name := meshSvc.outboundTrafficMatchName
        destinationPort := meshSvc.port.toNat
        destinationProtocol := meshSvc.protocol
        weightedClusters := rm.upstreamClusters } }
  if isTCP meshSvc.protocol then acc
  else
    match outboundTrafficPolicyOf trustDomain meshSvc routeMatches with
    | none => acc
    | some out =>
      let port : Int := meshSvc.port.toNat
      let configs := (acc.httpRouteConfigsPerPort.lookup port).getD []
      { acc with
        httpRouteConfigsPerPort := acc.httpRouteConfigsPerPort.insert port (configs ++ [out]) }

/-- The policy of a list of services. -/
def outboundPolicyOf (trustDomain : String) (mc : MeshCatalog) (services : List MeshService) :
    OutboundMeshTrafficPolicy :=
  services.foldl (addService trustDomain mc) {}

/-- `GetOutboundMeshTrafficPolicy`. -/
def getOutboundMeshTrafficPolicy (trustDomain : String) (mc : MeshCatalog) :
    OutboundMeshTrafficPolicy :=
  outboundPolicyOf trustDomain mc mc.listMeshServices

end Policy
