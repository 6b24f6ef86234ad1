import Mathlib.Data.Finset.Sort
import Mathlib.Data.String.Basic
import ErieCanalNet.Ctrl.PipyConf

/-!
# The config generator

`pkg/ecnet/bridge/ctrlplane/server/{util,jobs,plugin}.go`: the job compiles the outbound policy of
the catalog to a `PipyConf`. The routes are generated first; the clusters they name are then given
their endpoints.

`none` is a run that ends in a panic: the service of a traffic match is `nil` when its name cannot
be taken apart, and is used all the same.
-/

namespace Ctrl

open Go Lib Mesh Policy

/-- What a run does not take from the cluster: the trust domain, the order of the visits of maps and
sets, and what `sort.Sort` makes of two items or more. -/
structure Env where
  trustDomain : String
  order : RangeOrder
  sortRules : OutboundHTTPRouteRules → OutboundHTTPRouteRules
  sortPlugins : {α : Type} → (α → Rat) → List α → List α

/-- Everything in the order it is in. -/
def Env.asIs (trustDomain : String) : Env := ⟨trustDomain, .asIs, id, fun _ l => l⟩

/-! ## Lookups in the policy -/

/-- `NamespacedNameFrom`. -/
def namespacedNameFrom (name : String) : Option (String × String) :=
  match split name '/' with
  | [ns, name] => some (ns, name)
  | _ => none

/-- `trafficMatchToMeshSvc`; `none` is its `nil`. -/
def trafficMatchToMeshSvc (trafficMatch : TrafficMatch) : Option MeshService :=
  match fieldsFunc trafficMatch.name (· == '_') with
  | [_, chunk, _, _] => (namespacedNameFrom chunk).map fun (ns, name) =>
      { ns, name
        protocol := toLower trafficMatch.destinationProtocol
        targetPort := uint16 trafficMatch.destinationPort }
  | _ => none

/-- `arrayEqual`; the order of the set plays no role. -/
def arrayEqual (a set : List WeightedCluster) : Bool :=
  a.length == set.length && (a.all fun ca => set.any fun cb => ca == cb) &&
    set.all fun cb => a.any fun ca => cb == ca

def getOutboundHTTPRouteConfigs
    (httpRouteConfigsPerPort : Map Int (List Policy.OutboundTrafficPolicy)) (targetPort : Int)
    (upstreamSvcFQDN : String) (weightedClusters : List WeightedCluster) :
    List Policy.OutboundTrafficPolicy :=
  ((httpRouteConfigsPerPort.lookup targetPort).getD []).filter fun trafficPolicy =>
    trafficPolicy.name == upstreamSvcFQDN &&
      trafficPolicy.routes.any fun route => arrayEqual weightedClusters route.weightedClusters

def getMeshClusterConfigs (clustersConfigs : List MeshClusterConfig) (clusterName : String) :
    Option MeshClusterConfig :=
  clustersConfigs.find? fun clustersConfig => clusterName == clustersConfig.name

/-! ## Routes -/

/-- A traffic match that is being filled, and the clusters named so far. -/
abbrev Filling := OutboundTrafficMatch × Map String WeightedCluster

/-- The clusters named so far, with one more. -/
def dependOn (dependClusters : Map String WeightedCluster) (cluster : WeightedCluster) :
    Map String WeightedCluster :=
  if cluster.clusterName ∈ dependClusters then dependClusters
  else dependClusters.insert cluster.clusterName cluster

def addHTTPRoute (order : RangeOrder) (ruleName : String) (st : Filling)
    (route : RouteWeightedClusters) : Option Filling :=
  st.1.httpServiceRouteRules[ruleName]?.map fun rules =>
    let clusters := order.visit route.weightedClusters
    let rules := upsert (httpMatchRuleOf route.httpRouteMatch)
      (fun targetClusters => clusters.foldl addWeightedCluster (targetClusters.getD ∅)) rules
    ({ st.1 with httpServiceRouteRules := st.1.httpServiceRouteRules.insert ruleName rules },
      clusters.foldl dependOn st.2)

def addHTTPRouteConfig (order : RangeOrder) (st : Filling)
    (httpRouteConfig : Policy.OutboundTrafficPolicy) : Option Filling :=
  let ruleName := httpRouteConfig.name
  let tm := st.1.newHTTPServiceRouteRules ruleName
  let tm := httpRouteConfig.hostnames.foldl (fun tm hostname =>
    tm.addHTTPHostPort2Service hostname ruleName) tm
  httpRouteConfig.routes.foldlM (addHTTPRoute order ruleName) (tm, st.2)

def addTCPClusters (st : Filling) (clusters : List WeightedCluster) : Filling :=
  ({ st.1 with
      tcpServiceRouteRules :=
        some (clusters.foldl addWeightedCluster (st.1.tcpServiceRouteRules.getD ∅)) },
    clusters.foldl dependOn st.2)

def isHTTP (destinationProtocol : String) : Bool :=
  destinationProtocol == "http" || destinationProtocol == "grpc"

/-- The body of the loop over the traffic matches, once the match to be filled is there. -/
def routeTrafficMatch (order : RangeOrder) (outboundPolicy : OutboundMeshTrafficPolicy)
    (trafficMatch : TrafficMatch) (st : Filling) : Option Filling :=
  let destinationProtocol := toLower trafficMatch.destinationProtocol
  if isHTTP destinationProtocol then do
    let upstreamSvc ← trafficMatchToMeshSvc trafficMatch
    let httpRouteConfigs := getOutboundHTTPRouteConfigs outboundPolicy.httpRouteConfigsPerPort
      upstreamSvc.targetPort.toNat upstreamSvc.fqdn trafficMatch.weightedClusters
    httpRouteConfigs.foldlM (addHTTPRouteConfig order) st
  else if isTCP destinationProtocol then some (addTCPClusters st trafficMatch.weightedClusters)
  else if destinationProtocol = "https" then do
    let upstreamSvc ← trafficMatchToMeshSvc trafficMatch
    let httpRouteConfigs := getOutboundHTTPRouteConfigs outboundPolicy.httpRouteConfigsPerPort
      upstreamSvc.targetPort.toNat upstreamSvc.fqdn trafficMatch.weightedClusters
    if httpRouteConfigs.isEmpty then some st
    else
      let routes := httpRouteConfigs.flatMap (·.routes)
      some (addTCPClusters st (routes.flatMap fun route => order.visit route.weightedClusters))
  else some st

/-- The routes generated so far, and the clusters they name. -/
structure RouteState where
  otp : OutboundTrafficPolicy
  dependClusters : Map String WeightedCluster

/-- The name a traffic match is held under: all HTTP services of a port share one. -/
def namedPort (trafficMatch : TrafficMatch) : String :=
  let name := if isHTTP (toLower trafficMatch.destinationProtocol) then "http" else trafficMatch.name
  toString (uint16 trafficMatch.destinationPort).toNat ++ "=" ++ name

/-- A new traffic match, with the protocol and the port of the first service. -/
def newTrafficMatch (trafficMatch : TrafficMatch) : OutboundTrafficMatch :=
  ({} : OutboundTrafficMatch).setProtocol (toLower trafficMatch.destinationProtocol)
    |>.setPort (uint16 trafficMatch.destinationPort)

def addTrafficMatch (order : RangeOrder) (outboundPolicy : OutboundMeshTrafficPolicy)
    (st : RouteState) (trafficMatch : TrafficMatch) : Option RouteState := do
  let name := namedPort trafficMatch
  let tm := (st.otp.namedTrafficMatches.lookup name).getD (newTrafficMatch trafficMatch)
  let (tm, dependClusters) ←
    routeTrafficMatch order outboundPolicy trafficMatch (tm, st.dependClusters)
  let named := upsert name (fun _ => tm) st.otp.namedTrafficMatches
  return { otp := { st.otp with namedTrafficMatches := named }, dependClusters }

def generatePipyOutboundTrafficRoutePolicy (env : Env) (pipyConf : PipyConf)
    (outboundPolicy : OutboundMeshTrafficPolicy) :
    Option (PipyConf × Map String WeightedCluster) :=
  if outboundPolicy.trafficMatches.isEmpty then some (pipyConf, ∅)
  else do
    let st ← outboundPolicy.trafficMatches.foldlM (addTrafficMatch env.order outboundPolicy)
      ⟨pipyConf.outbound.getD {}, ∅⟩
    return ({ pipyConf with outbound := some st.otp }, st.dependClusters)

/-! ## Endpoints -/

/-- The port an endpoint is dialled on. -/
def dialPort (svc : MeshService) (upstreamEndpoint : Endpoint) : UInt16 :=
  if 0 < upstreamEndpoint.clusterKey.length ∧ 0 < svc.targetPort then svc.targetPort else svc.port

def addUpstreamEndpoint (svc : MeshService) (wes : WeightedEndpoints) (upstreamEndpoint : Endpoint) :
    WeightedEndpoints :=
  addWeightedZoneEndpoint wes upstreamEndpoint.ip.string (dialPort svc upstreamEndpoint)
    upstreamEndpoint.weight upstreamEndpoint.clusterKey upstreamEndpoint.lbType upstreamEndpoint.path

/-- The body of the loop over the clusters; the flag is `ready`. -/
def balanceCluster (meshCatalog : MeshCatalog) (outboundPolicy : OutboundMeshTrafficPolicy)
    (st : OutboundTrafficPolicy × Bool) (clusterName : String) : OutboundTrafficPolicy × Bool :=
  match getMeshClusterConfigs outboundPolicy.clustersConfigs clusterName with
  | none => (st.1, false)
  | some clusterConfig =>
    let wes := st.1.clustersConfigs[clusterName]?.getD ∅
    let upstreamEndpoints := getUpstreamEndpoints meshCatalog clusterName
    let wes := upstreamEndpoints.foldl (addUpstreamEndpoint clusterConfig.service) wes
    ({ st.1 with clustersConfigs := st.1.clustersConfigs.insert clusterName wes },
      st.2 && !upstreamEndpoints.isEmpty)

def generatePipyOutboundTrafficBalancePolicy (env : Env) (meshCatalog : MeshCatalog)
    (pipyConf : PipyConf) (outboundPolicy : OutboundMeshTrafficPolicy)
    (dependClusters : Map String WeightedCluster) : PipyConf × Bool :=
  let (otp, ready) := (env.order.visit dependClusters.entries).foldl (fun st entry =>
    balanceCluster meshCatalog outboundPolicy st entry.2.clusterName)
    (pipyConf.outbound.getD {}, true)
  ({ pipyConf with outbound := some otp }, ready)

/-- `ToSlice`. -/
def toSlice (order : RangeOrder) (set : Finset String) : List String :=
  order.visit (set.sort (· ≤ ·))

/-- `outbound`: the configuration, and whether every cluster has endpoints. -/
def outbound (env : Env) (cataloger : MeshCatalog) (pipyConf : PipyConf) :
    Option (PipyConf × Bool) := do
  let policy := getOutboundMeshTrafficPolicy env.trustDomain cataloger
  let pipyConf :=
    if policy.servicesResolvableSet.isEmpty then pipyConf
    else { pipyConf with
      dnsResolveDB := policy.servicesResolvableSet.map fun _ => toSlice env.order }
  let (pipyConf, dependClusters) ← generatePipyOutboundTrafficRoutePolicy env pipyConf policy
  if dependClusters.entries.isEmpty then return (pipyConf, true)
  else
    return generatePipyOutboundTrafficBalancePolicy env cataloger pipyConf policy dependClusters

end Ctrl
