import ErieCanalNet.Lib.Table
import ErieCanalNet.Mesh.Outbound

/-!
# The configuration of the proxy

`PipyConf` and its builders (`pkg/ecnet/bridge/ctrlplane/server/{types,policy}.go`).

The source makes each of the maps on its first write: the empty map stands for `nil`. It holds a
traffic match by pointer, in the map of the names and in the slice of its port; here
`namedTrafficMatches` holds the matches in the order of their creation, and `trafficMatches` is the
slice of a port (`Ctrl.Pointers` keeps the pointers).
-/

namespace Ctrl

open Go Lib Policy

inductive URIMatchType
  | pathMatchRegex
  | pathMatchExact
  | pathMatchPrefix
deriving DecidableEq, Repr

structure HTTPMatchRule where
  path : String
  type : URIMatchType
  headers : Dict String := ∅
  methods : List String := []
  allowedAnyMethod : Bool := false
deriving DecidableEq

/-- From the names of clusters to their weights. -/
abbrev WeightedClusters := Dict UInt32

/-- The rules of a service, each with its target clusters. -/
abbrev OutboundHTTPRouteRules := List (HTTPMatchRule × WeightedClusters)

structure OutboundTrafficMatch where
  port : UInt16 := 0
  protocol : String := ""
  httpHostPort2Service : Dict String := ∅
  httpServiceRouteRules : Dict OutboundHTTPRouteRules := ∅
  /-- The target clusters, once there are TCP rules. -/
  tcpServiceRouteRules : Option WeightedClusters := none
deriving DecidableEq

instance : DecidableEq (Dict OutboundHTTPRouteRules) := inferInstance

structure WeightedZoneEndpoint where
  weight : UInt32
  cluster : String
  lbType : String
  contextPath : String
deriving DecidableEq, Repr

abbrev WeightedEndpoints := Dict WeightedZoneEndpoint

structure OutboundTrafficPolicy where
  namedTrafficMatches : List (String × OutboundTrafficMatch) := []
  clustersConfigs : Dict WeightedEndpoints := ∅

structure PipyConf where
  sidecarLogLevel : String := ""
  outbound : Option OutboundTrafficPolicy := none
  chains : Dict (List String) := ∅
  dnsResolveDB : Dict (List String) := ∅

/-- `TrafficMatches[port]`. -/
def OutboundTrafficPolicy.trafficMatches (otp : OutboundTrafficPolicy) (port : UInt16) :
    List OutboundTrafficMatch :=
  (otp.namedTrafficMatches.map Prod.snd).filter fun tm => tm.port = port

/-! ## Matches -/

namespace OutboundTrafficMatch

def setPort (port : UInt16) (otm : OutboundTrafficMatch) : OutboundTrafficMatch := { otm with port }

def setProtocol (protocol : String) (otm : OutboundTrafficMatch) : OutboundTrafficMatch :=
  let protocol := toLower protocol
  { otm with protocol := if protocol = "tcp-server-first" then "tcp" else protocol }

def addHTTPHostPort2Service (hostPort ruleName : String) (otm : OutboundTrafficMatch) :
    OutboundTrafficMatch :=
  { otm with httpHostPort2Service := otm.httpHostPort2Service.insert hostPort ruleName }

/-- The rules of a service, empty at first. The empty name has none. -/
def newHTTPServiceRouteRules (httpRouteRuleName : String) (otm : OutboundTrafficMatch) :
    OutboundTrafficMatch :=
  if httpRouteRuleName.isEmpty then otm
  else
    let rules := otm.httpServiceRouteRules[httpRouteRuleName]?.getD []
    { otm with
      httpServiceRouteRules := otm.httpServiceRouteRules.insert httpRouteRuleName rules }

end OutboundTrafficMatch

/-- `addWeightedCluster`, of HTTP and of TCP rules. -/
def addWeightedCluster (targetClusters : WeightedClusters) (cluster : WeightedCluster) :
    WeightedClusters :=
  targetClusters.insert cluster.clusterName (UInt32.ofInt cluster.weight)

/-! ## Match rules -/

def HTTPMatchRule.addMethodMatch (hmr : HTTPMatchRule) (method : String) : HTTPMatchRule :=
  if hmr.allowedAnyMethod then hmr
  else if method = "*" then { hmr with allowedAnyMethod := true, methods := [] }
  else { hmr with methods := hmr.methods ++ [method] }

def matchType : PathMatchType → URIMatchType
  | .pathMatchExact => .pathMatchExact
  | .pathMatchPrefix => .pathMatchPrefix
  | .pathMatchRegex => .pathMatchRegex

/-- The match rule the generator makes of a route match. -/
def httpMatchRuleOf (route : HTTPRouteMatch) : HTTPMatchRule :=
  let rule : HTTPMatchRule :=
    { path := if route.path.isEmpty then regexMatchAll else route.path
      type := matchType route.pathMatchType
      headers := route.headers }
  if route.methods.isEmpty then rule.addMethodMatch "*"
  else route.methods.foldl HTTPMatchRule.addMethodMatch rule

/-! ## Endpoints -/

/-- The key of an endpoint: an address that ends in a port, as an IPv6 address may seem to, is kept
as it is. -/
def hostPort (address : String) (port : UInt16) : String :=
  if endsInPort address then address else address ++ ":" ++ toString port.toNat

def addWeightedZoneEndpoint (wes : WeightedEndpoints) (address : String) (port : UInt16)
    (weight : UInt32) (cluster lbType contextPath : String) : WeightedEndpoints :=
  wes.insert (hostPort address port) { weight, cluster, lbType, contextPath }

/-- The body of the loop of `rebalancedOutboundClusters` over the endpoints of a cluster. -/
def rebalanced (hasLocalEndpoints : Bool) (wze : WeightedZoneEndpoint) : WeightedZoneEndpoint :=
  if 0 < wze.cluster.length then
    if wze.lbType = "FailOver" then { wze with weight := if hasLocalEndpoints then 0 else 100 }
    else if wze.lbType = "ActiveActive" then
      if wze.weight = 0 then { wze with weight := 100 } else wze
    else wze
  else if wze.weight = 0 then { wze with weight := 100 } else wze

def rebalancedEndpoints (wes : WeightedEndpoints) : WeightedEndpoints :=
  let hasLocalEndpoints := wes.toList.any fun entry => entry.2.cluster.isEmpty
  wes.map fun _ => rebalanced hasLocalEndpoints

def PipyConf.rebalancedOutboundClusters (p : PipyConf) : PipyConf :=
  { p with outbound := p.outbound.map fun otp =>
      { otp with clustersConfigs := otp.clustersConfigs.map fun _ => rebalancedEndpoints } }

end Ctrl
