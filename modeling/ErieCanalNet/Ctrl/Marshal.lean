import ErieCanalNet.Ctrl.PipyConf
import ErieCanalNet.Go.JsonDecode

/-!
# The text of a configuration

The JSON encoding of a `PipyConf` that `publishSidecarConf` hashes, by the field tags of
`pkg/ecnet/bridge/ctrlplane/server/types.go`. The time stamp and the version are `nil` then; they
are set in what it uploads (`marshalIndent`).
-/

namespace Ctrl

open Go Json

def URIMatchType.string : URIMatchType → String
  | .pathMatchRegex => "Regex"
  | .pathMatchExact => "Exact"
  | .pathMatchPrefix => "Prefix"

def weightedClustersJson : WeightedClusters → Json := ofMap fun weight => .num weight.toNat

/-- `OutboundHTTPRouteRule`, with the fields of the match rule it embeds. -/
def routeRuleJson (rule : HTTPMatchRule × WeightedClusters) : Json :=
  .obj [("Path", .str rule.1.path), ("Type", .str rule.1.type.string),
    ("Headers", ofMap .str rule.1.headers), ("Methods", ofSlice .str rule.1.methods),
    ("TargetClusters", weightedClustersJson rule.2)]

def routeRulesJson (rules : OutboundHTTPRouteRules) : Json :=
  .obj [("RouteRules", ofSlice routeRuleJson rules)]

def tcpRulesJson (targetClusters : WeightedClusters) : Json :=
  .obj [("TargetClusters", weightedClustersJson targetClusters)]

def OutboundTrafficMatch.json (tm : OutboundTrafficMatch) : Json :=
  .obj [("Port", .num tm.port.toNat), ("Protocol", .str tm.protocol),
    ("HttpHostPort2Service", ofMap .str tm.httpHostPort2Service),
    ("HttpServiceRouteRules", ofMap routeRulesJson tm.httpServiceRouteRules),
    ("TcpServiceRouteRules", ofPtr tcpRulesJson tm.tcpServiceRouteRules)]

/-- A field that is left out when it is empty. -/
def omitEmpty (name : String) (isEmpty : Bool) (value : Json) : List (String × Json) :=
  if isEmpty then [] else [(name, value)]

def WeightedZoneEndpoint.json (wze : WeightedZoneEndpoint) : Json :=
  .obj (("Weight", .num wze.weight.toNat) ::
    (omitEmpty "Key" wze.cluster.isEmpty (.str wze.cluster) ++
      omitEmpty "Path" wze.contextPath.isEmpty (.str wze.contextPath)))

def clusterConfigsJson (wes : WeightedEndpoints) : Json :=
  .obj [("Endpoints", ofMap WeightedZoneEndpoint.json wes)]

/-- `TrafficMatches`, under the texts of its ports. -/
def OutboundTrafficPolicy.trafficMatchTable (otp : OutboundTrafficPolicy) :
    Dict (List OutboundTrafficMatch) :=
  otp.namedTrafficMatches.foldl (fun table entry =>
    table.insert (toString entry.2.port.toNat)
      (table[toString entry.2.port.toNat]?.getD [] ++ [entry.2])) ∅

def OutboundTrafficPolicy.json (otp : OutboundTrafficPolicy) : Json :=
  .obj [("TrafficMatches", ofMap (ofSlice OutboundTrafficMatch.json) otp.trafficMatchTable),
    ("ClustersConfigs", ofMap clusterConfigsJson otp.clustersConfigs)]

def PipyConf.json (conf : PipyConf) : Json :=
  .obj ([("Ts", .null), ("Version", .null),
      ("Spec", .obj [("SidecarLogLevel", .str conf.sidecarLogLevel), ("Probes", .obj [])]),
      ("Outbound", ofPtr OutboundTrafficPolicy.json conf.outbound)] ++
    omitEmpty "Chains" conf.chains.isEmpty (ofMap (ofSlice .str) conf.chains) ++
    omitEmpty "DNSResolveDB" conf.dnsResolveDB.isEmpty (ofMap (ofSlice .str) conf.dnsResolveDB))

/-- The bytes `publishSidecarConf` hashes. -/
def PipyConf.marshal (conf : PipyConf) : String := conf.json.text

/-- The configuration once `Ts` and `Version`, its first two fields, are set. -/
def PipyConf.stamped (conf : PipyConf) (ts version : String) : Json :=
  match conf.json with
  | .obj members => .obj (("Ts", .str ts) :: ("Version", .str version) :: members.drop 2)
  | j => j

/-- `config.json`, as `publishSidecarConf` uploads it. -/
def PipyConf.marshalIndent (conf : PipyConf) (ts version : String) : String :=
  (conf.stamped ts version).indent

end Ctrl
