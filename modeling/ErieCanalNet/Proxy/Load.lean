import ErieCanalNet.Ctrl.Marshal
import ErieCanalNet.Go.JsonDecode
import ErieCanalNet.Proxy.Config
import ErieCanalNet.Proxy.Routing

/-!
# The configuration in the proxy

What `pipy/repo/codebase/proxy/config.js` hands to the modules: `config.json`, decoded, with its
outbound matches merged. A reader of a part of the file is `none` where the scripts would work on a
value of another kind.
-/

namespace Proxy

open Ctrl Go Json

/-! ## Values -/

/-- `o?.[name]`: a member that is missing reads as `null`, and the last one of a name counts. -/
def member (o : Json) (name : String) : Json :=
  match o with
  | .obj members => members.foldl (fun value m => if m.1 = name then m.2 else value) .null
  | _ => .null

def string : Json → Option String
  | .str s => some s
  | _ => none

def number : Json → Option Nat
  | .num n => some n
  | _ => none

def uint32 (j : Json) : Option UInt32 := do
  let n ← number j
  if n < UInt32.size then some (.ofNat n) else none

section

variable {α : Type} (read : Json → Option α)

def nullable : Json → Option (Option α)
  | .null => some none
  | j => (read j).map some

def array : Json → Option (List α)
  | .arr elems => elems.mapM read
  | _ => none

/-- An object with names that are data. -/
def table : Json → Option (Dict α)
  | .obj members => do
    let entries ← members.mapM fun m => (read m.2).map fun v => (m.1, v)
    return entries.foldl (fun table e => table.insert e.1 e.2) ∅
  | _ => none

/-- `o || []`. -/
def orEmptyArray (j : Json) : Option (List α) := (nullable (array read) j).map (·.getD [])

/-- `o || \x7b\x7d`. -/
def orEmptyTable (j : Json) : Option (Dict α) := (nullable (table read) j).map (·.getD ∅)

end

/-! ## Matches -/

def uriMatchType : Json → Option URIMatchType
  | .str "Regex" => some .pathMatchRegex
  | .str "Exact" => some .pathMatchExact
  | .str "Prefix" => some .pathMatchPrefix
  | _ => none

/-- A rule. An array of no methods, which would allow none, is not a value of the model. -/
def routeRule (j : Json) : Option RouteRule := do
  let path ← string (member j "Path")
  let type ← uriMatchType (member j "Type")
  let headers ← orEmptyTable string (member j "Headers")
  let methods ← nullable (array string) (member j "Methods")
  let targetClusters ← orEmptyTable uint32 (member j "TargetClusters")
  guard (methods ≠ some [])
  return ({ path, type, headers, methods := methods.getD [],
            allowedAnyMethod := (methods.getD []).isEmpty }, targetClusters)

/-- `HttpServiceRouteRules[service]`: its `RouteRules`. -/
def routeRules (j : Json) : Option OutboundHTTPRouteRules :=
  orEmptyArray routeRule (member j "RouteRules")

/-- `TcpServiceRouteRules`: its `TargetClusters`. -/
def tcpRules (j : Json) : Option WeightedClusters :=
  orEmptyTable uint32 (member j "TargetClusters")

def trafficMatch (j : Json) : Option TrafficMatch := do
  return {
    port := ← number (member j "Port")
    protocol := ← string (member j "Protocol")
    destinationIPRanges := ← nullable (table fun _ => some ()) (member j "DestinationIPRanges")
    httpHostPort2Service := ← nullable (table string) (member j "HttpHostPort2Service")
    httpServiceRouteRules := ← nullable (table routeRules) (member j "HttpServiceRouteRules")
    tcpServiceRouteRules := ← nullable tcpRules (member j "TcpServiceRouteRules")
    plugins := ← nullable (table string) (member j "Plugins") }

/-! ## Clusters -/

/-- An endpoint; no module asks for its `Key`, the cluster it was imported from. -/
structure Endpoint where
  weight : UInt32
  key : Option String
  path : Option String
deriving DecidableEq, Repr

def endpoint (j : Json) : Option Endpoint := do
  return {
    weight := ← uint32 (member j "Weight")
    key := ← nullable string (member j "Key")
    path := ← nullable string (member j "Path") }

structure RetryPolicy where
  numRetries : Option Nat
  retryOn : Option String
  retryBackoffBaseInterval : Option Nat
deriving DecidableEq, Repr

def retryPolicy (j : Json) : Option RetryPolicy := do
  return {
    numRetries := ← nullable number (member j "NumRetries")
    retryOn := ← nullable string (member j "RetryOn")
    retryBackoffBaseInterval := ← nullable number (member j "RetryBackoffBaseInterval") }

/-- A value of `ClustersConfigs`. -/
structure ClusterConfig where
  endpoints : Option (Dict Endpoint) := none
  retryPolicy : Option RetryPolicy := none
deriving DecidableEq

def clusterConfig (j : Json) : Option ClusterConfig := do
  return {
    endpoints := ← nullable (table endpoint) (member j "Endpoints")
    retryPolicy := ← nullable retryPolicy (member j "RetryPolicy") }

/-! ## The file -/

/-- What the modules for outbound traffic and for names read of `config`; the matches of a port are
of a type `α`. `Spec.SidecarLogLevel` turns their debug messages on. -/
structure Config (α : Type) where
  sidecarLogLevel : Option String := none
  trafficMatches : Option (PortLists α) := none
  clustersConfigs : Dict ClusterConfig := ∅
  chains : Dict (List String) := ∅
  dnsResolveDB : Dict (Option (List String)) := ∅

/-- `config.json`, decoded. The order is that of `Object.entries`. -/
def readConfig (order : RangeOrder) (j : Json) : Option (Config TrafficMatch) := do
  let outbound := member j "Outbound"
  let trafficMatches ←
    nullable (table (orEmptyArray trafficMatch)) (member outbound "TrafficMatches")
  return {
    sidecarLogLevel := ← nullable string (member (member j "Spec") "SidecarLogLevel")
    trafficMatches := trafficMatches.map fun table => order.visit table.toList
    clustersConfigs := ← orEmptyTable clusterConfig (member outbound "ClustersConfigs")
    chains := ← orEmptyTable (orEmptyArray string) (member j "Chains")
    dnsResolveDB := ← orEmptyTable (nullable (array string)) (member j "DNSResolveDB") }

/-- `config`, with the matches merged; `none` is a configuration that does not load. -/
def Config.merge (strict : Bool) (config : Config TrafficMatch) : Option (Config IdentifiedMatch) :=
  match config.trafficMatches with
  | none => some { config with trafficMatches := none }
  | some lists => do
    return { config with trafficMatches := some (← mergeTrafficMatches strict lists) }

/-- `pipy.solve('config.js')`, on the text of `config.json`. -/
def solveConfig (strict : Bool) (order : RangeOrder) (text : String) :
    Option (Config IdentifiedMatch) := do
  let config ← readConfig order (← decode text)
  config.merge strict

end Proxy
