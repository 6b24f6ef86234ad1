import Mathlib.Algebra.Ring.Int.Defs
import ErieCanalNet.Proxy.Balancer
import ErieCanalNet.Proxy.Load

/-!
# The outbound pipelines

What becomes of a connection that was redirected to the proxy:

* `modules/outbound-main.js` takes the match of its port;
* `modules/outbound-http-routing.js` takes, for each HTTP request, a rule and a cluster, and sends
  the request again to another cluster when the first one fails;
* `modules/outbound-http-load-balancing.js` takes an endpoint of the cluster, and retries or fails
  over;
* `modules/outbound-http-default.js` answers what has no endpoint;
* `modules/outbound-tcp-routing.js` and `modules/outbound-tcp-load-balancing.js` take a cluster and
  an endpoint for any other connection.

Which modules a connection goes through is part of the configuration: `outbound-main.js` takes the
chain of `Chains` that the plugin chains of the `EcnetConfig` were made into. Modelled are the chains
that consist of the modules above in their order, with any of those in between that hand on what they
are given (`passesOn`); for any other chain the result is `none`.

Not modelled are the egress settings and the certificates, which no published configuration has.
-/

namespace Proxy

open Ctrl Go

/-- A request sent upstream. -/
structure Attempt where
  target : String
  path : String
deriving DecidableEq, Repr

/-- What the scripts are given. -/
structure Runtime where
  balancer : LoadBalancer
  regExp : RegExp
  /-- The status of the response to the last of the requests sent, if it has one. -/
  respond : List Attempt → Option Nat
  /-- `code|0`. -/
  toInt : String → Int
  /-- `new Netmask(range).contains(address)`. -/
  contains : String → String → Bool

/-! ## Ports -/

/-- `destinationHandlers.get(address)` of `makePortHandler`: the match of a connection. -/
def makePortHandler (rt : Runtime) (config : Config IdentifiedMatch) (port : Nat)
    (address : String) : Option IdentifiedMatch :=
  let destinations := (config.trafficMatches.bind (·.lookup (toString port))).getD []
  (destinations.find? fun dst => dst.destinationIPRanges.any fun ranges =>
      ranges.keys.any fun range => rt.contains range address).or
    (destinations.find? fun dst => dst.destinationIPRanges.isNone)

inductive Protocol
  | http
  | tcp
deriving DecidableEq, Repr

/-- `__protocol`; without one the connection is closed. -/
def protocolOf (dst : Option IdentifiedMatch) : Option Protocol := do
  let dst ← dst
  if dst.protocol = "" then none
  else some (if dst.protocol = "http" ∨ dst.protocol = "grpc" then .http else .tcp)

/-! ## Clusters -/

/-- `Object.assign({ name: clusterName }, cluster)`. -/
structure NamedCluster where
  name : String
  config : ClusterConfig

/-- `clusterCache.get(clusterName)`. -/
def Config.cluster (config : Config IdentifiedMatch) (clusterName : String) :
    Option NamedCluster :=
  config.clustersConfigs[clusterName]?.map fun cluster => ⟨clusterName, cluster⟩

/-- The name of a member that is asked for with `undefined`. -/
def undefined : String := "undefined"

/-- The status codes of `RetryOn || '5xx'`. -/
def retryStatusCodes (rt : Runtime) (retryOn : Option String) : List Int :=
  let retryOn := (retryOn.filter (· ≠ "")).getD "5xx"
  (retryOn.toList.splitOn ',').flatMap fun code =>
    if ['x', 'x'].isSuffixOf code then
      (List.range 100).map fun i => rt.toInt (String.ofList (code.take 1)) * 100 + (i : Int)
    else [rt.toInt (String.ofList code)]

/-- What `makeClusterConfig` makes of a cluster. The balancers are given by their targets. -/
structure BalancedCluster where
  name : String
  targetBalancer : Option (Dict UInt32)
  endpointAttributes : Dict Endpoint
  failoverBalancer : Option (Dict UInt32)
  numRetries : Nat
  retryStatusCodes : List Int
  retryBackoffBaseInterval : Option Rat

def makeClusterConfig (rt : Runtime) (clusterConfig : NamedCluster) : BalancedCluster :=
  let weights := clusterConfig.config.endpoints.map (·.map fun _ v => v.weight)
  let retryPolicy := clusterConfig.config.retryPolicy
  { name := clusterConfig.name
    targetBalancer := weights
    endpointAttributes := clusterConfig.config.endpoints.getD ∅
    failoverBalancer := weights.bind failover
    numRetries := (retryPolicy.bind (·.numRetries)).getD 0
    retryStatusCodes := retryStatusCodes rt (retryPolicy.bind (·.retryOn))
    retryBackoffBaseInterval :=
      (retryPolicy.bind (·.retryBackoffBaseInterval)).map fun v => if 1 < v then 1 else v }

def BalancedCluster.needRetry (config : BalancedCluster) : Bool := config.numRetries ≠ 0

/-! ## Load balancing of HTTP requests -/

/-- The counters of `outbound-http-load-balancing.js` that are increased. -/
inductive RetryCounter
  | retry
  | retryBackoff
  | retryLimit
  | retrySuccess
deriving DecidableEq, Repr

/-- The variables of a request, which live through its replays, and what it has done. -/
structure Session where
  retryCount : Nat := 0
  failoverObject : Option String := none
  /-- The requests sent upstream. -/
  sent : List Attempt := []
  /-- The increased counters, by cluster. -/
  counted : List (String × RetryCounter) := []
  /-- The delays of the retries; `none` is not a number. -/
  delays : List (Option Rat) := []

def Session.increase (s : Session) (config : BalancedCluster) (counter : RetryCounter) : Session :=
  { s with counted := s.counted ++ [(config.name, counter)] }

/-- `Math.pow(2, n)|0`. -/
def pow2Int32 (n : Nat) : Int := Int.bmod (2 ^ n) (2 ^ 32)

/-- `delay` of the retries. -/
def retryDelay (interval : Option Rat) (retryCount : Nat) : Option Rat :=
  interval.map (· * ((min 10 (pow2Int32 (retryCount - 1)) : Int) : Rat))

/-- The pipeline `upstream` and what follows it: a request without a target is answered. -/
def upstream (rt : Runtime) (hasRoute : Bool) (target : Option String) (path : String)
    (s : Session) : Option Nat × Session :=
  match target with
  | none => (some (if hasRoute then 404 else 403), s)
  | some target =>
    let sent := s.sent ++ [⟨target, path⟩]
    (rt.respond sent, { s with sent })

def shouldRetry (config : BalancedCluster) (statusCode : Option Nat) (s : Session) :
    Bool × Session :=
  if statusCode.any fun code => (code : Int) ∈ config.retryStatusCodes then
    if s.retryCount < config.numRetries then
      let s := (s.increase config .retry).increase config .retryBackoff
      (true, { s with retryCount := s.retryCount + 1 })
    else (false, s.increase config .retryLimit)
  else (false, if 0 < s.retryCount then s.increase config .retrySuccess else s)

theorem retryCount_of_shouldRetry {config : BalancedCluster} {statusCode : Option Nat}
    {s : Session} (h : (shouldRetry config statusCode s).1 = true) :
    s.retryCount < config.numRetries ∧
      (shouldRetry config statusCode s).2.retryCount = s.retryCount + 1 := by
  unfold shouldRetry at h ⊢
  split at h
  · split at h
    · rename_i hcode hlt
      rw [if_pos hcode, if_pos hlt]
      exact ⟨hlt, rfl⟩
    · cases h
  · cases h

theorem retryCount_upstream (rt : Runtime) (hasRoute : Bool) (target : Option String)
    (path : String) (s : Session) :
    (upstream rt hasRoute target path s).2.retryCount = s.retryCount := by
  unfold upstream
  split <;> rfl

/-- The first branch: the `replay` around `upstream`, with `shouldRetry`. The target is the same
each time. -/
def retryLoop (rt : Runtime) (config : BalancedCluster) (hasRoute : Bool) (target : Option String)
    (path : String) (s : Session) : Option Nat × Session :=
  let answer := upstream rt hasRoute target path s
  let verdict := shouldRetry config answer.1 answer.2
  if _h : verdict.1 = true then
    let delay := retryDelay config.retryBackoffBaseInterval verdict.2.retryCount
    retryLoop rt config hasRoute target path
      { verdict.2 with delays := verdict.2.delays ++ [delay] }
  else (answer.1, verdict.2)
termination_by config.numRetries - s.retryCount
decreasing_by
  have hcount := retryCount_of_shouldRetry _h
  have hsend := retryCount_upstream rt hasRoute target path s
  simp only [verdict, answer] at *
  omega

/-- `!status || status > '499'`. -/
def failed (status : Option Nat) : Bool := status.all fun status => status = 0 ∨ 499 < status

/-- The second branch, one `replay` to `_failoverObject`, and the third, without one. -/
def failoverOnce (rt : Runtime) (hasRoute : Bool) (target : Option String) (path : String)
    (s : Session) : Option Nat × Session :=
  let answer := upstream rt hasRoute target path s
  match s.failoverObject with
  | none => answer
  | some failoverObject =>
    if failed answer.1 then
      upstream rt hasRoute (some failoverObject) path { answer.2 with failoverObject := none }
    else answer

/-- `_failoverObject` as `onStart` leaves it: a cluster without a balancer to fail over to does not
write it. -/
def failoverOf (rt : Runtime) (call : Nat) (clusterConfig : Option BalancedCluster) (s : Session) :
    Option String :=
  match clusterConfig.bind (·.failoverBalancer) with
  | some targets => rt.balancer.next targets call
  | none => s.failoverObject

/-- `__target` when the request starts. -/
def targetOf (rt : Runtime) (call : Nat) (clusterConfig : Option BalancedCluster) : Option String :=
  (clusterConfig.bind (·.targetBalancer)).bind (rt.balancer.next · (call + 1))

/-- `msg.head.path`, with the path of the target put before it. -/
def sentPath (rt : Runtime) (call : Nat) (clusterConfig : Option BalancedCluster) (path : String) :
    String :=
  let attrs := (targetOf rt call clusterConfig).bind fun target =>
    clusterConfig.bind (·.endpointAttributes[target]?)
  (attrs.bind (·.path)).getD "" ++ path

/-- `outbound-http-load-balancing.js`, for a request to a cluster. The number is that of the next
call of a balancer. -/
def loadBalance (rt : Runtime) (call : Nat) (hasRoute : Bool) (cluster : Option NamedCluster)
    (path : String) (s : Session) : Option Nat × Session :=
  let clusterConfig := cluster.map (makeClusterConfig rt)
  let target := targetOf rt call clusterConfig
  let path := sentPath rt call clusterConfig path
  let s := { s with failoverObject := failoverOf rt call clusterConfig s }
  match clusterConfig.filter (·.needRetry) with
  | some config => retryLoop rt config hasRoute target path s
  | none => failoverOnce rt hasRoute target path s

/-! ## Routing of HTTP requests -/

/-- `hostHandlers.get(headers.host)` of a match: the rule of a request. -/
def routeOf (rt : Runtime) (port : IdentifiedMatch) (head : RequestHead) : Option RouteRule :=
  let host := head.headers["host"]?.getD undefined
  let service := (port.httpHostPort2Service.bind (·[host]?)).getD undefined
  let rules := (port.httpServiceRouteRules.bind (·[service]?)).getD []
  makeServiceHandler rt.regExp rules head

/-- `outbound-http-routing.js` and the modules behind it: the status a request is answered with,
and what it did. -/
def handleRequest (rt : Runtime) (config : Config IdentifiedMatch) (call : Nat)
    (port : IdentifiedMatch) (head : RequestHead) : Option Nat × Session :=
  match routeOf rt port head with
  | none => loadBalance rt (call + 2) false none head.path {}
  | some route =>
    let cluster := config.cluster ((rt.balancer.next route.2 call).getD undefined)
    let failoverCluster := (failover route.2).bind fun targets =>
      config.cluster ((rt.balancer.next targets (call + 1)).getD undefined)
    let answer := loadBalance rt (call + 2) true cluster head.path {}
    match failoverCluster with
    | some cluster =>
      if failed answer.1 then loadBalance rt (call + 4) true (some cluster) head.path answer.2
      else answer
    | none => answer

/-! ## Other connections -/

/-- `__target` of `outbound-tcp-load-balancing.js`; without one the connection is reset. An endpoint
without a weight gets one here. -/
def tcpTarget (rt : Runtime) (config : Config IdentifiedMatch) (call : Nat)
    (port : IdentifiedMatch) : Option String := do
  let targetClusters := port.tcpServiceRouteRules.getD ∅
  let cluster ← config.cluster (← rt.balancer.next targetClusters call)
  let endpoints := cluster.config.endpoints.getD ∅
  rt.balancer.next (endpoints.map fun _ v => if v.weight = 0 then 100 else v.weight) (call + 1)

/-! ## Connections -/

/-- The modules that hand on what they are given: those that observe, and the circuit breaker, since
no published cluster has settings for it. -/
def passesOn (uri : String) : Bool :=
  uri ∈ ["modules/outbound-metrics-http.js", "modules/outbound-tracing-http.js",
    "modules/outbound-logging-http.js", "modules/outbound-circuit-breaker.js"]

/-- The modules of a chain that decide what becomes of a connection. -/
def deciding (chains : Dict (List String)) (mountPoint : String) : List String :=
  (chains[mountPoint]?.getD []).filter fun uri => !passesOn uri

def httpModules : List String :=
  ["modules/outbound-http-routing.js", "modules/outbound-http-load-balancing.js",
    "modules/outbound-http-default.js"]

def tcpModules : List String :=
  ["modules/outbound-tcp-routing.js", "modules/outbound-tcp-load-balancing.js",
    "modules/outbound-tcp-default.js"]

/-- The pipeline of `outbound-main.js`, for an HTTP request on a connection; `none` if the connection
is not handled as HTTP, or by another chain. -/
def outboundRequest (rt : Runtime) (config : Config IdentifiedMatch) (call : Nat) (port : Nat)
    (address : String) (head : RequestHead) : Option (Option Nat × Session) := do
  let dst ← makePortHandler rt config port address
  guard (protocolOf (some dst) = some .http)
  guard (deciding config.chains "outbound-http" = httpModules)
  return handleRequest rt config call dst head

/-- The same for a connection that is handled as TCP: where it is connected to, if it is. -/
def outboundConnect (rt : Runtime) (config : Config IdentifiedMatch) (call : Nat) (port : Nat)
    (address : String) : Option (Option String) := do
  let dst ← makePortHandler rt config port address
  guard (protocolOf (some dst) = some .tcp)
  guard (deciding config.chains "outbound-tcp" = tcpModules)
  return tcpTarget rt config call dst

end Proxy
