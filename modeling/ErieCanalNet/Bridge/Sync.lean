import ErieCanalNet.Bridge.Maps
import ErieCanalNet.Go.Map
import ErieCanalNet.K8s.Client

/-!
# The sync job of the bridge

`pkg/ecnet/bridge/dataplane/server/jobs.go`: `syncDNSEndpoints` and `syncDNSResolves` reconcile
the server's shadow maps and the kernel maps with the latest state of the cluster. Loops over Go
maps take the order of their visits as a parameter.
-/

namespace Bridge

open Go K8s Lib Mesh

/-! ## Endpoints of the DNS service -/

/-- `EcnetConfig.Spec.DNS`. -/
structure DNSSpec where
  ns : String
  name : String
  port : UInt16
  protocol : String

def DNSSpec.service (dns : DNSSpec) : MeshService :=
  { ns := dns.ns, name := dns.name, port := dns.port, protocol := dns.protocol }

/-- The shadow map of the server and the kernel map. -/
structure EndpointState where
  dnsEndpoints : Map String String
  endpt : EndpointTable

/-- The addresses the loops over the `Endpoints` object visit. -/
def dnsAddresses (dnsSvc : MeshService) (dnsEndpoints : Endpoints) : List String :=
  dnsEndpoints.subsets.flatMap fun subset =>
    subset.ports.flatMap fun port =>
      if port.port ≠ (dnsSvc.port.toNat : Int) then []
      else subset.addresses.filterMap fun address =>
        if dnsSvc.subdomain ≠ "" ∧ dnsSvc.subdomain ≠ address.hostname then none
        else (parseIP address.ip).map fun _ => address.ip

/-- The latest endpoints, each with the cluster IP of the service, which has to be there. -/
def latestEndpoints (svc : Option Service) (addresses : List String) :
    Except GoPanic (Map String String) :=
  addresses.foldlM (fun latest ip =>
    match svc with
    | none => .error .nilDereference
    | some svc => .ok (latest.insert ip svc.clusterIP)) ∅

/-- The body of the loop over the latest endpoints. -/
def addEndpoint (st : EndpointState) (entry : (_ : String) × String) :
    Except GoPanic EndpointState :=
  match st.dnsEndpoints.lookup entry.1 with
  | none => do
    -- a new endpoint goes to the kernel only
    let endpt ← updateDNSEndpointEntry entry.1 entry.2 st.endpt
    return { st with endpt }
  | some pcip =>
    if equalFold entry.2 pcip then return st
    else do
      let endpt ← updateDNSEndpointEntry entry.1 entry.2 st.endpt
      return { dnsEndpoints := st.dnsEndpoints.insert entry.1 entry.2, endpt }

/-- The body of the loop over the shadow map. -/
def dropEndpoint (latest : Map String String) (st : EndpointState) (eip : String) :
    Except GoPanic EndpointState :=
  if eip ∈ latest then return st
  else do
    let endpt ← deleteDNSEndpointEntry eip st.endpt
    return { dnsEndpoints := st.dnsEndpoints.erase eip, endpt }

/-- `syncDNSEndpoints`. -/
def syncDNSEndpoints (order : RangeOrder) (dns : DNSSpec) (kubeController : K8s.Client)
    (st : EndpointState) : Except GoPanic EndpointState := do
  let svc := kubeController.getService dns.service
  match kubeController.getEndpoints dns.service with
  | none => .error .nilDereference
  | some dnsEndpoints =>
    let latest ← latestEndpoints svc (dnsAddresses dns.service dnsEndpoints)
    let st ← (order.visit latest.entries).foldlM addEndpoint st
    (order.visit st.dnsEndpoints.keys).foldlM (dropEndpoint latest) st

/-! ## Names of the services -/

/-- What the job reads of an outbound traffic policy. -/
structure OutboundTrafficPolicy where
  hostnames : List String
deriving DecidableEq, Repr

structure OutboundMeshTrafficPolicy where
  httpRouteConfigsPerPort : Map Int (List OutboundTrafficPolicy)

/-- The shadow map of the server and the kernel map. -/
structure ResolveState where
  dnsResolves : Map String UInt8
  resdb : ResolveTable

/-- The kernel side of a run: the packing of names, and which map operations succeed. -/
structure ResolveEnv where
  pack : List Byte → Option (List Byte)
  bridgeIPInt : BitVec 32
  updateOk : String → BitVec 16 → Bool
  deleteOk : String → BitVec 16 → Bool

/-- The bytes of a Go string. -/
def bytesOf (s : String) : List Byte := s.toUTF8.toList.map UInt8.toBitVec

/-- The hostnames without a port in a policy, in the order the loops visit them. -/
def resolvableNames (order : RangeOrder) (policy : OutboundMeshTrafficPolicy) : List String :=
  (order.visit policy.httpRouteConfigsPerPort.entries).flatMap fun entry =>
    entry.2.flatMap fun outboundPolicy =>
      outboundPolicy.hostnames.filter fun hostname => !contains hostname ':'

/-- The body of the loop over the latest names. -/
def addResolve (env : ResolveEnv) (st : ResolveState) (hostname : String) : ResolveState :=
  if hostname ∈ st.dnsResolves then st
  else
    { dnsResolves := st.dnsResolves.insert hostname 1
      resdb := updateDNSResolveEntry env.pack (env.updateOk hostname) env.bridgeIPInt
        (bytesOf hostname) 60 st.resdb }

/-- The body of the loop over the shadow map. -/
def dropResolve (env : ResolveEnv) (latest : Map String UInt8) (st : ResolveState)
    (hostname : String) : ResolveState :=
  if hostname ∈ latest then st
  else
    { dnsResolves := st.dnsResolves.erase hostname
      resdb := deleteDNSResolveEntry env.pack (env.deleteOk hostname) (bytesOf hostname) st.resdb }

/-- `syncDNSResolves`. -/
def syncDNSResolves (env : ResolveEnv) (order : RangeOrder) (policy : OutboundMeshTrafficPolicy)
    (st : ResolveState) : ResolveState :=
  if policy.httpRouteConfigsPerPort.entries.isEmpty then st
  else
    let latest : Map String UInt8 :=
      (resolvableNames order policy).foldl (fun latest hostname => latest.insert hostname 0) ∅
    let st := (order.visit latest.keys).foldl (addResolve env) st
    (order.visit st.dnsResolves.keys).foldl (dropResolve env latest) st

end Bridge
