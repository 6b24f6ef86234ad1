import ErieCanalNet.K8s.Client
import ErieCanalNet.Mesh.Multicluster

/-!
# The endpoint and service providers, and the catalog over them

`pkg/ecnet/service/providers/{kube,fsm}`, `pkg/ecnet/catalog` and the upstream lookup of the
config generator (`getUpstreamEndpoints`). Both providers list the addresses of an `Endpoints`
object by the same loops (`endpointsOf`); the fsm provider reads each address's attributes back
from the annotations `GetEndpoints` wrote.
-/

namespace Mesh

open Go K8s

/-- The loops of `ListEndpointsForService`: every address of every subset port, less those the
target port, the subdomain or an unreadable IP excludes. -/
def endpointsOf (svc : MeshService) (eps : Endpoints)
    (mk : IP → EndpointAddress → EndpointPort → Endpoint) : List Endpoint :=
  eps.subsets.flatMap fun subset =>
    subset.ports.flatMap fun port =>
      if svc.targetPort ≠ 0 ∧ port.port ≠ (svc.targetPort.toNat : Int) then []
      else subset.addresses.filterMap fun address =>
        if svc.subdomain ≠ "" ∧ svc.subdomain ≠ address.hostname then none
        else (parseIP address.ip).map fun ip => mk ip address port

namespace Kube

def listEndpointsForService (c : K8s.Client) (svc : MeshService) : List Endpoint :=
  match c.getEndpoints svc with
  | none => []
  | some eps => endpointsOf svc eps fun ip _ port => { ip, port := UInt32.ofInt port.port }

end Kube

namespace Fsm

open Multicluster

/-- The endpoint of an imported address, its attributes read from the annotations; a missing
annotation reads as the empty text, an unreadable weight as what `ParseUint` leaves. -/
def endpointFrom (annotations : Map String String) (ip : IP) (address : EndpointAddress)
    (port : EndpointPort) : Endpoint :=
  let read := fun key => (annotations.lookup key).getD ""
  { ip
    port := UInt32.ofInt port.port
    weight := UInt32.ofNat (parseUint (read (annotationLbWeight address.ip port.port)) 32).1
    clusterKey := read (annotationClusterKey address.ip port.port)
    lbType := read (annotationLbType address.ip port.port)
    path := read (annotationContextPath address.ip port.port) }

def listEndpointsForService (c : Multicluster.Client) (svc : MeshService) : List Endpoint :=
  match c.getEndpoints svc with
  | none => []
  | some eps => endpointsOf svc eps (endpointFrom eps.annotations)

/-- `constants.SupportedProtocolsInMesh`. -/
def supportedProtocolsInMesh : List String := ["tcp-server-first", "http", "tcp", "grpc"]

/-- The protocol of a service port: the application protocol, else a supported protocol the
port's name starts with, else HTTP. -/
def portProtocol (portSpec : ServicePort) : String :=
  portSpec.appProtocol.getD
    ((supportedProtocolsInMesh.find? fun p => hasPrefix portSpec.name (p ++ "-")).getD "http")

/-- The mesh service of a service port, before its target port is known. -/
def portService (svc : Service) (portSpec : ServicePort) : MeshService where
  ns := svc.md.ns
  name := svc.md.name
  port := uint16 portSpec.port
  protocol := portProtocol portSpec
  serviceImportUID := svc.uid

/-- `ServiceToMeshServices`: one mesh service per endpoint of each port. -/
def serviceToMeshServices (c : Multicluster.Client) (svc : Service) : List MeshService :=
  svc.ports.flatMap fun portSpec =>
    match c.getEndpoints (portService svc portSpec) with
    | none => []
    | some eps => eps.subsets.flatMap fun subset =>
        subset.ports.map fun port =>
          { portService svc portSpec with targetPort := uint16 port.port }

def listServices (c : Multicluster.Client) : List MeshService :=
  c.listServices.flatMap (serviceToMeshServices c)

end Fsm

/-- `catalog.MeshCatalog`, with the endpoint providers in their order: kube, then fsm. -/
structure MeshCatalog where
  kube : K8s.Client
  mc : Multicluster.Client

def MeshCatalog.listUpstreamEndpointsForService (mc : MeshCatalog) (svc : MeshService) :
    List Endpoint :=
  Kube.listEndpointsForService mc.kube svc ++ Fsm.listEndpointsForService mc.mc svc

/-- `getUpstreamEndpoints`: the endpoints of a cluster, by its name alone. -/
def getUpstreamEndpoints (meshCatalog : MeshCatalog) (clusterName : String) : List Endpoint :=
  match clusterToMeshSvc clusterName with
  | .ok dstSvc => meshCatalog.listUpstreamEndpointsForService dstSvc
  | .error _ => []

/-! ## Specifications -/

/-- **The addresses `ListEndpointsForService` keeps** for a service without a subdomain and with
a known target port. -/
theorem mem_endpointsOf {svc : MeshService} {eps : Endpoints}
    {mk : IP → EndpointAddress → EndpointPort → Endpoint} {e : Endpoint}
    (hsub : svc.subdomain = "") (ht : svc.targetPort ≠ 0) :
    e ∈ endpointsOf svc eps mk ↔
      ∃ subset ∈ eps.subsets, ∃ port ∈ subset.ports, port.port = (svc.targetPort.toNat : Int) ∧
        ∃ address ∈ subset.addresses, ∃ ip, parseIP address.ip = some ip ∧
          mk ip address port = e := by
  simp only [endpointsOf, List.mem_flatMap]
  refine exists_congr fun subset => and_congr_right fun _ => exists_congr fun port =>
    and_congr_right fun _ => ?_
  by_cases hp : port.port = (svc.targetPort.toNat : Int)
  · simp [hp, hsub, List.mem_filterMap, Option.map_eq_some_iff]
  · simp [hp, ht]

theorem exists_of_mem_endpointsOf {svc : MeshService} {eps : Endpoints}
    {mk : IP → EndpointAddress → EndpointPort → Endpoint} {e : Endpoint}
    (h : e ∈ endpointsOf svc eps mk) :
    ∃ ip address port, (svc.targetPort ≠ 0 → port.port = (svc.targetPort.toNat : Int)) ∧
      mk ip address port = e := by
  simp only [endpointsOf, List.mem_flatMap] at h
  obtain ⟨subset, -, port, -, h⟩ := h
  split at h
  · cases h
  · rename_i hport
    obtain ⟨address, -, h⟩ := List.mem_filterMap.1 h
    split at h
    · cases h
    · obtain ⟨ip, -, rfl⟩ := Option.map_eq_some_iff.1 h
      exact ⟨ip, address, port, fun ht => by_contra fun hne => hport ⟨ht, hne⟩, rfl⟩

/-- The mesh services of an imported service, which has one port. -/
theorem mem_serviceToMeshServices {c : Multicluster.Client} {svc : Service}
    {portSpec : ServicePort} {m : MeshService} (h : svc.ports = [portSpec]) :
    m ∈ Fsm.serviceToMeshServices c svc ↔
      ∃ eps, c.getEndpoints (Fsm.portService svc portSpec) = some eps ∧
        ∃ subset ∈ eps.subsets, ∃ port ∈ subset.ports,
          { Fsm.portService svc portSpec with targetPort := uint16 port.port } = m := by
  simp only [Fsm.serviceToMeshServices, h, List.flatMap_singleton]
  cases c.getEndpoints _ with
  | none => simp
  | some eps => simp

end Mesh
