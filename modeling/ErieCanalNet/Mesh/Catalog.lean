import ErieCanalNet.Mesh.Providers

/-!
# The services of the catalog

`pkg/ecnet/k8s/client.go` and the two providers: the mesh services of the local cluster and the
addresses a service's name resolves to; `pkg/ecnet/catalog`: the services of the mesh are the
imported ones, and those local ones that share the name of an imported one.

`Cluster` is a catalog over objects as the API server admits them.
-/

namespace Mesh

open Go K8s

/-! ## The local cluster -/

/-- `IsHeadlessService`. -/
def isHeadlessService (svc : Service) : Bool := svc.clusterIP.isEmpty || svc.clusterIP == "None"

/-- `GetTargetPortFromEndpoints`: the port of the given name, or of the only entry; 0 if there is
none. -/
def getTargetPortFromEndpoints (endpointName : String) (endpoints : Endpoints) : UInt16 :=
  let found := endpoints.subsets.findSome? fun subset =>
    subset.ports.find? fun port =>
      endpointName.isEmpty || subset.ports.length == 1 || port.name == endpointName
  match found with
  | some port => uint16 port.port
  | none => 0

/-- Why there is no target port, with the texts of the message. -/
inductive TargetPortError
  | serviceNotFound (namespacedSvc : String)
  | endpointsNotFound (namespacedSvc : String)
  | portNotFound (portName namespacedSvc : String)
deriving DecidableEq, Repr

/-- `GetTargetPortForServicePort`: the endpoint port with the name of the first service port of the
given number. -/
def getTargetPortForServicePort (c : K8s.Client) (namespacedSvc : String) (port : UInt16) :
    Except TargetPortError UInt16 :=
  match c.services.getByKey namespacedSvc with
  | none => .error (.serviceNotFound namespacedSvc)
  | some svc =>
    let portName :=
      ((svc.ports.find? fun portSpec => uint16 portSpec.port == port).map (·.name)).getD ""
    match c.endpoints.getByKey namespacedSvc with
    | none => .error (.endpointsNotFound namespacedSvc)
    | some endpoint =>
      let found := endpoint.subsets.findSome? fun subset =>
        subset.ports.find? fun portSpec => portSpec.name == portName
      match found with
      | some portSpec => .ok (uint16 portSpec.port)
      | none => .error (.portNotFound portName namespacedSvc)

namespace Kube

/-- The mesh service of a service port, before its target port is known. -/
def portService (svc : Service) (portSpec : ServicePort) : MeshService where
  ns := svc.md.ns
  name := svc.md.name
  port := uint16 portSpec.port
  protocol := Fsm.portProtocol portSpec

/-- The instances of a headless service: one mesh service for each address with a hostname. -/
def instances (meshSvc : MeshService) (endpoints : Endpoints) : List MeshService :=
  endpoints.subsets.flatMap fun subset =>
    subset.addresses.filterMap fun address =>
      if address.hostname = "" then none
      else some { meshSvc with name := address.hostname ++ "." ++ meshSvc.name }

/-- The mesh services of one port of a service. -/
def portServices (c : K8s.Client) (svc : Service) (portSpec : ServicePort) : List MeshService :=
  match c.getEndpoints (portService svc portSpec) with
  | none => [portService svc portSpec]
  | some endpoints =>
    let meshSvc := { portService svc portSpec with
      targetPort := getTargetPortFromEndpoints portSpec.name endpoints }
    if !isHeadlessService svc then [meshSvc]
    else
      let added := instances meshSvc endpoints
      if added.isEmpty then [meshSvc] else added

/-- `ServiceToMeshServices` of the Kubernetes controller. -/
def serviceToMeshServices (c : K8s.Client) (svc : Service) : List MeshService :=
  svc.ports.flatMap (portServices c svc)

def listServices (c : K8s.Client) : List MeshService :=
  c.services.items.flatMap (serviceToMeshServices c)

end Kube

/-! ## Imported services -/

namespace Multicluster

/-- The service of an import for a port and a target port: the address of the first endpoint on
that target port, and no address if there is none. -/
def importedService (imp : ServiceImport) (port : ImportPort) (targetPort : UInt16) : Service :=
  match port.endpoints.find? fun endpoint => targetPort == uint16 endpoint.target.port with
  | some endpoint => { serviceOf imp port endpoint with uid := imp.uid }
  | none => { md := imp.md, uid := imp.uid, clusterIP := "", clusterIPs := [], ports := [] }

/-- `Client.GetService`. -/
def Client.getService (c : Client) (svc : MeshService) : Option Service :=
  if c.isLocality svc then none
  else match c.serviceImports.getByKey svc.namespacedKey with
    | none => none
    | some imp =>
      (imp.ports.find? fun port => equalFold imp.md.name svc.name &&
          uint16 port.port == svc.port && !port.endpoints.isEmpty).map fun port =>
        importedService imp port svc.targetPort

/-- What `GetLbWeightForService` returns. -/
structure LbWeight where
  aa : Bool := false
  fo : Bool := false
  lc : Bool := false
  weight : Int := 0
  clusterKeys : Map String Int := ∅

/-- `constants.ClusterWeightAcceptAll`. -/
def clusterWeightAcceptAll : Int := 100

/-- `constants.ClusterWeightFailOver`. -/
def clusterWeightFailOver : Int := 0

def Client.getLbWeightForService (c : Client) (svc : MeshService) : LbWeight :=
  match c.getGlobalTrafficPolicy svc with
  | none => { lc := true }
  | some p =>
    match p.lbType with
    | .activeActive =>
      if p.targets.isEmpty then { aa := true, weight := clusterWeightAcceptAll }
      else
        match p.targets.find? fun lbt => svc.serviceImportUID == lbt.clusterKey with
        | none => { aa := true }
        | some lbt =>
          { aa := true
            weight := lbt.weight.getD 0
            clusterKeys := AList.singleton lbt.clusterKey (lbt.weight.getD 0) }
    | .failOver =>
      { fo := true
        weight := clusterWeightFailOver
        clusterKeys :=
          p.targets.foldl (fun m lbt => m.insert lbt.clusterKey clusterWeightFailOver) ∅ }
    | .locality => { lc := true }

end Multicluster

/-! ## The addresses of a name -/

/-- The loops of `GetResolvableEndpointsForService`: the cluster IP on every port, or the endpoints
of a service that has none. -/
def resolvableEndpoints (clusterKey : String) (kubeService : Option Service)
    (endpoints : List Endpoint) : List Endpoint :=
  match kubeService with
  | none => []
  | some kubeService =>
    if isHeadlessService kubeService then endpoints
    else match parseIP kubeService.clusterIP with
      | none => []
      | some ip => kubeService.ports.map fun svcPort =>
          { ip, port := UInt32.ofInt svcPort.port, clusterKey }

def Kube.getResolvableEndpointsForService (c : K8s.Client) (svc : MeshService) : List Endpoint :=
  resolvableEndpoints "" (c.getService svc) (Kube.listEndpointsForService c svc)

/-- `fsm.ProviderName`. -/
def Fsm.providerName : String := "flomesh"

def Fsm.getResolvableEndpointsForService (c : Multicluster.Client) (svc : MeshService) :
    List Endpoint :=
  resolvableEndpoints Fsm.providerName (c.getService svc) (Fsm.listEndpointsForService c svc)

namespace MeshCatalog

def getDNSResolvableServiceEndpoints (mc : MeshCatalog) (svc : MeshService) : List Endpoint :=
  Kube.getResolvableEndpointsForService mc.kube svc ++
    Fsm.getResolvableEndpointsForService mc.mc svc

/-- `listMeshServices`: the imported services, then the local ones of the same names. -/
def listMeshServices (mc : MeshCatalog) : List MeshService :=
  let mcServices := Fsm.listServices mc.mc
  mcServices ++ (Kube.listServices mc.kube).filter fun svc =>
    mcServices.any fun mcSvc => svc.name == mcSvc.name && svc.ns == mcSvc.ns

end MeshCatalog

/-- A catalog over admitted objects: the name of a service and the hostname of an address are
RFC 1123 labels. -/
structure Cluster extends MeshCatalog where
  serviceName : ∀ svc ∈ kube.services.items, isDNS1123Label svc.md.name = true
  hostname : ∀ endpoints ∈ kube.endpoints.items, ∀ subset ∈ endpoints.subsets,
    ∀ address ∈ subset.addresses,
      address.hostname = "" ∨ isDNS1123Label address.hostname = true

end Mesh
