import ErieCanalNet.K8s.Types
import ErieCanalNet.Mesh.Service

/-!
# The multicluster controller

`pkg/ecnet/service/multicluster`: imported services, the global traffic policies over them, and
the lookups the fsm provider makes. `getEndpoints` stops at the *first* port entry with
endpoints that the asked port admits, and port 0 admits every entry.

`getEndpoints_subsets` is its specification: the subsets are the accepted endpoints of that
entry, in order; `lbWeight_isSome` says which cluster keys a policy accepts.
-/

namespace Mesh.Multicluster

open Go K8s

/-! ## Imports and policies -/

inductive LoadBalancerType
  | activeActive
  | locality
  | failOver
deriving DecidableEq, Repr

/-- `string(lbType)`. -/
def LoadBalancerType.text : LoadBalancerType → String
  | .activeActive => "ActiveActive"
  | .locality => "Locality"
  | .failOver => "FailOver"

/-- `port` is an `int32`. -/
structure Target where
  host : String
  ip : String
  port : Int
  path : String
deriving DecidableEq, Repr

structure ImportEndpoint where
  target : Target
  clusterKey : String
deriving DecidableEq, Repr

/-- A port entry of an import; `port` is an `int32`. -/
structure ImportPort where
  name : String
  protocol : String
  appProtocol : Option String
  port : Int
  endpoints : List ImportEndpoint
deriving DecidableEq, Repr

structure ServiceImport where
  md : ObjectMeta
  uid : String
  ports : List ImportPort
deriving DecidableEq

structure TrafficTarget where
  clusterKey : String
  weight : Option Int
deriving DecidableEq, Repr

structure GlobalTrafficPolicy where
  md : ObjectMeta
  lbType : LoadBalancerType
  targets : List TrafficTarget
deriving DecidableEq

/-- The caches of the multicluster controller. -/
structure Client where
  serviceImports : Store ServiceImport (·.md)
  globalTrafficPolicies : Store GlobalTrafficPolicy (·.md)

/-! ## Policies -/

def Client.getGlobalTrafficPolicy (c : Client) (svc : MeshService) : Option GlobalTrafficPolicy :=
  c.globalTrafficPolicies.getByKey svc.namespacedKey

def Client.isLocality (c : Client) (svc : MeshService) : Bool :=
  match c.getGlobalTrafficPolicy svc with
  | some p => p.lbType == .locality
  | none => true

/-- The cluster keys of a policy with their weights; a later target overwrites an earlier one. -/
def clusterKeysOf (targets : List TrafficTarget) : Map String Int :=
  targets.foldl (fun m lbt => m.insert lbt.clusterKey (lbt.weight.getD 0)) ∅

def Client.getServiceTrafficPolicy (c : Client) (svc : MeshService) :
    LoadBalancerType × Map String Int :=
  match c.getGlobalTrafficPolicy svc with
  | some p => (p.lbType, clusterKeysOf p.targets)
  | none => (.locality, ∅)

/-- The weight a policy gives an endpoint's cluster; `none` when the policy leaves it out. -/
def lbWeight (clusterKeys : Map String Int) (clusterKey : String) : Option Int :=
  if clusterKeys.entries.isEmpty then some 0 else clusterKeys.lookup clusterKey

/-- A policy's targets admit a cluster: they name it, or there are none. -/
def Allowed (targets : List TrafficTarget) (clusterKey : String) : Prop :=
  targets = [] ∨ ∃ t ∈ targets, t.clusterKey = clusterKey

instance (targets : List TrafficTarget) (clusterKey : String) :
    Decidable (Allowed targets clusterKey) := inferInstanceAs (Decidable (_ ∨ _))

theorem lbWeight_isSome {targets : List TrafficTarget} {k : String} :
    (lbWeight (clusterKeysOf targets) k).isSome ↔ Allowed targets k := by
  have hmem : ∀ k, k ∈ clusterKeysOf targets ↔ ∃ t ∈ targets, t.clusterKey = k := fun k => by
    rw [clusterKeysOf, mem_foldl_insert]; simp
  cases targets with
  | nil => simp [lbWeight, clusterKeysOf, Allowed]
  | cons t ts =>
    have hne : (clusterKeysOf (t :: ts)).entries ≠ [] := fun h => by
      have : t.clusterKey ∈ clusterKeysOf (t :: ts) := (hmem _).2 ⟨t, .head _, rfl⟩
      rw [AList.mem_keys, AList.keys, h] at this
      simp at this
    rw [lbWeight, if_neg (by simpa using hne), AList.lookup_isSome, hmem]
    simp [Allowed]

/-! ## Endpoints of an import -/

/-- An annotation key of an imported endpoint. -/
def annotationKey (kind ip : String) (port : Int) : String :=
  "flomesh.io/ServiceImport/" ++ kind ++ "/" ++ ip ++ "/" ++ toString port

def annotationClusterKey (ip : String) (port : Int) : String := annotationKey "ClusterKey" ip port
def annotationContextPath (ip : String) (port : Int) : String := annotationKey "ContextPath" ip port
def annotationLbType (ip : String) (port : Int) : String := annotationKey "LBType" ip port
def annotationLbWeight (ip : String) (port : Int) : String := annotationKey "LBWeight" ip port

/-- The subset of one imported endpoint. -/
def subsetOf (port : ImportPort) (endpoint : ImportEndpoint) : EndpointSubset where
  addresses := [{ ip := endpoint.target.ip, hostname := endpoint.target.host }]
  ports := [{ name := port.name, protocol := port.protocol, appProtocol := port.appProtocol,
              port := endpoint.target.port }]

/-- The body of the endpoint loop of `GetEndpoints`. -/
def addEndpoint (svc : MeshService) (lbType : LoadBalancerType) (clusterKeys : Map String Int)
    (port : ImportPort) (acc : Endpoints) (endpoint : ImportEndpoint) : Endpoints :=
  if 0 < svc.targetPort && svc.targetPort != uint16 endpoint.target.port then acc
  else match lbWeight clusterKeys endpoint.clusterKey with
    | none => acc
    | some w =>
      let ip := endpoint.target.ip
      let p := endpoint.target.port
      { acc with
        annotations := (((acc.annotations.insert (annotationClusterKey ip p) endpoint.clusterKey)
          |>.insert (annotationContextPath ip p) endpoint.target.path)
          |>.insert (annotationLbType ip p) lbType.text)
          |>.insert (annotationLbWeight ip p) (toString w)
        subsets := acc.subsets ++ [subsetOf port endpoint] }

/-- The port entries `GetEndpoints` stops at. -/
def selectsPort (imp : ServiceImport) (svc : MeshService) (port : ImportPort) : Bool :=
  equalFold imp.md.name svc.name && (svc.port == 0 || svc.port == uint16 port.port) &&
    !port.endpoints.isEmpty

/-- `Client.GetEndpoints`; `none` is the source's `nil` result, never an error. -/
def Client.getEndpoints (c : Client) (svc : MeshService) : Option Endpoints :=
  let (lbType, clusterKeys) := c.getServiceTrafficPolicy svc
  if lbType = .locality then none
  else match c.serviceImports.getByKey svc.namespacedKey with
    | none => none
    | some imp =>
      (imp.ports.find? (selectsPort imp svc)).map fun port =>
        port.endpoints.foldl (addEndpoint svc lbType clusterKeys port)
          { md := imp.md, annotations := ∅, subsets := [] }

def servicePortOf (port : ImportPort) (endpoint : ImportEndpoint) : ServicePort where
  name := port.name
  protocol := port.protocol
  appProtocol := port.appProtocol
  port := port.port
  targetPort := endpoint.target.port

/-- The service of one imported endpoint. -/
def serviceOf (imp : ServiceImport) (port : ImportPort) (endpoint : ImportEndpoint) : Service where
  md := imp.md
  uid := endpoint.clusterKey
  clusterIP := endpoint.target.ip
  clusterIPs := [endpoint.target.ip]
  ports := [servicePortOf port endpoint]

/-- `Client.ListServices`: one service per imported endpoint. -/
def Client.listServices (c : Client) : List Service :=
  c.serviceImports.items.flatMap fun imp =>
    if c.isLocality { ns := imp.md.ns, name := imp.md.name } then []
    else imp.ports.flatMap fun port => port.endpoints.map (serviceOf imp port)

/-! ## Specifications -/

/-- An endpoint `GetEndpoints` keeps: the asked target port, if any, and the policy admit it. -/
def keeps (svc : MeshService) (clusterKeys : Map String Int) (endpoint : ImportEndpoint) : Bool :=
  !(0 < svc.targetPort && svc.targetPort != uint16 endpoint.target.port) &&
    (lbWeight clusterKeys endpoint.clusterKey).isSome

theorem subsets_foldl_addEndpoint {svc : MeshService} {lbType : LoadBalancerType}
    {clusterKeys : Map String Int} {port : ImportPort} :
    ∀ (eps : List ImportEndpoint) (acc : Endpoints),
      (eps.foldl (addEndpoint svc lbType clusterKeys port) acc).subsets =
        acc.subsets ++ (eps.filter (keeps svc clusterKeys)).map (subsetOf port)
  | [], _ => by simp
  | ep :: eps, acc => by
    rw [List.foldl_cons, subsets_foldl_addEndpoint eps, List.filter_cons]
    unfold addEndpoint keeps
    split
    · rename_i h
      simp [h]
    · rename_i h
      cases hw : lbWeight clusterKeys ep.clusterKey with
      | none => simp
      | some w => simp [h]

/-- **What `GetEndpoints` returns**: under a policy other than locality, the kept endpoints of
the first port entry it selects, one subset each. -/
theorem getEndpoints_subsets {c : Client} {svc : MeshService} {p : GlobalTrafficPolicy}
    {imp : ServiceImport} (hp : c.getGlobalTrafficPolicy svc = some p) (hl : p.lbType ≠ .locality)
    (hi : c.serviceImports.getByKey svc.namespacedKey = some imp) :
    (c.getEndpoints svc).map (·.subsets) =
      (imp.ports.find? (selectsPort imp svc)).map fun port =>
        (port.endpoints.filter (keeps svc (clusterKeysOf p.targets))).map (subsetOf port) := by
  simp only [Client.getEndpoints, Client.getServiceTrafficPolicy, hp, hi, if_neg hl,
    Option.map_map]
  congr 1
  funext port
  simp [subsets_foldl_addEndpoint]

/-- What a result of `GetEndpoints` says about the caches. -/
theorem getEndpoints_eq_some {c : Client} {svc : MeshService} {eps : Endpoints}
    (h : c.getEndpoints svc = some eps) :
    ∃ p imp, c.getGlobalTrafficPolicy svc = some p ∧ p.lbType ≠ .locality ∧
      c.serviceImports.getByKey svc.namespacedKey = some imp := by
  unfold Client.getEndpoints Client.getServiceTrafficPolicy at h
  cases hp : c.getGlobalTrafficPolicy svc with
  | none => simp [hp] at h
  | some p =>
    cases hi : c.serviceImports.getByKey svc.namespacedKey with
    | none => simp [hp, hi] at h
    | some imp =>
      refine ⟨p, imp, rfl, fun hl => ?_, rfl⟩
      simp [hp, hl] at h

/-- The imported services are those of the endpoints of the imports that are not local. -/
theorem mem_listServices {c : Client} {svc : Service} :
    svc ∈ c.listServices ↔ ∃ imp ∈ c.serviceImports.items,
      c.isLocality { ns := imp.md.ns, name := imp.md.name } = false ∧
      ∃ port ∈ imp.ports, ∃ ep ∈ port.endpoints, serviceOf imp port ep = svc := by
  simp only [Client.listServices, List.mem_flatMap]
  refine exists_congr fun imp => and_congr_right fun _ => ?_
  cases c.isLocality { ns := imp.md.ns, name := imp.md.name } <;> simp

end Mesh.Multicluster
