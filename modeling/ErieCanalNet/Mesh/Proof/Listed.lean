import ErieCanalNet.Mesh.Proof.Names
import ErieCanalNet.Mesh.Proof.Upstream

/-!
# The services of the mesh

* `listServices_eq`: the imported services, import by import: for every endpoint of every port entry
  one service on each target port that the entry `GetEndpoints` stops at offers to the policy;
* `exists_service`: a local service has the names of its object, or of one of its addresses;
* `Cluster.nameValid`: their names are names the API server admits.
-/

namespace Mesh

open Go K8s Multicluster Policy

/-! ## Imported services -/

/-- The policy of an import that has services; a name with a dot is not found by its key. -/
def policyOf (c : Multicluster.Client) (imp : ServiceImport) : Option GlobalTrafficPolicy :=
  if '.' ∈ imp.md.name.toList then none
  else (c.globalTrafficPolicies.getByKey imp.md.key).bind fun p =>
    if p.lbType = .locality then none else some p

/-- The port entry `GetEndpoints` stops at for a service port. -/
def entryFor (imp : ServiceImport) (port : UInt16) : Option ImportPort :=
  imp.ports.find? fun entry => (port == 0 || port == uint16 entry.port) && !entry.endpoints.isEmpty

/-- The target ports that entry offers to the policy. -/
def targetPorts (p : GlobalTrafficPolicy) (imp : ServiceImport) (port : UInt16) : List UInt16 :=
  ((entryFor imp port).map fun entry =>
    (entry.endpoints.filter fun ep => Allowed p.targets ep.clusterKey).map fun ep =>
      uint16 ep.target.port).getD []

def entryProtocol (entry : ImportPort) : String :=
  Fsm.portProtocol { name := entry.name, protocol := entry.protocol, port := entry.port
                     appProtocol := entry.appProtocol, targetPort := 0 }

/-- The service of an endpoint of an entry, on a target port. -/
def importedMeshService (imp : ServiceImport) (entry : ImportPort) (ep : ImportEndpoint)
    (targetPort : UInt16) : MeshService where
  ns := imp.md.ns
  name := imp.md.name
  port := uint16 entry.port
  targetPort := targetPort
  protocol := entryProtocol entry
  serviceImportUID := ep.clusterKey

def importServices (p : GlobalTrafficPolicy) (imp : ServiceImport) : List MeshService :=
  imp.ports.flatMap fun entry => entry.endpoints.flatMap fun ep =>
    (targetPorts p imp (uint16 entry.port)).map (importedMeshService imp entry ep)

/-- The services of an import under its policy. -/
def servicesOf (c : Multicluster.Client) (imp : ServiceImport) : List MeshService :=
  match policyOf c imp with
  | none => []
  | some p => importServices p imp

theorem mem_servicesOf {c : Multicluster.Client} {imp : ServiceImport} {m : MeshService} :
    m ∈ servicesOf c imp ↔ ∃ p, policyOf c imp = some p ∧ ∃ entry ∈ imp.ports,
      ∃ ep ∈ entry.endpoints, ∃ t ∈ targetPorts p imp (uint16 entry.port),
        importedMeshService imp entry ep t = m := by
  unfold servicesOf
  cases policyOf c imp with
  | none => simp
  | some p => simp [importServices]

theorem policyOf_eq_some {c : Multicluster.Client} {imp : ServiceImport} {p : GlobalTrafficPolicy} :
    policyOf c imp = some p ↔ '.' ∉ imp.md.name.toList ∧
      c.globalTrafficPolicies.getByKey imp.md.key = some p ∧ p.lbType ≠ .locality := by
  unfold policyOf
  by_cases hdot : '.' ∈ imp.md.name.toList
  · simp [hdot]
  · simp only [hdot, if_false, not_false_eq_true, true_and, Option.bind_eq_some_iff]
    constructor
    · rintro ⟨q, hq, h⟩
      split at h
      · cases h
      · obtain rfl := Option.some.inj h
        exact ⟨hq, ‹_›⟩
    · rintro ⟨hp, hl⟩
      exact ⟨p, hp, if_neg hl⟩

theorem isLocality_of_policyOf {c : Multicluster.Client} {imp : ServiceImport}
    {p : GlobalTrafficPolicy} (h : policyOf c imp = some p) :
    c.isLocality { ns := imp.md.ns, name := imp.md.name } = false := by
  obtain ⟨hdot, hp, hl⟩ := policyOf_eq_some.1 h
  rw [Multicluster.Client.isLocality, Multicluster.Client.getGlobalTrafficPolicy,
    namespacedKey_of_noDot rfl rfl hdot, hp]
  simpa using hl

/-- What `GetEndpoints` has for a service of the import without a target port. -/
theorem subsets_getEndpoints {c : Multicluster.Client} {imp : ServiceImport}
    (hi : imp ∈ c.serviceImports.items) (svc : MeshService) (hns : svc.ns = imp.md.ns)
    (hname : svc.name = imp.md.name) (htp : svc.targetPort = 0) :
    (c.getEndpoints svc).map (·.subsets) =
      (policyOf c imp).bind fun p => (entryFor imp svc.port).map fun entry =>
        (entry.endpoints.filter fun ep => Allowed p.targets ep.clusterKey).map (subsetOf entry) := by
  by_cases hdot : '.' ∈ imp.md.name.toList
  · have hnone : c.getEndpoints svc = none := by
      cases he : c.getEndpoints svc with
      | none => rfl
      | some eps =>
        exact absurd (hname ▸ hdot) (noDot_of_getEndpoints (hns ▸ imp.md.slash_notMem_ns) he)
    rw [hnone, policyOf, if_pos hdot]
    rfl
  · have hkey : svc.namespacedKey = imp.md.key := namespacedKey_of_noDot hns hname hdot
    have himp : c.serviceImports.getByKey svc.namespacedKey = some imp :=
      hkey ▸ Store.getByKey_eq_some.2 ⟨hi, rfl⟩
    rw [policyOf, if_neg hdot]
    cases hp : c.globalTrafficPolicies.getByKey imp.md.key with
    | none =>
      have hpol : c.getGlobalTrafficPolicy svc = none := by
        rw [Multicluster.Client.getGlobalTrafficPolicy, hkey, hp]
      simp [Multicluster.Client.getEndpoints, Multicluster.Client.getServiceTrafficPolicy, hpol]
    | some p =>
      have hpol : c.getGlobalTrafficPolicy svc = some p := by
        rw [Multicluster.Client.getGlobalTrafficPolicy, hkey, hp]
      by_cases hl : p.lbType = .locality
      · simp [Multicluster.Client.getEndpoints, Multicluster.Client.getServiceTrafficPolicy, hpol, hl]
      · have hsel : selectsPort imp svc = fun entry =>
            (svc.port == 0 || svc.port == uint16 entry.port) && !entry.endpoints.isEmpty := by
          funext entry
          simp [selectsPort, hname, equalFold]
        have hkeeps : keeps svc (clusterKeysOf p.targets) = fun ep =>
            decide (Allowed p.targets ep.clusterKey) := by
          funext ep
          rw [Bool.eq_iff_iff, decide_eq_true_eq, ← lbWeight_isSome]
          simp [keeps, htp]
        rw [getEndpoints_subsets hpol hl himp, hsel, hkeeps]
        simp [hl, entryFor]

/-- The mesh services of one imported endpoint. -/
theorem serviceToMeshServices_eq {c : Multicluster.Client} {imp : ServiceImport}
    (hi : imp ∈ c.serviceImports.items) (entry : ImportPort) (ep : ImportEndpoint) :
    Fsm.serviceToMeshServices c (serviceOf imp entry ep) =
      match policyOf c imp with
      | none => []
      | some p => (targetPorts p imp (uint16 entry.port)).map (importedMeshService imp entry ep) := by
  set svc := Fsm.portService (serviceOf imp entry ep) (servicePortOf entry ep)
  have hsub := subsets_getEndpoints hi svc rfl rfl rfl
  have hsvc : Fsm.serviceToMeshServices c (serviceOf imp entry ep) =
      (((c.getEndpoints svc).map (·.subsets)).map fun subsets => subsets.flatMap fun subset =>
        subset.ports.map fun port =>
          importedMeshService imp entry ep (uint16 port.port)).getD [] := by
    rw [Fsm.serviceToMeshServices,
      show (serviceOf imp entry ep).ports = [servicePortOf entry ep] from rfl,
      List.flatMap_singleton]
    cases c.getEndpoints svc with
    | none => rfl
    | some eps => rfl
  rw [hsvc, hsub, show svc.port = uint16 entry.port from rfl]
  cases policyOf c imp with
  | none => rfl
  | some p =>
    simp only [targetPorts, Option.bind_some]
    cases entryFor imp (uint16 entry.port) with
    | none => rfl
    | some q =>
      simp only [Option.map_some, Option.getD_some, List.flatMap_map, subsetOf, List.map_cons,
        List.map_nil, List.map_map]
      exact List.map_eq_flatMap.symm

/-- **The imported services**, import by import. -/
theorem listServices_eq (c : Multicluster.Client) :
    Fsm.listServices c = c.serviceImports.items.flatMap (servicesOf c) := by
  rw [Fsm.listServices, Multicluster.Client.listServices, List.flatMap_assoc]
  refine List.flatMap_congr fun imp hi => ?_
  have hsvc := serviceToMeshServices_eq hi
  unfold servicesOf
  cases hp : policyOf c imp with
  | none =>
    simp only [hp] at hsvc
    split
    · rfl
    · simp [List.flatMap_assoc, List.flatMap_map, hsvc]
  | some p =>
    simp only [hp] at hsvc
    rw [if_neg (by simp [isLocality_of_policyOf hp])]
    simp [List.flatMap_assoc, List.flatMap_map, hsvc, importServices]

theorem mem_imported {c : Multicluster.Client} {m : MeshService} :
    m ∈ Fsm.listServices c ↔ ∃ imp ∈ c.serviceImports.items, ∃ p, policyOf c imp = some p ∧
      ∃ entry ∈ imp.ports, ∃ ep ∈ entry.endpoints,
      ∃ t ∈ targetPorts p imp (uint16 entry.port), importedMeshService imp entry ep t = m := by
  simp only [listServices_eq, List.mem_flatMap, mem_servicesOf]

theorem nameValid_import {c : Multicluster.Client} {m : MeshService}
    (h : m ∈ Fsm.listServices c) : NameValid m := by
  obtain ⟨imp, -, p, -, entry, -, ep, -, t, -, rfl⟩ := mem_imported.1 h
  exact ⟨imp.md.nsValid, subdomain_ne_empty imp.md.nameValid, subdomain_char imp.md.nameValid⟩

/-! ## Local services -/

/-- A service is listed under its own name: it is not headless, or has no address with a
hostname. -/
def ListedAsItself (c : K8s.Client) (svc : Service) : Prop :=
  isHeadlessService svc = true → ∀ endpoints, c.endpoints.getByKey svc.md.key = some endpoints →
    ∀ subset ∈ endpoints.subsets, ∀ address ∈ subset.addresses, address.hostname = ""

theorem instances_eq_nil {meshSvc : MeshService} {endpoints : Endpoints} :
    Kube.instances meshSvc endpoints = [] ↔
      ∀ subset ∈ endpoints.subsets, ∀ address ∈ subset.addresses, address.hostname = "" := by
  simp [Kube.instances, List.flatMap_eq_nil_iff, List.filterMap_eq_nil_iff]

theorem mem_instances {meshSvc m : MeshService} {endpoints : Endpoints}
    (h : m ∈ Kube.instances meshSvc endpoints) :
    ∃ subset ∈ endpoints.subsets, ∃ address ∈ subset.addresses, address.hostname ≠ "" ∧
      m = { meshSvc with name := address.hostname ++ "." ++ meshSvc.name } := by
  simp only [Kube.instances, List.mem_flatMap, List.mem_filterMap] at h
  obtain ⟨subset, hsubset, address, haddress, h⟩ := h
  split at h
  · cases h
  · exact ⟨subset, hsubset, address, haddress, ‹_›, (Option.some.inj h).symm⟩

section

variable {c : K8s.Client} {svc : Service} (hdot : '.' ∉ svc.md.name.toList)
include hdot

theorem getEndpoints_portService (portSpec : ServicePort) :
    c.getEndpoints (Kube.portService svc portSpec) = c.endpoints.getByKey svc.md.key := by
  rw [K8s.Client.getEndpoints, namespacedKey_of_noDot rfl rfl hdot]

/-- The mesh services of a port: one with the name of the service, or one for each address with a
hostname. -/
theorem portServices_cases (portSpec : ServicePort) :
    (ListedAsItself c svc ∧ ∃ tp, Kube.portServices c svc portSpec =
        [{ Kube.portService svc portSpec with targetPort := tp }]) ∨
      ∃ endpoints tp, c.endpoints.getByKey svc.md.key = some endpoints ∧
        ¬ ListedAsItself c svc ∧ Kube.portServices c svc portSpec =
          Kube.instances { Kube.portService svc portSpec with targetPort := tp } endpoints := by
  rw [Kube.portServices, getEndpoints_portService hdot]
  cases he : c.endpoints.getByKey svc.md.key with
  | none =>
    refine .inl ⟨fun _ endpoints h => ?_, 0, rfl⟩
    rw [he] at h
    cases h
  | some endpoints =>
    have hself : ∀ {tp : UInt16}, ListedAsItself c svc ↔ (isHeadlessService svc = true →
        Kube.instances { Kube.portService svc portSpec with targetPort := tp } endpoints = []) := by
      intro tp
      simp only [ListedAsItself, he, Option.some.injEq, forall_eq', instances_eq_nil]
    by_cases hhead : isHeadlessService svc = true
    · simp only [hhead, Bool.not_true, Bool.false_eq_true, if_false, List.isEmpty_iff]
      split
      · rename_i hnil
        exact .inl ⟨hself.2 fun _ => hnil, _, rfl⟩
      · rename_i hne
        exact .inr ⟨endpoints, _, rfl, fun h => hne (hself.1 h hhead), rfl⟩
    · simp only [hhead, Bool.not_false, if_true]
      exact .inl ⟨fun h => absurd h hhead, _, rfl⟩

end

/-- A mesh service of a service is that of one of its ports, or of an address of it. -/
theorem exists_port (c : Cluster) {svc : Service} (hsvc : svc ∈ c.kube.services.items)
    {m : MeshService} (h : m ∈ Kube.serviceToMeshServices c.kube svc) :
    ∃ portSpec ∈ svc.ports, m.ns = svc.md.ns ∧ m.port = uint16 portSpec.port ∧
      m.protocol = Fsm.portProtocol portSpec ∧ m.serviceImportUID = "" ∧
      (m.name = svc.md.name ∧ ListedAsItself c.kube svc ∨
        ∃ hostname, isDNS1123Label hostname = true ∧ m.name = hostname ++ "." ++ svc.md.name) := by
  obtain ⟨portSpec, hport, hm⟩ := List.mem_flatMap.1 h
  have hdot : '.' ∉ svc.md.name.toList := label_noDot (c.serviceName svc hsvc)
  refine ⟨portSpec, hport, ?_⟩
  rcases portServices_cases (c := c.kube) hdot portSpec with
    ⟨hself, tp, hp⟩ | ⟨endpoints, tp, he, -, hp⟩
  · rw [hp, List.mem_singleton] at hm
    subst hm
    exact ⟨rfl, rfl, rfl, rfl, .inl ⟨rfl, hself⟩⟩
  · rw [hp] at hm
    obtain ⟨subset, hsubset, address, haddress, hne, rfl⟩ := mem_instances hm
    have hmem := (Store.getByKey_eq_some.1 he).1
    exact ⟨rfl, rfl, rfl, rfl, .inr ⟨address.hostname,
      (c.hostname endpoints hmem subset hsubset address haddress).resolve_left hne, rfl⟩⟩

/-- A local service of a cluster is one of a service of it. -/
theorem exists_service (c : Cluster) {m : MeshService} (h : m ∈ Kube.listServices c.kube) :
    ∃ svc ∈ c.kube.services.items, ∃ portSpec ∈ svc.ports, m.ns = svc.md.ns ∧
      m.port = uint16 portSpec.port ∧ m.protocol = Fsm.portProtocol portSpec ∧
      m.serviceImportUID = "" ∧
      (m.name = svc.md.name ∧ ListedAsItself c.kube svc ∨
        ∃ hostname, isDNS1123Label hostname = true ∧ m.name = hostname ++ "." ++ svc.md.name) := by
  obtain ⟨svc, hsvc, hm⟩ := List.mem_flatMap.1 h
  exact ⟨svc, hsvc, exists_port c hsvc hm⟩

/-! ## The mesh -/

theorem mem_listMeshServices {mc : MeshCatalog} {m : MeshService} (h : m ∈ mc.listMeshServices) :
    m ∈ Fsm.listServices mc.mc ∨ m ∈ Kube.listServices mc.kube := by
  rw [MeshCatalog.listMeshServices, List.mem_append, List.mem_filter] at h
  exact h.imp_right And.left

/-- **The names of the mesh services** are names the API server admits. -/
theorem Cluster.nameValid (c : Cluster) : ∀ m ∈ c.listMeshServices, NameValid m := by
  intro m hm
  rcases mem_listMeshServices hm with hm | hm
  · exact nameValid_import hm
  · obtain ⟨svc, hsvc, -, -, hns, -, -, -, hname⟩ := exists_service c hm
    have hlabel : LabelName m.name := by
      rcases hname with ⟨hname, -⟩ | ⟨hostname, hhost, hname⟩
      · exact .inl (hname ▸ c.serviceName svc hsvc)
      · exact .inr ⟨_, _, hhost, c.serviceName svc hsvc, hname⟩
    exact hlabel.nameValid (hns ▸ svc.md.nsValid)

end Mesh
