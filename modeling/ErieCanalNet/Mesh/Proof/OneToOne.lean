import Mathlib.Data.List.Perm.Subperm
import ErieCanalNet.Lib.Table
import ErieCanalNet.Mesh.Proof.Listed

/-!
# Imported endpoints and their services

`ListServices` of the multicluster controller makes a service of every imported endpoint, and
`ServiceToMeshServices` then makes a mesh service of it for every endpoint that `GetEndpoints` keeps
of its port. So the mesh services are not those of the endpoints one by one, but pairs of an
endpoint, for the cluster, and a kept one, for the target port (`attributes_listServices`). The two
agree if and only if no port of an import has more than one kept endpoint, and that one the target
port of all.
-/

namespace Mesh

open Go K8s Multicluster Lib

/-! ## Endpoints and services by their attributes -/

/-- An endpoint of a port entry of an import. -/
structure Imported where
  imp : ServiceImport
  entry : ImportPort
  ep : ImportEndpoint

/-- The imported endpoints. -/
def imported (c : Multicluster.Client) : List Imported :=
  c.serviceImports.items.flatMap fun imp => imp.ports.flatMap fun entry =>
    entry.endpoints.map fun ep => ⟨imp, entry, ep⟩

/-- What ties a mesh service to an endpoint. -/
structure Attributes where
  ns : String
  name : String
  port : UInt16
  serviceImportUID : String
  targetPort : UInt16
deriving DecidableEq

def MeshService.attributes (m : MeshService) : Attributes :=
  ⟨m.ns, m.name, m.port, m.serviceImportUID, m.targetPort⟩

/-- The port of an import. -/
def Attributes.importPort (a : Attributes) : String × String × UInt16 := (a.ns, a.name, a.port)

namespace Imported

/-- The attributes of an endpoint's service with the target port of another endpoint. -/
def withTarget (x : Imported) (ep : ImportEndpoint) : Attributes :=
  ⟨x.imp.md.ns, x.imp.md.name, uint16 x.entry.port, x.ep.clusterKey, uint16 ep.target.port⟩

/-- The attributes of an endpoint's own service. -/
def own (x : Imported) : Attributes := x.withTarget x.ep

def importPort (x : Imported) : String × String × UInt16 :=
  (x.imp.md.ns, x.imp.md.name, uint16 x.entry.port)

/-- The policy of an import allows an endpoint. -/
def AllowedBy (c : Multicluster.Client) (x : Imported) : Prop :=
  ∃ p ∈ c.globalTrafficPolicies.getByKey x.imp.md.key,
    p.lbType ≠ .locality ∧ Allowed p.targets x.ep.clusterKey

instance (c : Multicluster.Client) (x : Imported) : Decidable (x.AllowedBy c) :=
  inferInstanceAs (Decidable (∃ p ∈ c.globalTrafficPolicies.getByKey x.imp.md.key,
    p.lbType ≠ .locality ∧ Allowed p.targets x.ep.clusterKey))

/-- What `GetEndpoints` keeps for the port of an endpoint. -/
def kept (c : Multicluster.Client) (x : Imported) : List ImportEndpoint :=
  ((policyOf c x.imp).bind fun p => (entryFor x.imp (uint16 x.entry.port)).map fun entry =>
    entry.endpoints.filter fun ep => Allowed p.targets ep.clusterKey).getD []

end Imported

open Imported

/-- **The mesh services** are pairs of an endpoint and an endpoint kept of its port. -/
theorem attributes_listServices (c : Multicluster.Client) :
    (Fsm.listServices c).map MeshService.attributes =
      (imported c).flatMap fun x => (x.kept c).map x.withTarget := by
  rw [listServices_eq, imported, List.map_flatMap, List.flatMap_assoc]
  refine List.flatMap_congr fun imp _ => ?_
  simp only [servicesOf, kept, List.flatMap_assoc, List.flatMap_map]
  cases policyOf c imp with
  | none => simp
  | some p =>
    simp only [importServices, List.map_flatMap, targetPorts, Option.bind_some]
    refine List.flatMap_congr fun entry _ => List.flatMap_congr fun ep _ => ?_
    cases entryFor imp (uint16 entry.port) with
    | none => rfl
    | some q => simp [MeshService.attributes, importedMeshService, withTarget]

theorem mem_imported_iff {c : Multicluster.Client} {x : Imported} :
    x ∈ imported c ↔ x.imp ∈ c.serviceImports.items ∧ x.entry ∈ x.imp.ports ∧
      x.ep ∈ x.entry.endpoints := by
  simp only [imported, List.mem_flatMap, List.mem_map]
  constructor
  · intro h
    obtain ⟨imp, himp, entry, hentry, ep, hep, rfl⟩ := h
    exact ⟨himp, hentry, hep⟩
  · intro h
    exact ⟨x.imp, h.1, x.entry, h.2.1, x.ep, h.2.2, rfl⟩

/-- The kept endpoints are those of a port. -/
theorem kept_eq_of_port {c : Multicluster.Client} {x y : Imported} (hx : x ∈ imported c)
    (hy : y ∈ imported c) (h : x.importPort = y.importPort) : x.kept c = y.kept c := by
  obtain ⟨hns, hname, hport⟩ : x.imp.md.ns = y.imp.md.ns ∧ x.imp.md.name = y.imp.md.name ∧
      uint16 x.entry.port = uint16 y.entry.port := by simpa [Imported.importPort] using h
  have hkey : x.imp.md.key = y.imp.md.key := by rw [ObjectMeta.key, ObjectMeta.key, hns, hname]
  have himp : x.imp = y.imp := Option.some.inj
    ((Store.getByKey_eq_some.2 ⟨(mem_imported_iff.1 hx).1, hkey⟩).symm.trans
      (Store.getByKey_eq_some.2 ⟨(mem_imported_iff.1 hy).1, rfl⟩))
  rw [kept, kept, himp, hport]

/-! ## The correspondence -/

/-- **One to one**: different mesh services are of different endpoints, and those of the allowed
endpoints are all there. -/
structure OneToOne (c : Multicluster.Client) : Prop where
  ofEndpoints : ((Fsm.listServices c).map MeshService.attributes).Subperm ((imported c).map own)
  ofAllowed : (((imported c).filter fun x => x.AllowedBy c).map own).Subperm
    ((Fsm.listServices c).map MeshService.attributes)

/-- The port of an endpoint has one kept endpoint, with its target port, or the endpoint is not
allowed and the port has none. -/
def OneKept (c : Multicluster.Client) (x : Imported) : Prop :=
  (x.kept c = [] ∧ ¬x.AllowedBy c) ∨
    ∃ k, x.kept c = [k] ∧ uint16 x.ep.target.port = uint16 k.target.port

theorem OneToOne.of_oneKept {c : Multicluster.Client} (h : ∀ x ∈ imported c, OneKept c x) :
    OneToOne c := by
  -- each endpoint has its own service or none
  have hlist : (Fsm.listServices c).map MeshService.attributes =
      ((imported c).filter fun x => x.kept c ≠ []).map own := by
    rw [attributes_listServices, List.map_eq_flatMap, flatMap_filter]
    refine List.flatMap_congr fun x hx => ?_
    rcases h x hx with ⟨hnil, -⟩ | ⟨k, hk, hport⟩
    · simp [hnil]
    · simp [hk, own, withTarget, hport]
  have hallowed : (imported c).filter (fun x => x.AllowedBy c) =
      ((imported c).filter fun x => x.kept c ≠ []).filter fun x => x.AllowedBy c := by
    rw [List.filter_filter]
    refine List.filter_congr fun x hx => ?_
    rcases h x hx with ⟨hnil, hnot⟩ | ⟨k, hk, -⟩
    · simp [hnil, hnot]
    · simp [hk]
  refine ⟨?_, ?_⟩
  · rw [hlist]
    exact (List.filter_sublist.map own).subperm
  · rw [hlist, hallowed]
    exact (List.filter_sublist.map own).subperm

section

variable {c : Multicluster.Client}

/-- The services of the port of an endpoint. -/
theorem services_of_port (x : Imported) :
    ((Fsm.listServices c).map MeshService.attributes).filter (fun a => a.importPort = x.importPort) =
      ((imported c).filter fun y => y.importPort = x.importPort).flatMap fun y =>
        (y.kept c).map y.withTarget := by
  rw [attributes_listServices]
  refine filter_flatMap_label (fun y _ a ha => ?_) x.importPort
  obtain ⟨k, -, rfl⟩ := List.mem_map.1 ha
  rfl

theorem own_of_port (p : Imported → Bool) (x : Imported) :
    (((imported c).filter p).map own).filter (fun a => a.importPort = x.importPort) =
      (((imported c).filter p).filter fun y => y.importPort = x.importPort).map own := by
  rw [List.filter_map]
  rfl

/-- All endpoints of a port are paired with the same kept ones. -/
theorem pairs_of_port {x : Imported} (hx : x ∈ imported c) :
    (((imported c).filter fun y => y.importPort = x.importPort).flatMap fun y =>
        (y.kept c).map y.withTarget) =
      ((imported c).filter fun y => y.importPort = x.importPort).flatMap fun y =>
        (x.kept c).map y.withTarget := by
  refine List.flatMap_congr fun y hy => ?_
  obtain ⟨hmem, hport⟩ := List.mem_filter.1 hy
  rw [kept_eq_of_port hmem hx (by simpa using hport)]

theorem OneToOne.oneKept (h : OneToOne c) {x : Imported} (hx : x ∈ imported c) : OneKept c x := by
  have hmem : x ∈ (imported c).filter fun y => y.importPort = x.importPort :=
    List.mem_filter.2 ⟨hx, decide_eq_true rfl⟩
  -- of the n endpoints of a port there are n services for each of the kept ones
  have hall := h.ofEndpoints.filter fun a => a.importPort = x.importPort
  have hown := own_of_port (c := c) (fun _ => true) x
  rw [List.filter_true] at hown
  rw [services_of_port, pairs_of_port hx, hown] at hall
  have hlen := hall.length_le
  rw [length_flatMap_const fun y _ => List.length_map _, List.length_map] at hlen
  have hpos := List.length_pos_of_mem hmem
  have hone : (x.kept c).length ≤ 1 := by
    by_contra hgt
    have hle := Nat.mul_le_mul_right ((imported c).filter fun y => y.importPort = x.importPort).length
      (Nat.lt_of_not_le hgt)
    omega
  rcases hk : x.kept c with _ | ⟨k, _ | ⟨k', ks⟩⟩
  · refine .inl ⟨hk, fun hallowed => ?_⟩
    have hnil := h.ofAllowed.filter fun a => a.importPort = x.importPort
    have hnone : (((imported c).filter fun y => y.importPort = x.importPort).flatMap fun y =>
        (x.kept c).map y.withTarget) = [] := by simp [hk]
    rw [services_of_port, pairs_of_port hx, hnone, own_of_port, List.subperm_nil,
      List.map_eq_nil_iff] at hnil
    have hmem' : x ∈ ((imported c).filter fun y => y.AllowedBy c).filter fun y =>
        y.importPort = x.importPort :=
      List.mem_filter.2 ⟨List.mem_filter.2 ⟨hx, decide_eq_true hallowed⟩, decide_eq_true rfl⟩
    rw [hnil] at hmem'
    cases hmem'
  · have hsingle : (((imported c).filter fun y => y.importPort = x.importPort).flatMap fun y =>
        (x.kept c).map y.withTarget) =
          ((imported c).filter fun y => y.importPort = x.importPort).map fun y => y.withTarget k := by
      rw [hk]
      exact List.map_eq_flatMap.symm
    rw [hsingle] at hall
    have hperm := hall.perm_of_length_le (by rw [List.length_map, List.length_map])
    obtain ⟨y, -, hy⟩ := List.mem_map.1 (hperm.mem_iff.2 (List.mem_map_of_mem hmem))
    exact .inr ⟨k, hk, (congrArg Attributes.targetPort hy).symm⟩
  · rw [hk] at hone
    simp at hone

end

/-- **Mesh services and endpoints** of the imports correspond one to one if and only if every port
has one kept endpoint. -/
theorem services_one_to_one_iff (c : Multicluster.Client) :
    OneToOne c ↔ ∀ x ∈ imported c, OneKept c x :=
  ⟨fun h _ hx => h.oneKept hx, OneToOne.of_oneKept⟩

/-- Port 80 of `default/web`, on other ports in two clusters. -/
def twoTargets : ImportPort :=
  { importEntry 80 "" 0 with
    endpoints := [⟨⟨"", "10.0.0.1", 8080, ""⟩, "c1"⟩, ⟨⟨"", "10.0.0.2", 8081, ""⟩, "c2"⟩] }

/-- Two endpoints make four services: each cluster is listed with the target port of the other. -/
theorem not_services_one_to_one :
    ¬OneToOne (importCatalog [twoTargets]).mc ∧
      ((Fsm.listServices (importCatalog [twoTargets]).mc).map fun m =>
          (m.serviceImportUID, m.targetPort)) =
        [("c1", 8080), ("c1", 8081), ("c2", 8080), ("c2", 8081)] := by
  have hlist : Fsm.listServices (importCatalog [twoTargets]).mc =
      [⟨"default", "web", 80, 8080, "http", "c1"⟩, ⟨"default", "web", 80, 8081, "http", "c1"⟩,
        ⟨"default", "web", 80, 8080, "http", "c2"⟩, ⟨"default", "web", 80, 8081, "http", "c2"⟩] := by
    decide
  refine ⟨fun h => ?_, by rw [hlist]; rfl⟩
  have hlen := h.ofEndpoints.length_le
  rw [hlist] at hlen
  revert hlen
  decide

end Mesh
