import ErieCanalNet.Mesh.Proof.Listed
import ErieCanalNet.Mesh.Proof.Lookups

/-!
# Endpoints a policy excludes

A policy with targets excludes the endpoints of all other clusters. Two clusters that differ in
nothing else are `SameAllowed`: what is left of their imports without these endpoints
(`allowedPart`) is the same.

Without a policy that selects among the endpoints of its import (`NothingSelected`) the excluded
endpoints are never listed, and the other imports have none: the same services are listed
(`SameAllowed.listMeshServices_eq`), and looked up in the same objects (`SameAllowed.sameAt`).
-/

namespace Mesh

open Go K8s Multicluster Policy

/-! ## The allowed part -/

/-- The policy of an import is not locality, and its targets leave the endpoint's cluster out. -/
def excludes (policies : Store GlobalTrafficPolicy (·.md)) (imp : ServiceImport)
    (ep : ImportEndpoint) : Bool :=
  (policies.getByKey imp.md.key).any fun p =>
    p.lbType ≠ .locality ∧ ¬ Allowed p.targets ep.clusterKey

/-- An import without the endpoints its policy excludes. -/
def allowedPart (policies : Store GlobalTrafficPolicy (·.md)) (imp : ServiceImport) :
    ServiceImport :=
  { imp with ports := imp.ports.map fun entry =>
      { entry with endpoints := entry.endpoints.filter fun ep => !excludes policies imp ep } }

/-- The clusters differ only in endpoints that the policies exclude. -/
structure SameAllowed (c c' : Cluster) : Prop where
  kube : c.kube = c'.kube
  globalTrafficPolicies : c.mc.globalTrafficPolicies = c'.mc.globalTrafficPolicies
  serviceImports :
    c.mc.serviceImports.items.map (allowedPart c.mc.globalTrafficPolicies) =
      c'.mc.serviceImports.items.map (allowedPart c'.mc.globalTrafficPolicies)

/-- No policy with targets admits an endpoint of its import. -/
def NothingSelected (mc : MeshCatalog) : Prop :=
  ∀ imp ∈ mc.mc.serviceImports.items, ∀ p, policyOf mc.mc imp = some p → p.targets ≠ [] →
    ∀ entry ∈ imp.ports, ∀ ep ∈ entry.endpoints, ¬ Allowed p.targets ep.clusterKey

section

variable {c : Multicluster.Client} {imp : ServiceImport} {p : GlobalTrafficPolicy}
  (hp : policyOf c imp = some p)
include hp

theorem excludes_iff {ep : ImportEndpoint} :
    excludes c.globalTrafficPolicies imp ep = true ↔ ¬ Allowed p.targets ep.clusterKey := by
  obtain ⟨-, hkey, hl⟩ := policyOf_eq_some.1 hp
  rw [excludes, hkey]
  simp [hl]

/-- The endpoints of the allowed part are the allowed ones. -/
theorem mem_allowedPart {ep : ImportEndpoint} :
    (∃ entry ∈ (allowedPart c.globalTrafficPolicies imp).ports, ep ∈ entry.endpoints) ↔
      (∃ entry ∈ imp.ports, ep ∈ entry.endpoints) ∧ Allowed p.targets ep.clusterKey := by
  simp only [allowedPart, List.mem_map, exists_exists_and_eq_and, List.mem_filter,
    Bool.not_eq_true', ← Bool.not_eq_true, excludes_iff hp, not_not]
  exact ⟨fun ⟨entry, hentry, hep, ha⟩ => ⟨⟨entry, hentry, hep⟩, ha⟩,
    fun ⟨⟨entry, hentry, hep⟩, ha⟩ => ⟨entry, hentry, hep, ha⟩⟩

/-- Without targets nothing is excluded. -/
theorem allowedPart_eq_self (ht : p.targets = []) :
    allowedPart c.globalTrafficPolicies imp = imp := by
  have hkeep : ∀ ep, (!excludes c.globalTrafficPolicies imp ep) = true := fun ep => by
    rw [Bool.not_eq_true', ← Bool.not_eq_true, excludes_iff hp, not_not]
    exact .inl ht
  simp only [allowedPart, hkeep, List.filter_true, List.map_id']

end

/-- An import none of whose endpoints is allowed has no services. -/
theorem importServices_eq_nil {p : GlobalTrafficPolicy} {imp : ServiceImport}
    (h : ∀ entry ∈ imp.ports, ∀ ep ∈ entry.endpoints, ¬ Allowed p.targets ep.clusterKey) :
    importServices p imp = [] := by
  have hports : ∀ port, targetPorts p imp port = [] := by
    intro port
    unfold targetPorts
    cases hentry : entryFor imp port with
    | none => rfl
    | some entry =>
      have hnil : (entry.endpoints.filter fun ep => Allowed p.targets ep.clusterKey) = [] :=
        List.filter_eq_nil_iff.2 fun ep hep ha =>
          h entry (List.mem_of_find?_eq_some hentry) ep hep (of_decide_eq_true ha)
      simp [hnil]
  simp [importServices, hports]

/-! ## Nothing selected -/

/-- A listed service has the name of an import with services. -/
theorem exists_import_of_listed {mc : MeshCatalog} {m : MeshService}
    (hm : m ∈ mc.listMeshServices) :
    ∃ imp ∈ mc.mc.serviceImports.items, servicesOf mc.mc imp ≠ [] ∧ m.ns = imp.md.ns ∧
      m.name = imp.md.name := by
  have himported : ∀ m' ∈ Fsm.listServices mc.mc, ∃ imp ∈ mc.mc.serviceImports.items,
      servicesOf mc.mc imp ≠ [] ∧ m'.ns = imp.md.ns ∧ m'.name = imp.md.name := by
    intro m' hm'
    obtain ⟨imp, hi, p, hp, entry, hentry, ep, hep, t, ht, rfl⟩ := mem_imported.1 hm'
    refine ⟨imp, hi, ?_, rfl, rfl⟩
    exact List.ne_nil_of_mem (mem_servicesOf.2 ⟨p, hp, entry, hentry, ep, hep, t, ht, rfl⟩)
  rw [MeshCatalog.listMeshServices, List.mem_append, List.mem_filter] at hm
  rcases hm with hm | ⟨-, hany⟩
  · exact himported m hm
  · obtain ⟨m', hm', hsame⟩ := List.any_eq_true.1 hany
    rw [Bool.and_eq_true, beq_iff_eq, beq_iff_eq] at hsame
    obtain ⟨imp, hi, hne, hns, hname⟩ := himported m' hm'
    exact ⟨imp, hi, hne, hsame.2.trans hns, hsame.1.trans hname⟩

section

variable {mc : MeshCatalog} (hq : NothingSelected mc) {imp : ServiceImport}
  (hi : imp ∈ mc.mc.serviceImports.items)
include hq hi

/-- An import with services is under a policy without targets. -/
theorem exists_policy_of_services (hne : servicesOf mc.mc imp ≠ []) :
    ∃ p, policyOf mc.mc imp = some p ∧ p.targets = [] := by
  unfold servicesOf at hne
  cases hp : policyOf mc.mc imp with
  | none =>
    rw [hp] at hne
    exact (hne rfl).elim
  | some p =>
    rw [hp] at hne
    exact ⟨p, rfl, by_contra fun ht => hne (importServices_eq_nil (hq imp hi p hp ht))⟩

/-- The excluded endpoints have no services. -/
theorem servicesOf_allowedPart :
    servicesOf mc.mc (allowedPart mc.mc.globalTrafficPolicies imp) = servicesOf mc.mc imp := by
  have hpol : policyOf mc.mc (allowedPart mc.mc.globalTrafficPolicies imp) = policyOf mc.mc imp :=
    rfl
  unfold servicesOf
  rw [hpol]
  cases hp : policyOf mc.mc imp with
  | none => rfl
  | some p =>
    by_cases ht : p.targets = []
    · rw [allowedPart_eq_self hp ht]
    · have hnone := hq imp hi p hp ht
      have hnone' : ∀ entry ∈ (allowedPart mc.mc.globalTrafficPolicies imp).ports,
          ∀ ep ∈ entry.endpoints, ¬ Allowed p.targets ep.clusterKey := by
        intro entry hentry ep hep
        obtain ⟨⟨entry', hentry', hep'⟩, -⟩ := (mem_allowedPart hp).1 ⟨entry, hentry, hep⟩
        exact hnone entry' hentry' ep hep'
      exact (importServices_eq_nil hnone').trans (importServices_eq_nil hnone).symm

end

namespace SameAllowed

variable {c c' : Cluster} (h : SameAllowed c c')
include h

theorem policyOf_eq (imp : ServiceImport) : policyOf c.mc imp = policyOf c'.mc imp := by
  rw [policyOf, policyOf, h.globalTrafficPolicies]

theorem servicesOf_eq (imp : ServiceImport) : servicesOf c.mc imp = servicesOf c'.mc imp := by
  rw [servicesOf, servicesOf, h.policyOf_eq]

/-- A service has its weight from the policy. -/
theorem upstreamWeight_eq (m : MeshService) :
    upstreamWeight c.toMeshCatalog m = upstreamWeight c'.toMeshCatalog m := by
  unfold upstreamWeight Multicluster.Client.getLbWeightForService
    Multicluster.Client.getGlobalTrafficPolicy
  rw [h.globalTrafficPolicies]

/-- The imports correspond to each other. -/
theorem exists_import {imp' : ServiceImport} (hi' : imp' ∈ c'.mc.serviceImports.items) :
    ∃ imp ∈ c.mc.serviceImports.items,
      allowedPart c.mc.globalTrafficPolicies imp = allowedPart c.mc.globalTrafficPolicies imp' := by
  have hmem := List.mem_map_of_mem (f := allowedPart c'.mc.globalTrafficPolicies) hi'
  rw [← h.serviceImports] at hmem
  obtain ⟨imp, hi, he⟩ := List.mem_map.1 hmem
  exact ⟨imp, hi, he.trans (by rw [h.globalTrafficPolicies])⟩

theorem nothingSelected (hq : NothingSelected c.toMeshCatalog) :
    NothingSelected c'.toMeshCatalog := by
  intro imp' hi' p hp' ht entry' hentry' ep hep' ha
  obtain ⟨imp, hi, he⟩ := h.exists_import hi'
  have hmd : imp.md = imp'.md := by
    have hpart := congrArg ServiceImport.md he
    exact hpart
  rw [← h.policyOf_eq] at hp'
  have hp : policyOf c.mc imp = some p := by
    rw [← hp', policyOf, policyOf, hmd]
  -- an allowed endpoint of the one is in the allowed part of both
  have hin := (mem_allowedPart hp').2 ⟨⟨entry', hentry', hep'⟩, ha⟩
  rw [← he] at hin
  obtain ⟨⟨entry, hentry, hep⟩, -⟩ := (mem_allowedPart hp).1 hin
  exact hq imp hi p hp ht entry hentry ep hep ha

section

variable (hq : NothingSelected c.toMeshCatalog)
include hq

theorem listServices_eq : Fsm.listServices c.mc = Fsm.listServices c'.mc := by
  have hpart : ∀ {c : Cluster}, NothingSelected c.toMeshCatalog → Fsm.listServices c.mc =
      (c.mc.serviceImports.items.map (allowedPart c.mc.globalTrafficPolicies)).flatMap
        (servicesOf c.mc) := by
    intro c hq
    rw [Mesh.listServices_eq, List.flatMap_map]
    exact List.flatMap_congr fun imp hi => (servicesOf_allowedPart hq hi).symm
  rw [hpart hq, hpart (h.nothingSelected hq), h.serviceImports, funext h.servicesOf_eq]

theorem listMeshServices_eq : c.listMeshServices = c'.listMeshServices := by
  rw [MeshCatalog.listMeshServices, MeshCatalog.listMeshServices, h.listServices_eq hq, h.kube]

/-- An import with services is the same in both. -/
theorem mem_of_services {imp : ServiceImport} (hi : imp ∈ c.mc.serviceImports.items)
    (hne : servicesOf c.mc imp ≠ []) : imp ∈ c'.mc.serviceImports.items := by
  have hself : ∀ {c : Cluster} {imp : ServiceImport}, NothingSelected c.toMeshCatalog →
      imp ∈ c.mc.serviceImports.items → servicesOf c.mc imp ≠ [] →
        allowedPart c.mc.globalTrafficPolicies imp = imp := by
    intro c imp hq hi hne
    obtain ⟨p, hp, ht⟩ := exists_policy_of_services hq hi hne
    exact allowedPart_eq_self hp ht
  have hmem := List.mem_map_of_mem (f := allowedPart c.mc.globalTrafficPolicies) hi
  rw [hself hq hi hne, h.serviceImports] at hmem
  obtain ⟨imp', hi', he⟩ := List.mem_map.1 hmem
  have hne' : servicesOf c'.mc imp' ≠ [] := by
    rwa [← servicesOf_allowedPart (h.nothingSelected hq) hi', he, ← h.servicesOf_eq]
  rw [hself (h.nothingSelected hq) hi' hne'] at he
  exact he ▸ hi'

/-- **A listed service is looked up in the same objects.** -/
theorem sameAt {m : MeshService} (hm : m ∈ c.listMeshServices) :
    SameAt c.toMeshCatalog c'.toMeshCatalog m.namespacedKey := by
  obtain ⟨imp, hi, hne, hns, hname⟩ := exists_import_of_listed hm
  obtain ⟨p, hp, -⟩ := exists_policy_of_services hq hi hne
  have hkey : m.namespacedKey = imp.md.key :=
    namespacedKey_of_noDot hns hname (policyOf_eq_some.1 hp).1
  have himp : c.mc.serviceImports.getByKey m.namespacedKey = some imp :=
    Store.getByKey_eq_some.2 ⟨hi, hkey.symm⟩
  have himp' : c'.mc.serviceImports.getByKey m.namespacedKey = some imp :=
    Store.getByKey_eq_some.2 ⟨h.mem_of_services hq hi hne, hkey.symm⟩
  exact ⟨by rw [h.kube], by rw [h.kube], himp.trans himp'.symm, by rw [h.globalTrafficPolicies]⟩

end

end SameAllowed

end Mesh
