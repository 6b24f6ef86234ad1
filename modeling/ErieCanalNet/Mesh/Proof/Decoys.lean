import ErieCanalNet.Mesh.Proof.Excluded

/-!
# Excluded endpoints that are met first

`GetService` reads the address of an imported service from the first endpoint on the target port,
excluded or not. `decoys` are endpoints on every target port; put before the allowed endpoints of
an import (`Cluster.withDecoys`) they give all its services their address (`hasImported_eq`).
-/

namespace Mesh

open Go K8s Multicluster Policy

/-! ## Decoys -/

/-- An endpoint on every target port. -/
def decoys (ip clusterKey : String) : List ImportEndpoint :=
  (List.range 65536).map fun t : Nat => ⟨⟨"", ip, t, ""⟩, clusterKey⟩

theorem mem_decoys {ip clusterKey : String} {ep : ImportEndpoint} :
    ep ∈ decoys ip clusterKey ↔ ∃ t : Nat, t < 65536 ∧ ⟨⟨"", ip, t, ""⟩, clusterKey⟩ = ep := by
  simp only [decoys, List.mem_map, List.mem_range]

/-- An import with the endpoints put before those that a port entry has. -/
def withFirst (eps : List ImportEndpoint) (imp : ServiceImport) : ServiceImport :=
  { imp with ports := imp.ports.map fun entry =>
      { entry with
        endpoints := if entry.endpoints.isEmpty then [] else eps ++ entry.endpoints } }

/-- The allowed part of an import, with decoys if it has the key. -/
def decoyed (policies : Store GlobalTrafficPolicy (·.md)) (key ip clusterKey : String)
    (imp : ServiceImport) : ServiceImport :=
  if imp.md.key = key then withFirst (decoys ip clusterKey) (allowedPart policies imp)
  else allowedPart policies imp

theorem md_decoyed (policies : Store GlobalTrafficPolicy (·.md)) (key ip clusterKey : String)
    (imp : ServiceImport) : (decoyed policies key ip clusterKey imp).md = imp.md := by
  unfold decoyed
  split
  · rfl
  · rfl

/-- A cluster without excluded endpoints but for the decoys of one import. -/
def Cluster.withDecoys (c : Cluster) (key ip clusterKey : String) : Cluster :=
  { c with
    mc := { c.mc with
      serviceImports := c.mc.serviceImports.map
        (decoyed c.mc.globalTrafficPolicies key ip clusterKey) (md_decoyed _ _ _ _) } }

theorem allowedPart_allowedPart (policies : Store GlobalTrafficPolicy (·.md))
    (imp : ServiceImport) :
    allowedPart policies (allowedPart policies imp) = allowedPart policies imp := by
  have hmd : ∀ ep, excludes policies (allowedPart policies imp) ep = excludes policies imp ep :=
    fun _ => rfl
  rw [allowedPart]
  simp only [hmd]
  simp [allowedPart, List.filter_filter]

/-- Excluded endpoints have no part in the allowed part. -/
theorem allowedPart_withFirst {policies : Store GlobalTrafficPolicy (·.md)} {imp : ServiceImport}
    {eps : List ImportEndpoint} (h : ∀ ep ∈ eps, excludes policies imp ep = true) :
    allowedPart policies (withFirst eps (allowedPart policies imp)) = allowedPart policies imp := by
  have hmd : ∀ ep, excludes policies (withFirst eps (allowedPart policies imp)) ep =
      excludes policies imp ep := fun _ => rfl
  have hnone : (eps.filter fun ep => !excludes policies imp ep) = [] :=
    List.filter_eq_nil_iff.2 fun ep hep => by simp [h ep hep]
  rw [allowedPart]
  simp only [hmd]
  simp only [withFirst, allowedPart, List.map_map, ServiceImport.mk.injEq, true_and]
  refine List.map_congr_left fun entry _ => ?_
  simp only [Function.comp_apply, ImportPort.mk.injEq, true_and]
  split
  · rename_i hempty
    rw [List.isEmpty_iff.1 hempty, List.filter_nil]
  · rw [List.filter_append, hnone, List.nil_append, List.filter_filter]
    simp

theorem sameAllowed_withDecoys {c : Cluster} {imp : ServiceImport} {p : GlobalTrafficPolicy}
    (hp : policyOf c.mc imp = some p) {clusterKey : String}
    (hkey : ¬ Allowed p.targets clusterKey) (ip : String) :
    SameAllowed c (c.withDecoys imp.md.key ip clusterKey) := by
  refine ⟨rfl, rfl, ?_⟩
  rw [Cluster.withDecoys, Store.map, List.map_map]
  refine List.map_congr_left fun imp' _ => ?_
  rw [Function.comp_apply, decoyed]
  split
  · rename_i hk
    refine (allowedPart_withFirst fun ep hep => ?_).symm
    obtain ⟨t, -, rfl⟩ := mem_decoys.1 hep
    have hsame : excludes c.mc.globalTrafficPolicies imp' ⟨⟨"", ip, t, ""⟩, clusterKey⟩ =
        excludes c.mc.globalTrafficPolicies imp ⟨⟨"", ip, t, ""⟩, clusterKey⟩ := by
      rw [excludes, excludes, hk]
    rw [hsame]
    exact (excludes_iff hp).2 hkey
  · exact (allowedPart_allowedPart _ _).symm

/-- The port entries with endpoints: the given ones, and those that the import has there. -/
theorem mem_withFirst {eps : List ImportEndpoint} {imp : ServiceImport} {l : List ImportEndpoint}
    (hl : l ≠ []) : (∃ entry ∈ (withFirst eps imp).ports, entry.endpoints = l) ↔
      ∃ entry ∈ imp.ports, entry.endpoints ≠ [] ∧ eps ++ entry.endpoints = l := by
  simp only [withFirst, List.mem_map, exists_exists_and_eq_and]
  refine exists_congr fun entry => and_congr_right fun _ => ?_
  by_cases he : entry.endpoints = []
  · simp [he, hl.symm]
  · simp [he]

/-! ## The address of a service -/

/-- Wherever the import has endpoints, the first on every target port has the address. -/
def LedBy (imp : ServiceImport) (ip : String) : Prop :=
  ∀ entry ∈ imp.ports, entry.endpoints ≠ [] → ∀ targetPort : UInt16, ∃ ep,
    entry.endpoints.find? (fun ep => targetPort == uint16 ep.target.port) = some ep ∧
      ep.target.ip = ip

theorem ledBy_decoys (imp : ServiceImport) (ip clusterKey : String) :
    LedBy (withFirst (decoys ip clusterKey) imp) ip := by
  intro entry hentry hne targetPort
  obtain ⟨entry', -, -, hlead⟩ := (mem_withFirst hne).1 ⟨entry, hentry, rfl⟩
  have hmem : ⟨⟨"", ip, targetPort.toNat, ""⟩, clusterKey⟩ ∈ decoys ip clusterKey :=
    mem_decoys.2 ⟨targetPort.toNat, targetPort.toNat_lt, rfl⟩
  have hfound : ((decoys ip clusterKey).find? fun ep =>
      targetPort == uint16 ep.target.port).isSome = true :=
    List.find?_isSome.2 ⟨_, hmem, by simp [uint16_toNat]⟩
  obtain ⟨ep, hep⟩ := Option.isSome_iff_exists.1 hfound
  refine ⟨ep, ?_, ?_⟩
  · rw [← hlead, List.find?_append, hep, Option.some_or]
  · obtain ⟨t, -, rfl⟩ := mem_decoys.1 (List.mem_of_find?_eq_some hep)
    rfl

section

variable {mc : MeshCatalog} {imp : ServiceImport} (hi : imp ∈ mc.mc.serviceImports.items)
  {p : GlobalTrafficPolicy} (hp : policyOf mc.mc imp = some p) {m : MeshService}
  (hns : m.ns = imp.md.ns) (hname : m.name = imp.md.name)
include hi hp hns hname

/-- The service of an import, by the first port entry of its port that has endpoints. -/
theorem getService_eq : mc.mc.getService m =
    (imp.ports.find? fun entry => uint16 entry.port == m.port && !entry.endpoints.isEmpty).map
      fun entry => importedService imp entry m.targetPort := by
  obtain ⟨hdot, hkey, hl⟩ := policyOf_eq_some.1 hp
  have hmkey : m.namespacedKey = imp.md.key := namespacedKey_of_noDot hns hname hdot
  have hlocal : mc.mc.isLocality m = false := by
    rw [Multicluster.Client.isLocality, Multicluster.Client.getGlobalTrafficPolicy, hmkey, hkey]
    simpa using hl
  have himp : mc.mc.serviceImports.getByKey m.namespacedKey = some imp :=
    Store.getByKey_eq_some.2 ⟨hi, hmkey.symm⟩
  simp [Multicluster.Client.getService, hlocal, himp, hname, equalFold]

/-- **The addresses of an import that one address leads** are readable if that one is. -/
theorem hasImported_eq {ip : String} (hled : LedBy imp ip) (hne : ip ≠ "") (hnone : ip ≠ "None") :
    hasImported mc m = ((mc.mc.getService m).isSome && (parseIP ip).isSome) := by
  unfold hasImported Fsm.getResolvableEndpointsForService resolvableEndpoints
  rw [getService_eq hi hp hns hname]
  cases hfind : imp.ports.find? fun entry =>
      uint16 entry.port == m.port && !entry.endpoints.isEmpty with
  | none => rfl
  | some entry =>
    have hsel := List.find?_some hfind
    rw [Bool.and_eq_true, Bool.not_eq_true', List.isEmpty_eq_false_iff] at hsel
    obtain ⟨ep, hep, rfl⟩ := hled entry (List.mem_of_find?_eq_some hfind) hsel.2 m.targetPort
    have hsvc : importedService imp entry m.targetPort =
        { serviceOf imp entry ep with uid := imp.uid } := by
      rw [importedService, hep]
    have hhead : isHeadlessService { serviceOf imp entry ep with uid := imp.uid } = false := by
      simp [isHeadlessService, serviceOf, hne, hnone]
    simp only [Option.map_some, hsvc, hhead, Option.isSome_some, Bool.true_and]
    cases hip : parseIP ep.target.ip with
    | none => simp [serviceOf, hip]
    | some ip =>
      have hlen : 0 < Fsm.providerName.length := by decide
      simp [serviceOf, hip, hlen]

end

/-- An import lists a service that is found again, if each of its port entries with endpoints has an
allowed one. -/
theorem exists_listed {mc : MeshCatalog} {imp : ServiceImport}
    (hi : imp ∈ mc.mc.serviceImports.items) {p : GlobalTrafficPolicy}
    (hp : policyOf mc.mc imp = some p)
    (hallowed : ∀ entry ∈ imp.ports, entry.endpoints ≠ [] →
      ∃ ep ∈ entry.endpoints, Allowed p.targets ep.clusterKey)
    {entry : ImportPort} (hentry : entry ∈ imp.ports) (hne : entry.endpoints ≠ []) :
    ∃ m ∈ mc.listMeshServices, m.ns = imp.md.ns ∧ m.name = imp.md.name ∧
      (mc.mc.getService m).isSome = true := by
  obtain ⟨ep, hep, -⟩ := hallowed entry hentry hne
  have hnonempty : (!entry.endpoints.isEmpty) = true := by simpa using hne
  -- the entry `GetEndpoints` stops at offers a target port
  obtain ⟨first, hfirst⟩ : ∃ first, entryFor imp (uint16 entry.port) = some first :=
    Option.isSome_iff_exists.1 (List.find?_isSome.2 ⟨entry, hentry, by simp [hnonempty]⟩)
  have hfirstne : first.endpoints ≠ [] := by
    have hsel := List.find?_some hfirst
    rw [Bool.and_eq_true] at hsel
    simpa using hsel.2
  obtain ⟨ep', hep', ha⟩ := hallowed first (List.mem_of_find?_eq_some hfirst) hfirstne
  have hport : uint16 ep'.target.port ∈ targetPorts p imp (uint16 entry.port) := by
    rw [targetPorts, hfirst, Option.map_some, Option.getD_some]
    exact List.mem_map.2 ⟨ep', List.mem_filter.2 ⟨hep', decide_eq_true ha⟩, rfl⟩
  have hlisted : importedMeshService imp entry ep (uint16 ep'.target.port) ∈
      Fsm.listServices mc.mc :=
    mem_imported.2 ⟨imp, hi, p, hp, entry, hentry, ep, hep, _, hport, rfl⟩
  refine ⟨_, List.mem_append_left _ hlisted, rfl, rfl, ?_⟩
  rw [getService_eq hi hp rfl rfl, Option.isSome_map]
  exact List.find?_isSome.2 ⟨entry, hentry, by simp [hnonempty, importedMeshService]⟩

end Mesh
