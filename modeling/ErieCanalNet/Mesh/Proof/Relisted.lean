import ErieCanalNet.Mesh.Proof.Listed
import ErieCanalNet.Mesh.Proof.Lookups

/-!
# Other listings of the same objects

An informer's cache lists its objects in any order. What the providers look up by key does not
depend on it (`Relisted`); the listed services do, but not those of one namespace and name among
each other: they come from one import and one local service (`sameByName_of_relisted`).

`SameByName`: two lists of services that agree on every name have the same services, and agree on
everything a text with the name in it selects (`SameByName.filter_key`).
-/

namespace Mesh

open Go K8s Multicluster Policy

/-! ## Lists that agree name by name -/

/-- The services of a name. -/
def named (ns name : String) (m : MeshService) : Bool := m.ns == ns && m.name == name

theorem named_iff {ns name : String} {m : MeshService} :
    named ns name m = true ↔ m.ns = ns ∧ m.name = name := by
  simp [named]

/-- The services of each name are the same, in the same order. -/
def SameByName (services services' : List MeshService) : Prop :=
  ∀ ns name, services.filter (named ns name) = services'.filter (named ns name)

namespace SameByName

variable {services services' : List MeshService} (h : SameByName services services')
include h

theorem mem_iff {m : MeshService} : m ∈ services ↔ m ∈ services' := by
  have hm : ∀ l : List MeshService, m ∈ l ↔ m ∈ l.filter (named m.ns m.name) := fun l => by
    simp [List.mem_filter, named]
  rw [hm, hm services', h]

/-- A selection of services of one name. -/
theorem filter_eq {P : MeshService → Bool} (ns name : String)
    (hP : ∀ m ∈ services, P m = true → m.ns = ns ∧ m.name = name) :
    services.filter P = services'.filter P := by
  have hcut : ∀ l : List MeshService, l ⊆ services →
      l.filter P = (l.filter (named ns name)).filter P := by
    intro l hl
    rw [List.filter_filter]
    refine List.filter_congr fun m hm => ?_
    cases hPm : P m with
    | false => rfl
    | true => simp [named_iff.2 (hP m (hl hm) hPm)]
  rw [hcut services (List.Subset.refl _), hcut services' fun m hm => h.mem_iff.2 hm, h]

/-- A selection by a text that shows the name. -/
theorem filter_key {K : Type} [DecidableEq K] {key : MeshService → K}
    (hkey : ∀ m ∈ services, ∀ m' ∈ services, key m = key m' → m.ns = m'.ns ∧ m.name = m'.name)
    (k : K) : (services.filter fun m => key m = k) = services'.filter fun m => key m = k := by
  by_cases hex : ∃ m ∈ services, key m = k
  · obtain ⟨m₀, hm₀, rfl⟩ := hex
    exact h.filter_eq m₀.ns m₀.name fun m hm hk => hkey m hm m₀ hm₀ (of_decide_eq_true hk)
  · have hnil : ∀ l : List MeshService, l ⊆ services → (l.filter fun m => key m = k) = [] :=
      fun l hl => List.filter_eq_nil_iff.2 fun m hm hk => hex ⟨m, hl hm, of_decide_eq_true hk⟩
    rw [hnil services (List.Subset.refl _), hnil services' fun m hm => h.mem_iff.2 hm]

end SameByName

/-! ## Lookups -/

/-- The caches list the same objects. -/
structure Relisted (mc mc' : MeshCatalog) : Prop where
  services : mc.kube.services.items.Perm mc'.kube.services.items
  endpoints : mc.kube.endpoints.items.Perm mc'.kube.endpoints.items
  serviceImports : mc.mc.serviceImports.items.Perm mc'.mc.serviceImports.items
  globalTrafficPolicies :
    mc.mc.globalTrafficPolicies.items.Perm mc'.mc.globalTrafficPolicies.items

namespace Relisted

variable {mc mc' : MeshCatalog} (h : Relisted mc mc')
include h

/-- A key finds the same objects in both. -/
theorem sameAt (key : String) : SameAt mc mc' key where
  services := Store.getByKey_perm h.services key
  endpoints := Store.getByKey_perm h.endpoints key
  serviceImports := Store.getByKey_perm h.serviceImports key
  globalTrafficPolicies := Store.getByKey_perm h.globalTrafficPolicies key

theorem policyOf_eq (imp : ServiceImport) : policyOf mc.mc imp = policyOf mc'.mc imp := by
  rw [policyOf, policyOf, (h.sameAt _).globalTrafficPolicies]

theorem serviceToMeshServices_eq (svc : Service) :
    Kube.serviceToMeshServices mc.kube svc = Kube.serviceToMeshServices mc'.kube svc := by
  rw [Kube.serviceToMeshServices, Kube.serviceToMeshServices]
  refine List.flatMap_congr fun portSpec _ => ?_
  rw [Kube.portServices, Kube.portServices, K8s.Client.getEndpoints, K8s.Client.getEndpoints,
    (h.sameAt _).endpoints]

/-! ## Listings -/

theorem servicesOf_eq (imp : ServiceImport) : servicesOf mc.mc imp = servicesOf mc'.mc imp := by
  rw [servicesOf, servicesOf, h.policyOf_eq]

theorem perm_imported : (Fsm.listServices mc.mc).Perm (Fsm.listServices mc'.mc) := by
  rw [listServices_eq, listServices_eq, funext h.servicesOf_eq]
  exact h.serviceImports.flatMap_right _

/-- The imported services of a name come from one import. -/
theorem filter_imported (ns name : String) :
    (Fsm.listServices mc.mc).filter (named ns name) =
      (Fsm.listServices mc'.mc).filter (named ns name) := by
  have hkey : ∀ imp : ServiceImport, (servicesOf mc'.mc imp).filter (named ns name) ≠ [] →
      imp.md.ns = ns ∧ imp.md.name = name := by
    intro imp hne
    obtain ⟨m, hm⟩ := List.exists_mem_of_ne_nil _ hne
    obtain ⟨hm, hn⟩ := List.mem_filter.1 hm
    obtain ⟨p, -, entry, -, ep, -, t, -, rfl⟩ := mem_servicesOf.1 hm
    exact named_iff.1 hn
  rw [listServices_eq, listServices_eq, funext h.servicesOf_eq, List.filter_flatMap,
    List.filter_flatMap]
  refine Store.flatMap_perm h.serviceImports fun imp _ imp' _ hne hne' => ?_
  rw [ObjectMeta.key, ObjectMeta.key, (hkey imp hne).1, (hkey imp hne).2, (hkey imp' hne').1,
    (hkey imp' hne').2]

end Relisted

/-- A name ends in the name of one service. -/
theorem serviceName_inj {name n n' : String} (hn : '.' ∉ n.toList) (hn' : '.' ∉ n'.toList)
    (h : name = n ∨ ∃ hostname, name = hostname ++ "." ++ n)
    (h' : name = n' ∨ ∃ hostname, name = hostname ++ "." ++ n') : n = n' := by
  have hdot : ∀ hostname n : String, '.' ∈ (hostname ++ "." ++ n).toList := fun hostname n => by
    simp [String.toList_append]
  rcases h with rfl | ⟨hostname, rfl⟩
  · rcases h' with rfl | ⟨hostname', rfl⟩
    · rfl
    · exact (hn (hdot _ _)).elim
  · rcases h' with rfl | ⟨hostname', h'⟩
    · exact (hn' (hdot _ _)).elim
    · exact (append_sep_inj_right hn hn' rfl h').2

variable {c c' : Cluster} (h : Relisted c.toMeshCatalog c'.toMeshCatalog)
include h

/-- The local services of a name come from one service. -/
theorem filter_local (ns name : String) : (Kube.listServices c.kube).filter (named ns name) =
    (Kube.listServices c'.kube).filter (named ns name) := by
  have hkey : ∀ svc ∈ c.kube.services.items,
      (Kube.serviceToMeshServices c.kube svc).filter (named ns name) ≠ [] → svc.md.ns = ns ∧
        (name = svc.md.name ∨ ∃ hostname, name = hostname ++ "." ++ svc.md.name) := by
    intro svc hsvc hne
    obtain ⟨m, hm⟩ := List.exists_mem_of_ne_nil _ hne
    obtain ⟨hm, hn⟩ := List.mem_filter.1 hm
    obtain ⟨-, -, hns, -, -, -, hname⟩ := exists_port c hsvc hm
    obtain ⟨rfl, rfl⟩ := named_iff.1 hn
    refine ⟨hns.symm, ?_⟩
    rcases hname with ⟨hname, -⟩ | ⟨hostname, -, hname⟩
    · exact .inl hname
    · exact .inr ⟨hostname, hname⟩
  have hnoDot : ∀ svc ∈ c.kube.services.items, '.' ∉ svc.md.name.toList := fun svc hsvc =>
    label_noDot (c.serviceName svc hsvc)
  rw [Kube.listServices, Kube.listServices, ← funext h.serviceToMeshServices_eq,
    List.filter_flatMap, List.filter_flatMap]
  refine Store.flatMap_perm h.services fun svc hsvc svc' hsvc' hne hne' => ?_
  obtain ⟨hns, hname⟩ := hkey svc hsvc hne
  obtain ⟨hns', hname'⟩ := hkey svc' hsvc' hne'
  rw [ObjectMeta.key, ObjectMeta.key, hns, hns',
    serviceName_inj (hnoDot svc hsvc) (hnoDot svc' hsvc') hname hname']

/-- **Two listings of a cluster** agree on the services of every name. -/
theorem sameByName_of_relisted : SameByName c.listMeshServices c'.listMeshServices := by
  intro ns name
  have hkept : ∀ svc : MeshService, ((Fsm.listServices c.mc).any fun mcSvc =>
      svc.name == mcSvc.name && svc.ns == mcSvc.ns) = (Fsm.listServices c'.mc).any fun mcSvc =>
        svc.name == mcSvc.name && svc.ns == mcSvc.ns := fun svc => h.perm_imported.any_eq
  simp only [MeshCatalog.listMeshServices, List.filter_append, h.filter_imported, hkept,
    List.filter_filter, Bool.and_comm (named ns name _)]
  simp only [← List.filter_filter, filter_local h]

end Mesh
