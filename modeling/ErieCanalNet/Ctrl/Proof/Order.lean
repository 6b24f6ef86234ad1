import ErieCanalNet.Ctrl.Proof.Text
import ErieCanalNet.Mesh.Proof.Relisted

/-!
# The order of the listing

What of a configuration depends on the order in which the caches list their objects, and sets are
turned to slices? The services of one name are always met in one order, so that the endpoint tables,
the addresses of the names and the rules of a service do not depend on it. What does:

* the order of the matches of a port (`idsAt`), as far as the text shows which match is which
  (`labelOf`);
* the protocol of the HTTP match of a port, that of its first service;
* the owner of a hostname that services of a port share, the last of them;
* the order of the addresses of a name.

`same_text_iff`: two runs publish the same text exactly when these four agree.
-/

namespace Ctrl

open Go K8s Lib Mesh Policy

variable {trustDomain : String} {mc mc' : MeshCatalog}

/-! ## Rules -/

theorem targetsOf_congr (h : Relisted mc mc') (group : List MeshService) :
    targetsOf mc group = targetsOf mc' group := by
  refine List.foldl_ext _ _ _ fun targets m _ => ?_
  rw [weightedClusterOf, weightedClusterOf, (h.sameAt _).upstreamWeight_eq]

section

variable {services services' : List MeshService} (hs : SameByName services services')
include hs

theorem groupAt_own_congr (port : UInt16) (ns name protocol : String) :
    groupAt services port (.own ns name protocol) =
      groupAt services' port (.own ns name protocol) := by
  refine hs.filter_eq ns name fun m _ hm => ?_
  obtain ⟨hns, hname, -⟩ := own_inj (of_decide_eq_true hm).2
  exact ⟨hns, hname⟩

/-- The matches with the clusters of one service are always in the same order. -/
theorem filter_idsAt_routed (port : UInt16) (ns name : String) :
    ((idsAt services port).filter fun id => labelOf id = .routed ns name) =
      (idsAt services' port).filter fun id => labelOf id = .routed ns name := by
  have hids : ∀ l : List MeshService, ((idsAt l port).filter fun id => labelOf id = .routed ns name) =
      ((l.filter fun m => labelOf (matchId m) = .routed ns name && decide (m.port = port)).map
        matchId).eraseDups := fun l => by
    rw [idsAt, filter_eraseDups_map fun _ _ => rfl, List.filter_filter]
  have hfilter : (services.filter fun m =>
      labelOf (matchId m) = .routed ns name && decide (m.port = port)) = services'.filter fun m =>
        labelOf (matchId m) = .routed ns name && decide (m.port = port) := by
    refine hs.filter_eq ns name fun m _ hm => ?_
    rw [Bool.and_eq_true, decide_eq_true_eq] at hm
    obtain ⟨protocol, hid, -⟩ := label_routed hm.1
    obtain ⟨hns, hname, -⟩ := own_inj hid
    exact ⟨hns, hname⟩
  rw [hids, hids, hfilter]

theorem tcpTargets_congr (h : Relisted mc mc') (port : UInt16) (ns name : String) :
    tcpTargets mc services port ns name = tcpTargets mc' services' port ns name := by
  rw [tcpTargets, tcpTargets, filter_idsAt_routed hs]
  refine List.map_congr_left fun id hid => ?_
  obtain ⟨protocol, rfl, -⟩ := label_routed (of_decide_eq_true (List.mem_filter.1 hid).2)
  rw [groupAt_own_congr hs, targetsOf_congr h]

theorem filter_clusterName_congr (hv : ∀ m ∈ services, NameValid m) (k : String) :
    (services.filter fun m => m.clusterName = k) = services'.filter fun m => m.clusterName = k := by
  refine hs.filter_key (fun m hm m' hm' he => ?_) k
  obtain ⟨hns, hname, -⟩ := (clusterName_inj (hv m hm) (hv m' hm')).1 he
  exact ⟨hns, hname⟩

/-- A cluster is one of services of one name. -/
theorem targetsOf_httpServices_congr (h : Relisted mc mc') (hv : ∀ m ∈ services, NameValid m)
    (port : UInt16) :
    targetsOf mc (httpServices services port) = targetsOf mc' (httpServices services' port) := by
  have hcut : ∀ (l : List MeshService) (k : String),
      ((httpServices l port).filter fun m => m.clusterName = k) =
        (l.filter fun m => m.clusterName = k).filter fun m =>
          m.port = port ∧ kindOf m.protocol = .http := fun l k => by
    rw [httpServices, List.filter_filter, List.filter_filter]
    exact List.filter_congr fun m _ => Bool.and_comm _ _
  refine (targetsOf_congr h _).trans (Std.ExtTreeMap.ext_getElem? fun k => ?_)
  rw [getElem?_targetsOf, getElem?_targetsOf, hcut, hcut, filter_clusterName_congr hs hv]

/-! ## Endpoints and addresses -/

/-- The endpoint tables do not depend on the listing. -/
theorem tablesOf_congr (h : ∀ m ∈ services, SameAt mc mc' m.namespacedKey)
    (hv : ∀ m ∈ services, NameValid m) : tablesOf mc services = tablesOf mc' services' := by
  have hfind : ∀ k, services.find? (fun m => m.clusterName = k) =
      services'.find? fun m => m.clusterName = k := fun k => by
    rw [← List.head?_filter, ← List.head?_filter, filter_clusterName_congr hs hv]
  have hnames : ∀ k, k ∈ namesOf services ↔ k ∈ namesOf services' := fun k => by
    simp only [mem_namesOf, hs.mem_iff]
  refine Std.ExtTreeMap.ext_getElem? fun k => ?_
  rw [getElem?_tablesOf, getElem?_tablesOf]
  by_cases hk : k ∈ namesOf services
  · rw [if_pos hk, if_pos ((hnames k).1 hk), fillTable, fillTable, hfind]
    obtain ⟨m, hm, -, rfl⟩ := mem_namesOf.1 hk
    rw [(h m hm).getUpstreamEndpoints_eq (hv m hm)]
  · rw [if_neg hk, if_neg fun hk' => hk ((hnames k).2 hk')]

theorem filter_fqdn_congr (hv : ∀ m ∈ services, NameValid m) (f : String) :
    (services.filter fun m => m.fqdn = f) = services'.filter fun m => m.fqdn = f :=
  hs.filter_key (fun m hm m' hm' he => ((fqdn_inj (hv m hm) (hv m' hm')).1 he).symm) f

/-- The services that give a name addresses are met in one order. -/
theorem filter_hasImported_congr (h : ∀ m ∈ services, SameAt mc mc' m.namespacedKey)
    (hv : ∀ m ∈ services, NameValid m) (k : String) :
    (services.filter fun m => m.fqdn == k && hasImported mc m) =
      services'.filter fun m => m.fqdn == k && hasImported mc' m := by
  have hcut : ∀ (mc : MeshCatalog) (l : List MeshService), (l.filter fun m =>
      m.fqdn == k && hasImported mc m) = (l.filter fun m => m.fqdn = k).filter (hasImported mc) :=
    fun mc l => by
      rw [List.filter_filter]
      refine List.filter_congr fun m _ => ?_
      rw [Bool.and_comm, Bool.beq_eq_decide_eq]
  rw [hcut, hcut, ← filter_fqdn_congr hs hv]
  exact List.filter_congr fun m hm => (h m (List.mem_filter.1 hm).1).hasImported_eq

/-- What the services make of their addresses is the same. -/
theorem map_addressesWith_congr {V : Type} (h : ∀ m ∈ services, SameAt mc mc' m.namespacedKey)
    (hv : ∀ m ∈ services, NameValid m) (k : String) (F : Finset String → V) :
    ((services.filter fun m => m.fqdn == k && hasImported mc m).getLast?.map fun m =>
        F (addressesWith mc (mc.kube.getService m) m)) =
      (services'.filter fun m => m.fqdn == k && hasImported mc' m).getLast?.map fun m =>
        F (addressesWith mc' (mc'.kube.getService m) m) := by
  rw [← filter_hasImported_congr hs h hv]
  refine Option.map_congr fun m hm => ?_
  have hm' := h m (List.mem_filter.1 (List.mem_of_getLast? hm)).1
  rw [hm'.kube_getService, hm'.addressesWith_eq]

end

/-- The slices of the addresses are the same when those of every service that gives its name
addresses are. -/
theorem map_toSlice_eq_iff (mc : MeshCatalog) (order order' : RangeOrder) :
    (∀ k : String, ((mc.listMeshServices.filter fun m =>
          m.fqdn == k && hasImported mc m).getLast?.map fun m =>
            toSlice order (addressesWith mc (mc.kube.getService m) m)) =
        (mc.listMeshServices.filter fun m => m.fqdn == k && hasImported mc m).getLast?.map fun m =>
          toSlice order' (addressesWith mc (mc.kube.getService m) m)) ↔
      ∀ m, GivesAddresses mc m → toSlice order (addressesWith mc (mc.kube.getService m) m) =
        toSlice order' (addressesWith mc (mc.kube.getService m) m) := by
  constructor
  · intro hall m hm
    have hk := hall m.fqdn
    rw [show _ = some m from hm, Option.map_some, Option.map_some, Option.some.injEq] at hk
    exact hk
  · intro hall k
    refine Option.map_congr fun m hlast => hall m ?_
    have hm := (List.mem_filter.1 (List.mem_of_getLast? hlast)).2
    rw [Bool.and_eq_true, beq_iff_eq] at hm
    rw [GivesAddresses, hm.1, hlast]

/-! ## The text -/

/-- **Two runs over the same objects** publish the same text exactly when, on every port, the matches
are met in the same order, the first HTTP service has the same protocol and every hostname the same
last owner, and the addresses of every name are put in the same order. -/
theorem same_text_iff (env : Env) (order : RangeOrder) (cfg : Configurator) {c c' : Cluster}
    (h : Relisted c.toMeshCatalog c'.toMeshCatalog) :
    (run env cfg c.toMeshCatalog).map PipyConf.marshal =
        (run { env with order } cfg c'.toMeshCatalog).map PipyConf.marshal ↔
      (∀ port, (idsAt c.listMeshServices port).map labelOf =
        (idsAt c'.listMeshServices port).map labelOf) ∧
      (∀ port, ((httpServices c.listMeshServices port).head?.map fun m => toLower m.protocol) =
        (httpServices c'.listMeshServices port).head?.map fun m => toLower m.protocol) ∧
      (∀ port hostname, (((httpServices c.listMeshServices port).filter fun m =>
          hostname ∈ getHostnamesForService env.trustDomain m false).getLast?.map MeshService.fqdn) =
        (((httpServices c'.listMeshServices port).filter fun m =>
          hostname ∈ getHostnamesForService env.trustDomain m false).getLast?.map
            MeshService.fqdn)) ∧
      ∀ m, GivesAddresses c.toMeshCatalog m →
        toSlice env.order (addressesWith c.toMeshCatalog (c.kube.getService m) m) =
          toSlice order (addressesWith c.toMeshCatalog (c.kube.getService m) m) := by
  have hs := sameByName_of_relisted h
  have hv := c.nameValid
  have hat : ∀ m ∈ c.listMeshServices, SameAt c.toMeshCatalog c'.toMeshCatalog m.namespacedKey :=
    fun m _ => h.sameAt _
  rw [marshal_run_eq_iff env order cfg c c', ← map_toSlice_eq_iff]
  refine and_congr_right fun _ => and_congr_right fun _ => and_congr_right fun _ => ?_
  rw [and_iff_right fun port => targetsOf_httpServices_congr hs h hv port,
    and_iff_right fun port ns name => tcpTargets_congr hs h port ns name,
    and_iff_right fun k => by rw [tablesOf_congr hs hat hv]]
  simp only [← map_addressesWith_congr hs hat hv _ (toSlice order)]

/-- A cluster with two imports, `default/a` and `default/b`, in one of the two orders. -/
def twoImports (swapped : Bool) (port port' : Multicluster.ImportPort) : Cluster :=
  let a : ObjectMeta := ⟨"default", "a", webMeta.nsValid, by decide⟩
  let b : ObjectMeta := ⟨"default", "b", webMeta.nsValid, by decide⟩
  importsOnly
    { serviceImports :=
        ⟨if swapped then [⟨b, "v", [port']⟩, ⟨a, "u", [port]⟩]
          else [⟨a, "u", [port]⟩, ⟨b, "v", [port']⟩], by cases swapped <;> simp <;> decide⟩
      globalTrafficPolicies :=
        ⟨[⟨a, .activeActive, []⟩, ⟨b, .activeActive, []⟩], by simp; decide⟩ }

theorem relisted_twoImports (port port' : Multicluster.ImportPort) :
    Relisted (twoImports false port port').toMeshCatalog
      (twoImports true port port').toMeshCatalog :=
  ⟨.refl _, .refl _, .swap _ _ _, .refl _⟩

/-- Imports on ports of their own may be listed in any order. -/
theorem same_text_two_ports :
    (run (.asIs "cluster.local") noConfig (twoImports false (importEntry 80 "10.0.0.1" 8080)
        (importEntry 443 "10.0.0.1" 8443)).toMeshCatalog).map PipyConf.marshal =
      (run (.asIs "cluster.local") noConfig (twoImports true (importEntry 80 "10.0.0.1" 8080)
        (importEntry 443 "10.0.0.1" 8443)).toMeshCatalog).map PipyConf.marshal := by
  have hlist : (twoImports false (importEntry 80 "10.0.0.1" 8080)
      (importEntry 443 "10.0.0.1" 8443)).listMeshServices =
        [⟨"default", "a", 80, 8080, "http", "c"⟩, ⟨"default", "b", 443, 8443, "http", "c"⟩] := by
    decide +kernel
  have hlist' : (twoImports true (importEntry 80 "10.0.0.1" 8080)
      (importEntry 443 "10.0.0.1" 8443)).listMeshServices =
        [⟨"default", "b", 443, 8443, "http", "c"⟩, ⟨"default", "a", 80, 8080, "http", "c"⟩] := by
    decide +kernel
  have hsame : ∀ port, ([⟨"default", "a", 80, 8080, "http", "c"⟩,
      ⟨"default", "b", 443, 8443, "http", "c"⟩] : List MeshService).filter (fun m => m.port = port) =
        ([⟨"default", "b", 443, 8443, "http", "c"⟩,
          ⟨"default", "a", 80, 8080, "http", "c"⟩] : List MeshService).filter
            fun m => m.port = port := by
    intro port
    by_cases h : 80 = port
    · subst h
      decide
    · simp [List.filter_cons, h]
  have hhttp : ∀ (l : List MeshService) (port : UInt16), httpServices l port =
      (l.filter fun m => m.port = port).filter fun m => kindOf m.protocol = .http := by
    intro l port
    rw [httpServices, List.filter_filter]
    exact List.filter_congr fun m _ => by rw [Bool.decide_and, Bool.and_comm]
  refine (same_text_iff (.asIs "cluster.local") .asIs noConfig (relisted_twoImports _ _)).2 ?_
  rw [hlist, hlist']
  refine ⟨fun port => ?_, fun port => ?_, fun port hostname => ?_, fun _ _ => rfl⟩
  · rw [idsAt, idsAt, hsame]
  · rw [hhttp, hhttp, hsame]
  · rw [hhttp, hhttp, hsame]

/-- A port entry for TCP. -/
def tcpEntry : Multicluster.ImportPort :=
  { importEntry 3306 "10.0.0.1" 3306 with appProtocol := some "tcp" }

/-- Two imports with one TCP port between them: the first listed is the first match of the port. -/
theorem not_same_text_tcp :
    Relisted (twoImports false tcpEntry tcpEntry).toMeshCatalog
        (twoImports true tcpEntry tcpEntry).toMeshCatalog ∧
      (run (.asIs "cluster.local") noConfig
          (twoImports false tcpEntry tcpEntry).toMeshCatalog).map PipyConf.marshal ≠
        (run (.asIs "cluster.local") noConfig
          (twoImports true tcpEntry tcpEntry).toMeshCatalog).map PipyConf.marshal := by
  refine ⟨relisted_twoImports _ _, fun htext => ?_⟩
  have hlabels := ((marshal_run_eq_iff (.asIs "cluster.local") .asIs noConfig
    (twoImports false tcpEntry tcpEntry) (twoImports true tcpEntry tcpEntry)).1 htext).1 3306
  have hdiffer : (idsAt (twoImports false tcpEntry tcpEntry).listMeshServices 3306).map labelOf ≠
      (idsAt (twoImports true tcpEntry tcpEntry).listMeshServices 3306).map labelOf := by
    decide +kernel
  exact hdiffer hlabels

end Ctrl
