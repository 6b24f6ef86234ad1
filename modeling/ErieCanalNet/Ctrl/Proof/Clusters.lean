import ErieCanalNet.Ctrl.Proof.Routes
import ErieCanalNet.Mesh.Proof.Listed

/-!
# The clusters of the routes

The second pass gives every cluster the routes name an endpoint table. `outbound_eq` puts the two
passes together: the routes are those of `compile`, the tables those of `tablesOf`, and the flag
says that no table is empty (`readyOf`).

`clusters_complete`: the clusters with a table are those the route rules name.
-/

namespace Ctrl

open Go K8s Lib Mesh Policy

/-! ## The clusters that are named -/

variable {trustDomain : String} {mc : MeshCatalog}

theorem dependOf_concat (services : List MeshService) (m : MeshService) :
    dependOf mc (services ++ [m]) =
      if routed m then dependOn (dependOf mc services) (weightedClusterOf mc m)
      else dependOf mc services := by
  rw [dependOf, List.foldl_append, List.foldl_cons, List.foldl_nil]
  by_cases h : kindOf m.protocol = .other
  · simp [routed, h, dependOf]
  · simp [routed, h, dependOf]

theorem mem_dependOn {dep : Map String WeightedCluster} {c : WeightedCluster} {k : String} :
    k ∈ dependOn dep c ↔ k ∈ dep ∨ c.clusterName = k := by
  unfold dependOn
  split
  · rename_i h
    exact ⟨.inl, fun hk => hk.elim id fun he => he ▸ h⟩
  · rw [AList.mem_insert, or_comm, eq_comm]

/-- The clusters named are those of the services with routes. -/
theorem mem_dependOf {services : List MeshService} {k : String} :
    k ∈ dependOf mc services ↔ ∃ m ∈ services, routed m = true ∧ m.clusterName = k := by
  induction services using List.reverseRecOn with
  | nil => simp [dependOf]
  | append_singleton services m ih =>
    rw [dependOf_concat]
    by_cases h : routed m = true
    · simp [h, mem_dependOn, ih, weightedClusterOf, or_and_right, exists_or]
    · simp [h, ih, or_and_right, exists_or]

/-- A cluster is held under its name. -/
theorem clusterName_of_mem_dependOf {services : List MeshService} :
    ∀ entry ∈ (dependOf mc services).entries, entry.2.clusterName = entry.1 := by
  induction services using List.reverseRecOn with
  | nil => simp [dependOf]
  | append_singleton services m ih =>
    rw [dependOf_concat]
    split
    · unfold dependOn
      split
      · exact ih
      · rename_i hn
        rw [AList.entries_insert_of_notMem hn]
        exact List.forall_mem_cons.2 ⟨rfl, ih⟩
    · exact ih

/-! ## The tables -/

section

variable (mc : MeshCatalog)

/-- What the loop makes of the table of a cluster; its config is that of its first service. -/
def fillTable (services : List MeshService) (clusterName : String)
    (wes : Option WeightedEndpoints) : WeightedEndpoints :=
  match services.find? fun m => m.clusterName = clusterName with
  | none => ∅
  | some svc => (getUpstreamEndpoints mc clusterName).foldl (addUpstreamEndpoint svc) (wes.getD ∅)

/-- The names of the clusters with routes. -/
def namesOf (services : List MeshService) : List String :=
  ((services.filter routed).map MeshService.clusterName).eraseDups

def tablesOf (services : List MeshService) : Dict WeightedEndpoints :=
  (namesOf services).foldl (fun tables name => tables.insert name (fillTable mc services name none)) ∅

/-- Every cluster with routes has endpoints. -/
def readyOf (services : List MeshService) : Bool :=
  (namesOf services).all fun name => !(getUpstreamEndpoints mc name).isEmpty

end

theorem mem_namesOf {services : List MeshService} {k : String} :
    k ∈ namesOf services ↔ ∃ m ∈ services, routed m = true ∧ m.clusterName = k := by
  simp [namesOf, and_assoc]

theorem getElem?_tablesOf (services : List MeshService) (k : String) :
    (tablesOf mc services)[k]? =
      if k ∈ namesOf services then some (fillTable mc services k none) else none :=
  getElem?_foldl_insert_nodup (fun k _ => fillTable mc services k none) (nodup_eraseDups _) k

theorem getMeshClusterConfigs_outboundPolicyOf (services : List MeshService) (k : String) :
    getMeshClusterConfigs (outboundPolicyOf trustDomain mc services).clustersConfigs k =
      (services.find? fun m => m.clusterName = k).map fun m => ⟨m.clusterName, m⟩ := by
  have hp : (fun m : MeshService => k == m.clusterName) = fun m => decide (m.clusterName = k) := by
    funext m
    rw [Bool.eq_iff_iff, beq_iff_eq, decide_eq_true_eq]
    exact eq_comm
  rw [getMeshClusterConfigs, clustersConfigs_outboundPolicyOf, List.find?_map]
  exact congrArg _ (congrArg (fun p => services.find? p) hp)

/-- A cluster with routes has a config: that of its first service. -/
theorem exists_find?_clusterName {services : List MeshService} {k : String}
    (hk : k ∈ namesOf services) :
    ∃ svc, services.find? (fun m => m.clusterName = k) = some svc := by
  obtain ⟨m, hm, -, rfl⟩ := mem_namesOf.1 hk
  exact Option.isSome_iff_exists.1 (List.find?_isSome.2 ⟨m, hm, decide_eq_true rfl⟩)

/-- One round of the loop over the clusters: the branch without a config is not taken. -/
theorem balanceCluster_eq {services : List MeshService} {k : String} (hk : k ∈ namesOf services)
    (st : OutboundTrafficPolicy × Bool) :
    balanceCluster mc (outboundPolicyOf trustDomain mc services) st k =
      ({ st.1 with clustersConfigs :=
          st.1.clustersConfigs.insert k (fillTable mc services k st.1.clustersConfigs[k]?) },
        st.2 && !(getUpstreamEndpoints mc k).isEmpty) := by
  obtain ⟨svc, hsvc⟩ := exists_find?_clusterName hk
  rw [balanceCluster, getMeshClusterConfigs_outboundPolicyOf, fillTable, hsvc]
  rfl

theorem foldl_balanceCluster (trustDomain : String) (mc : MeshCatalog) (services : List MeshService) :
    ∀ {names : List String}, names ⊆ namesOf services → ∀ st : OutboundTrafficPolicy × Bool,
      names.foldl (balanceCluster mc (outboundPolicyOf trustDomain mc services)) st =
        ({ st.1 with clustersConfigs := names.foldl (fun tables k =>
            tables.insert k (fillTable mc services k tables[k]?)) st.1.clustersConfigs },
          st.2 && names.all fun k => !(getUpstreamEndpoints mc k).isEmpty)
  | [], _, st => by simp
  | k :: names, hnames, st => by
    rw [List.foldl_cons, balanceCluster_eq (hnames List.mem_cons_self),
      foldl_balanceCluster trustDomain mc services fun k' hk' =>
        hnames (List.mem_cons_of_mem _ hk')]
    simp [Bool.and_assoc]

/-- The tables do not depend on the order of the visits. -/
theorem foldl_fillTable {services : List MeshService} {names : List String}
    (h : names.Perm (namesOf services)) :
    names.foldl (fun tables k => tables.insert k (fillTable mc services k tables[k]?)) ∅ =
      tablesOf mc services := by
  refine Std.ExtTreeMap.ext_getElem? fun k => ?_
  rw [getElem?_foldl_insert_nodup _ (h.nodup_iff.2 (nodup_eraseDups _)), getElem?_tablesOf]
  simp only [h.mem_iff]

/-- The visits of the clusters named: each of them once, in some order. -/
theorem perm_visit_dependOf (mc : MeshCatalog) (order : RangeOrder) (services : List MeshService) :
    ((order.visit (dependOf mc services).entries).map fun entry => entry.2.clusterName).Perm
      (namesOf services) := by
  have hkeys : (dependOf mc services).entries.map (fun entry => entry.2.clusterName) =
      (dependOf mc services).keys :=
    List.map_congr_left fun entry he => clusterName_of_mem_dependOf entry he
  refine ((order.perm _).map _).trans (hkeys ▸ ?_)
  exact (List.perm_ext_iff_of_nodup (AList.keys_nodup _) (nodup_eraseDups _)).2 fun k =>
    mem_dependOf.trans mem_namesOf.symm

/-- **The second pass** leaves the routes, and gives each cluster its table. -/
theorem balance_eq (env : Env) {conf : PipyConf} {routes : List (String × OutboundTrafficMatch)}
    (hconf : conf.outbound = some ⟨routes, ∅⟩) (services : List MeshService) :
    generatePipyOutboundTrafficBalancePolicy env mc conf
        (outboundPolicyOf trustDomain mc services) (dependOf mc services) =
      ({ conf with outbound := some ⟨routes, tablesOf mc services⟩ }, readyOf mc services) := by
  have hperm := perm_visit_dependOf mc env.order services
  have hfold := foldl_balanceCluster trustDomain mc services (fun k hk => hperm.mem_iff.1 hk)
    (⟨routes, ∅⟩, true)
  rw [List.foldl_map] at hfold
  rw [generatePipyOutboundTrafficBalancePolicy, hconf, Option.getD_some, hfold]
  simp only [foldl_fillTable hperm, hperm.all_eq, Bool.true_and, readyOf]

/-- The two passes over a list of services. -/
theorem passes_eq (mc : MeshCatalog) (env : Env) {conf : PipyConf} (hconf : conf.outbound = none)
    {services : List MeshService} (hv : ∀ m ∈ services, NameValid m) :
    (do
      let (pipyConf, dependClusters) ← generatePipyOutboundTrafficRoutePolicy env conf
        (outboundPolicyOf env.trustDomain mc services)
      if dependClusters.entries.isEmpty then return (pipyConf, true)
      else
        return generatePipyOutboundTrafficBalancePolicy env mc pipyConf
          (outboundPolicyOf env.trustDomain mc services) dependClusters) =
      some ({ conf with
          outbound := if services.isEmpty then none else
            some ⟨compile env.trustDomain mc services, tablesOf mc services⟩ },
        readyOf mc services) := by
  rw [generate_eq env hconf hv, Option.bind_eq_bind, Option.bind_some]
  by_cases hdep : (dependOf mc services).entries.isEmpty = true
  · have hnames : namesOf services = [] := List.eq_nil_iff_forall_not_mem.2 fun k hk => by
      have hmem : k ∈ dependOf mc services := mem_dependOf.2 (mem_namesOf.1 hk)
      rw [AList.mem_keys, AList.keys, List.isEmpty_iff.1 hdep] at hmem
      cases hmem
    simp [hdep, tablesOf, readyOf, hnames]
  · have hne : services.isEmpty = false := by
      cases services with
      | nil => exact (hdep rfl).elim
      | cons => rfl
    simp only [hne, Bool.false_eq_true, if_false, hdep]
    rw [balance_eq env rfl]
    rfl

/-- **`outbound`**: the routes of the services, a table for each cluster they name, and whether every
one of these has endpoints. -/
theorem outbound_eq (env : Env) {conf : PipyConf} (hconf : conf.outbound = none)
    (hv : ∀ m ∈ mc.listMeshServices, NameValid m) :
    outbound env mc conf =
      some ({ conf with
          dnsResolveDB :=
            let resolvable := (getOutboundMeshTrafficPolicy env.trustDomain mc).servicesResolvableSet
            if resolvable.isEmpty then conf.dnsResolveDB
            else resolvable.map fun _ => toSlice env.order
          outbound := if mc.listMeshServices.isEmpty then none else
            some ⟨compile env.trustDomain mc mc.listMeshServices, tablesOf mc mc.listMeshServices⟩ },
        readyOf mc mc.listMeshServices) := by
  unfold outbound getOutboundMeshTrafficPolicy
  by_cases hr : Std.ExtTreeMap.isEmpty (outboundPolicyOf env.trustDomain mc
      mc.listMeshServices).servicesResolvableSet = true
  · simp only [hr, if_true]
    exact passes_eq mc env hconf hv
  · simp only [hr]
    refine passes_eq mc env ?_ hv
    exact hconf

/-! ## Referential integrity -/

/-- The target clusters of all route rules. -/
def PipyConf.targetClusters (conf : PipyConf) : List WeightedClusters :=
  (conf.outbound.map fun otp => otp.namedTrafficMatches.flatMap fun entry =>
    entry.2.targetClusters).getD []

def PipyConf.clustersConfigs (conf : PipyConf) : Dict WeightedEndpoints :=
  (conf.outbound.map (·.clustersConfigs)).getD ∅

/-- What the routes and the tables are, whether there are services or not. -/
theorem clustersConfigs_of_outbound {conf : PipyConf} {services : List MeshService}
    (h : conf.outbound = if services.isEmpty then none else
      some ⟨compile trustDomain mc services, tablesOf mc services⟩) :
    conf.clustersConfigs = tablesOf mc services := by
  rw [PipyConf.clustersConfigs, h]
  cases services with
  | nil => rfl
  | cons m services => simp

theorem targetClusters_of_outbound {conf : PipyConf} {services : List MeshService}
    {tables : Dict WeightedEndpoints} (h : conf.outbound = if services.isEmpty then none else
      some ⟨compile trustDomain mc services, tables⟩) :
    conf.targetClusters = (compile trustDomain mc services).flatMap fun entry =>
      entry.2.targetClusters := by
  rw [PipyConf.targetClusters, h]
  cases services with
  | nil => rfl
  | cons m services => simp

/-- The clusters of the rules are those of the services with routes. -/
theorem exists_target_iff (mc : MeshCatalog) {services : List MeshService} {k : String} :
    (∃ m ∈ services, routed m = true ∧ k ∈ targetsOf mc (rulePeers services m)) ↔
      k ∈ namesOf services := by
  rw [mem_namesOf]
  constructor
  · rintro ⟨m, -, hr, hk⟩
    obtain ⟨m', hm', rfl⟩ := mem_targetsOf.1 hk
    obtain ⟨hs, hrule⟩ := List.mem_filter.1 hm'
    refine ⟨m', hs, ?_, rfl⟩
    rw [routed, (of_decide_eq_true hrule).1.kindOf_eq]
    exact hr
  · rintro ⟨m, hm, hr, rfl⟩
    exact ⟨m, hm, hr, mem_targetsOf.2 ⟨m, List.mem_filter.2
      ⟨hm, decide_eq_true (sameRule_refl m)⟩, rfl⟩⟩

theorem isEmpty_foldl_addUpstreamEndpoint (svc : MeshService) (endpoints : List Endpoint) :
    (endpoints.foldl (addUpstreamEndpoint svc) ∅).isEmpty = endpoints.isEmpty := by
  induction endpoints using List.reverseRecOn with
  | nil => rfl
  | append_singleton endpoints e ih =>
    rw [List.foldl_append]
    have hne := Std.ExtTreeMap.isEmpty_eq_false_iff.2 (Std.ExtTreeMap.insert_ne_empty
      (t := endpoints.foldl (addUpstreamEndpoint svc) ∅) (k := hostPort e.ip.string (dialPort svc e))
      (v := ⟨e.weight, e.clusterKey, e.lbType, e.path⟩))
    exact hne.trans (by simp)

theorem isEmpty_fillTable {services : List MeshService} {k : String} (hk : k ∈ namesOf services) :
    (fillTable mc services k none).isEmpty = (getUpstreamEndpoints mc k).isEmpty := by
  obtain ⟨svc, hsvc⟩ := exists_find?_clusterName hk
  rw [fillTable, hsvc]
  exact isEmpty_foldl_addUpstreamEndpoint svc _

/-- **The clusters with an endpoint table** are those the route rules name, and the flag says that
none of the tables is empty. -/
theorem clusters_complete (env : Env) (c : Cluster) {conf : PipyConf}
    (hconf : conf.outbound = none) :
    ∃ conf' ready, outbound env c.toMeshCatalog conf = some (conf', ready) ∧
      (∀ name, name ∈ conf'.clustersConfigs ↔
        ∃ targetClusters ∈ conf'.targetClusters, name ∈ targetClusters) ∧
      (∀ name ∈ conf'.clustersConfigs, (getMeshClusterConfigs
        (getOutboundMeshTrafficPolicy env.trustDomain c.toMeshCatalog).clustersConfigs
        name).isSome) ∧
      (ready = true ↔
        ∀ (name : String) (wes : WeightedEndpoints), conf'.clustersConfigs[name]? = some wes →
          wes.isEmpty = false) := by
  have hv := c.nameValid
  refine ⟨_, _, outbound_eq env hconf hv, ?_⟩
  rw [clustersConfigs_of_outbound rfl, targetClusters_of_outbound rfl]
  have hmem : ∀ k, k ∈ tablesOf c.toMeshCatalog c.listMeshServices ↔
      k ∈ namesOf c.listMeshServices := fun k => by
    rw [Std.ExtTreeMap.mem_iff_isSome_getElem?, getElem?_tablesOf]
    split <;> simp [*]
  refine ⟨fun k => ?_, fun k hk => ?_, ?_⟩
  · rw [hmem, ← exists_target_iff c.toMeshCatalog]
    simp only [mem_targetClusters_compile hv]
    constructor
    · rintro ⟨m, hm, hr, hk⟩
      exact ⟨_, ⟨m, hm, hr, rfl⟩, hk⟩
    · rintro ⟨_, ⟨m, hm, hr, rfl⟩, hk⟩
      exact ⟨m, hm, hr, hk⟩
  · obtain ⟨svc, hsvc⟩ := exists_find?_clusterName ((hmem k).1 hk)
    rw [getOutboundMeshTrafficPolicy, getMeshClusterConfigs_outboundPolicyOf, hsvc]
    rfl
  · rw [readyOf, List.all_eq_true]
    constructor
    · intro h k wes hwes
      rw [getElem?_tablesOf] at hwes
      split at hwes
      · rename_i hk
        obtain rfl := Option.some.inj hwes
        rw [isEmpty_fillTable hk]
        simpa using h k hk
      · cases hwes
    · intro h k hk
      have hne := h k _ ((getElem?_tablesOf _ k).trans (if_pos hk))
      rw [isEmpty_fillTable hk] at hne
      simpa using hne

/-- A cluster with imports and no service of its own. -/
def importsOnly (mc : Multicluster.Client) : Cluster where
  kube := { services := ⟨[], List.nodup_nil⟩, endpoints := ⟨[], List.nodup_nil⟩ }
  mc := mc
  serviceName := by simp
  hostname := by simp

/-- A cluster with one import, `default/web`, under a policy. -/
def importCluster (lbType : Multicluster.LoadBalancerType)
    (targets : List Multicluster.TrafficTarget) (ports : List Multicluster.ImportPort) : Cluster :=
  importsOnly
    { serviceImports := (importCatalog ports).mc.serviceImports
      globalTrafficPolicies := ⟨[⟨webMeta, lbType, targets⟩], by simp⟩ }

/-- The one import has one cluster, with an endpoint. -/
theorem clusters_complete_one_import :
    ∃ conf', outbound (.asIs "cluster.local")
        (importCluster .activeActive [] [importEntry 80 "10.0.0.1" 8080]).toMeshCatalog {} =
          some (conf', true) ∧
      (∃ targetClusters ∈ conf'.targetClusters, "default/web|8080" ∈ targetClusters) ∧
      ∃ wes, conf'.clustersConfigs["default/web|8080"]? = some wes ∧ wes.isEmpty = false := by
  have hconf : ({} : PipyConf).outbound = none := rfl
  obtain ⟨conf', ready, h, hkeys, -, hready⟩ := clusters_complete (.asIs "cluster.local")
    (importCluster .activeActive [] [importEntry 80 "10.0.0.1" 8080]) hconf
  have heval : (outbound (.asIs "cluster.local") (importCluster .activeActive []
      [importEntry 80 "10.0.0.1" 8080]).toMeshCatalog {}).map
        (fun r => (r.1.clustersConfigs.keys, r.2)) = some (["default/web|8080"], true) := by
    decide +kernel
  rw [h] at heval
  obtain ⟨hlist, rfl⟩ := Prod.mk.inj (Option.some.inj heval)
  have hmem : "default/web|8080" ∈ conf'.clustersConfigs := by
    rw [← Std.ExtTreeMap.mem_keys, hlist]
    exact .head _
  obtain ⟨wes, hwes⟩ := Option.isSome_iff_exists.1 (Std.ExtTreeMap.mem_iff_isSome_getElem?.1 hmem)
  exact ⟨conf', h, (hkeys _).1 hmem, wes, hwes, hready.1 rfl _ _ hwes⟩

end Ctrl
