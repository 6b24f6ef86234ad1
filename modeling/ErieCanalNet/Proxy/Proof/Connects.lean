import ErieCanalNet.Proxy.Proof.Serves

/-!
# Connections that are not HTTP

A connection on a port whose first service is a TCP service goes to an endpoint of that service or of
one it shares its rule with, if they have a target cluster with a weight (`connection_isolated`); the
chain of the configuration has to be one that is modelled (`deciding`). The weights of the endpoints
play no part in this: one without a weight gets the usual one, so the endpoints that HTTP requests
only fail over to are connected to like the others.
-/

namespace Proxy

open Ctrl Go K8s Lib Mesh

/-! ## The target -/

theorem hasEndpoint_iff {cluster : ClusterConfig} {id : String} {e : Endpoint} :
    cluster.HasEndpoint id e ↔ (cluster.endpoints.getD ∅)[id]? = some e := by
  unfold ClusterConfig.HasEndpoint
  cases cluster.endpoints <;> simp

section

variable {config : Config IdentifiedMatch} {rt : Runtime} {call : Nat} {port : IdentifiedMatch}

/-- The weights of the endpoints of a cluster for connections. -/
theorem getElem?_tcpWeights (cluster : ClusterConfig) (id : String) :
    ((cluster.endpoints.getD ∅).map fun _ v => if v.weight = 0 then 100 else v.weight)[id]? =
      (cluster.endpoints.getD ∅)[id]?.map fun v => if v.weight = 0 then 100 else v.weight :=
  Std.ExtTreeMap.getElem?_map

theorem tcpTarget_eq_some {target : String} (h : tcpTarget rt config call port = some target) :
    ∃ (name : String) (weight : UInt32) (cluster : ClusterConfig) (e : Endpoint),
      (port.tcpServiceRouteRules.getD ∅)[name]? = some weight ∧ weight ≠ 0 ∧
        config.clustersConfigs[name]? = some cluster ∧ cluster.HasEndpoint target e := by
  unfold tcpTarget at h
  simp only [Option.bind_eq_bind, Option.bind_eq_some_iff] at h
  obtain ⟨name, hname, c, hcluster, hnext⟩ := h
  obtain ⟨cluster, hc, rfl⟩ := Option.map_eq_some_iff.1 hcluster
  obtain ⟨weight, hw, hne⟩ := rt.balancer.weight_ne_zero hname
  obtain ⟨weight', hw', -⟩ := rt.balancer.weight_ne_zero hnext
  rw [getElem?_tcpWeights] at hw'
  obtain ⟨e, he, -⟩ := Option.map_eq_some_iff.1 hw'
  exact ⟨name, weight, cluster, e, hw, hne, hc, hasEndpoint_iff.2 he⟩

/-- A connection is made if there is a target cluster with a weight, where such clusters have
endpoints. -/
theorem tcpTarget_isSome {name : String} {weight : UInt32}
    (hname : (port.tcpServiceRouteRules.getD ∅)[name]? = some weight) (hw : weight ≠ 0)
    (hserve : ∀ name ∈ port.tcpServiceRouteRules.getD ∅,
      ∃ (cluster : ClusterConfig) (id : String) (e : Endpoint),
        config.clustersConfigs[name]? = some cluster ∧ cluster.HasEndpoint id e) :
    (tcpTarget rt config call port).isSome = true := by
  obtain ⟨name', hnext⟩ := Option.isSome_iff_exists.1 (rt.balancer.isSome_next call hname hw)
  obtain ⟨weight', hname', -⟩ := rt.balancer.weight_ne_zero hnext
  obtain ⟨cluster, id, e, hc, he⟩ := hserve name' (mem_of_getElem?_dict hname')
  have hid := getElem?_tcpWeights cluster id
  rw [hasEndpoint_iff.1 he, Option.map_some] at hid
  have hne : (if e.weight = 0 then 100 else e.weight) ≠ 0 := by
    split
    · decide
    · assumption
  obtain ⟨target, htarget⟩ :=
    Option.isSome_iff_exists.1 (rt.balancer.isSome_next (call + 1) hid hne)
  unfold tcpTarget
  simp only [hnext, Config.cluster, hc, Option.map_some, Option.bind_eq_bind, Option.bind_some,
    htarget, Option.isSome_some]

end

/-! ## Services -/

section

variable {trustDomain : String} {mc : MeshCatalog} {services : List MeshService}
  {config : Config IdentifiedMatch}

theorem matchProtocol_tcp {protocol : String} (h : kindOf protocol = .tcp) :
    matchProtocol protocol = "tcp" ∨ matchProtocol protocol = "https" := by
  unfold kindOf at h
  unfold matchProtocol
  by_cases hs : toLower protocol = "tcp-server-first"
  · exact .inl (if_pos hs)
  · rw [if_neg hs]
    by_cases ht : toLower protocol = "tcp"
    · exact .inl ht
    · by_cases hh : toLower protocol = "https"
      · exact .inr hh
      · simp only [Policy.isTCP, beq_eq_false_iff_ne.2 hs, beq_eq_false_iff_ne.2 ht,
          beq_eq_false_iff_ne.2 hh, Bool.or_self, Bool.false_eq_true, if_false] at h
        split at h <;> cases h

/-- The match of a TCP service. -/
theorem loadedMatch_tcp (trustDomain : String) (mc : MeshCatalog)
    (hv : ∀ m ∈ services, NameValid m) {m₀ : MeshService} (hm₀ : m₀ ∈ services)
    (htcp : kindOf m₀.protocol = .tcp) :
    (loadedMatch trustDomain mc services m₀).tcpServiceRouteRules =
        some (targetsOf mc (rulePeers services m₀)) ∧
      protocolOf (some (loadedMatch trustDomain mc services m₀)) = some .tcp := by
  have hne : kindOf m₀.protocol ≠ .http := by rw [htcp]; decide
  have hpeers : groupOf mc services (matchKey mc m₀) = rulePeers services m₀ :=
    groupOf_eq_rulePeers hv (mem_groupOf.2 ⟨hm₀, rfl⟩) hne
  refine ⟨?_, ?_⟩
  · obtain ⟨m, group, hg, hm, hk, -⟩ :=
      exists_groupOf hv (List.mem_map.2 ⟨m₀, hm₀, rfl⟩ : matchKey mc m₀ ∈ _)
    have hkind : kindOf m.protocol = .tcp := by
      rw [((matchKey_inj (hv m hm) (hv m₀ hm₀)).1 hk).kindOf_eq, htcp]
    show (matchOf trustDomain mc (groupOf mc services (matchKey mc m₀))).tcpServiceRouteRules = _
    rw [← hpeers, hg, matchOf, hkind]
  · have hproto : (loadedMatch trustDomain mc services m₀).protocol = matchProtocol m₀.protocol :=
      protocol_matchOf_of_ne_http hv trustDomain mc hm₀ hne
    rcases matchProtocol_tcp htcp with h | h <;> simp [protocolOf, hproto, h]

theorem outboundConnect_loaded (h : Loaded trustDomain mc services config)
    (hv : ∀ m ∈ services, NameValid m) {port : UInt16} {m₀ : MeshService}
    (hfirst : services.find? (fun m => m.port = port) = some m₀)
    (htcp : kindOf m₀.protocol = .tcp)
    (hchain : deciding config.chains "outbound-tcp" = tcpModules) (rt : Runtime) (call : Nat)
    (address : String) :
    outboundConnect rt config call port.toNat address =
      some (tcpTarget rt config call (loadedMatch trustDomain mc services m₀)) := by
  unfold outboundConnect
  rw [makePortHandler_loaded h hv, hfirst]
  show (guard (protocolOf (some _) = some .tcp) : Option Unit).bind _ = _
  rw [(loadedMatch_tcp trustDomain mc hv (List.mem_of_find?_eq_some hfirst) htcp).2]
  show (guard (deciding config.chains "outbound-tcp" = tcpModules) : Option Unit).bind _ = _
  rw [hchain]
  rfl

/-- A loaded cluster whose endpoints were listed has an endpoint. -/
theorem Loaded.exists_listed (h : Loaded trustDomain mc services config) {name : String}
    (hname : name ∈ namesOf services) (hready : getUpstreamEndpoints mc name ≠ []) :
    ∃ (cluster : ClusterConfig) (id : String) (e : Endpoint),
      config.clustersConfigs[name]? = some cluster ∧ cluster.HasEndpoint id e := by
  obtain ⟨id, hmem⟩ := exists_mem_fillTable hname hready
  obtain ⟨wze, hwze⟩ := Option.isSome_iff_exists.1
    (Std.ExtTreeMap.mem_iff_isSome_getElem?.1 hmem)
  obtain ⟨b, -, hget⟩ := getElem?_rebalancedEndpoints (fillTable mc services name none)
  refine ⟨_, id, .ofOutbound (rebalanced b wze), h.cluster_of_mem hname,
    hasEndpoint_ofOutbound.2 ⟨_, ?_, rfl⟩⟩
  rw [hget, hwze, Option.map_some]

/-- **Connections are isolated**: on a port whose first service is a TCP service, a connection goes
to an endpoint of that service or of one it shares its rule with, and it goes to one if and only if
they have a target cluster with a weight. -/
theorem connection_isolated (env : Env) (cfg : Configurator) (c : Cluster)
    (hchain : deciding (setSidecarChain env cfg {}).chains "outbound-tcp" = tcpModules)
    (hbars : ∀ m ∈ c.listMeshServices, '|' ∉ (matchProtocol m.protocol).toList)
    (hun : Unshared c.listMeshServices)
    (hready : ∀ name ∈ namesOf c.listMeshServices, getUpstreamEndpoints c.toMeshCatalog name ≠ [])
    (strict : Bool) (order : RangeOrder) (ts version : String) :
    ∃ conf config, run env cfg c.toMeshCatalog = some conf ∧
      solveConfig strict order (conf.marshalIndent ts version) = some config ∧
      ∀ (port : UInt16) (m₀ : MeshService),
        c.listMeshServices.find? (fun m => m.port = port) = some m₀ → kindOf m₀.protocol = .tcp →
        ∀ (rt : Runtime) (call : Nat) (address : String),
          ∃ target, outboundConnect rt config call port.toNat address = some target ∧
            (∀ id ∈ target, ∃ m ∈ rulePeers c.listMeshServices m₀,
              EndpointOf c.toMeshCatalog c.listMeshServices m.clusterName id) ∧
            (target.isSome = true ↔ ∃ (name : String) (weight : UInt32),
              (targetsOf c.toMeshCatalog (rulePeers c.listMeshServices m₀))[name]? = some weight ∧
                weight ≠ 0) := by
  have hv := c.nameValid
  obtain ⟨config, hsolve, hloaded, hchains⟩ :=
    loaded_published env cfg strict order ts version hv hbars hun
  rw [← hchains] at hchain
  refine ⟨_, config, run_eq env cfg hv, hsolve, fun port m₀ hfirst htcp rt call address => ?_⟩
  refine ⟨_, outboundConnect_loaded hloaded hv hfirst htcp hchain rt call address, ?_⟩
  have hm₀ := List.mem_of_find?_eq_some hfirst
  have hrules : (loadedMatch env.trustDomain c.toMeshCatalog c.listMeshServices
      m₀).tcpServiceRouteRules.getD ∅ =
        targetsOf c.toMeshCatalog (rulePeers c.listMeshServices m₀) := by
    rw [(loadedMatch_tcp env.trustDomain c.toMeshCatalog hv hm₀ htcp).1]
    rfl
  refine ⟨fun id hid => ?_, fun hsome => ?_, fun h => ?_⟩
  · obtain ⟨name, weight, cluster, e, hname, -, hc, he⟩ := tcpTarget_eq_some hid
    rw [hrules] at hname
    obtain ⟨m, hm, rfl⟩ := mem_targetsOf.1 (mem_of_getElem?_dict hname)
    exact ⟨m, hm, hloaded.endpointOf hc he⟩
  · obtain ⟨id, hid⟩ := Option.isSome_iff_exists.1 hsome
    obtain ⟨name, weight, cluster, e, hname, hw, -⟩ := tcpTarget_eq_some hid
    exact ⟨name, weight, hrules ▸ hname, hw⟩
  · obtain ⟨name, weight, hname, hw⟩ := h
    rw [← hrules] at hname
    refine tcpTarget_isSome hname hw fun name' hname' => ?_
    rw [hrules] at hname'
    obtain ⟨m, hm, rfl⟩ := mem_targetsOf.1 hname'
    obtain ⟨hs, hsame⟩ := List.mem_filter.1 hm
    have hkind : kindOf m.protocol = .tcp := (of_decide_eq_true hsame).1.kindOf_eq.trans htcp
    have hnames : m.clusterName ∈ namesOf c.listMeshServices :=
      mem_namesOf.2 ⟨m, hs, by simp [routed, hkind], rfl⟩
    exact hloaded.exists_listed hnames (hready _ hnames)

theorem connection_isolated_one_import :
    ∃ conf config, run (.asIs "cluster.local") chartConfig
        (importCluster .activeActive [] [tcpEntry]).toMeshCatalog = some conf ∧
      solveConfig true .asIs (conf.marshalIndent "" "1") = some config ∧
      ∀ (rt : Runtime) (call : Nat) (address : String),
        ∃ target, outboundConnect rt config call 3306 address = some (some target) := by
  have hlist : (importCluster .activeActive [] [tcpEntry]).listMeshServices =
      [⟨"default", "web", 3306, 3306, "tcp", "c"⟩] := by decide +kernel
  have hbars : ∀ m ∈ (importCluster .activeActive [] [tcpEntry]).listMeshServices,
      '|' ∉ (matchProtocol m.protocol).toList := by
    rw [hlist]
    decide
  have hun : Unshared (importCluster .activeActive [] [tcpEntry]).listMeshServices := by
    rw [hlist]
    exact unshared_singleton _
  have hready : ∀ name ∈ namesOf (importCluster .activeActive [] [tcpEntry]).listMeshServices,
      getUpstreamEndpoints (importCluster .activeActive [] [tcpEntry]).toMeshCatalog name ≠ [] := by
    decide +kernel
  obtain ⟨conf, config, hrun, hsolve, h⟩ := connection_isolated (.asIs "cluster.local") chartConfig
    (importCluster .activeActive [] [tcpEntry]) deciding_chartConfig.2 hbars hun hready true .asIs ""
    "1"
  refine ⟨conf, config, hrun, hsolve, fun rt call address => ?_⟩
  obtain ⟨target, htarget, -, hsome⟩ := h 3306 ⟨"default", "web", 3306, 3306, "tcp", "c"⟩
    (by rw [hlist]; rfl) (by decide) rt call address
  obtain ⟨id, rfl⟩ := Option.isSome_iff_exists.1
    (hsome.2 ⟨"default/web|3306", 100, by decide +kernel, by decide⟩)
  exact ⟨id, htarget⟩

end

end Proxy
