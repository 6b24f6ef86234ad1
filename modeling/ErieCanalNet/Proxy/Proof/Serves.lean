import ErieCanalNet.Ctrl.Proof.Dial
import ErieCanalNet.Ctrl.Proof.Rebalance
import ErieCanalNet.Proxy.Proof.Published

/-!
# From a service to its endpoints

What the proxy does with a published configuration that loads: a connection to a port is handled by
the match of the first service of the port (`makePortHandler_loaded`), and a request to a hostname by
the rule of the services that have it (`routeOf_loaded`). `request_isolated` puts the path together.

Which modules handle a request is up to the plugin chains of the `EcnetConfig`: the results are about
those whose deciding modules are the ones of the chart (`deciding_chartConfig`).
-/

namespace Proxy

open Ctrl Go K8s Lib Mesh
open Policy (getHostnamesForService regexMatchAll)

/-! ## Ports -/

/-- A configuration of some services, loaded. -/
structure Loaded (trustDomain : String) (mc : MeshCatalog) (services : List MeshService)
    (config : Config IdentifiedMatch) : Prop where
  destinations : ∀ port : UInt16,
    (config.trafficMatches.bind (·.lookup (toString port.toNat))).getD [] =
      (Ctrl.OutboundTrafficPolicy.trafficMatches ⟨compile trustDomain mc services, ∅⟩ port).map
        fun tm => identified (.ofOutbound tm)
  clusters : ∀ name : String, config.clustersConfigs[name]? =
    (tablesOf mc services)[name]?.map fun wes => .ofOutbound (rebalancedEndpoints wes)

theorem lookup_listsOf (order : RangeOrder) (otp : Ctrl.OutboundTrafficPolicy) (port : UInt16) :
    (((listsOf order otp).map fun entry => (entry.1, entry.2.map identified)).lookup
      (toString port.toNat)).getD [] =
        (otp.trafficMatches port).map fun tm => identified (.ofOutbound tm) := by
  have hd : (((listsOf order otp).map fun entry => (entry.1, entry.2.map identified)).map
      Prod.fst).Nodup := by
    rw [List.map_map]
    exact List.pairwise_map.2 pairwise_listsOf
  cases hm : otp.trafficMatches port with
  | nil =>
    cases hl : ((listsOf order otp).map fun entry => (entry.1, entry.2.map identified)).lookup
        (toString port.toNat) with
    | none => rfl
    | some l =>
      obtain ⟨⟨k, l'⟩, hmem, heq⟩ := List.mem_map.1 (mem_of_lookup hl)
      obtain ⟨port', hk, hne, -⟩ := mem_listsOf.1 hmem
      have hport : port = port' :=
        UInt16.toNat_inj.1 (toString_inj.1 ((congrArg Prod.fst heq).symm.trans hk))
      exact absurd (hport ▸ hm) hne
  | cons tm tms =>
    have hmem : (toString port.toNat, (otp.trafficMatches port).map TrafficMatch.ofOutbound) ∈
        listsOf order otp := mem_listsOf.2 ⟨port, rfl, by simp [hm], rfl⟩
    obtain ⟨i, hi⟩ := List.getElem?_of_mem (List.mem_map_of_mem
      (f := fun entry : String × List TrafficMatch => (entry.1, entry.2.map identified)) hmem)
    rw [lookup_of_getElem? hd hi, Option.getD_some, hm, List.map_map]
    rfl

/-- **A published configuration**, loaded. -/
theorem loaded_published (env : Env) (cfg : Configurator) {mc : MeshCatalog} (strict : Bool)
    (order : RangeOrder) (ts version : String) (hv : ∀ m ∈ mc.listMeshServices, NameValid m)
    (hbars : ∀ m ∈ mc.listMeshServices, '|' ∉ (matchProtocol m.protocol).toList)
    (hun : Unshared mc.listMeshServices) :
    ∃ config, solveConfig strict order ((published env cfg mc).marshalIndent ts version) =
      some config ∧ Loaded env.trustDomain mc mc.listMeshServices config ∧
        config.chains = (setSidecarChain env cfg {}).chains := by
  have hotp := outbound_published env cfg mc
  have hdistinct : Distinct (values (listsOf order ((published env cfg mc).outbound.getD {}))) := by
    rw [hotp]
    exact (distinct_listsOf (noBars_compile hv hbars)).2 ((pairwise_protocol_iff hv).2 hun)
  have hlookup := lookup_listsOf order ((published env cfg mc).outbound.getD {})
  have hclusters : ∀ name : String,
      (Config.ofConf order (published env cfg mc)).clustersConfigs[name]? =
        (tablesOf mc mc.listMeshServices)[name]?.map fun wes =>
          ClusterConfig.ofOutbound (rebalancedEndpoints wes) := fun name => by
    rw [Config.ofConf, hotp, Std.ExtTreeMap.getElem?_map, Std.ExtTreeMap.getElem?_map,
      Option.map_map]
    rfl
  rw [solveConfig_marshalIndent]
  cases hne : ((published env cfg mc).outbound.getD {}).trafficMatchTable.isEmpty with
  | true =>
    rw [merge_ofConf_of_empty rfl hne]
    rw [listsOf_of_empty hne, hotp] at hlookup
    exact ⟨_, rfl, ⟨hlookup, hclusters⟩, rfl⟩
  | false =>
    rw [merge_ofConf rfl hne, mergeTrafficMatches_distinct strict hdistinct]
    rw [hotp] at hlookup ⊢
    exact ⟨_, rfl, ⟨hlookup, hclusters⟩, rfl⟩

section

variable {trustDomain : String} {mc : MeshCatalog} {services : List MeshService}
  {config : Config IdentifiedMatch} {rt : Runtime}

/-- The match of a service, as the proxy has it. -/
def loadedMatch (trustDomain : String) (mc : MeshCatalog) (services : List MeshService)
    (m : MeshService) : IdentifiedMatch :=
  identified (.ofOutbound (matchOf trustDomain mc (groupOf mc services (matchKey mc m))))

/-- **A port** has the match of its first service. -/
theorem makePortHandler_loaded (h : Loaded trustDomain mc services config)
    (hv : ∀ m ∈ services, NameValid m) (rt : Runtime) (port : UInt16) (address : String) :
    makePortHandler rt config port.toNat address =
      (services.find? fun m => m.port = port).map (loadedMatch trustDomain mc services) := by
  have hfirst : ∀ l : List OutboundTrafficMatch,
      ((l.map fun tm => identified (.ofOutbound tm)).find? fun dst =>
        dst.destinationIPRanges.any fun ranges =>
          ranges.keys.any fun range => rt.contains range address) = none := fun l => by
    rw [List.find?_eq_none]
    intro dst hdst
    obtain ⟨tm, -, rfl⟩ := List.mem_map.1 hdst
    exact Bool.false_ne_true
  have hhead : ∀ l : List OutboundTrafficMatch,
      ((l.map fun tm => identified (.ofOutbound tm)).find? fun dst =>
        dst.destinationIPRanges.isNone) = l.head?.map fun tm => identified (.ofOutbound tm) :=
    fun l => by cases l <;> rfl
  simp only [makePortHandler]
  rw [h.destinations, hfirst, Option.none_or, hhead, trafficMatches_compile hv, ← List.head?_filter]
  cases services.filter fun m => m.port = port with
  | nil => rfl
  | cons m rest =>
    rw [List.map_cons, List.eraseDups_cons]
    rfl

/-! ## Hosts -/

theorem orNull_bind {V : Type} (d : Dict V) (k : String) : (orNull d).bind (·[k]?) = d[k]? := by
  unfold orNull
  split
  · rename_i he
    rw [Std.ExtTreeMap.isEmpty_iff.1 he]
    simp
  · rfl

theorem fqdn_ne_undefined (m : MeshService) : m.fqdn ≠ undefined := by
  intro h
  have hdot : '.' ∈ m.fqdn.toList := by simp [MeshService.fqdn, String.toList_append]
  rw [h] at hdot
  exact absurd hdot (by decide)

/-- The HTTP services of a port that have a hostname. -/
def hosting (trustDomain : String) (services : List MeshService) (port : UInt16) (host : String) :
    List MeshService :=
  services.filter fun m => m.port = port ∧ kindOf m.protocol = .http ∧
    host ∈ getHostnamesForService trustDomain m false

theorem filter_hostnames_groupOf (trustDomain : String) (mc : MeshCatalog)
    (hv : ∀ m ∈ services, NameValid m) {m₀ : MeshService} (hm₀ : m₀ ∈ services)
    (hhttp : kindOf m₀.protocol = .http) (host : String) :
    (groupOf mc services (matchKey mc m₀)).filter
        (fun m => host ∈ getHostnamesForService trustDomain m false) =
      hosting trustDomain services m₀.port host := by
  rw [groupOf, List.filter_filter, hosting]
  refine List.filter_congr fun m hm => ?_
  have hiff : matchKey mc m = matchKey mc m₀ ↔ m.port = m₀.port ∧ kindOf m.protocol = .http := by
    rw [matchKey_inj (hv m hm) (hv m₀ hm₀)]
    exact ⟨fun h => ⟨h.1, h.kindOf_eq.trans hhttp⟩, fun h => ⟨h.1, .inl ⟨h.2, hhttp⟩⟩⟩
  rw [Bool.eq_iff_iff, Bool.and_eq_true, decide_eq_true_eq, decide_eq_true_eq, decide_eq_true_eq,
    hiff, and_comm, and_assoc]

/-- The host of a request. -/
def hostOfRequest (head : RequestHead) : String := head.headers["host"]?.getD undefined

/-- Requests that the rule for all paths takes. -/
def takesAll (rt : Runtime) (head : RequestHead) : Bool :=
  decide (head.method ∈ allMethods) && rt.regExp regexMatchAll head.path

theorem matchAllRule_eq : matchAllRule = ⟨regexMatchAll, .pathMatchRegex, ∅, [], true⟩ := by decide

theorem makeServiceHandler_matchAll (rt : Runtime) (targets : WeightedClusters)
    (head : RequestHead) :
    makeServiceHandler rt.regExp ([(matchAllRule, targets)].map shownRule) head =
      if takesAll rt head then some (matchAllRule, targets) else none := by
  have hshown : shownRule (matchAllRule, targets) = (matchAllRule, targets) := by
    rw [matchAllRule_eq]
    rfl
  have htakes : takes rt.regExp head (matchAllRule, targets) = takesAll rt head := by
    have hnil : (∅ : Dict String).toList = [] := rfl
    rw [matchAllRule_eq]
    simp [takes, takesAll, matchRule, matchPath, allowedMethods, hnil]
  rw [makeServiceHandler_eq, List.map_singleton, hshown, List.find?_singleton, htakes]

/-- The tables of an HTTP match. -/
theorem matchOf_http (trustDomain : String) (mc : MeshCatalog) (hv : ∀ m ∈ services, NameValid m)
    {m₀ : MeshService} (hm₀ : m₀ ∈ services) (hhttp : kindOf m₀.protocol = .http) :
    (matchOf trustDomain mc (groupOf mc services (matchKey mc m₀))).httpHostPort2Service =
        hostsOf trustDomain (groupOf mc services (matchKey mc m₀)) ∧
      (matchOf trustDomain mc (groupOf mc services (matchKey mc m₀))).httpServiceRouteRules =
        rulesOf mc (groupOf mc services (matchKey mc m₀)) := by
  obtain ⟨m, group, hg, hm, hk, -⟩ :=
    exists_groupOf hv (List.mem_map.2 ⟨m₀, hm₀, rfl⟩ : matchKey mc m₀ ∈ _)
  have hkind : kindOf m.protocol = .http := by
    rw [((matchKey_inj (hv m hm) (hv m₀ hm₀)).1 hk).kindOf_eq, hhttp]
  rw [hg, matchOf, hkind]
  exact ⟨rfl, rfl⟩

/-- **A request** takes the rule of the last service with its host. -/
theorem routeOf_loaded (hv : ∀ m ∈ services, NameValid m) {m₀ : MeshService} (hm₀ : m₀ ∈ services)
    (hhttp : kindOf m₀.protocol = .http) (rt : Runtime) (head : RequestHead) :
    routeOf rt (loadedMatch trustDomain mc services m₀) head =
      (hosting trustDomain services m₀.port (hostOfRequest head)).getLast?.bind
        fun m => if takesAll rt head then
          some (matchAllRule, targetsOf mc (rulePeers services m)) else none := by
  obtain ⟨hhosts, hrules⟩ := matchOf_http trustDomain mc hv hm₀ hhttp
  have hservice : (loadedMatch trustDomain mc services m₀).httpHostPort2Service.bind
      (·[hostOfRequest head]?) = (hosting trustDomain services m₀.port
        (hostOfRequest head)).getLast?.map MeshService.fqdn := by
    show (orNull _).bind _ = _
    rw [hhosts, orNull_bind, getElem?_hostsOf, filter_hostnames_groupOf trustDomain mc hv hm₀ hhttp]
  have hrule : ∀ service : String, (loadedMatch trustDomain mc services m₀).httpServiceRouteRules.bind
      (·[service]?) = (rulesOf mc (groupOf mc services (matchKey mc m₀)))[service]?.map
        (List.map shownRule) := fun service => by
    show (orNull _).bind _ = _
    rw [hrules, orNull_bind, Std.ExtTreeMap.getElem?_map]
  simp only [routeOf]
  rw [← hostOfRequest, hservice, hrule]
  cases hlast : (hosting trustDomain services m₀.port (hostOfRequest head)).getLast? with
  | none =>
    have hno : (groupOf mc services (matchKey mc m₀)).filter (fun m => m.fqdn = undefined) = [] :=
      List.filter_eq_nil_iff.2 fun m _ h => fqdn_ne_undefined m (of_decide_eq_true h)
    rw [Option.map_none, Option.getD_none, getElem?_rulesOf, if_pos hno, makeServiceHandler_eq]
    rfl
  | some m =>
    have hmem : m ∈ groupOf mc services (matchKey mc m₀) := by
      have hm := List.mem_of_getLast? hlast
      rw [← filter_hostnames_groupOf trustDomain mc hv hm₀ hhttp] at hm
      exact (List.mem_filter.1 hm).1
    have hown : (groupOf mc services (matchKey mc m₀)).filter (fun m' => m'.fqdn = m.fqdn) ≠ [] :=
      List.ne_nil_of_mem (List.mem_filter.2 ⟨hmem, decide_eq_true rfl⟩)
    rw [Option.map_some, Option.getD_some, getElem?_rulesOf, if_neg hown, filter_groupOf hv hmem]
    exact makeServiceHandler_matchAll rt _ head

/-! ## Clusters -/

theorem Loaded.retryPolicy_eq (h : Loaded trustDomain mc services config) (name : String)
    (cluster : ClusterConfig) (hc : config.clustersConfigs[name]? = some cluster) :
    cluster.retryPolicy = none := by
  rw [h.clusters] at hc
  obtain ⟨wes, -, rfl⟩ := Option.map_eq_some_iff.1 hc
  rfl

theorem clusterName_ne_undefined (m : MeshService) : m.clusterName ≠ undefined := by
  intro h
  have hbar : '|' ∈ m.clusterName.toList := by simp [MeshService.clusterName, String.toList_append]
  rw [h] at hbar
  exact absurd hbar (by decide)

/-- The table of a loaded cluster. -/
theorem Loaded.cluster_eq (h : Loaded trustDomain mc services config) {name : String}
    {cluster : ClusterConfig} (hc : config.clustersConfigs[name]? = some cluster) :
    name ∈ namesOf services ∧
      cluster = .ofOutbound (rebalancedEndpoints (fillTable mc services name none)) := by
  rw [h.clusters, getElem?_tablesOf] at hc
  split at hc
  · rename_i hname
    exact ⟨hname, (Option.some.inj hc).symm⟩
  · cases hc

theorem Loaded.undefined_notMem (h : Loaded trustDomain mc services config) :
    undefined ∉ config.clustersConfigs := by
  intro hmem
  obtain ⟨cluster, hc⟩ := Option.isSome_iff_exists.1 (Std.ExtTreeMap.mem_iff_isSome_getElem?.1 hmem)
  obtain ⟨m, -, -, hm⟩ := mem_namesOf.1 (h.cluster_eq hc).1
  exact clusterName_ne_undefined m hm

theorem hasEndpoint_ofOutbound {wes : WeightedEndpoints} {id : String} {e : Endpoint} :
    (ClusterConfig.ofOutbound wes).HasEndpoint id e ↔
      ∃ wze, wes[id]? = some wze ∧ .ofOutbound wze = e := by
  have hget : (wes.map fun _ => Endpoint.ofOutbound)[id]? = wes[id]?.map .ofOutbound :=
    Std.ExtTreeMap.getElem?_map
  rw [← Option.map_eq_some_iff, ← hget, ← orNull_bind]
  exact Option.bind_eq_some_iff.symm

/-- An endpoint of a cluster of a service: one the catalog lists for the cluster, dialled as its
first service says. -/
def EndpointOf (mc : MeshCatalog) (services : List MeshService) (name target : String) : Prop :=
  ∃ svc, FirstOf services svc ∧ svc.clusterName = name ∧
    ∃ ep ∈ getUpstreamEndpoints mc name, hostPort ep.ip.string (dialPort svc ep) = target

theorem mem_fillTable {name target : String} (hname : name ∈ namesOf services) :
    target ∈ fillTable mc services name none ↔ EndpointOf mc services name target := by
  obtain ⟨svc, hsvc⟩ := exists_find?_clusterName hname
  have hsn : svc.clusterName = name := by simpa using List.find?_some hsvc
  have hfirst : FirstOf services svc := by rw [FirstOf, hsn]; exact hsvc
  unfold fillTable
  rw [hsvc]
  show target ∈ (getUpstreamEndpoints mc name).foldl (addUpstreamEndpoint svc) ∅ ↔ _
  rw [mem_foldl_addUpstreamEndpoint]
  constructor
  · intro h
    exact ⟨svc, hfirst, hsn, h⟩
  · intro h
    obtain ⟨svc', hfirst', hsn', h⟩ := h
    rw [FirstOf, hsn', hsvc] at hfirst'
    obtain rfl := Option.some.inj hfirst'
    exact h

theorem Loaded.endpointOf (h : Loaded trustDomain mc services config) {name target : String}
    {cluster : ClusterConfig} {e : Endpoint} (hc : config.clustersConfigs[name]? = some cluster)
    (he : cluster.HasEndpoint target e) : EndpointOf mc services name target := by
  obtain ⟨hname, rfl⟩ := h.cluster_eq hc
  obtain ⟨wze, hwze, -⟩ := hasEndpoint_ofOutbound.1 he
  obtain ⟨b, -, hget⟩ := getElem?_rebalancedEndpoints (fillTable mc services name none)
  rw [hget] at hwze
  obtain ⟨wze', hwze', -⟩ := Option.map_eq_some_iff.1 hwze
  exact (mem_fillTable hname).1 (mem_of_getElem?_dict hwze')

/-! ## Requests -/

theorem protocolOf_loadedMatch (hv : ∀ m ∈ services, NameValid m) {m₀ : MeshService}
    (hm₀ : m₀ ∈ services) (hhttp : kindOf m₀.protocol = .http) :
    protocolOf (some (loadedMatch trustDomain mc services m₀)) = some .http := by
  obtain ⟨m, -, hsame, -, hproto⟩ := protocol_matchOf hv trustDomain mc hm₀
  have hprotocol : (loadedMatch trustDomain mc services m₀).protocol = matchProtocol m.protocol :=
    hproto
  have hhttp' : isHTTP (matchProtocol m.protocol) = true :=
    isHTTP_matchProtocol.2 (hsame.kindOf_eq.trans hhttp)
  rw [← hprotocol] at hhttp'
  simp only [isHTTP, Bool.or_eq_true, beq_iff_eq] at hhttp'
  rcases hhttp' with h | h <;> simp [protocolOf, h]

/-- What becomes of a request on a port whose first service is an HTTP one. -/
theorem outboundRequest_loaded (h : Loaded trustDomain mc services config)
    (hv : ∀ m ∈ services, NameValid m) {port : UInt16} {m₀ : MeshService}
    (hfirst : services.find? (fun m => m.port = port) = some m₀)
    (hhttp : kindOf m₀.protocol = .http)
    (hchain : deciding config.chains "outbound-http" = httpModules) (rt : Runtime) (call : Nat)
    (address : String) (head : RequestHead) :
    outboundRequest rt config call port.toNat address head =
      some (handleRequest rt config call (loadedMatch trustDomain mc services m₀) head) := by
  unfold outboundRequest
  rw [makePortHandler_loaded h hv, hfirst]
  show (guard (protocolOf (some _) = some .http) : Option Unit).bind _ = _
  rw [protocolOf_loadedMatch hv (List.mem_of_find?_eq_some hfirst) hhttp]
  show (guard (deciding config.chains "outbound-http" = httpModules) : Option Unit).bind _ = _
  rw [hchain]
  rfl

/-- **The targets of a request** are endpoints of a service that has its host. -/
theorem handleRequest_loaded (h : Loaded trustDomain mc services config)
    (hv : ∀ m ∈ services, NameValid m) {m₀ : MeshService} (hm₀ : m₀ ∈ services)
    (hhttp : kindOf m₀.protocol = .http) (rt : Runtime) (call : Nat) (head : RequestHead) :
    ∀ a ∈ (handleRequest rt config call (loadedMatch trustDomain mc services m₀) head).2.sent,
      ∃ m ∈ services, m.port = m₀.port ∧
        hostOfRequest head ∈ getHostnamesForService trustDomain m false ∧
        ∃ m' ∈ rulePeers services m, EndpointOf mc services m'.clusterName a.target := by
  intro a ha
  have htried := handleRequest_tried h.retryPolicy_eq h.undefined_notMem rt call
    (loadedMatch trustDomain mc services m₀) head
  rw [routeOf_loaded hv hm₀ hhttp] at htried
  obtain ⟨rule, hrule, name, hname, cluster, e, hc, he⟩ := htried.target a ha
  obtain ⟨m, hlast, hrule⟩ := Option.bind_eq_some_iff.1 hrule
  split at hrule
  · obtain rfl := Option.some.inj hrule
    obtain ⟨hm, hcond⟩ := List.mem_filter.1 (List.mem_of_getLast? hlast)
    obtain ⟨m', hm', rfl⟩ := mem_targetsOf.1 hname
    obtain ⟨hp, -, hhost⟩ := of_decide_eq_true hcond
    exact ⟨m, hm, hp, hhost, m', hm', h.endpointOf hc he⟩
  · cases hrule

/-- **Requests are isolated**: on a port whose first service is an HTTP service, the proxy sends a
request only to endpoints of a service that has its host, at most four times and again only after a
failure; a request to any other host is denied. -/
theorem request_isolated (env : Env) (cfg : Configurator) (c : Cluster)
    (hchain : deciding (setSidecarChain env cfg {}).chains "outbound-http" = httpModules)
    (hbars : ∀ m ∈ c.listMeshServices, '|' ∉ (matchProtocol m.protocol).toList)
    (hun : Unshared c.listMeshServices) (strict : Bool) (order : RangeOrder) (ts version : String) :
    ∃ conf config, run env cfg c.toMeshCatalog = some conf ∧
      solveConfig strict order (conf.marshalIndent ts version) = some config ∧
      ∀ (port : UInt16) (m₀ : MeshService),
        c.listMeshServices.find? (fun m => m.port = port) = some m₀ →
        kindOf m₀.protocol = .http →
        ∀ (rt : Runtime) (call : Nat) (address : String) (head : RequestHead),
          ∃ answer, outboundRequest rt config call port.toNat address head = some answer ∧
            answer.2.sent.length ≤ 4 ∧ AfterFailures rt answer.2.sent ∧
            (∀ a ∈ answer.2.sent, ∃ m ∈ c.listMeshServices, m.port = port ∧
              hostOfRequest head ∈ getHostnamesForService env.trustDomain m false ∧
              ∃ m' ∈ rulePeers c.listMeshServices m,
                EndpointOf c.toMeshCatalog c.listMeshServices m'.clusterName a.target) ∧
            (hosting env.trustDomain c.listMeshServices port (hostOfRequest head) = [] →
              answer.1 = some 403 ∧ answer.2.sent = []) := by
  have hv := c.nameValid
  obtain ⟨config, hsolve, hloaded, hchains⟩ :=
    loaded_published env cfg strict order ts version hv hbars hun
  rw [← hchains] at hchain
  refine ⟨_, config, run_eq env cfg hv, hsolve, fun port m₀ hfirst hhttp rt call address head => ?_⟩
  refine ⟨_, outboundRequest_loaded hloaded hv hfirst hhttp hchain rt call address head, ?_⟩
  have hm₀ := List.mem_of_find?_eq_some hfirst
  have hport : m₀.port = port := by simpa using List.find?_some hfirst
  have htried := handleRequest_tried hloaded.retryPolicy_eq hloaded.undefined_notMem rt call
    (loadedMatch env.trustDomain c.toMeshCatalog c.listMeshServices m₀) head
  rw [routeOf_loaded hv hm₀ hhttp, hport] at htried
  refine ⟨htried.atMost, htried.afterFailures,
    hport ▸ handleRequest_loaded hloaded hv hm₀ hhttp rt call head, fun hnone => ?_⟩
  · rw [hnone] at htried
    have hsent : (handleRequest rt config call
        (loadedMatch env.trustDomain c.toMeshCatalog c.listMeshServices m₀) head).2.sent = [] := by
      refine List.eq_nil_iff_forall_not_mem.2 fun a ha => ?_
      obtain ⟨rule, hrule, -⟩ := htried.target a ha
      cases hrule
    exact ⟨htried.answered hsent, hsent⟩

/-- The plugin chains of the chart. -/
def chartChains : PluginChainsSpec where
  outboundTCPChains :=
    [⟨"modules/outbound-tcp-routing", 120, false⟩,
      ⟨"modules/outbound-tcp-load-balancing", 110, false⟩,
      ⟨"modules/outbound-tcp-default", 100, false⟩]
  outboundHTTPChains :=
    [⟨"modules/outbound-http-routing", 160, false⟩, ⟨"modules/outbound-metrics-http", 150, false⟩,
      ⟨"modules/outbound-tracing-http", 140, false⟩, ⟨"modules/outbound-logging-http", 130, false⟩,
      ⟨"modules/outbound-circuit-breaker", 120, false⟩,
      ⟨"modules/outbound-http-load-balancing", 110, false⟩,
      ⟨"modules/outbound-http-default", 100, false⟩]

/-- The `EcnetConfig` of the chart. -/
def chartConfig : Configurator where
  ecnetConfigs := ⟨[⟨⟨"ecnet-system", "ecnet-config", by decide, by decide⟩,
    { logLevel := "error", pluginChains := chartChains }⟩], by simp⟩
  ecnetConfigCacheKey := "ecnet-system/ecnet-config"

theorem deciding_chartConfig :
    deciding (setSidecarChain (.asIs "cluster.local") chartConfig {}).chains "outbound-http" =
        httpModules ∧
      deciding (setSidecarChain (.asIs "cluster.local") chartConfig {}).chains "outbound-tcp" =
        tcpModules := by
  decide +kernel

/-- One import, `default/web` on 80 → 8080. -/
def webCluster : Cluster := importCluster .activeActive [] [importEntry 80 "10.0.0.1" 8080]

theorem listMeshServices_webCluster :
    webCluster.listMeshServices = [⟨"default", "web", 80, 8080, "http", "c"⟩] := by
  decide +kernel

theorem noBars_webCluster :
    ∀ m ∈ webCluster.listMeshServices, '|' ∉ (matchProtocol m.protocol).toList := by
  rw [listMeshServices_webCluster]
  decide

theorem unshared_webCluster : Unshared webCluster.listMeshServices := by
  rw [listMeshServices_webCluster]
  exact unshared_singleton _

theorem ready_webCluster (name : String) (hname : name ∈ namesOf webCluster.listMeshServices) :
    getUpstreamEndpoints webCluster.toMeshCatalog name ≠ [] ∧
      Balanceable (fillTable webCluster.toMeshCatalog webCluster.listMeshServices name none) := by
  have hone : namesOf webCluster.listMeshServices = ["default/web|8080"] := by decide +kernel
  rw [hone] at hname
  obtain rfl := List.mem_singleton.1 hname
  have hall : (fillTable webCluster.toMeshCatalog webCluster.listMeshServices "default/web|8080"
      none).toList.all (fun entry => entry.2.lbType = "ActiveActive") = true := by decide +kernel
  refine ⟨by decide +kernel, fun key e he _ => .inr ?_⟩
  exact of_decide_eq_true
    (List.all_eq_true.1 hall _ (Std.ExtTreeMap.mem_toList_iff_getElem?_eq_some.2 he))

/-- A GET of the root path of a host. -/
def getRoot (host : String) : RequestHead where
  method := "GET"
  path := "/"
  headers := (∅ : Dict String).insert "host" host

/-- A request to a host that no service has is denied. -/
theorem request_isolated_one_import :
    ∃ conf config, run (.asIs "cluster.local") chartConfig webCluster.toMeshCatalog = some conf ∧
      solveConfig true .asIs (conf.marshalIndent "" "1") = some config ∧
      ∀ (rt : Runtime) (call : Nat) (address : String) (head : RequestHead),
        ∃ answer, outboundRequest rt config call 80 address head = some answer ∧
          (∀ a ∈ answer.2.sent, ∃ m ∈ webCluster.listMeshServices,
            hostOfRequest head ∈ getHostnamesForService "cluster.local" m false) ∧
          (head = getRoot "db.default" → answer.1 = some 403 ∧ answer.2.sent = []) := by
  obtain ⟨conf, config, hrun, hsolve, h⟩ := request_isolated (.asIs "cluster.local") chartConfig
    webCluster deciding_chartConfig.1 noBars_webCluster unshared_webCluster true .asIs "" "1"
  refine ⟨conf, config, hrun, hsolve, fun rt call address head => ?_⟩
  obtain ⟨answer, hanswer, -, -, hsent, hdenied⟩ := h 80 ⟨"default", "web", 80, 8080, "http", "c"⟩
    (by rw [listMeshServices_webCluster]; rfl) (by decide) rt call address head
  refine ⟨answer, hanswer, fun a ha => ?_, fun hhead => hdenied ?_⟩
  · obtain ⟨m, hm, -, hhost, -⟩ := hsent a ha
    exact ⟨m, hm, hhost⟩
  · rw [hhead, listMeshServices_webCluster]
    decide +kernel

/-- The cluster that is loaded for a name. -/
theorem Loaded.cluster_of_mem (h : Loaded trustDomain mc services config) {name : String}
    (hname : name ∈ namesOf services) :
    config.clustersConfigs[name]? =
      some (.ofOutbound (rebalancedEndpoints (fillTable mc services name none))) := by
  rw [h.clusters, getElem?_tablesOf, if_pos hname]
  rfl

theorem exists_mem_fillTable {name : String} (hname : name ∈ namesOf services)
    (hready : getUpstreamEndpoints mc name ≠ []) : ∃ id, id ∈ fillTable mc services name none := by
  obtain ⟨svc, hsvc⟩ := exists_find?_clusterName hname
  obtain ⟨ep, hep⟩ := List.exists_mem_of_ne_nil _ hready
  refine ⟨hostPort ep.ip.string (dialPort svc ep), ?_⟩
  unfold fillTable
  rw [hsvc]
  exact (mem_foldl_addUpstreamEndpoint svc _ _).2 ⟨ep, hep, rfl⟩

/-- A loaded cluster whose endpoints were listed has one with a weight. -/
theorem Loaded.exists_endpoint (h : Loaded trustDomain mc services config) {name : String}
    (hname : name ∈ namesOf services) (hready : getUpstreamEndpoints mc name ≠ [])
    (hbal : Balanceable (fillTable mc services name none)) :
    ∃ (cluster : ClusterConfig) (id : String) (e : Endpoint),
      config.clustersConfigs[name]? = some cluster ∧ cluster.HasEndpoint id e ∧ e.weight ≠ 0 := by
  obtain ⟨key, hmem⟩ := exists_mem_fillTable hname hready
  obtain ⟨id, wze, hwze, hw⟩ := (rebalanced_rebalancedEndpoints hbal).positive _ hmem
  exact ⟨_, id, .ofOutbound wze, h.cluster_of_mem hname,
    hasEndpoint_ofOutbound.2 ⟨wze, hwze, rfl⟩, (UInt32.pos_iff_ne_zero).1 hw⟩

section

variable {m₀ m : MeshService} {head : RequestHead} (hm₀ : m₀ ∈ services)
  (hhttp : kindOf m₀.protocol = .http)
  (hlast : (hosting trustDomain services m₀.port (hostOfRequest head)).getLast? = some m)
  (htakes : takesAll rt head = true)

include hm₀ hhttp hlast htakes

theorem routeOf_of_last (hv : ∀ m ∈ services, NameValid m) :
    routeOf rt (loadedMatch trustDomain mc services m₀) head =
      some (matchAllRule, targetsOf mc (rulePeers services m)) := by
  rw [routeOf_loaded hv hm₀ hhttp, hlast, Option.bind_some, if_pos htakes]

/-- **A request is sent** when the rule of its service has a target with a weight. -/
theorem handleRequest_sent_iff_of_last (h : Loaded trustDomain mc services config)
    (hv : ∀ m ∈ services, NameValid m)
    (hready : ∀ name ∈ namesOf services, getUpstreamEndpoints mc name ≠ [] ∧
      Balanceable (fillTable mc services name none)) (call : Nat) :
    (handleRequest rt config call (loadedMatch trustDomain mc services m₀) head).2.sent ≠ [] ↔
      ∃ (name : String) (weight : UInt32),
        (targetsOf mc (rulePeers services m))[name]? = some weight ∧ weight ≠ 0 := by
  obtain ⟨-, hcond⟩ := List.mem_filter.1 (List.mem_of_getLast? hlast)
  refine handleRequest_sent_iff h.retryPolicy_eq h.undefined_notMem call
    (routeOf_of_last hm₀ hhttp hlast htakes hv) fun name weight hname _ => ?_
  obtain ⟨m', hm', rfl⟩ := mem_targetsOf.1 (mem_of_getElem?_dict hname)
  obtain ⟨hs, hsame⟩ := List.mem_filter.1 hm'
  have hkind : kindOf m'.protocol = .http :=
    (of_decide_eq_true hsame).1.kindOf_eq.trans (of_decide_eq_true hcond).2.1
  have hnames : m'.clusterName ∈ namesOf services :=
    mem_namesOf.2 ⟨m', hs, by simp [routed, hkind], rfl⟩
  exact h.exists_endpoint hnames (hready _ hnames).1 (hready _ hnames).2

end

/-- **Requests are answered**: a request to a hostname is sent upstream if and only if the rule of
its service has a target cluster with a weight; with clusters to fail over to alone it is not
found. -/
theorem request_sent_iff (env : Env) (cfg : Configurator) (c : Cluster)
    (hchain : deciding (setSidecarChain env cfg {}).chains "outbound-http" = httpModules)
    (hbars : ∀ m ∈ c.listMeshServices, '|' ∉ (matchProtocol m.protocol).toList)
    (hun : Unshared c.listMeshServices)
    (hready : ∀ name ∈ namesOf c.listMeshServices, getUpstreamEndpoints c.toMeshCatalog name ≠ [] ∧
      Balanceable (fillTable c.toMeshCatalog c.listMeshServices name none))
    (strict : Bool) (order : RangeOrder) (ts version : String) :
    ∃ conf config, run env cfg c.toMeshCatalog = some conf ∧
      solveConfig strict order (conf.marshalIndent ts version) = some config ∧
      ∀ (port : UInt16) (m₀ m : MeshService) (head : RequestHead),
        c.listMeshServices.find? (fun m => m.port = port) = some m₀ →
        kindOf m₀.protocol = .http →
        (hosting env.trustDomain c.listMeshServices port (hostOfRequest head)).getLast? = some m →
        ∀ (rt : Runtime) (call : Nat) (address : String), takesAll rt head = true →
          ∃ answer, outboundRequest rt config call port.toNat address head = some answer ∧
            (answer.2.sent ≠ [] ↔ ∃ (name : String) (weight : UInt32),
              (targetsOf c.toMeshCatalog (rulePeers c.listMeshServices m))[name]? = some weight ∧
                weight ≠ 0) ∧
            (answer.2.sent = [] → answer.1 = some 404) := by
  have hv := c.nameValid
  obtain ⟨config, hsolve, hloaded, hchains⟩ :=
    loaded_published env cfg strict order ts version hv hbars hun
  rw [← hchains] at hchain
  refine ⟨_, config, run_eq env cfg hv, hsolve,
    fun port m₀ m head hfirst hhttp hlast rt call address htakes => ?_⟩
  refine ⟨_, outboundRequest_loaded hloaded hv hfirst hhttp hchain rt call address head, ?_⟩
  have hm₀ := List.mem_of_find?_eq_some hfirst
  obtain rfl : m₀.port = port := by simpa using List.find?_some hfirst
  refine ⟨handleRequest_sent_iff_of_last hm₀ hhttp hlast htakes hloaded hv hready call,
    fun hnil => ?_⟩
  have htried := handleRequest_tried hloaded.retryPolicy_eq hloaded.undefined_notMem rt call
    (loadedMatch env.trustDomain c.toMeshCatalog c.listMeshServices m₀) head
  rw [routeOf_of_last hm₀ hhttp hlast htakes hv] at htried
  exact htried.answered hnil

theorem request_sent_one_import :
    ∃ conf config, run (.asIs "cluster.local") chartConfig webCluster.toMeshCatalog = some conf ∧
      solveConfig true .asIs (conf.marshalIndent "" "1") = some config ∧
      ∀ (rt : Runtime) (call : Nat) (address : String), takesAll rt (getRoot "web.default") = true →
        ∃ answer, outboundRequest rt config call 80 address (getRoot "web.default") = some answer ∧
          answer.2.sent ≠ [] := by
  obtain ⟨conf, config, hrun, hsolve, h⟩ := request_sent_iff (.asIs "cluster.local") chartConfig
    webCluster deciding_chartConfig.1 noBars_webCluster unshared_webCluster ready_webCluster
    true .asIs "" "1"
  refine ⟨conf, config, hrun, hsolve, fun rt call address htakes => ?_⟩
  obtain ⟨answer, hanswer, hsent, -⟩ := h 80 ⟨"default", "web", 80, 8080, "http", "c"⟩
    ⟨"default", "web", 80, 8080, "http", "c"⟩ (getRoot "web.default")
    (by rw [listMeshServices_webCluster]; rfl) (by decide)
    (by rw [listMeshServices_webCluster]; decide +kernel) rt call address htakes
  exact ⟨answer, hanswer, hsent.2 ⟨"default/web|8080", 100, by decide +kernel, by decide⟩⟩

end

end Proxy
