import ErieCanalNet.Bridge.Proof.Resolves
import ErieCanalNet.Ctrl.Proof.Clusters
import ErieCanalNet.Lib.Dns
import ErieCanalNet.Mesh.Proof.Listed

/-!
# The names of the two planes

The control plane compiles the outbound policy to the routes of the proxy, the bridge on a node
installs names of the same policy in its DNS table. The two read different parts of it: a service
has a route when its protocol is one of five, in any case (`emitsRoute_iff`); its names are
installed unless the protocol is spelled `tcp` or `tcp-server-first` (`mem_installed`). So they
agree exactly when the services on which the two tests differ share their names with services on
which they do not (`planes_agree_iff`).
-/

namespace Ctrl

open Go K8s Lib Mesh Policy

/-! ## The two planes -/

/-- The hostnames of a service without a port. -/
def namesFor (trustDomain : String) (m : MeshService) : List String :=
  (getHostnamesForService trustDomain m false).filter fun hostname => !contains hostname ':'

/-- The generator has a route for a service: the match of the service targets its cluster. -/
def EmitsRoute (mc : MeshCatalog) (conf : PipyConf) (m : MeshService) : Prop :=
  ∃ otp, conf.outbound = some otp ∧ ∃ tm, (matchKey mc m, tm) ∈ otp.namedTrafficMatches ∧
    ∃ targetClusters ∈ tm.targetClusters, m.clusterName ∈ targetClusters

/-- What the bridge reads of an outbound policy. -/
def bridgePolicy (policy : OutboundMeshTrafficPolicy) : Bridge.OutboundMeshTrafficPolicy where
  httpRouteConfigsPerPort :=
    ⟨policy.httpRouteConfigsPerPort.entries.map fun entry =>
        ⟨entry.1, entry.2.map fun outboundPolicy => ⟨outboundPolicy.hostnames⟩⟩, by
      have h := policy.httpRouteConfigsPerPort.nodupKeys
      simpa [List.NodupKeys, List.keys, Function.comp_def] using h⟩

/-- The names a bridge installs that had none. -/
def installed (env : Bridge.ResolveEnv) (order : RangeOrder) (resdb : Bridge.ResolveTable)
    (policy : OutboundMeshTrafficPolicy) : Map String UInt8 :=
  (Bridge.syncDNSResolves env order (bridgePolicy policy) ⟨∅, resdb⟩).dnsResolves

/-- **The planes agree**: the names of every service with a route are installed, and every name that
is installed belongs to a service with a route. -/
structure PlanesAgree (trustDomain : String) (mc : MeshCatalog) (conf : PipyConf)
    (names : Map String UInt8) : Prop where
  routed : ∀ m ∈ mc.listMeshServices, EmitsRoute mc conf m →
    ∀ hostname ∈ namesFor trustDomain m, hostname ∈ names
  installed : ∀ hostname ∈ names, ∃ m ∈ mc.listMeshServices, EmitsRoute mc conf m ∧
    hostname ∈ namesFor trustDomain m

variable {trustDomain : String} {mc : MeshCatalog}

/-! ## Routes -/

/-- **A service has a route** exactly when the generator knows its protocol. -/
theorem emitsRoute_iff {services : List MeshService} (hv : ∀ m ∈ services, NameValid m)
    {conf : PipyConf} {clusters : Dict WeightedEndpoints}
    (hconf : conf.outbound = some ⟨compile trustDomain mc services, clusters⟩) {m : MeshService}
    (hm : m ∈ services) : EmitsRoute mc conf m ↔ routed m = true := by
  have hk : matchKey mc m ∈ services.map (matchKey mc) := List.mem_map.2 ⟨m, hm, rfl⟩
  constructor
  · rintro ⟨otp, hotp, tm, htm, targets, htargets, -⟩
    obtain rfl := Option.some.inj (hconf.symm.trans hotp)
    simp only [compile_eq hv, List.mem_map, Prod.mk.injEq] at htm
    obtain ⟨k, -, rfl, rfl⟩ := htm
    obtain ⟨m', hm', hr, -⟩ := (mem_targetClusters_matchOf hv hk).1 htargets
    obtain ⟨hs, hkey⟩ := mem_groupOf.1 hm'
    rw [routed, ← ((matchKey_inj (hv m' hs) (hv m hm)).1 hkey).kindOf_eq]
    exact hr
  · intro hr
    refine ⟨_, hconf, matchOf trustDomain mc (groupOf mc services (matchKey mc m)), ?_, _,
      (mem_targetClusters_matchOf hv hk).2 ⟨m, mem_groupOf.2 ⟨hm, rfl⟩, hr, rfl⟩,
      mem_targetsOf.2 ⟨m, List.mem_filter.2 ⟨hm, decide_eq_true (sameRule_refl m)⟩, rfl⟩⟩
    simp only [compile_eq hv]
    exact List.mem_map.2 ⟨_, List.mem_eraseDups.2 hk, rfl⟩

/-- The generator succeeds, with a route for every service of a known protocol. -/
theorem exists_emitsRoute_iff (env : Env) (c : Cluster) {conf : PipyConf}
    (hconf : conf.outbound = none) :
    ∃ conf' dependClusters, generatePipyOutboundTrafficRoutePolicy env conf
        (getOutboundMeshTrafficPolicy env.trustDomain c.toMeshCatalog) =
          some (conf', dependClusters) ∧
      ∀ m ∈ c.listMeshServices, EmitsRoute c.toMeshCatalog conf' m ↔ routed m = true := by
  refine ⟨_, _, generate_eq env hconf c.nameValid, fun m hm => ?_⟩
  exact emitsRoute_iff c.nameValid (if_neg (by simpa using List.ne_nil_of_mem hm)) hm

theorem routed_of_isTCP {m : MeshService} (h : isTCP m.protocol = true) : routed m = true := by
  simp only [isTCP, Bool.or_eq_true, beq_iff_eq] at h
  rcases h with h | h
  · rw [routed, h]
    decide
  · rw [routed, h]
    decide

/-! ## Names -/

theorem mem_namesFor {m : MeshService} {hostname : String} :
    hostname ∈ namesFor trustDomain m ↔
      hostname ∈ getHostnamesForService trustDomain m false ∧ ':' ∉ hostname.toList := by
  simp [namesFor, contains]

/-- The names of the routes of a policy are those of the services that are not spelled as TCP. -/
theorem resolvable_bridgePolicy {services : List MeshService} {hostname : String} :
    Bridge.Resolvable (bridgePolicy (outboundPolicyOf trustDomain mc services)) hostname ↔
      ∃ m ∈ services, isTCP m.protocol = false ∧ hostname ∈ namesFor trustDomain m := by
  simp only [Bridge.Resolvable, bridgePolicy, List.mem_map, exists_exists_and_eq_and]
  have hroutes : ∀ port, ((outboundPolicyOf trustDomain mc services).httpRouteConfigsPerPort.lookup
      port).getD [] = (services.filter (routedBy port)).map (routePolicyOf trustDomain mc) :=
    lookup_outboundPolicyOf services
  constructor
  · rintro ⟨⟨port, policies⟩, hentry, outboundPolicy, hpolicy, hname, hcolon⟩
    have hpolicies := hroutes port
    rw [AList.mem_lookup_iff.2 hentry, Option.getD_some] at hpolicies
    obtain ⟨m, hm, rfl⟩ := List.mem_map.1 (hpolicies ▸ hpolicy)
    obtain ⟨hs, hrouted⟩ := List.mem_filter.1 hm
    simp only [routedBy, Bool.and_eq_true, Bool.not_eq_true'] at hrouted
    exact ⟨m, hs, hrouted.1, mem_namesFor.2 ⟨hname, hcolon⟩⟩
  · rintro ⟨m, hm, htcp, hname⟩
    have hrouted : routedBy (m.port.toNat : Int) m = true := by simp [routedBy, htcp]
    obtain ⟨policies, hlookup⟩ := Option.isSome_iff_exists.1
      (AList.lookup_isSome.2 ((mem_outboundPolicyOf services _).2 ⟨m, hm, hrouted⟩))
    have hpolicies := hroutes m.port.toNat
    rw [hlookup, Option.getD_some] at hpolicies
    refine ⟨_, AList.mem_lookup_iff.1 hlookup, routePolicyOf trustDomain mc m, ?_,
      mem_namesFor.1 hname⟩
    rw [hpolicies]
    exact List.mem_map.2 ⟨m, List.mem_filter.2 ⟨hm, hrouted⟩, rfl⟩

/-- **The names a bridge installs** are those of the services that are not spelled as TCP. -/
theorem mem_installed (env : Bridge.ResolveEnv) (order : RangeOrder) (resdb : Bridge.ResolveTable)
    {services : List MeshService} {hostname : String} :
    hostname ∈ installed env order resdb (outboundPolicyOf trustDomain mc services) ↔
      ∃ m ∈ services, isTCP m.protocol = false ∧ hostname ∈ namesFor trustDomain m := by
  have hnames := @resolvable_bridgePolicy trustDomain mc services hostname
  rw [← hnames, installed]
  by_cases hno : Bridge.NoRoutes (bridgePolicy (outboundPolicyOf trustDomain mc services))
  · rw [Bridge.syncDNSResolves_noRoutes hno]
    refine iff_of_false (AList.notMem_empty _) ?_
    rintro ⟨entry, hentry, -⟩
    rw [hno] at hentry
    cases hentry
  · exact Bridge.mem_syncDNSResolves hno

/-! ## Agreement -/

/-- **The planes agree exactly when** every name of a service spelled as TCP is a name of a service
that is not, and every name of a service of no known protocol is a name of a service of one. -/
theorem planes_agree_iff (env : Env) (renv : Bridge.ResolveEnv) (order : RangeOrder)
    (resdb : Bridge.ResolveTable) (c : Cluster) {conf : PipyConf} (hconf : conf.outbound = none) :
    ∃ conf' dependClusters, generatePipyOutboundTrafficRoutePolicy env conf
        (getOutboundMeshTrafficPolicy env.trustDomain c.toMeshCatalog) =
          some (conf', dependClusters) ∧
      (PlanesAgree env.trustDomain c.toMeshCatalog conf' (installed renv order resdb
          (getOutboundMeshTrafficPolicy env.trustDomain c.toMeshCatalog)) ↔
        (∀ m ∈ c.listMeshServices, isTCP m.protocol = true →
          ∀ hostname ∈ namesFor env.trustDomain m, ∃ m' ∈ c.listMeshServices,
            isTCP m'.protocol = false ∧ hostname ∈ namesFor env.trustDomain m') ∧
        ∀ m ∈ c.listMeshServices, routed m = false →
          ∀ hostname ∈ namesFor env.trustDomain m, ∃ m' ∈ c.listMeshServices,
            routed m' = true ∧ hostname ∈ namesFor env.trustDomain m') := by
  have hinst : ∀ hostname, hostname ∈ installed renv order resdb
      (getOutboundMeshTrafficPolicy env.trustDomain c.toMeshCatalog) ↔ _ :=
    fun _ => mem_installed renv order resdb
  obtain ⟨conf', dependClusters, hgen, hroute⟩ := exists_emitsRoute_iff env c hconf
  refine ⟨conf', dependClusters, hgen, ?_⟩
  constructor
  · rintro ⟨hrouted, hinstalled⟩
    refine ⟨fun m hm htcp hostname hname => ?_, fun m hm hother hostname hname => ?_⟩
    · exact (hinst hostname).1
        (hrouted m hm ((hroute m hm).2 (routed_of_isTCP htcp)) hostname hname)
    · have htcp : isTCP m.protocol = false := by
        by_contra ht
        rw [routed_of_isTCP (Bool.eq_true_of_not_eq_false ht)] at hother
        cases hother
      obtain ⟨m', hm', he, hname'⟩ := hinstalled hostname ((hinst hostname).2 ⟨m, hm, htcp, hname⟩)
      exact ⟨m', hm', (hroute m' hm').1 he, hname'⟩
  · rintro ⟨htcps, hothers⟩
    refine ⟨fun m hm _ hostname hname => (hinst hostname).2 ?_, fun hostname hin => ?_⟩
    · cases htcp : isTCP m.protocol with
      | false => exact ⟨m, hm, htcp, hname⟩
      | true => exact htcps m hm htcp hostname hname
    · obtain ⟨m, hm, -, hname⟩ := (hinst hostname).1 hin
      cases hr : routed m with
      | true => exact ⟨m, hm, (hroute m hm).2 hr, hname⟩
      | false =>
        obtain ⟨m', hm', hr', hname'⟩ := hothers m hm hr hostname hname
        exact ⟨m', hm', (hroute m' hm').2 hr', hname'⟩

/-- A node that packs the names of the DNS, and whose kernel takes every update and deletion. -/
def packingNode : Bridge.ResolveEnv where
  pack := Dns.packDomainName
  bridgeIPInt := 0x0af40001
  updateOk := fun _ _ => true
  deleteOk := fun _ _ => true

theorem planes_agree_one_import :
    ∃ conf' dependClusters, generatePipyOutboundTrafficRoutePolicy (.asIs "cluster.local") {}
        (getOutboundMeshTrafficPolicy "cluster.local"
          (importCluster .activeActive [] [importEntry 80 "10.0.0.1" 8080]).toMeshCatalog) =
            some (conf', dependClusters) ∧
      PlanesAgree "cluster.local"
        (importCluster .activeActive [] [importEntry 80 "10.0.0.1" 8080]).toMeshCatalog conf'
        (installed packingNode .asIs (fun _ => none) (getOutboundMeshTrafficPolicy "cluster.local"
          (importCluster .activeActive [] [importEntry 80 "10.0.0.1" 8080]).toMeshCatalog)) := by
  have hconf : ({} : PipyConf).outbound = none := rfl
  obtain ⟨conf', dependClusters, h, hiff⟩ :=
    planes_agree_iff (.asIs "cluster.local") packingNode .asIs (fun _ => none)
      (importCluster .activeActive [] [importEntry 80 "10.0.0.1" 8080]) hconf
  have hhttp : ∀ m ∈ (importCluster .activeActive []
      [importEntry 80 "10.0.0.1" 8080]).listMeshServices, isTCP m.protocol = false ∧
        routed m = true := by decide
  refine ⟨conf', dependClusters, h, hiff.2 ⟨fun m hm htcp => ?_, fun m hm hr => ?_⟩⟩
  · rw [(hhttp m hm).1] at htcp
    cases htcp
  · rw [(hhttp m hm).2] at hr
    cases hr

/-- A cluster with one import whose only port is TCP. -/
def tcpCluster : Cluster := importCluster .activeActive []
  [{ importEntry 3306 "10.0.0.1" 3306 with appProtocol := some "tcp" }]

/-- The proxy routes a TCP service, and no node knows its names. -/
theorem not_planes_agree_tcp :
    ∃ conf' dependClusters, generatePipyOutboundTrafficRoutePolicy (.asIs "cluster.local") {}
        (getOutboundMeshTrafficPolicy "cluster.local" tcpCluster.toMeshCatalog) =
          some (conf', dependClusters) ∧
      ¬ PlanesAgree "cluster.local" tcpCluster.toMeshCatalog conf'
        (installed packingNode .asIs (fun _ => none)
          (getOutboundMeshTrafficPolicy "cluster.local" tcpCluster.toMeshCatalog)) := by
  have hconf : ({} : PipyConf).outbound = none := rfl
  obtain ⟨conf', dependClusters, h, hroute⟩ :=
    exists_emitsRoute_iff (.asIs "cluster.local") tcpCluster hconf
  refine ⟨conf', dependClusters, h, fun hagree => ?_⟩
  have hlist : tcpCluster.listMeshServices = [⟨"default", "web", 3306, 3306, "tcp", "c"⟩] := by
    decide +kernel
  have hm : ⟨"default", "web", 3306, 3306, "tcp", "c"⟩ ∈ tcpCluster.listMeshServices := by
    rw [hlist]
    exact .head _
  have hin := hagree.routed _ hm ((hroute _ hm).2 (by decide)) "web.default" (by decide)
  obtain ⟨m, hm, htcp, -⟩ := (mem_installed _ _ _).1 hin
  rw [show m = _ from List.mem_singleton.1 (hlist ▸ hm)] at htcp
  cases htcp

end Ctrl
