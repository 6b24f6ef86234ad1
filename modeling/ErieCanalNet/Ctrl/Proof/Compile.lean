import ErieCanalNet.Ctrl.Proof.Codec
import ErieCanalNet.Mesh.Proof.Outbound

/-!
# The generator, one service at a time

The generator finds the routes of a traffic match through the texts of the policy: the name of
the match gives the FQDN, the FQDN and the cluster give the routes. For services whose names the
API server admits all of that leads back to the service the match was made for, so that the
routes are those of a simple loop over the services: `compile` writes each service to the match
of its key (`fill`).

* `routeConfigs_eq`: the routes found for a service are copies of its own;
* `routeTrafficMatch_eq`: the generator fills a match as `fill` does;
* `generate_eq`: it never panics, and its routes and clusters are those of `compile` and
  `dependOf`.
-/

namespace Ctrl

open Go K8s Lib Mesh Policy

/-! ## The loop over the services -/

/-- How the generator routes a protocol. -/
inductive Kind
  | http
  | tcp
  | other
deriving DecidableEq, Repr

def kindOf (protocol : String) : Kind :=
  let protocol := toLower protocol
  if isHTTP protocol then .http
  else if isTCP protocol || protocol == "https" then .tcp
  else .other

section Compile

variable (trustDomain : String) (mc : MeshCatalog)

/-- The rule for all paths. -/
def matchAllRule : HTTPMatchRule := httpMatchRuleOf wildCardRouteMatch

/-- The rules of a service with one more cluster. -/
def addRule (cluster : WeightedCluster) (rules : Option OutboundHTTPRouteRules) :
    OutboundHTTPRouteRules :=
  upsert matchAllRule (fun targets => addWeightedCluster (targets.getD ∅) cluster) (rules.getD [])

def fillHTTP (m : MeshService) (tm : OutboundTrafficMatch) : OutboundTrafficMatch :=
  { tm with
    httpHostPort2Service := (getHostnamesForService trustDomain m false).foldl
      (fun hosts hostname => hosts.insert hostname m.fqdn) tm.httpHostPort2Service
    httpServiceRouteRules := tm.httpServiceRouteRules.insert m.fqdn
      (addRule (weightedClusterOf mc m) tm.httpServiceRouteRules[m.fqdn]?) }

def fillTCP (m : MeshService) (tm : OutboundTrafficMatch) : OutboundTrafficMatch :=
  { tm with
    tcpServiceRouteRules :=
      some (addWeightedCluster (tm.tcpServiceRouteRules.getD ∅) (weightedClusterOf mc m)) }

/-- What a service writes to its match. -/
def fill (m : MeshService) (tm : OutboundTrafficMatch) : OutboundTrafficMatch :=
  match kindOf m.protocol with
  | .http => fillHTTP trustDomain mc m tm
  | .tcp => fillTCP mc m tm
  | .other => tm

/-- The key of the match of a service. -/
def matchKey (m : MeshService) : String := namedPort (trafficMatchOf mc m)

/-- The match of a service that is the first of its key. -/
def newMatch (m : MeshService) : OutboundTrafficMatch := newTrafficMatch (trafficMatchOf mc m)

/-- The matches of a list of services. -/
def compile (services : List MeshService) : List (String × OutboundTrafficMatch) :=
  services.foldl (fun t m =>
    upsert (matchKey mc m) (fun o => fill trustDomain mc m (o.getD (newMatch mc m))) t) []

/-- The clusters of a list of services that are routed. -/
def dependOf (services : List MeshService) : Map String WeightedCluster :=
  services.foldl (fun dep m =>
    if kindOf m.protocol = .other then dep else dependOn dep (weightedClusterOf mc m)) ∅

end Compile

variable {trustDomain : String} {mc : MeshCatalog}

/-! ## The lookups -/

/-- The traffic match of a service gives it back, when the protocol has no underscore. -/
theorem trafficMatchToMeshSvc_eq {m : MeshService} (h : NameValid m) (hne : m.protocol ≠ "")
    (hp : '_' ∉ m.protocol.toList) :
    trafficMatchToMeshSvc (trafficMatchOf mc m) =
      some { ns := m.ns, name := m.name, protocol := toLower m.protocol, targetPort := m.port } := by
  rw [trafficMatchToMeshSvc_name h.separable hne hp rfl]
  simp only [trafficMatchOf, uint16_toNat]

theorem hostnames_congr {m m' : MeshService} (hname : m.name = m'.name) (hns : m.ns = m'.ns)
    (hport : m.port = m'.port) :
    getHostnamesForService trustDomain m false = getHostnamesForService trustDomain m' false := by
  simp only [getHostnamesForService, hname, hns, hport]

/-- The comparison with a set that is visited in the order `b`. -/
theorem arrayEqual_iff_perm {a b : List WeightedCluster} (hb : b.Nodup) :
    arrayEqual a b = true ↔ a.Perm b := by
  simp only [arrayEqual, Bool.and_eq_true, beq_iff_eq, List.all_eq_true, List.any_eq_true,
    exists_eq_right']
  constructor
  · rintro ⟨⟨hlen, -⟩, hba⟩
    -- all elements of `b` are in `a`, which is too short to repeat one of them
    have hsub : b.Subperm a := List.subperm_of_subset hb hba
    exact (hsub.perm_of_length_le hlen.le).symm
  · intro h
    exact ⟨⟨h.length_eq, fun c hc => h.mem_iff.1 hc⟩, fun c hc => h.mem_iff.2 hc⟩

/-- **A list of clusters equals a set**, whatever order `b` the set is visited in, if and only if
it lists each cluster of the set once, and no other. -/
theorem array_equal_iff {a b : List WeightedCluster} {set : Finset WeightedCluster}
    (hb : b.Nodup) (hset : b.toFinset = set) :
    arrayEqual a b = true ↔ ∀ c, a.count c = if c ∈ set then 1 else 0 := by
  rw [arrayEqual_iff_perm hb, List.perm_iff_count, ← hset]
  simp only [hb.count, List.mem_toFinset]

/-- Two clusters in another order, and a list of the right length that repeats one of them. -/
theorem array_equal_two_clusters :
    arrayEqual [⟨"a", 1⟩, ⟨"b", 2⟩] [⟨"b", 2⟩, ⟨"a", 1⟩] = true ∧
      arrayEqual [⟨"a", 1⟩, ⟨"a", 1⟩] [⟨"b", 2⟩, ⟨"a", 1⟩] = false := by
  have hb : ([⟨"b", 2⟩, ⟨"a", 1⟩] : List WeightedCluster).Nodup := by decide
  refine ⟨by decide, Bool.eq_false_iff.2 fun h => ?_⟩
  have hcount := (array_equal_iff hb rfl).1 h ⟨"a", 1⟩
  revert hcount
  decide

theorem arrayEqual_singleton {c c' : WeightedCluster} :
    arrayEqual [c] [c'] = true ↔ c = c' := by
  rw [arrayEqual_iff_perm (List.nodup_singleton c'), List.singleton_perm_singleton]

/-- **The routes found for a service** are copies of its own, and there is one. -/
theorem routeConfigs_eq (trustDomain : String) (mc : MeshCatalog) {services : List MeshService}
    (hv : ∀ m ∈ services, NameValid m) {m : MeshService} (hm : m ∈ services)
    (ht : isTCP m.protocol = false) :
    ∃ n, getOutboundHTTPRouteConfigs
      (outboundPolicyOf trustDomain mc services).httpRouteConfigsPerPort m.port.toNat m.fqdn
      [weightedClusterOf mc m] = List.replicate (n + 1) (routePolicyOf trustDomain mc m) := by
  rw [getOutboundHTTPRouteConfigs, lookup_outboundPolicyOf]
  set configs := List.filter _ (List.map (routePolicyOf trustDomain mc) _) with hconfigs
  have hself : routePolicyOf trustDomain mc m ∈ configs := by
    rw [hconfigs, List.mem_filter, List.mem_map]
    refine ⟨⟨m, List.mem_filter.2 ⟨hm, by simp [routedBy, ht]⟩, rfl⟩, ?_⟩
    simp [routePolicyOf, arrayEqual_singleton]
  have hall : ∀ p ∈ configs, p = routePolicyOf trustDomain mc m := by
    intro p hp
    rw [hconfigs, List.mem_filter, List.mem_map] at hp
    obtain ⟨⟨m', hm', rfl⟩, hcond⟩ := hp
    obtain ⟨hm', hrouted⟩ := List.mem_filter.1 hm'
    simp only [routedBy, Bool.and_eq_true, Bool.not_eq_true', beq_iff_eq, Int.natCast_inj,
      UInt16.toNat_inj] at hrouted
    simp only [routePolicyOf, List.any_cons, List.any_nil, Bool.or_false, Bool.and_eq_true,
      beq_iff_eq, arrayEqual_singleton] at hcond
    obtain ⟨hname, hns⟩ := (fqdn_inj (hv m' hm') (hv m hm)).1 hcond.1
    rw [routePolicyOf, routePolicyOf, hcond.1, hcond.2, hostnames_congr hname hns hrouted.2]
  obtain ⟨n, hn⟩ : ∃ n, configs.length = n + 1 :=
    Nat.exists_eq_add_one.2 (List.length_pos_of_mem hself)
  exact ⟨n, by rw [← hn]; exact List.eq_replicate_of_mem hall⟩

/-! ## Filling a match -/

theorem dependOn_idem (dep : Map String WeightedCluster) (c : WeightedCluster) :
    dependOn (dependOn dep c) c = dependOn dep c := by
  by_cases h : c.clusterName ∈ dep
  · simp [dependOn, h]
  · simp [dependOn, h]

theorem addWeightedCluster_idem (targets : WeightedClusters) (c : WeightedCluster) :
    addWeightedCluster (addWeightedCluster targets c) c = addWeightedCluster targets c :=
  insert_insert_self _ _ _ _

theorem fillHTTP_idem (m : MeshService) (tm : OutboundTrafficMatch) :
    fillHTTP trustDomain mc m (fillHTTP trustDomain mc m tm) = fillHTTP trustDomain mc m tm := by
  have hhosts : ∀ (l : List String) (v : String) (hosts : Dict String),
      l.foldl (fun hosts h => hosts.insert h v) (l.foldl (fun hosts h => hosts.insert h v) hosts) =
        l.foldl (fun hosts h => hosts.insert h v) hosts := by
    intro l v hosts
    refine Std.ExtTreeMap.ext_getElem? fun k => ?_
    simp only [getElem?_foldl_insert_const]
    split <;> rfl
  have hrule : ∀ (c : WeightedCluster) (rules : Option OutboundHTTPRouteRules),
      addRule c (some (addRule c rules)) = addRule c rules := by
    intro c rules
    simp only [addRule, Option.getD_some, upsert_upsert, addWeightedCluster_idem]
  simp only [fillHTTP, hhosts, Std.ExtTreeMap.getElem?_insert_self, hrule, insert_insert_self]

theorem foldl_addHTTPHostPort2Service (ruleName : String) :
    ∀ (hostnames : List String) (tm : OutboundTrafficMatch),
      hostnames.foldl (fun tm h => tm.addHTTPHostPort2Service h ruleName) tm =
        { tm with
          httpHostPort2Service :=
            hostnames.foldl (fun hosts h => hosts.insert h ruleName) tm.httpHostPort2Service }
  | [], _ => rfl
  | h :: hostnames, tm => by
    rw [List.foldl_cons, foldl_addHTTPHostPort2Service]
    rfl

theorem fqdn_ne_empty (m : MeshService) : m.fqdn.isEmpty = false := by
  simp [MeshService.fqdn]

/-- The routes of a service fill a match as `fillHTTP` does. -/
theorem addHTTPRouteConfig_eq (order : RangeOrder) (m : MeshService) (st : Filling) :
    addHTTPRouteConfig order st (routePolicyOf trustDomain mc m) =
      some (fillHTTP trustDomain mc m st.1, dependOn st.2 (weightedClusterOf mc m)) := by
  simp [addHTTPRouteConfig, routePolicyOf, foldl_addHTTPHostPort2Service, addHTTPRoute,
    OutboundTrafficMatch.newHTTPServiceRouteRules, fqdn_ne_empty, order.visit_singleton, fillHTTP,
    addRule, insert_insert_self, matchAllRule]

theorem foldlM_replicate_succ {σ α : Type} {f : σ → α → Option σ} {g : σ → σ} {x : α}
    (hf : ∀ s, f s x = some (g s)) (hg : ∀ s, g (g s) = g s) (n : Nat) (s : σ) :
    (List.replicate (n + 1) x).foldlM f s = some (g s) := by
  induction n generalizing s with
  | zero => simp [hf]
  | succ n ih =>
    rw [List.replicate_succ, List.foldlM_cons, hf, Option.bind_eq_bind, Option.bind_some, ih, hg]

theorem addTCPClusters_replicate (n : Nat) (c : WeightedCluster) (st : Filling) :
    addTCPClusters st (List.replicate (n + 1) c) = addTCPClusters st [c] := by
  rw [addTCPClusters, foldl_replicate_succ (addWeightedCluster_idem · c),
    foldl_replicate_succ (dependOn_idem · c)]
  rfl

/-- A protocol spelled as TCP is routed as TCP. -/
theorem toLower_of_isTCP {protocol : String} (h : isTCP protocol = true) :
    toLower protocol = protocol := by
  simp only [isTCP, Bool.or_eq_true, beq_iff_eq] at h
  rcases h with rfl | rfl <;> decide

/-- The services whose routes are looked up: the lookup finds the service, and copies of its
routes. -/
theorem exists_routeConfigs (trustDomain : String) (mc : MeshCatalog) {services : List MeshService}
    (hv : ∀ m ∈ services, NameValid m) {m : MeshService} (hm : m ∈ services) {p : String}
    (hl : toLower m.protocol = p) (hp : p = "http" ∨ p = "grpc" ∨ p = "https") :
    ∃ svc n, trafficMatchToMeshSvc (trafficMatchOf mc m) = some svc ∧
      getOutboundHTTPRouteConfigs
        (outboundPolicyOf trustDomain mc services).httpRouteConfigsPerPort svc.targetPort.toNat
        svc.fqdn (trafficMatchOf mc m).weightedClusters =
          List.replicate (n + 1) (routePolicyOf trustDomain mc m) := by
  have hproto : m.protocol ≠ "" ∧ '_' ∉ m.protocol.toList := by
    rcases hp with rfl | rfl | rfl
    · exact protocol_of_toLower hl (by decide) (by decide)
    · exact protocol_of_toLower hl (by decide) (by decide)
    · exact protocol_of_toLower hl (by decide) (by decide)
  have htcp : isTCP m.protocol = false := by
    by_contra ht
    rw [Bool.not_eq_false] at ht
    rw [← toLower_of_isTCP ht, hl] at ht
    rcases hp with rfl | rfl | rfl <;> revert ht <;> decide
  obtain ⟨n, hn⟩ := routeConfigs_eq trustDomain mc hv hm htcp
  exact ⟨_, n, trafficMatchToMeshSvc_eq (hv m hm) hproto.1 hproto.2, hn⟩

/-- **The generator fills a match** as `fill` does. -/
theorem routeTrafficMatch_eq (order : RangeOrder) {services : List MeshService}
    (hv : ∀ m ∈ services, NameValid m) {m : MeshService} (hm : m ∈ services) (st : Filling) :
    routeTrafficMatch order (outboundPolicyOf trustDomain mc services) (trafficMatchOf mc m) st =
      some (fill trustDomain mc m st.1,
        if kindOf m.protocol = .other then st.2 else dependOn st.2 (weightedClusterOf mc m)) := by
  unfold routeTrafficMatch fill kindOf
  rw [show (trafficMatchOf mc m).destinationProtocol = m.protocol from rfl]
  by_cases hhttp : isHTTP (toLower m.protocol) = true
  · have hp : toLower m.protocol = "http" ∨ toLower m.protocol = "grpc" ∨
        toLower m.protocol = "https" := by
      simp only [isHTTP, Bool.or_eq_true, beq_iff_eq] at hhttp
      exact hhttp.imp_right .inl
    obtain ⟨svc, n, hsvc, hconfigs⟩ := exists_routeConfigs trustDomain mc hv hm rfl hp
    have hfill := foldlM_replicate_succ
      (f := addHTTPRouteConfig order) (x := routePolicyOf trustDomain mc m)
      (g := fun st => (fillHTTP trustDomain mc m st.1, dependOn st.2 (weightedClusterOf mc m)))
      (addHTTPRouteConfig_eq order m) (by simp [fillHTTP_idem, dependOn_idem]) n st
    simp [hhttp, hsvc, hconfigs, hfill]
  · by_cases htcp : isTCP (toLower m.protocol) = true
    · simp [hhttp, htcp, addTCPClusters, fillTCP, trafficMatchOf]
    · by_cases hhttps : toLower m.protocol = "https"
      · obtain ⟨svc, n, hsvc, hconfigs⟩ :=
          exists_routeConfigs trustDomain mc hv hm rfl (.inr (.inr hhttps))
        have hclusters : ((List.replicate (n + 1) (routePolicyOf trustDomain mc m)).flatMap
            (·.routes)).flatMap (fun route => order.visit route.weightedClusters) =
              List.replicate (n + 1) (weightedClusterOf mc m) := by
          simp [routePolicyOf, List.flatMap_replicate, order.visit_singleton]
        rw [hhttps] at hhttp htcp
        simp only [hhttps, hhttp, htcp, hsvc, Option.bind_eq_bind, Option.bind_some, hconfigs,
          hclusters, addTCPClusters_replicate]
        simp [addTCPClusters, fillTCP]
      · simp [hhttp, htcp, hhttps]

/-! ## The loop -/

/-- One round of the generator is one round of the loops. -/
theorem addTrafficMatch_eq (order : RangeOrder) {services : List MeshService}
    (hv : ∀ m ∈ services, NameValid m) {m : MeshService} (hm : m ∈ services) (st : RouteState) :
    addTrafficMatch order (outboundPolicyOf trustDomain mc services) st (trafficMatchOf mc m) =
      some
        { otp := { st.otp with
            namedTrafficMatches := upsert (matchKey mc m)
              (fun o => fill trustDomain mc m (o.getD (newMatch mc m))) st.otp.namedTrafficMatches }
          dependClusters :=
            if kindOf m.protocol = .other then st.dependClusters
            else dependOn st.dependClusters (weightedClusterOf mc m) } := by
  rw [addTrafficMatch, routeTrafficMatch_eq order hv hm]
  simp only [Option.bind_eq_bind, Option.bind_some, Option.pure_def]
  rw [← upsert_lookup (matchKey mc m)]
  rfl

theorem foldlM_addTrafficMatch (order : RangeOrder) {services : List MeshService}
    (hv : ∀ m ∈ services, NameValid m) :
    ∀ {l : List MeshService}, l ⊆ services → ∀ st : RouteState,
      (l.map (trafficMatchOf mc)).foldlM
        (addTrafficMatch order (outboundPolicyOf trustDomain mc services)) st =
        some
          { otp := { st.otp with
              namedTrafficMatches := l.foldl (fun t m =>
                upsert (matchKey mc m) (fun o => fill trustDomain mc m (o.getD (newMatch mc m))) t)
                st.otp.namedTrafficMatches }
            dependClusters := l.foldl (fun dep m =>
              if kindOf m.protocol = .other then dep else dependOn dep (weightedClusterOf mc m))
              st.dependClusters }
  | [], _, _ => rfl
  | m :: l, hl, st => by
    rw [List.map_cons, List.foldlM_cons,
      addTrafficMatch_eq order hv (hl List.mem_cons_self), Option.bind_eq_bind, Option.bind_some,
      foldlM_addTrafficMatch order hv fun m' hm' => hl (List.mem_cons_of_mem _ hm')]
    simp only [List.foldl_cons]

/-- **The generator is the loop over the services**: it does not panic, and the routes and the
clusters are those of `compile` and `dependOf`. -/
theorem generate_eq (env : Env) {conf : PipyConf} (hconf : conf.outbound = none)
    {services : List MeshService} (hv : ∀ m ∈ services, NameValid m) :
    generatePipyOutboundTrafficRoutePolicy env conf
        (outboundPolicyOf env.trustDomain mc services) =
      some ({ conf with
          outbound := if services.isEmpty then none else
            some { namedTrafficMatches := compile env.trustDomain mc services } },
        dependOf mc services) := by
  rw [generatePipyOutboundTrafficRoutePolicy, trafficMatches_outboundPolicyOf, List.isEmpty_map]
  cases services with
  | nil => simp [dependOf, ← hconf]
  | cons m l =>
    rw [foldlM_addTrafficMatch env.order hv (List.Subset.refl _)]
    simp [hconf, compile, dependOf]

end Ctrl
