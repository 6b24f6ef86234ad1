import ErieCanalNet.Ctrl.Proof.Compile
import ErieCanalNet.Mesh.Proof.Upstream

/-!
# The routes, match by match

`compile_eq`: the matches are those of the keys of the services, in the order of the first services,
and the match of a key is `matchOf` its services:

* the first of them gives the port and the protocol;
* a hostname belongs to the last service that has it (`getElem?_hostsOf`);
* a cluster has the weight of the last service it belongs to (`getElem?_targetsOf`);
* the services of one FQDN share one rule, for all paths (`getElem?_rulesOf`).

Services share a match when they are HTTP services of one port, or have all their names, the port
and the protocol in common (`matchKey_inj`).

`routes_complete`: with names of labels no service is lost, or shadowed by another.
-/

namespace Ctrl

open Go K8s Lib Mesh Policy

/-! ## The match of a group of services -/

section

variable (trustDomain : String) (mc : MeshCatalog)

def targetsOf (group : List MeshService) : WeightedClusters :=
  group.foldl (fun targets m => addWeightedCluster targets (weightedClusterOf mc m)) ∅

def hostsOf (group : List MeshService) : Dict String :=
  group.foldl (fun hosts m => (getHostnamesForService trustDomain m false).foldl
    (fun hosts hostname => hosts.insert hostname m.fqdn) hosts) ∅

def rulesOf (group : List MeshService) : Dict OutboundHTTPRouteRules :=
  group.foldl (fun rules m =>
    rules.insert m.fqdn (addRule (weightedClusterOf mc m) rules[m.fqdn]?)) ∅

/-- The match of the services of one key. -/
def matchOf : List MeshService → OutboundTrafficMatch
  | [] => {}
  | m :: group =>
    match kindOf m.protocol with
    | .http =>
      { newMatch mc m with
        httpHostPort2Service := hostsOf trustDomain (m :: group)
        httpServiceRouteRules := rulesOf mc (m :: group) }
    | .tcp => { newMatch mc m with tcpServiceRouteRules := some (targetsOf mc (m :: group)) }
    | .other => newMatch mc m

end

variable {trustDomain : String} {mc : MeshCatalog}

theorem getElem?_targetsOf (group : List MeshService) (c : String) :
    (targetsOf mc group)[c]? = (group.filter fun m => m.clusterName = c).getLast?.map fun m =>
      UInt32.ofInt (upstreamWeight mc m) := by
  rw [← groupFold_last]
  exact getElem?_foldl_insert _ (fun m _ => UInt32.ofInt (upstreamWeight mc m)) group ∅ c

theorem mem_targetsOf {group : List MeshService} {c : String} :
    c ∈ targetsOf mc group ↔ ∃ m ∈ group, m.clusterName = c := by
  rw [Std.ExtTreeMap.mem_iff_isSome_getElem?, getElem?_targetsOf, Option.isSome_map,
    List.getLast?_isSome]
  simp

theorem getElem?_hostsOf (group : List MeshService) (h : String) :
    (hostsOf trustDomain group)[h]? =
      (group.filter fun m => h ∈ getHostnamesForService trustDomain m false).getLast?.map
        MeshService.fqdn := by
  induction group using List.reverseRecOn with
  | nil => simp [hostsOf]
  | append_singleton group m ih =>
    have hlast : (hostsOf trustDomain (group ++ [m]))[h]? =
        if h ∈ getHostnamesForService trustDomain m false then some m.fqdn
        else (hostsOf trustDomain group)[h]? := by
      rw [hostsOf, List.foldl_append, List.foldl_cons, List.foldl_nil, getElem?_foldl_insert_const]
      rfl
    rw [hlast, ih, List.filter_append]
    by_cases hm : h ∈ getHostnamesForService trustDomain m false
    · simp [hm]
    · simp [hm]

/-- The rules of one service, written again and again. -/
theorem groupFold_addRule (group : List MeshService) (targets : WeightedClusters) :
    groupFold (fun m rules => addRule (weightedClusterOf mc m) rules)
      (some [(matchAllRule, targets)]) group =
        some [(matchAllRule, group.foldl (fun targets m =>
          addWeightedCluster targets (weightedClusterOf mc m)) targets)] := by
  induction group generalizing targets with
  | nil => rfl
  | cons m group ih =>
    rw [groupFold_cons, List.foldl_cons, ← ih]
    simp [addRule, upsert]

theorem getElem?_rulesOf (group : List MeshService) (f : String) :
    (rulesOf mc group)[f]? =
      if (group.filter fun m => m.fqdn = f) = [] then none
      else some [(matchAllRule, targetsOf mc (group.filter fun m => m.fqdn = f))] := by
  have h : (rulesOf mc group)[f]? = groupFold (fun m rules => addRule (weightedClusterOf mc m) rules)
      none (group.filter fun m => m.fqdn = f) :=
    getElem?_foldl_insert _ (fun m rules => addRule (weightedClusterOf mc m) rules) group ∅ f
  rw [h]
  cases group.filter fun m => m.fqdn = f with
  | nil => rfl
  | cons m g =>
    rw [groupFold_cons, if_neg (List.cons_ne_nil m g)]
    exact groupFold_addRule g (addWeightedCluster ∅ (weightedClusterOf mc m))

/-! ## The services of a match -/

/-- The services that share a match. -/
def SameMatch (m m' : MeshService) : Prop :=
  m.port = m'.port ∧ (kindOf m.protocol = .http ∧ kindOf m'.protocol = .http ∨
    kindOf m.protocol ≠ .http ∧ m.ns = m'.ns ∧ m.name = m'.name ∧ m.protocol = m'.protocol)

theorem SameMatch.kindOf_eq {m m' : MeshService} (h : SameMatch m m') :
    kindOf m.protocol = kindOf m'.protocol := by
  rcases h.2 with ⟨h1, h2⟩ | ⟨-, -, -, h⟩
  · rw [h1, h2]
  · rw [h]

theorem kindOf_eq_http {protocol : String} :
    kindOf protocol = .http ↔ isHTTP (toLower protocol) = true := by
  unfold kindOf
  by_cases h : isHTTP (toLower protocol) = true
  · simp [h]
  · simp only [h, Bool.false_eq_true, if_false, iff_false]
    split <;> simp

theorem matchKey_eq (m : MeshService) : matchKey mc m = toString m.port.toNat ++ "=" ++
    if kindOf m.protocol = .http then "http" else m.outboundTrafficMatchName := by
  rw [matchKey, namedPort, trafficMatchOf, uint16_toNat]
  by_cases hk : kindOf m.protocol = .http
  · rw [if_pos hk, if_pos (kindOf_eq_http.1 hk)]
  · rw [if_neg hk, if_neg (mt kindOf_eq_http.2 hk)]

theorem portKey_inj {port port' : UInt16} {name name' : String}
    (h : toString port.toNat ++ "=" ++ name = toString port'.toNat ++ "=" ++ name') :
    port = port' ∧ name = name' := by
  have hsep : ∀ n : Nat, '=' ∉ (toString n).toList := notMem_toString (by decide)
  obtain ⟨hport, hname⟩ := append_sep_inj (hsep _) (hsep _) rfl h
  exact ⟨UInt16.toNat_inj.1 (toString_inj.1 hport), hname⟩

theorem matchKey_inj {m m' : MeshService} (h : NameValid m) (h' : NameValid m') :
    matchKey mc m = matchKey mc m' ↔ SameMatch m m' := by
  constructor
  · intro he
    rw [matchKey_eq, matchKey_eq] at he
    obtain ⟨hport, hname⟩ := portKey_inj he
    refine ⟨hport, ?_⟩
    by_cases hk : kindOf m.protocol = .http
    · by_cases hk' : kindOf m'.protocol = .http
      · exact .inl ⟨hk, hk'⟩
      · rw [if_pos hk, if_neg hk'] at hname
        exact (outboundTrafficMatchName_ne_http m' hname.symm).elim
    · by_cases hk' : kindOf m'.protocol = .http
      · rw [if_neg hk, if_pos hk'] at hname
        exact (outboundTrafficMatchName_ne_http m hname).elim
      · rw [if_neg hk, if_neg hk', outboundTrafficMatchName_inj h h'] at hname
        exact .inr ⟨hk, hname.1, hname.2.1, hname.2.2.2⟩
  · rintro ⟨hport, ⟨hk, hk'⟩ | ⟨hk, hns, hname, hproto⟩⟩
    · rw [matchKey_eq, matchKey_eq, hport, if_pos hk, if_pos hk']
    · rw [matchKey_eq, matchKey_eq, hport, ← hproto, if_neg hk, if_neg hk,
        MeshService.outboundTrafficMatchName, MeshService.outboundTrafficMatchName, hns, hname,
        hport, hproto]

/-! ## The matches -/

theorem foldl_fillHTTP (group : List MeshService) (tm : OutboundTrafficMatch) :
    group.foldl (fun tm m => fillHTTP trustDomain mc m tm) tm =
      { tm with
        httpHostPort2Service :=
          group.foldl (fun hosts m => (getHostnamesForService trustDomain m false).foldl
            (fun hosts hostname => hosts.insert hostname m.fqdn) hosts) tm.httpHostPort2Service
        httpServiceRouteRules :=
          group.foldl (fun rules m =>
            rules.insert m.fqdn (addRule (weightedClusterOf mc m) rules[m.fqdn]?))
            tm.httpServiceRouteRules } := by
  induction group generalizing tm with
  | nil => rfl
  | cons m group ih => rw [List.foldl_cons, ih]; rfl

theorem foldl_fillTCP (m : MeshService) (group : List MeshService) (tm : OutboundTrafficMatch) :
    (m :: group).foldl (fun tm m => fillTCP mc m tm) tm =
      { tm with
        tcpServiceRouteRules :=
          some ((m :: group).foldl (fun targets m =>
            addWeightedCluster targets (weightedClusterOf mc m))
            (tm.tcpServiceRouteRules.getD ∅)) } := by
  induction group generalizing m tm with
  | nil => rfl
  | cons m' group ih =>
    rw [List.foldl_cons, ih m']
    rfl

/-- Services of one kind make of a new match what `matchOf` says. -/
theorem foldl_fill {m : MeshService} {group : List MeshService}
    (h : ∀ m' ∈ group, kindOf m'.protocol = kindOf m.protocol) :
    (m :: group).foldl (fun tm m => fill trustDomain mc m tm) (newMatch mc m) =
      matchOf trustDomain mc (m :: group) := by
  have hall : ∀ m' ∈ m :: group, kindOf m'.protocol = kindOf m.protocol :=
    List.forall_mem_cons.2 ⟨rfl, h⟩
  rw [matchOf]
  cases hk : kindOf m.protocol with
  | http =>
    have hfill : ∀ tm, ∀ m' ∈ m :: group,
        fill trustDomain mc m' tm = fillHTTP trustDomain mc m' tm := fun tm m' hm' => by
      rw [fill, hall m' hm', hk]
    rw [List.foldl_ext _ _ _ hfill, foldl_fillHTTP]
    rfl
  | tcp =>
    have hfill : ∀ tm, ∀ m' ∈ m :: group, fill trustDomain mc m' tm = fillTCP mc m' tm :=
      fun tm m' hm' => by rw [fill, hall m' hm', hk]
    rw [List.foldl_ext _ _ _ hfill, foldl_fillTCP]
    rfl
  | other =>
    have hfill : ∀ tm, ∀ m' ∈ m :: group, fill trustDomain mc m' tm = tm :=
      fun tm m' hm' => by rw [fill, hall m' hm', hk]
    rw [List.foldl_ext _ _ _ hfill, List.foldl_fixed]

/-- The services of a key. -/
def groupOf (mc : MeshCatalog) (services : List MeshService) (k : String) : List MeshService :=
  services.filter fun m => matchKey mc m = k

theorem mem_groupOf {services : List MeshService} {m : MeshService} {k : String} :
    m ∈ groupOf mc services k ↔ m ∈ services ∧ matchKey mc m = k := by
  simp [groupOf]

/-- A key has a first service, and all its services share the match. -/
theorem exists_groupOf {services : List MeshService} (hv : ∀ m ∈ services, NameValid m) {k : String}
    (hk : k ∈ services.map (matchKey mc)) :
    ∃ m group, groupOf mc services k = m :: group ∧ m ∈ services ∧ matchKey mc m = k ∧
      ∀ m' ∈ m :: group, SameMatch m' m := by
  obtain ⟨m₀, hm₀, hk₀⟩ := List.mem_map.1 hk
  cases hg : groupOf mc services k with
  | nil => simpa [hg] using mem_groupOf.2 ⟨hm₀, hk₀⟩
  | cons m group =>
    have hmem : ∀ m' ∈ m :: group, m' ∈ services ∧ matchKey mc m' = k := fun m' hm' =>
      mem_groupOf.1 (hg ▸ hm')
    obtain ⟨hm, hkm⟩ := hmem m (.head _)
    refine ⟨m, group, rfl, hm, hkm, fun m' hm' => ?_⟩
    obtain ⟨hs, hk'⟩ := hmem m' hm'
    exact (matchKey_inj (hv m' hs) (hv m hm)).1 (hk'.trans hkm.symm)

/-- **The matches of a list of services.** -/
theorem compile_eq {services : List MeshService} (hv : ∀ m ∈ services, NameValid m) :
    compile trustDomain mc services =
      (services.map (matchKey mc)).eraseDups.map fun k =>
        (k, matchOf trustDomain mc (groupOf mc services k)) := by
  refine foldl_upsert_eq _ _ services fun m hm => ?_
  obtain ⟨m', group, hg, -, -, hsame⟩ :=
    exists_groupOf hv (List.mem_map.2 ⟨m, hm, rfl⟩ : matchKey mc m ∈ _)
  rw [show services.filter (fun y => matchKey mc y = matchKey mc m) = _ from hg, hg]
  rw [groupFold_getD (fun m tm => fill trustDomain mc m tm) (newMatch mc) m' group,
    foldl_fill fun m'' hm'' => (hsame m'' (.tail _ hm'')).kindOf_eq]

/-! ## Ports and protocols -/

/-- The protocol of the match of a service. -/
def matchProtocol (protocol : String) : String :=
  if toLower protocol = "tcp-server-first" then "tcp" else toLower protocol

theorem newTrafficMatch_eq (trafficMatch : TrafficMatch) :
    newTrafficMatch trafficMatch =
      { port := uint16 trafficMatch.destinationPort
        protocol := matchProtocol trafficMatch.destinationProtocol } := by
  simp [newTrafficMatch, OutboundTrafficMatch.setPort, OutboundTrafficMatch.setProtocol,
    matchProtocol, toLower_toLower]

theorem newMatch_eq (m : MeshService) :
    newMatch mc m = { port := m.port, protocol := matchProtocol m.protocol } := by
  rw [newMatch, newTrafficMatch_eq, trafficMatchOf, uint16_toNat]

theorem matchOf_port (m : MeshService) (group : List MeshService) :
    (matchOf trustDomain mc (m :: group)).port = m.port := by
  rw [matchOf]
  split <;> simp [newMatch_eq]

theorem matchOf_protocol (m : MeshService) (group : List MeshService) :
    (matchOf trustDomain mc (m :: group)).protocol = matchProtocol m.protocol := by
  rw [matchOf]
  split <;> simp [newMatch_eq]

theorem isHTTP_matchProtocol {protocol : String} :
    isHTTP (matchProtocol protocol) = true ↔ kindOf protocol = .http := by
  rw [kindOf_eq_http, matchProtocol]
  by_cases h : toLower protocol = "tcp-server-first"
  · simp only [h, if_true]
    decide
  · rw [if_neg h]

/-- The HTTP match of a port. -/
theorem trafficMatches_http {services : List MeshService} (hv : ∀ m ∈ services, NameValid m)
    {clusters : Dict WeightedEndpoints} {m : MeshService} (hm : m ∈ services)
    (hhttp : kindOf m.protocol = .http) :
    (OutboundTrafficPolicy.trafficMatches ⟨compile trustDomain mc services, clusters⟩ m.port).filter
      (fun tm => isHTTP tm.protocol) =
        [matchOf trustDomain mc (groupOf mc services (matchKey mc m))] := by
  have hk : matchKey mc m ∈ services.map (matchKey mc) := List.mem_map.2 ⟨m, hm, rfl⟩
  have hone : (services.map (matchKey mc)).eraseDups.filter (fun k =>
      isHTTP (matchOf trustDomain mc (groupOf mc services k)).protocol &&
        decide ((matchOf trustDomain mc (groupOf mc services k)).port = m.port)) =
      [matchKey mc m] := by
    refine List.perm_singleton.1 ((List.perm_ext_iff_of_nodup ((nodup_eraseDups _).filter _)
      (List.nodup_singleton _)).2 fun k => ?_)
    rw [List.mem_filter, List.mem_eraseDups, List.mem_singleton]
    constructor
    · rintro ⟨hk', hcond⟩
      obtain ⟨m', group, hg, hm', rfl, -⟩ := exists_groupOf hv hk'
      rw [hg, matchOf_port, matchOf_protocol, Bool.and_eq_true, isHTTP_matchProtocol,
        decide_eq_true_eq] at hcond
      exact (matchKey_inj (hv m' hm') (hv m hm)).2 ⟨hcond.2, .inl ⟨hcond.1, hhttp⟩⟩
    · rintro rfl
      obtain ⟨m', group, hg, hm', hkm, -⟩ := exists_groupOf hv hk
      obtain ⟨hport, hkind⟩ := (matchKey_inj (hv m' hm') (hv m hm)).1 hkm
      have hhttp' : kindOf m'.protocol = .http := by
        rw [((matchKey_inj (hv m' hm') (hv m hm)).1 hkm).kindOf_eq, hhttp]
      refine ⟨hk, ?_⟩
      rw [hg, matchOf_port, matchOf_protocol, Bool.and_eq_true, isHTTP_matchProtocol,
        decide_eq_true_eq]
      exact ⟨hhttp', hport⟩
  rw [OutboundTrafficPolicy.trafficMatches, compile_eq hv, List.filter_filter, List.map_map,
    List.filter_map]
  exact congrArg _ hone

/-! ## Rules -/

/-- The target clusters of the rules of a match, those of HTTP and those of TCP. -/
def OutboundTrafficMatch.targetClusters (tm : OutboundTrafficMatch) : List WeightedClusters :=
  tm.httpServiceRouteRules.toList.flatMap (fun entry => entry.2.map Prod.snd) ++
    tm.tcpServiceRouteRules.toList

/-- The services that share a rule. -/
def SameRule (m m' : MeshService) : Prop := SameMatch m m' ∧ m.ns = m'.ns ∧ m.name = m'.name

instance (m m' : MeshService) : Decidable (SameRule m m') :=
  inferInstanceAs (Decidable ((_ ∧ (_ ∨ _)) ∧ _))

theorem sameRule_refl (m : MeshService) : SameRule m m := by
  refine ⟨⟨rfl, ?_⟩, rfl, rfl⟩
  by_cases hk : kindOf m.protocol = .http
  · exact .inl ⟨hk, hk⟩
  · exact .inr ⟨hk, rfl, rfl, rfl⟩

/-- The services of the rule of a service. -/
def rulePeers (services : List MeshService) (m : MeshService) : List MeshService :=
  services.filter fun m' => SameRule m' m

/-- A service with routes. -/
def routed (m : MeshService) : Bool := kindOf m.protocol ≠ .other

theorem mem_rulesOf {group : List MeshService} {targets : WeightedClusters} :
    targets ∈ (rulesOf mc group).toList.flatMap (fun entry => entry.2.map Prod.snd) ↔
      ∃ m ∈ group, targets = targetsOf mc (group.filter fun m' => m'.fqdn = m.fqdn) := by
  simp only [List.mem_flatMap, Prod.exists, Std.ExtTreeMap.mem_toList_iff_getElem?_eq_some]
  constructor
  · rintro ⟨f, rules, hrules, hmem⟩
    rw [getElem?_rulesOf] at hrules
    split at hrules
    · cases hrules
    · rename_i hne
      obtain rfl := Option.some.inj hrules
      obtain ⟨m, hin⟩ := List.exists_mem_of_ne_nil _ hne
      obtain ⟨hm, hf⟩ := List.mem_filter.1 hin
      obtain rfl := of_decide_eq_true hf
      exact ⟨m, hm, by simpa using hmem⟩
  · rintro ⟨m, hm, rfl⟩
    refine ⟨m.fqdn, _, (getElem?_rulesOf group m.fqdn).trans (if_neg ?_), by simp⟩
    exact List.ne_nil_of_mem (List.mem_filter.2 ⟨hm, decide_eq_true rfl⟩)

section

variable {services : List MeshService} (hv : ∀ m ∈ services, NameValid m)
include hv

theorem filter_groupOf {m : MeshService} {k : String} (hm : m ∈ groupOf mc services k) :
    (groupOf mc services k).filter (fun m' => m'.fqdn = m.fqdn) = rulePeers services m := by
  obtain ⟨hs, hk⟩ := mem_groupOf.1 hm
  rw [groupOf, List.filter_filter, rulePeers]
  refine List.filter_congr fun m' hm' => ?_
  rw [Bool.eq_iff_iff, Bool.and_eq_true, decide_eq_true_eq, decide_eq_true_eq, decide_eq_true_eq,
    fqdn_inj (hv m' hm') (hv m hs), ← hk, matchKey_inj (hv m' hm') (hv m hs), SameRule,
    and_comm, and_comm (a := m'.name = m.name)]

/-- The services of a match that is not HTTP share one rule. -/
theorem groupOf_eq_rulePeers {m : MeshService} {k : String} (hm : m ∈ groupOf mc services k)
    (hkind : kindOf m.protocol ≠ .http) : groupOf mc services k = rulePeers services m := by
  obtain ⟨hs, hk⟩ := mem_groupOf.1 hm
  refine List.filter_congr fun m' hm' => ?_
  rw [Bool.eq_iff_iff, decide_eq_true_eq, decide_eq_true_eq, ← hk,
    matchKey_inj (hv m' hm') (hv m hs), SameRule]
  refine ⟨fun h => ⟨h, ?_⟩, And.left⟩
  rcases h.2 with ⟨-, hh⟩ | ⟨-, hns, hname, -⟩
  · exact (hkind hh).elim
  · exact ⟨hns, hname⟩

theorem mem_targetClusters_matchOf {k : String} {targets : WeightedClusters}
    (hk : k ∈ services.map (matchKey mc)) :
    targets ∈ (matchOf trustDomain mc (groupOf mc services k)).targetClusters ↔
      ∃ m ∈ groupOf mc services k, routed m = true ∧
        targets = targetsOf mc (rulePeers services m) := by
  obtain ⟨m₀, group, hg, -, -, hsame⟩ := exists_groupOf hv hk
  have hkind : ∀ m ∈ groupOf mc services k, kindOf m.protocol = kindOf m₀.protocol :=
    fun m hm => (hsame m (hg ▸ hm)).kindOf_eq
  have hm₀ : m₀ ∈ groupOf mc services k := hg ▸ List.mem_cons_self
  cases h₀ : kindOf m₀.protocol with
  | http =>
    have hmatch : (matchOf trustDomain mc (groupOf mc services k)).targetClusters =
        (rulesOf mc (groupOf mc services k)).toList.flatMap fun entry => entry.2.map Prod.snd := by
      rw [hg, matchOf, h₀]
      simp [OutboundTrafficMatch.targetClusters, newMatch_eq]
    rw [hmatch, mem_rulesOf]
    refine exists_congr fun m => and_congr_right fun hm => ?_
    rw [filter_groupOf hv hm, routed, hkind m hm, h₀]
    simp
  | tcp =>
    have hmatch : (matchOf trustDomain mc (groupOf mc services k)).targetClusters =
        [targetsOf mc (groupOf mc services k)] := by
      rw [hg, matchOf, h₀]
      simp [OutboundTrafficMatch.targetClusters, newMatch_eq]
    rw [hmatch, List.mem_singleton]
    constructor
    · rintro rfl
      refine ⟨m₀, hm₀, by simp [routed, h₀], ?_⟩
      rw [← groupOf_eq_rulePeers hv hm₀ (by simp [h₀])]
    · rintro ⟨m, hm, -, rfl⟩
      rw [← groupOf_eq_rulePeers hv hm (by simp [hkind m hm, h₀])]
  | other =>
    have hmatch : (matchOf trustDomain mc (groupOf mc services k)).targetClusters = [] := by
      rw [hg, matchOf, h₀]
      simp [OutboundTrafficMatch.targetClusters, newMatch_eq]
    rw [hmatch]
    refine iff_of_false List.not_mem_nil ?_
    rintro ⟨m, hm, hr, -⟩
    simp [routed, hkind m hm, h₀] at hr

/-- **The rules of a list of services**: one for each service with routes, with the targets of the
services that share it. -/
theorem mem_targetClusters_compile {targets : WeightedClusters} :
    targets ∈ (compile trustDomain mc services).flatMap (fun entry => entry.2.targetClusters) ↔
      ∃ m ∈ services, routed m = true ∧ targets = targetsOf mc (rulePeers services m) := by
  rw [compile_eq hv, List.flatMap_map, List.mem_flatMap]
  constructor
  · rintro ⟨k, hk, hmem⟩
    obtain ⟨m, hm, h⟩ := (mem_targetClusters_matchOf hv (List.mem_eraseDups.1 hk)).1 hmem
    exact ⟨m, (mem_groupOf.1 hm).1, h⟩
  · rintro ⟨m, hm, h⟩
    have hk : matchKey mc m ∈ services.map (matchKey mc) := List.mem_map.2 ⟨m, hm, rfl⟩
    exact ⟨matchKey mc m, List.mem_eraseDups.2 hk,
      (mem_targetClusters_matchOf hv hk).2 ⟨m, mem_groupOf.2 ⟨hm, rfl⟩, h⟩⟩

end

/-! ## No service is lost -/

/-- **Every HTTP service is routed**: its port has one HTTP match, which sends the hostnames of the
service to its rules, and all paths to its cluster. -/
theorem routes_complete (env : Env) (mc : MeshCatalog) {conf : PipyConf}
    (hconf : conf.outbound = none) {services : List MeshService}
    (hns : ∀ m ∈ services, isDNS1123Label m.ns = true ∧ m.ns ≠ "svc")
    (hname : ∀ m ∈ services, LabelName m.name) :
    ∃ conf' dependClusters,
      generatePipyOutboundTrafficRoutePolicy env conf
          (outboundPolicyOf env.trustDomain mc services) = some (conf', dependClusters) ∧
      ∀ m ∈ services, toLower m.protocol = "http" ∨ toLower m.protocol = "grpc" →
        ∃ otp, conf'.outbound = some otp ∧
        ∃ tm, (otp.trafficMatches m.port).filter (fun tm => isHTTP tm.protocol) = [tm] ∧
          (∀ hostname ∈ getHostnamesForService env.trustDomain m false,
            tm.httpHostPort2Service[hostname]? = some m.fqdn) ∧
          ∃ rules, tm.httpServiceRouteRules[m.fqdn]? = some rules ∧
          ∃ rule targetClusters, (rule, targetClusters) ∈ rules ∧ rule.path = regexMatchAll ∧
            m.clusterName ∈ targetClusters := by
  have hv : ∀ m ∈ services, NameValid m := fun m hm => (hname m hm).nameValid (hns m hm).1
  refine ⟨_, _, generate_eq env hconf hv, fun m hm hproto => ?_⟩
  have hhttp : kindOf m.protocol = .http := by
    simpa [kindOf_eq_http, isHTTP] using hproto
  have hne : services.isEmpty = false := by
    cases services with
    | nil => cases hm
    | cons => rfl
  refine ⟨_, by rw [hne]; rfl, _, trafficMatches_http hv hm hhttp, ?_⟩
  obtain ⟨m₀, group, hg, hm₀, hk, -⟩ :=
    exists_groupOf hv (List.mem_map.2 ⟨m, hm, rfl⟩ : matchKey mc m ∈ _)
  have hhttp₀ : kindOf m₀.protocol = .http := by
    rw [((matchKey_inj (hv m₀ hm₀) (hv m hm)).1 hk).kindOf_eq, hhttp]
  have hmem : m ∈ m₀ :: group := hg ▸ mem_groupOf.2 ⟨hm, rfl⟩
  rw [hg, matchOf, hhttp₀]
  refine ⟨fun h hh => ?_, ?_⟩
  · -- the last service with the hostname is the service itself, or a copy of it
    refine (getElem?_hostsOf _ h).trans (map_getLast?_eq
      (List.ne_nil_of_mem (List.mem_filter.2 ⟨hmem, decide_eq_true hh⟩)) fun m' hm' => ?_)
    obtain ⟨hm', hh'⟩ := List.mem_filter.1 hm'
    have hs : m' ∈ services := (mem_groupOf.1 (hg ▸ hm')).1
    exact (fqdn_inj (hv m' hs) (hv m hm)).2 (eq_of_shared_hostname (hns m' hs).1 (hns m hm).1
      (hns m' hs).2 (hns m hm).2 (hname m' hs) (hname m hm) (of_decide_eq_true hh') hh)
  · have hown : m ∈ (m₀ :: group).filter fun m' => m'.fqdn = m.fqdn :=
      List.mem_filter.2 ⟨hmem, decide_eq_true rfl⟩
    refine ⟨_, (getElem?_rulesOf _ _).trans (if_neg (List.ne_nil_of_mem hown)), _, _, .head _, ?_,
      mem_targetsOf.2 ⟨m, hown, rfl⟩⟩
    rfl

/-- Two services that share a port: an HTTP service, and a pod of a headless gRPC service. -/
def webAndPod : List MeshService :=
  [⟨"default", "web", 80, 8080, "HTTP", ""⟩, ⟨"default", "db-0.db", 80, 9090, "grpc", ""⟩]

theorem labelName_webAndPod : ∀ m ∈ webAndPod, LabelName m.name := by
  simp only [webAndPod, List.forall_mem_cons]
  exact ⟨.inl (by decide), .inr ⟨"db-0", "db", by decide, by decide, by decide⟩, by simp⟩

theorem routes_complete_web_and_pod :
    ∃ conf' dependClusters,
      generatePipyOutboundTrafficRoutePolicy (.asIs "cluster.local") {}
          (outboundPolicyOf "cluster.local" (importCatalog []) webAndPod) =
        some (conf', dependClusters) ∧
      ∀ m ∈ webAndPod, ∃ otp, conf'.outbound = some otp ∧
        ∃ tm, (otp.trafficMatches 80).filter (fun tm => isHTTP tm.protocol) = [tm] ∧
          tm.httpHostPort2Service[m.name ++ "." ++ m.ns ++ ".svc"]? = some m.fqdn := by
  have hport : ∀ m ∈ webAndPod, m.port = 80 ∧
      (toLower m.protocol = "http" ∨ toLower m.protocol = "grpc") := by decide
  have hconf : ({} : PipyConf).outbound = none := rfl
  obtain ⟨conf', dependClusters, h, hall⟩ :=
    routes_complete (.asIs "cluster.local") (importCatalog []) hconf (by decide)
      labelName_webAndPod
  refine ⟨conf', dependClusters, h, fun m hm => ?_⟩
  obtain ⟨otp, hotp, tm, htm, hhost, -⟩ := hall m hm (hport m hm).2
  rw [(hport m hm).1] at htm
  exact ⟨otp, hotp, tm, htm, hhost _ (by simp [getHostnamesForService])⟩

end Ctrl
