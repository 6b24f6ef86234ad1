import ErieCanalNet.Ctrl.Proof.Marshal
import ErieCanalNet.Ctrl.Proof.Weights
import ErieCanalNet.Mesh.Proof.Addresses

/-!
# What the text shows of a listing

The text of a configuration is made of the listed services, port by port, and of what is looked up
for them. `marshal_run_eq_iff`: two clusters have the same text exactly when

* the matches of a port (`idsAt`) are met in the same order, as far as the text shows which match is
  which (`labelOf`);
* the HTTP match of a port has the protocol of a first service, and a hostname the last service that
  has it;
* a cluster has the weight of the last service it belongs to, in the HTTP match of a port
  (`targetsOf`) and in each match with the clusters of a service (`tcpTargets`);
* every cluster has the same endpoints, and every name the same addresses.
-/

namespace Ctrl

open Go K8s Lib Mesh Policy

/-! ## The matches of a port -/

/-- What the services of one match of a port have in common. -/
inductive MatchId
  | http
  | own (ns name protocol : String)
deriving DecidableEq

def matchId (m : MeshService) : MatchId :=
  if kindOf m.protocol = .http then .http else .own m.ns m.name m.protocol

/-- The matches of a port, in the order of their first services. -/
def idsAt (services : List MeshService) (port : UInt16) : List MatchId :=
  ((services.filter fun m => m.port = port).map matchId).eraseDups

/-- The services of a match. -/
def groupAt (services : List MeshService) (port : UInt16) (id : MatchId) : List MeshService :=
  services.filter fun m => m.port = port ∧ matchId m = id

theorem sameMatch_iff {m m' : MeshService} :
    SameMatch m m' ↔ m.port = m'.port ∧ matchId m = matchId m' := by
  refine and_congr_right fun _ => ?_
  by_cases hk : kindOf m.protocol = .http
  · by_cases hk' : kindOf m'.protocol = .http
    · simp [matchId, hk, hk']
    · simp [matchId, hk, hk']
  · by_cases hk' : kindOf m'.protocol = .http
    · simp only [matchId, hk, hk', false_and, false_or, if_true, if_false, reduceCtorEq, iff_false,
        not_and]
      rintro - - - hp
      exact hk (hp ▸ hk')
    · simp [matchId, hk, hk']

theorem mem_idsAt {services : List MeshService} {port : UInt16} {id : MatchId} :
    id ∈ idsAt services port ↔ ∃ m ∈ services, m.port = port ∧ matchId m = id := by
  simp [idsAt, and_assoc]

theorem mem_groupAt {services : List MeshService} {port : UInt16} {id : MatchId} {m : MeshService} :
    m ∈ groupAt services port id ↔ m ∈ services ∧ m.port = port ∧ matchId m = id := by
  simp [groupAt]

variable {trustDomain : String} {mc : MeshCatalog}

section

variable {services : List MeshService} (hv : ∀ m ∈ services, NameValid m)
include hv

theorem groupOf_matchKey {m : MeshService} (hm : m ∈ services) :
    groupOf mc services (matchKey mc m) = groupAt services m.port (matchId m) := by
  refine List.filter_congr fun m' hm' => ?_
  rw [Bool.eq_iff_iff, decide_eq_true_eq, decide_eq_true_eq, matchKey_inj (hv m' hm') (hv m hm),
    sameMatch_iff]

/-- **The matches of a port.** -/
theorem trafficMatches_compile (clusters : Dict WeightedEndpoints) (port : UInt16) :
    OutboundTrafficPolicy.trafficMatches ⟨compile trustDomain mc services, clusters⟩ port =
      (idsAt services port).map fun id => matchOf trustDomain mc (groupAt services port id) := by
  have hport : ∀ m ∈ services, decide ((matchOf trustDomain mc
      (groupOf mc services (matchKey mc m))).port = port) = decide (m.port = port) := by
    intro m hm
    obtain ⟨m', group, hg, hm', hk, -⟩ := exists_groupOf hv (List.mem_map_of_mem hm)
    rw [hg, matchOf_port, ((matchKey_inj (hv m' hm') (hv m hm)).1 hk).1]
  rw [OutboundTrafficPolicy.trafficMatches, compile_eq hv, List.map_map, List.filter_map]
  refine (congrArg _ (filter_eraseDups_map hport)).trans (map_eraseDups_congr ?_ ?_)
  · intro m hm m' hm'
    obtain ⟨hs, hp⟩ := List.mem_filter.1 hm
    obtain ⟨hs', hp'⟩ := List.mem_filter.1 hm'
    rw [matchKey_inj (hv m hs) (hv m' hs'), sameMatch_iff, of_decide_eq_true hp,
      of_decide_eq_true hp']
    exact and_iff_right rfl
  · intro m hm
    obtain ⟨hs, hp⟩ := List.mem_filter.1 hm
    rw [Function.comp_apply, groupOf_matchKey hv hs, of_decide_eq_true hp]

end

/-! ## What the text shows of a match -/

/-- A match in the text: the HTTP match of the port, a match with the clusters of a service, or one
of a protocol without routes. -/
inductive Label
  | http
  | routed (ns name : String)
  | other (protocol : String)
deriving DecidableEq

def labelOf : MatchId → Label
  | .http => .http
  | .own ns name protocol =>
    if kindOf protocol = .tcp then .routed ns name else .other (toLower protocol)

theorem matchProtocol_of_ne {protocol : String} (h : kindOf protocol ≠ .tcp) :
    matchProtocol protocol = toLower protocol := by
  refine if_neg fun hp => h ?_
  rw [kindOf, hp]
  decide

theorem exists_groupAt {services : List MeshService} {port : UInt16} {id : MatchId}
    (h : id ∈ idsAt services port) :
    ∃ m group, groupAt services port id = m :: group ∧ m ∈ services ∧ m.port = port ∧
      matchId m = id := by
  obtain ⟨m₀, hm₀⟩ := mem_idsAt.1 h
  cases hg : groupAt services port id with
  | nil => simpa [hg] using mem_groupAt.2 hm₀
  | cons m group => exact ⟨m, group, rfl, mem_groupAt.1 (hg ▸ List.mem_cons_self)⟩

/-- The HTTP match of a port. -/
theorem matchOf_http {m : MeshService} {group : List MeshService} (h : matchId m = .http) :
    matchOf trustDomain mc (m :: group) =
      { port := m.port, protocol := toLower m.protocol,
        httpHostPort2Service := hostsOf trustDomain (m :: group),
        httpServiceRouteRules := rulesOf mc (m :: group) } := by
  have hk : kindOf m.protocol = .http := by
    by_contra hk
    simp [matchId, hk] at h
  rw [matchOf, hk, newMatch_eq, matchProtocol_of_ne (by simp [hk])]

theorem own_inj {m : MeshService} {ns name protocol : String}
    (h : matchId m = .own ns name protocol) :
    m.ns = ns ∧ m.name = name ∧ m.protocol = protocol ∧ kindOf protocol ≠ .http := by
  unfold matchId at h
  split at h
  · cases h
  · rename_i hk
    obtain ⟨rfl, rfl, rfl⟩ := MatchId.own.inj h
    exact ⟨rfl, rfl, rfl, hk⟩

/-- The match of services of one name and protocol. -/
theorem matchOf_own {m : MeshService} {group : List MeshService} {ns name protocol : String}
    (h : matchId m = .own ns name protocol) :
    matchOf trustDomain mc (m :: group) = if kindOf protocol = .tcp then
        { port := m.port, protocol := matchProtocol protocol,
          tcpServiceRouteRules := some (targetsOf mc (m :: group)) }
      else { port := m.port, protocol := toLower protocol } := by
  obtain ⟨-, -, rfl, hk⟩ := own_inj h
  rw [matchOf]
  cases hk' : kindOf m.protocol with
  | http => exact (hk hk').elim
  | tcp => simp [newMatch_eq]
  | other =>
    have hp : matchProtocol m.protocol = toLower m.protocol := matchProtocol_of_ne (by simp [hk'])
    simp [newMatch_eq, hp]

theorem hostsOf_ne_empty (m : MeshService) (group : List MeshService) :
    hostsOf trustDomain (m :: group) ≠ ∅ := by
  intro he
  have hmem : m.name ++ "." ++ m.ns ∈ getHostnamesForService trustDomain m false := by
    simp [getHostnamesForService]
  have hnone : (hostsOf trustDomain (m :: group))[m.name ++ "." ++ m.ns]? = none := by
    rw [he, Std.ExtTreeMap.getElem?_empty]
  rw [getElem?_hostsOf, Option.map_eq_none_iff, List.getLast?_eq_none_iff,
    List.filter_eq_nil_iff] at hnone
  exact hnone m List.mem_cons_self (decide_eq_true hmem)

section

variable {mc' : MeshCatalog} {services services' : List MeshService}
  (hv : ∀ m ∈ services, NameValid m) (hv' : ∀ m ∈ services', NameValid m)
include hv hv'

/-- **A match shows its label.** -/
theorem labelOf_eq {port : UInt16} {id id' : MatchId} (hid : id ∈ idsAt services port)
    (hid' : id' ∈ idsAt services' port)
    (he : matchOf trustDomain mc (groupAt services port id) =
      matchOf trustDomain mc' (groupAt services' port id')) : labelOf id = labelOf id' := by
  obtain ⟨m, group, hg, hm, -, hmid⟩ := exists_groupAt hid
  obtain ⟨m', group', hg', hm', -, hmid'⟩ := exists_groupAt hid'
  rw [hg, hg'] at he
  have hhosts := congrArg OutboundTrafficMatch.httpHostPort2Service he
  have htcp := congrArg OutboundTrafficMatch.tcpServiceRouteRules he
  have hproto := congrArg OutboundTrafficMatch.protocol he
  cases id with
  | http =>
    cases id' with
    | http => rfl
    | own ns' name' protocol' =>
      rw [matchOf_http hmid, matchOf_own hmid'] at hhosts
      split at hhosts
      · exact (hostsOf_ne_empty m group hhosts).elim
      · exact (hostsOf_ne_empty m group hhosts).elim
  | own ns name protocol =>
    cases id' with
    | http =>
      rw [matchOf_own hmid, matchOf_http hmid'] at hhosts
      split at hhosts
      · exact (hostsOf_ne_empty m' group' hhosts.symm).elim
      · exact (hostsOf_ne_empty m' group' hhosts.symm).elim
    | own ns' name' protocol' =>
      rw [matchOf_own hmid, matchOf_own hmid'] at htcp hproto
      by_cases hk : kindOf protocol = .tcp
      · by_cases hk' : kindOf protocol' = .tcp
        · -- the clusters of the rules show the name
          rw [if_pos hk, if_pos hk', Option.some.injEq] at htcp
          have hin : m.clusterName ∈ targetsOf mc' (m' :: group') :=
            htcp ▸ mem_targetsOf.2 ⟨m, List.mem_cons_self, rfl⟩
          obtain ⟨m'', hm'', hcluster⟩ := mem_targetsOf.1 hin
          obtain ⟨hs'', -, hmid''⟩ := mem_groupAt.1 (hg' ▸ hm'')
          obtain ⟨hns, hname, -⟩ := (clusterName_inj (hv' m'' hs'') (hv m hm)).1 hcluster
          obtain ⟨rfl, rfl, -⟩ := own_inj hmid
          obtain ⟨rfl, rfl, -⟩ := own_inj hmid''
          rw [labelOf, labelOf, if_pos hk, if_pos hk', hns, hname]
        · rw [if_pos hk, if_neg hk'] at htcp
          cases htcp
      · by_cases hk' : kindOf protocol' = .tcp
        · rw [if_neg hk, if_pos hk'] at htcp
          cases htcp
        · rw [if_neg hk, if_neg hk'] at hproto
          rw [labelOf, labelOf, if_neg hk, if_neg hk', show toLower protocol = _ from hproto]

end

theorem label_routed {id : MatchId} {ns name : String} (h : labelOf id = .routed ns name) :
    ∃ protocol, id = .own ns name protocol ∧ kindOf protocol = .tcp := by
  cases id with
  | http => cases h
  | own ns' name' protocol =>
    rw [labelOf] at h
    split at h
    · obtain ⟨rfl, rfl⟩ := Label.routed.inj h
      exact ⟨protocol, rfl, ‹_›⟩
    · cases h

theorem label_other {id : MatchId} {protocol : String} (h : labelOf id = .other protocol) :
    ∃ ns name p, id = .own ns name p ∧ kindOf p ≠ .tcp ∧ toLower p = protocol := by
  cases id with
  | http => cases h
  | own ns name p =>
    rw [labelOf] at h
    split at h
    · cases h
    · exact ⟨ns, name, p, rfl, ‹_›, Label.other.inj h⟩

/-- The matches of protocols without routes look alike. -/
theorem map_matchOf_other (trustDomain : String) (mc : MeshCatalog) (services : List MeshService)
    (port : UInt16) (protocol : String) :
    ((idsAt services port).filter fun id => labelOf id = .other protocol).map
        (fun id => matchOf trustDomain mc (groupAt services port id)) =
      List.replicate (((idsAt services port).map labelOf).count (.other protocol))
        { port, protocol } := by
  refine List.eq_replicate_iff.2 ⟨?_, fun tm htm => ?_⟩
  · rw [List.length_map, ← List.countP_eq_length_filter, List.count_eq_countP, List.countP_map]
    refine List.countP_congr fun id _ => ?_
    simp
  · obtain ⟨id, hid, rfl⟩ := List.mem_map.1 htm
    obtain ⟨hin, hlabel⟩ := List.mem_filter.1 hid
    obtain ⟨ns, name, p, rfl, hk, rfl⟩ := label_other (of_decide_eq_true hlabel)
    obtain ⟨m, group, hg, -, rfl, hmid⟩ := exists_groupAt hin
    rw [hg, matchOf_own hmid, if_neg hk]

theorem labelOf_eq_http {id : MatchId} : labelOf id = .http ↔ id = .http := by
  cases id with
  | http => simp [labelOf]
  | own ns name protocol =>
    rw [labelOf]
    split <;> simp

theorem filter_idsAt_http (services : List MeshService) (port : UInt16) :
    ((idsAt services port).filter fun id => labelOf id = .http) =
      if .http ∈ idsAt services port then [.http] else [] := by
  simp only [labelOf_eq_http]
  rw [List.filter_eq]
  by_cases h : .http ∈ idsAt services port
  · have hnd : (idsAt services port).Nodup := nodup_eraseDups _
    rw [if_pos h, List.count_eq_one_of_mem hnd h]
    rfl
  · rw [if_neg h, List.count_eq_zero_of_not_mem h]
    rfl

theorem groupAt_eq_nil {services : List MeshService} {port : UInt16} {id : MatchId} :
    groupAt services port id = [] ↔ id ∉ idsAt services port := by
  simp [groupAt, mem_idsAt, List.filter_eq_nil_iff]

/-- The HTTP services of a port, in the order of the listing. -/
def httpServices (services : List MeshService) (port : UInt16) : List MeshService :=
  services.filter fun m => m.port = port ∧ kindOf m.protocol = .http

theorem groupAt_http (services : List MeshService) (port : UInt16) :
    groupAt services port .http = httpServices services port := by
  refine List.filter_congr fun m _ => ?_
  by_cases hk : kindOf m.protocol = .http
  · simp [matchId, hk]
  · simp [matchId, hk]

/-! ## The rules -/

theorem targetsOf_eq_empty {group : List MeshService} : targetsOf mc group = ∅ ↔ group = [] := by
  constructor
  · intro h
    refine List.eq_nil_iff_forall_not_mem.2 fun m hm => ?_
    have hin : m.clusterName ∈ targetsOf mc group := mem_targetsOf.2 ⟨m, hm, rfl⟩
    rw [h] at hin
    exact Std.ExtTreeMap.not_mem_empty hin
  · rintro rfl
    rfl

/-- The rule of a service shows its clusters and their weights. -/
theorem getElem?_rulesOf_eq_iff {mc' : MeshCatalog} {group group' : List MeshService} {f : String} :
    (rulesOf mc group)[f]? = (rulesOf mc' group')[f]? ↔
      targetsOf mc (group.filter fun m => m.fqdn = f) =
        targetsOf mc' (group'.filter fun m => m.fqdn = f) := by
  rw [getElem?_rulesOf, getElem?_rulesOf]
  by_cases hnil : (group.filter fun m => m.fqdn = f) = []
  · rw [if_pos hnil, hnil, targetsOf_eq_empty.2 rfl, eq_comm, eq_comm (a := ∅), targetsOf_eq_empty]
    simp
  · by_cases hnil' : (group'.filter fun m => m.fqdn = f) = []
    · rw [if_neg hnil, if_pos hnil', hnil', targetsOf_eq_empty.2 rfl, targetsOf_eq_empty]
      simpa using hnil
    · rw [if_neg hnil, if_neg hnil']
      simp

/-- A cluster name shows the FQDN, so a cluster is in the rule of one. -/
theorem getElem?_targetsOf_fqdn {group : List MeshService} (hv : ∀ m ∈ group, NameValid m)
    {m₀ : MeshService} (hv₀ : NameValid m₀) (f : String) :
    (targetsOf mc (group.filter fun m => m.fqdn = f))[m₀.clusterName]? =
      if m₀.fqdn = f then (targetsOf mc group)[m₀.clusterName]? else none := by
  have hshow : ∀ m ∈ group, m.clusterName = m₀.clusterName → m.fqdn = m₀.fqdn := by
    intro m hm he
    obtain ⟨hns, hname, -⟩ := (clusterName_inj (hv m hm) hv₀).1 he
    exact (fqdn_inj (hv m hm) hv₀).2 ⟨hname, hns⟩
  rw [getElem?_targetsOf, getElem?_targetsOf, List.filter_filter]
  split
  · rename_i hf
    congr 2
    refine List.filter_congr fun m hm => ?_
    by_cases hc : m.clusterName = m₀.clusterName
    · simp [hc, hshow m hm hc, hf]
    · simp [hc]
  · rename_i hf
    rw [List.filter_eq_nil_iff.2]
    · rfl
    · intro m hm hb
      rw [Bool.and_eq_true, decide_eq_true_eq, decide_eq_true_eq] at hb
      exact hf (by rw [← hshow m hm hb.1, hb.2])

theorem getElem?_targetsOf_eq_none {group : List MeshService} {k : String}
    (h : ∀ m ∈ group, m.clusterName ≠ k) : (targetsOf mc group)[k]? = none := by
  rw [getElem?_targetsOf, List.filter_eq_nil_iff.2 fun m hm he => h m hm (of_decide_eq_true he)]
  rfl

/-- **The rules of two groups** are the same when every cluster has the same weight in both. -/
theorem rulesOf_eq_iff {mc' : MeshCatalog} {group group' : List MeshService}
    (hv : ∀ m ∈ group, NameValid m) (hv' : ∀ m ∈ group', NameValid m) :
    rulesOf mc group = rulesOf mc' group' ↔ targetsOf mc group = targetsOf mc' group' := by
  rw [Std.ExtTreeMap.ext_getElem?_iff]
  simp only [getElem?_rulesOf_eq_iff]
  -- a key is the cluster of a service, or of none
  have hkey : ∀ k, (∃ m₀, NameValid m₀ ∧ m₀.clusterName = k) ∨
      (∀ m ∈ group, m.clusterName ≠ k) ∧ ∀ m ∈ group', m.clusterName ≠ k := by
    intro k
    by_cases hk : ∃ m₀, NameValid m₀ ∧ m₀.clusterName = k
    · exact .inl hk
    · exact .inr ⟨fun m hm he => hk ⟨m, hv m hm, he⟩, fun m hm he => hk ⟨m, hv' m hm, he⟩⟩
  constructor
  · intro hall
    refine Std.ExtTreeMap.ext_getElem? fun k => ?_
    rcases hkey k with ⟨m₀, hv₀, rfl⟩ | ⟨hk, hk'⟩
    · have hget := Std.ExtTreeMap.ext_getElem?_iff.1 (hall m₀.fqdn) m₀.clusterName
      rwa [getElem?_targetsOf_fqdn hv hv₀, getElem?_targetsOf_fqdn hv' hv₀, if_pos rfl,
        if_pos rfl] at hget
    · rw [getElem?_targetsOf_eq_none hk, getElem?_targetsOf_eq_none hk']
  · intro he f
    refine Std.ExtTreeMap.ext_getElem? fun k => ?_
    rcases hkey k with ⟨m₀, hv₀, rfl⟩ | ⟨hk, hk'⟩
    · rw [getElem?_targetsOf_fqdn hv hv₀, getElem?_targetsOf_fqdn hv' hv₀, he]
    · rw [getElem?_targetsOf_eq_none fun m hm => hk m (List.mem_filter.1 hm).1,
        getElem?_targetsOf_eq_none fun m hm => hk' m (List.mem_filter.1 hm).1]

/-- The protocol of the services of a match that is not HTTP. -/
def MatchId.protocol : MatchId → String
  | .http => ""
  | .own _ _ protocol => protocol

/-- The matches with the clusters of a service on a port: their protocols and clusters. -/
def tcpTargets (mc : MeshCatalog) (services : List MeshService) (port : UInt16)
    (ns name : String) : List (String × WeightedClusters) :=
  ((idsAt services port).filter fun id => labelOf id = .routed ns name).map fun id =>
    (matchProtocol id.protocol, targetsOf mc (groupAt services port id))

/-! ## The matches of two listings -/

section

variable {mc' : MeshCatalog} {services services' : List MeshService}

theorem map_matchOf_http_iff {port : UInt16}
    (hin : .http ∈ idsAt services port ↔ .http ∈ idsAt services' port) :
    ((idsAt services port).filter fun id => labelOf id = .http).map
          (fun id => matchOf trustDomain mc (groupAt services port id)) =
        ((idsAt services' port).filter fun id => labelOf id = .http).map
          (fun id => matchOf trustDomain mc' (groupAt services' port id)) ↔
      matchOf trustDomain mc (groupAt services port .http) =
        matchOf trustDomain mc' (groupAt services' port .http) := by
  rw [filter_idsAt_http, filter_idsAt_http]
  by_cases h : .http ∈ idsAt services port
  · rw [if_pos h, if_pos (hin.1 h), List.map_singleton, List.map_singleton, List.cons.injEq,
      and_iff_left rfl]
  · have h' := mt hin.2 h
    rw [if_neg h, if_neg h', groupAt_eq_nil.2 h, groupAt_eq_nil.2 h', List.map_nil, List.map_nil,
      matchOf, matchOf]
    exact iff_of_true rfl rfl

/-- A match with the clusters of a service. -/
theorem map_matchOf_routed (port : UInt16) (ns name : String) :
    ((idsAt services port).filter fun id => labelOf id = .routed ns name).map
        (fun id => matchOf trustDomain mc (groupAt services port id)) =
      (tcpTargets mc services port ns name).map fun entry =>
        { port, protocol := entry.1, tcpServiceRouteRules := some entry.2 } := by
  rw [tcpTargets, List.map_map]
  refine List.map_congr_left fun id hid => ?_
  obtain ⟨hin, hlabel⟩ := List.mem_filter.1 hid
  obtain ⟨protocol, rfl, hk⟩ := label_routed (of_decide_eq_true hlabel)
  obtain ⟨m, group, hg, -, hport, hmid⟩ := exists_groupAt hin
  rw [Function.comp_apply, hg, matchOf_own hmid, if_pos hk, hport]
  rfl

theorem map_matchOf_routed_iff (trustDomain : String) (port : UInt16) (ns name : String) :
    ((idsAt services port).filter fun id => labelOf id = .routed ns name).map
          (fun id => matchOf trustDomain mc (groupAt services port id)) =
        ((idsAt services' port).filter fun id => labelOf id = .routed ns name).map
          (fun id => matchOf trustDomain mc' (groupAt services' port id)) ↔
      tcpTargets mc services port ns name = tcpTargets mc' services' port ns name := by
  rw [map_matchOf_routed, map_matchOf_routed]
  refine (List.map_injective_iff.2 fun entry entry' h => ?_).eq_iff
  refine Prod.ext (congrArg OutboundTrafficMatch.protocol h) ?_
  exact Option.some.inj (congrArg OutboundTrafficMatch.tcpServiceRouteRules h)

theorem http_mem_congr {port : UInt16}
    (h : (idsAt services port).map labelOf = (idsAt services' port).map labelOf) :
    .http ∈ idsAt services port ↔ .http ∈ idsAt services' port := by
  have hlabel : ∀ l : List MatchId, .http ∈ l ↔ Label.http ∈ l.map labelOf := fun l => by
    simp [labelOf_eq_http]
  rw [hlabel, h, ← hlabel]

/-- The HTTP match of a port in two listings. -/
theorem httpMatch_eq_iff {port : UInt16}
    (hin : .http ∈ idsAt services port ↔ .http ∈ idsAt services' port)
    (hv : ∀ m ∈ services, NameValid m) (hv' : ∀ m ∈ services', NameValid m) :
    matchOf trustDomain mc (groupAt services port .http) =
        matchOf trustDomain mc' (groupAt services' port .http) ↔
      ((httpServices services port).head?.map fun m => toLower m.protocol) =
          ((httpServices services' port).head?.map fun m => toLower m.protocol) ∧
        (∀ hostname, (((httpServices services port).filter fun m =>
            hostname ∈ getHostnamesForService trustDomain m false).getLast?.map MeshService.fqdn) =
          (((httpServices services' port).filter fun m =>
            hostname ∈ getHostnamesForService trustDomain m false).getLast?.map
              MeshService.fqdn)) ∧
        targetsOf mc (httpServices services port) = targetsOf mc' (httpServices services' port) := by
  have hrules : rulesOf mc (groupAt services port .http) =
      rulesOf mc' (groupAt services' port .http) ↔ _ :=
    rulesOf_eq_iff (fun m hm => hv m (mem_groupAt.1 hm).1) fun m hm => hv' m (mem_groupAt.1 hm).1
  simp only [← groupAt_http, ← getElem?_hostsOf, ← hrules]
  by_cases h : .http ∈ idsAt services port
  · obtain ⟨m, group, hg, -, hport, hid⟩ := exists_groupAt h
    obtain ⟨m', group', hg', -, hport', hid'⟩ := exists_groupAt (hin.1 h)
    rw [hg, hg', matchOf_http hid, matchOf_http hid', hport, hport']
    simp only [OutboundTrafficMatch.mk.injEq, List.head?_cons, Option.map_some, Option.some.injEq,
      true_and, and_true]
    exact and_congr_right fun _ => and_congr_left fun _ => Std.ExtTreeMap.ext_getElem?_iff
  · have h' := mt hin.2 h
    have hnil : rulesOf mc [] = rulesOf mc' [] := by
      rw [rulesOf, rulesOf, List.foldl_nil, List.foldl_nil]
    rw [groupAt_eq_nil.2 h, groupAt_eq_nil.2 h', matchOf, matchOf]
    exact iff_of_true rfl ⟨rfl, fun _ => rfl, hnil⟩

/-- **The matches of a port in two listings.** -/
theorem portMatches_eq_iff (hv : ∀ m ∈ services, NameValid m)
    (hv' : ∀ m ∈ services', NameValid m) (port : UInt16) :
    (idsAt services port).map (fun id => matchOf trustDomain mc (groupAt services port id)) =
        (idsAt services' port).map (fun id =>
          matchOf trustDomain mc' (groupAt services' port id)) ↔
      (idsAt services port).map labelOf = (idsAt services' port).map labelOf ∧
        matchOf trustDomain mc (groupAt services port .http) =
          matchOf trustDomain mc' (groupAt services' port .http) ∧
        ∀ ns name, tcpTargets mc services port ns name = tcpTargets mc' services' port ns name := by
  rw [map_eq_map_iff_label fun id hid id' hid' => labelOf_eq hv hv' hid hid']
  refine and_congr_right fun hlabels => ?_
  simp only [← map_matchOf_http_iff (http_mem_congr hlabels),
    ← map_matchOf_routed_iff trustDomain]
  constructor
  · intro hall
    exact ⟨hall .http, fun ns name => hall (.routed ns name)⟩
  · rintro ⟨hhttp, hrouted⟩ t
    cases t with
    | http => exact hhttp
    | routed ns name => exact hrouted ns name
    | other protocol => rw [map_matchOf_other, map_matchOf_other, hlabels]

end

/-! ## The text -/

theorem marked_matchOf (trustDomain : String) (mc : MeshCatalog) (group : List MeshService) :
    (matchOf trustDomain mc group).Marked := by
  intro f rules hrules
  have hone : ∀ rules : OutboundHTTPRouteRules, (rulesOf mc group)[f]? = some rules →
      ∀ rule ∈ rules, Marked rule.1 := by
    intro rules hrules
    rw [getElem?_rulesOf] at hrules
    split at hrules
    · cases hrules
    · obtain rfl := Option.some.inj hrules
      intro rule hrule
      obtain rfl := List.mem_singleton.1 hrule
      rfl
  cases group with
  | nil => simp [matchOf] at hrules
  | cons m group =>
    rw [matchOf, newMatch_eq] at hrules
    cases hk : kindOf m.protocol with
    | http =>
      rw [hk] at hrules
      exact hone rules hrules
    | tcp => simp [hk] at hrules
    | other => simp [hk] at hrules

theorem marked_trafficMatches {services : List MeshService} (hv : ∀ m ∈ services, NameValid m)
    (clusters : Dict WeightedEndpoints) (port : UInt16) :
    ∀ tm ∈ OutboundTrafficPolicy.trafficMatches ⟨compile trustDomain mc services, clusters⟩ port,
      tm.Marked := by
  intro tm htm
  rw [trafficMatches_compile hv] at htm
  obtain ⟨id, -, rfl⟩ := List.mem_map.1 htm
  exact marked_matchOf _ _ _

theorem eq_nil_iff_of_idsAt {services services' : List MeshService}
    (h : ∀ port, (idsAt services port).map labelOf = (idsAt services' port).map labelOf) :
    services = [] ↔ services' = [] := by
  have hnil : ∀ l : List MeshService, l = [] ↔ ∀ port, (idsAt l port).map labelOf = [] := by
    intro l
    constructor
    · rintro rfl port
      rfl
    · intro hl
      refine List.eq_nil_iff_forall_not_mem.2 fun m hm => ?_
      have hid : matchId m ∈ idsAt l m.port := mem_idsAt.2 ⟨m, hm, rfl, rfl⟩
      rw [List.map_eq_nil_iff.1 (hl m.port)] at hid
      cases hid
  simp only [hnil, h]

/-- The routes of two catalogs look alike when the matches of every port do, and the tables of every
cluster. -/
theorem json_outbound_eq_iff {mc mc' : MeshCatalog} (env env' : Env) (cfg : Configurator)
    (htrust : env.trustDomain = env'.trustDomain) (hv : ∀ m ∈ mc.listMeshServices, NameValid m)
    (hv' : ∀ m ∈ mc'.listMeshServices, NameValid m) :
    Json.ofPtr OutboundTrafficPolicy.json (published env cfg mc).outbound =
        Json.ofPtr OutboundTrafficPolicy.json (published env' cfg mc').outbound ↔
      (∀ port, (idsAt mc.listMeshServices port).map labelOf =
            (idsAt mc'.listMeshServices port).map labelOf ∧
          matchOf env.trustDomain mc (groupAt mc.listMeshServices port .http) =
            matchOf env.trustDomain mc' (groupAt mc'.listMeshServices port .http) ∧
          ∀ ns name, tcpTargets mc mc.listMeshServices port ns name =
            tcpTargets mc' mc'.listMeshServices port ns name) ∧
        ∀ k : String, (tablesOf mc mc.listMeshServices)[k]?.map
            (fun wes => shownEndpoints (rebalancedEndpoints wes)) =
          (tablesOf mc' mc'.listMeshServices)[k]?.map
            fun wes => shownEndpoints (rebalancedEndpoints wes) := by
  have hempty : ∀ {mc mc' : MeshCatalog}, mc.listMeshServices = [] →
      (∀ port, (idsAt mc.listMeshServices port).map labelOf =
        (idsAt mc'.listMeshServices port).map labelOf) → mc'.listMeshServices = [] :=
    fun he hall => (eq_nil_iff_of_idsAt hall).1 he
  by_cases he : mc.listMeshServices = []
  · by_cases he' : mc'.listMeshServices = []
    · refine iff_of_true ?_ ?_
      · simp [published, he, he']
      · rw [he, he']
        exact ⟨fun port => ⟨rfl, rfl, fun ns name => rfl⟩, fun k => rfl⟩
    · refine iff_of_false ?_ fun h => he' (hempty he fun port => (h.1 port).1)
      simp [published, he, he', Json.ofPtr, OutboundTrafficPolicy.json]
  · by_cases he' : mc'.listMeshServices = []
    · refine iff_of_false ?_ fun h => he (hempty he' fun port => (h.1 port).1.symm)
      simp [published, he, he', Json.ofPtr, OutboundTrafficPolicy.json]
    · simp only [published, List.isEmpty_iff, he, he', if_false, Json.ofPtr]
      refine (json_policy_eq_iff (marked_trafficMatches hv _) (marked_trafficMatches hv' _)).trans
        (and_congr (forall_congr' fun port => ?_) (forall_congr' fun k => ?_))
      · rw [trafficMatches_compile hv, trafficMatches_compile hv', ← htrust,
          portMatches_eq_iff hv hv']
      · rw [Std.ExtTreeMap.getElem?_map, Std.ExtTreeMap.getElem?_map, Option.map_map,
          Option.map_map]
        rfl

/-- The addresses of a name in the text. -/
theorem getElem?_dnsResolveDB (env : Env) (cfg : Configurator) (mc : MeshCatalog) (k : String) :
    (published env cfg mc).dnsResolveDB[k]? = (mc.listMeshServices.filter fun m =>
      m.fqdn == k && hasImported mc m).getLast?.map fun m =>
        toSlice env.order (addressesWith mc (mc.kube.getService m) m) := by
  have hget : (published env cfg mc).dnsResolveDB[k]? = _ := Std.ExtTreeMap.getElem?_map
  rw [hget, getOutboundMeshTrafficPolicy, servicesResolvableSet_eq, Option.map_map]
  rfl

/-- **The texts of two clusters**, part by part. -/
theorem marshal_run_eq_iff (env : Env) (order : RangeOrder) (cfg : Configurator) (c c' : Cluster) :
    (run env cfg c.toMeshCatalog).map PipyConf.marshal =
        (run { env with order } cfg c'.toMeshCatalog).map PipyConf.marshal ↔
      (∀ port, (idsAt c.listMeshServices port).map labelOf =
        (idsAt c'.listMeshServices port).map labelOf) ∧
      (∀ port, ((httpServices c.listMeshServices port).head?.map fun m => toLower m.protocol) =
        (httpServices c'.listMeshServices port).head?.map fun m => toLower m.protocol) ∧
      (∀ port hostname, (((httpServices c.listMeshServices port).filter fun m =>
          hostname ∈ getHostnamesForService env.trustDomain m false).getLast?.map MeshService.fqdn) =
        (((httpServices c'.listMeshServices port).filter fun m =>
          hostname ∈ getHostnamesForService env.trustDomain m false).getLast?.map
            MeshService.fqdn)) ∧
      (∀ port, targetsOf c.toMeshCatalog (httpServices c.listMeshServices port) =
        targetsOf c'.toMeshCatalog (httpServices c'.listMeshServices port)) ∧
      (∀ port ns name, tcpTargets c.toMeshCatalog c.listMeshServices port ns name =
        tcpTargets c'.toMeshCatalog c'.listMeshServices port ns name) ∧
      (∀ k : String, (tablesOf c.toMeshCatalog c.listMeshServices)[k]?.map
          (fun wes => shownEndpoints (rebalancedEndpoints wes)) =
        (tablesOf c'.toMeshCatalog c'.listMeshServices)[k]?.map
          fun wes => shownEndpoints (rebalancedEndpoints wes)) ∧
      ∀ k : String, ((c.listMeshServices.filter fun m =>
          m.fqdn == k && hasImported c.toMeshCatalog m).getLast?.map fun m =>
            toSlice env.order (addressesWith c.toMeshCatalog (c.kube.getService m) m)) =
        (c'.listMeshServices.filter fun m =>
          m.fqdn == k && hasImported c'.toMeshCatalog m).getLast?.map fun m =>
            toSlice order (addressesWith c'.toMeshCatalog (c'.kube.getService m) m) := by
  have hlevel : (published env cfg c.toMeshCatalog).sidecarLogLevel =
      (published { env with order } cfg c'.toMeshCatalog).sidecarLogLevel := rfl
  have hchains : (published env cfg c.toMeshCatalog).chains =
      (published { env with order } cfg c'.toMeshCatalog).chains := rfl
  rw [run_eq env cfg c.nameValid, run_eq _ cfg c'.nameValid, Option.map_some, Option.map_some,
    Option.some.injEq, marshal_eq_iff hlevel hchains, Std.ExtTreeMap.ext_getElem?_iff,
    json_outbound_eq_iff env { env with order } cfg rfl c.nameValid c'.nameValid]
  simp only [getElem?_dnsResolveDB]
  rw [← and_assoc, ← and_assoc, ← and_assoc, ← and_assoc, ← and_assoc]
  refine and_congr_left fun _ => and_congr_left fun _ => ?_
  simp only [and_assoc, ← forall_and]
  refine forall_congr' fun port => and_congr_right fun hlabels => ?_
  rw [httpMatch_eq_iff (http_mem_congr hlabels) c.nameValid c'.nameValid]
  simp only [and_assoc]

end Ctrl
