import ErieCanalNet.Ctrl.Proof.Job
import ErieCanalNet.Ctrl.Proof.Marshal
import ErieCanalNet.Ctrl.Proof.Order
import ErieCanalNet.Proxy.Proof.Load
import ErieCanalNet.Proxy.Proof.Loads
import ErieCanalNet.Proxy.Proof.Outbound

/-!
# Published configurations in the proxy

`published_loads_iff`: the proxy loads what a job publishes if and only if services of one port and
one protocol share a match.
-/

namespace Proxy

open Ctrl Go K8s Lib Mesh

/-! ## Identities -/

theorem ownIdentity_eq {o : TrafficMatch} (h : o.destinationIPRanges = none) :
    o.ownIdentity = "|" ++ (toString o.port ++ "_" ++ (o.protocol ++ "_*")) ++ "|" := by
  have hkeys : ((∅ : Dict Unit).insert "*" ()).keys = ["*"] := by decide
  rw [TrafficMatch.ownIdentity, TrafficMatch.ranges, h, Option.getD_none, uniqueIdentity, hkeys]
  simp [String.append_assoc]

/-- Texts between two bars, where there is none inside. -/
theorem infix_bars {x y : List Char} (hx : '|' ∉ x) (hy : '|' ∉ y)
    (h : ('|' :: x ++ ['|']).IsInfix ('|' :: y ++ ['|'])) : x = y := by
  obtain ⟨s, t, h⟩ := h
  have hcount := congrArg (List.count '|') h
  simp only [List.count_append, List.count_cons_self,
    List.count_eq_zero_of_not_mem hx, List.count_eq_zero_of_not_mem hy] at hcount
  have hs : s = [] := by
    cases s with
    | nil => rfl
    | cons c s =>
      obtain ⟨rfl, -⟩ := List.cons.inj h
      rw [List.count_cons_self] at hcount
      omega
  subst hs
  exact (append_cons_inj hx hy (by simpa using h)).1

theorem includes_iff {o o' : TrafficMatch} (h : o.destinationIPRanges = none)
    (h' : o'.destinationIPRanges = none) (hbar : '|' ∉ o.protocol.toList)
    (hbar' : '|' ∉ o'.protocol.toList) :
    includes o.ownIdentity o'.ownIdentity = true ↔ o.port = o'.port ∧ o.protocol = o'.protocol := by
  have hin : ∀ {o : TrafficMatch}, '|' ∉ o.protocol.toList →
      '|' ∉ (toString o.port ++ "_" ++ (o.protocol ++ "_*")).toList := fun {o} hb => by
    have hport := notMem_toString (by decide : '|'.isDigit = false) o.port
    simp only [String.toList_append, List.mem_append, not_or]
    exact ⟨⟨hport, by decide⟩, hb, by decide⟩
  rw [includes, decide_eq_true_eq, ownIdentity_eq h, ownIdentity_eq h']
  constructor
  · intro hinfix
    have hx := infix_bars (hin hbar') (hin hbar) (by simpa [String.toList_append] using hinfix)
    obtain ⟨hport, hrest⟩ := append_sep_inj (notMem_toString (by decide) _)
      (notMem_toString (by decide) _) rfl (String.toList_inj.1 hx)
    exact ⟨(toString_inj.1 hport).symm, ((String.append_left_inj _).1 hrest).symm⟩
  · intro heq
    rw [heq.1, heq.2]

/-! ## Ports -/

section

variable {order : RangeOrder} {otp : OutboundTrafficPolicy}

/-- The matches of a policy, as the proxy reads them. -/
def listsOf (order : RangeOrder) (otp : OutboundTrafficPolicy) : PortLists TrafficMatch :=
  order.visit (otp.trafficMatchTable.map fun _ => List.map TrafficMatch.ofOutbound).toList

theorem mem_listsOf {k : String} {l : List TrafficMatch} : (k, l) ∈ listsOf order otp ↔
    ∃ port : UInt16, k = toString port.toNat ∧ otp.trafficMatches port ≠ [] ∧
      l = (otp.trafficMatches port).map TrafficMatch.ofOutbound := by
  rw [listsOf, order.mem_visit, Std.ExtTreeMap.mem_toList_iff_getElem?_eq_some,
    Std.ExtTreeMap.getElem?_map, getElem?_trafficMatchTable]
  constructor
  · intro h
    split at h
    · cases h
    · rename_i hne
      obtain ⟨entry, hentry⟩ := List.exists_mem_of_ne_nil _ hne
      obtain rfl := of_decide_eq_true (List.mem_filter.1 hentry).2
      rw [filter_namedTrafficMatches] at h
      refine ⟨entry.2.port, rfl, ?_, (Option.some.inj h).symm⟩
      rw [← filter_namedTrafficMatches]
      exact fun hnil => hne (List.map_eq_nil_iff.1 hnil)
  · intro h
    obtain ⟨port, rfl, hne, rfl⟩ := h
    rw [if_neg, filter_namedTrafficMatches]
    · rfl
    · rw [← filter_namedTrafficMatches] at hne
      exact fun hnil => hne (List.map_eq_nil_iff.2 hnil)

theorem pairwise_listsOf : (listsOf order otp).Pairwise fun e e' => e.1 ≠ e'.1 := by
  refine ((order.perm _).pairwise_iff fun h => Ne.symm h).2 ?_
  exact Std.ExtTreeMap.distinct_keys_toList.imp fun h he => h (by simpa using he)

theorem port_of_mem_trafficMatches {port : UInt16} {tm : OutboundTrafficMatch}
    (h : tm ∈ otp.trafficMatches port) : tm.port = port :=
  of_decide_eq_true (List.mem_filter.1 h).2

/-- No protocol of a policy has a bar in it. -/
def NoBars (otp : OutboundTrafficPolicy) : Prop :=
  ∀ port, ∀ tm ∈ otp.trafficMatches port, '|' ∉ tm.protocol.toList

theorem mem_values_listsOf {o : TrafficMatch} : o ∈ values (listsOf order otp) ↔
    ∃ port, ∃ tm ∈ otp.trafficMatches port, o = .ofOutbound tm := by
  rw [values, List.mem_flatMap]
  constructor
  · intro h
    obtain ⟨⟨k, l⟩, hkl, ho⟩ := h
    obtain ⟨port, -, -, rfl⟩ := mem_listsOf.1 hkl
    obtain ⟨tm, htm, rfl⟩ := List.mem_map.1 ho
    exact ⟨port, tm, htm, rfl⟩
  · intro h
    obtain ⟨port, tm, htm, rfl⟩ := h
    exact ⟨(toString port.toNat, _), mem_listsOf.2 ⟨port, rfl, List.ne_nil_of_mem htm, rfl⟩,
      List.mem_map_of_mem htm⟩

/-- **The identities are different** if and only if the matches of each port have different
protocols. -/
theorem distinct_listsOf (hbars : NoBars otp) : Distinct (values (listsOf order otp)) ↔
    ∀ port, (otp.trafficMatches port).Pairwise fun tm tm' => tm.protocol ≠ tm'.protocol := by
  have hiff : ∀ {port port' : UInt16} {tm tm' : OutboundTrafficMatch},
      tm ∈ otp.trafficMatches port → tm' ∈ otp.trafficMatches port' →
        (includes (TrafficMatch.ofOutbound tm).ownIdentity
          (TrafficMatch.ofOutbound tm').ownIdentity = false ↔
            (port = port' → tm.protocol ≠ tm'.protocol)) := fun {port port' tm tm'} h h' => by
    rw [← Bool.not_eq_true, includes_iff rfl rfl (hbars _ _ h) (hbars _ _ h')]
    show ¬(tm.port.toNat = tm'.port.toNat ∧ tm.protocol = tm'.protocol) ↔ _
    rw [port_of_mem_trafficMatches h, port_of_mem_trafficMatches h', UInt16.toNat_inj, not_and]
  unfold Distinct values
  rw [List.pairwise_flatMap]
  constructor
  · intro h port
    cases hm : otp.trafficMatches port with
    | nil => exact .nil
    | cons tm tms =>
      have hport := h.1 _ (mem_listsOf.2 ⟨port, rfl, by simp [hm], rfl⟩)
      rw [← hm]
      refine (List.pairwise_map.1 hport).imp_of_mem fun htm htm' hno => ?_
      exact (hiff htm htm').1 hno rfl
  · intro h
    refine ⟨fun e he => ?_, pairwise_listsOf.imp_of_mem fun he he' hne => ?_⟩
    · obtain ⟨port, -, -, hl⟩ := mem_listsOf.1 he
      rw [hl, List.pairwise_map]
      exact (h port).imp_of_mem fun htm htm' hno => (hiff htm htm').2 fun _ => hno
    · obtain ⟨port, hk, -, hl⟩ := mem_listsOf.1 he
      obtain ⟨port', hk', -, hl'⟩ := mem_listsOf.1 he'
      intro o ho o' ho'
      rw [hl] at ho
      rw [hl'] at ho'
      obtain ⟨tm, htm, rfl⟩ := List.mem_map.1 ho
      obtain ⟨tm', htm', rfl⟩ := List.mem_map.1 ho'
      exact (hiff htm htm').2 fun heq => absurd (by rw [hk, hk', heq]) hne

end

/-! ## The matches of the services -/

section

variable {trustDomain : String} {mc : MeshCatalog} {services : List MeshService}
  {clusters : Dict WeightedEndpoints} (hv : ∀ m ∈ services, NameValid m)
include hv

/-- The policy of a list of services. -/
theorem trafficMatches_compile (port : UInt16) :
    Ctrl.OutboundTrafficPolicy.trafficMatches ⟨compile trustDomain mc services, clusters⟩ port =
      ((services.filter fun m => m.port = port).map (matchKey mc)).eraseDups.map fun k =>
        matchOf trustDomain mc (groupOf mc services k) := by
  have hport : ∀ m ∈ services, decide ((matchOf trustDomain mc
      (groupOf mc services (matchKey mc m))).port = port) = decide (m.port = port) := fun m hm => by
    obtain ⟨m', group, hg, hm', hk, -⟩ :=
      exists_groupOf hv (List.mem_map.2 ⟨m, hm, rfl⟩ : matchKey mc m ∈ _)
    rw [hg, matchOf_port, ((matchKey_inj (hv m' hm') (hv m hm)).1 hk).1]
  rw [Ctrl.OutboundTrafficPolicy.trafficMatches, compile_eq hv, List.map_map, List.filter_map]
  exact congrArg _ (filter_eraseDups_map hport)

/-- The match of a service has the protocol of a service that shares it. -/
theorem protocol_matchOf (trustDomain : String) (mc : MeshCatalog) {m : MeshService}
    (hm : m ∈ services) : ∃ m' ∈ services, SameMatch m' m ∧ matchKey mc m' = matchKey mc m ∧
      (matchOf trustDomain mc (groupOf mc services (matchKey mc m))).protocol =
        matchProtocol m'.protocol := by
  obtain ⟨m', group, hg, hm', hk, -⟩ :=
    exists_groupOf hv (List.mem_map.2 ⟨m, hm, rfl⟩ : matchKey mc m ∈ _)
  exact ⟨m', hm', (matchKey_inj (hv m' hm') (hv m hm)).1 hk, hk, by rw [hg, matchOf_protocol]⟩

omit hv in
theorem kindOf_eq_of_matchProtocol {m m' : MeshService}
    (h : matchProtocol m.protocol = matchProtocol m'.protocol) :
    kindOf m.protocol = .http ↔ kindOf m'.protocol = .http := by
  rw [← isHTTP_matchProtocol, h, isHTTP_matchProtocol]

/-- Two services that are not HTTP, of one port and protocol, share a match. -/
def Unshared (services : List MeshService) : Prop :=
  ∀ m ∈ services, ∀ m' ∈ services, kindOf m.protocol ≠ .http → m.port = m'.port →
    matchProtocol m.protocol = matchProtocol m'.protocol → SameMatch m m'

omit hv in
theorem unshared_singleton (m : MeshService) : Unshared [m] := by
  intro m₁ h₁ m₂ h₂ _ _ _
  rw [List.mem_singleton.1 h₁, List.mem_singleton.1 h₂]
  exact (sameRule_refl m).1

theorem matchKey_eq_of_unshared (mc : MeshCatalog) (hun : Unshared services) {m m' : MeshService}
    (hm : m ∈ services) (hm' : m' ∈ services) (hport : m.port = m'.port)
    (hproto : matchProtocol m.protocol = matchProtocol m'.protocol) :
    matchKey mc m = matchKey mc m' := by
  refine (matchKey_inj (hv m hm) (hv m' hm')).2 ?_
  by_cases hk : kindOf m.protocol = .http
  · exact ⟨hport, .inl ⟨hk, (kindOf_eq_of_matchProtocol hproto).1 hk⟩⟩
  · exact hun m hm m' hm' hk hport hproto

theorem protocol_matchOf_of_ne_http (trustDomain : String) (mc : MeshCatalog) {m : MeshService}
    (hm : m ∈ services) (hk : kindOf m.protocol ≠ .http) :
    (matchOf trustDomain mc (groupOf mc services (matchKey mc m))).protocol =
      matchProtocol m.protocol := by
  obtain ⟨m', -, hsame, -, hproto⟩ := protocol_matchOf hv trustDomain mc hm
  rw [hproto]
  cases hsame.2 with
  | inl h => exact absurd h.2 hk
  | inr h => rw [h.2.2.2]

theorem pairwise_protocol_iff :
    (∀ port, (Ctrl.OutboundTrafficPolicy.trafficMatches ⟨compile trustDomain mc services, clusters⟩
      port).Pairwise fun tm tm' => tm.protocol ≠ tm'.protocol) ↔ Unshared services := by
  have hkey : ∀ {port : UInt16} {k : String},
      k ∈ ((services.filter fun m => m.port = port).map (matchKey mc)).eraseDups →
        ∃ m ∈ services, m.port = port ∧ matchKey mc m = k := fun hk => by
    obtain ⟨m, hm, rfl⟩ := List.mem_map.1 (List.mem_eraseDups.1 hk)
    obtain ⟨hm, hport⟩ := List.mem_filter.1 hm
    exact ⟨m, hm, of_decide_eq_true hport, rfl⟩
  simp only [trafficMatches_compile hv, List.pairwise_map]
  constructor
  · intro h m hm m' hm' hk hport hproto
    by_contra hno
    have hne : matchKey mc m ≠ matchKey mc m' := mt (matchKey_inj (hv m hm) (hv m' hm')).1 hno
    have hmem : ∀ {x : MeshService}, x ∈ services → x.port = m.port → matchKey mc x ∈
        ((services.filter fun y => y.port = m.port).map (matchKey mc)).eraseDups := fun hx hp =>
      List.mem_eraseDups.2 (List.mem_map_of_mem (List.mem_filter.2 ⟨hx, decide_eq_true hp⟩))
    refine @List.Pairwise.forall _ _ _ ⟨fun _ _ => Ne.symm⟩ (h m.port) _ (hmem hm rfl) _
      (hmem hm' hport.symm) hne ?_
    have hk' := mt (kindOf_eq_of_matchProtocol hproto).2 hk
    rw [protocol_matchOf_of_ne_http hv trustDomain mc hm hk,
      protocol_matchOf_of_ne_http hv trustDomain mc hm' hk', hproto]
  · intro hun port
    refine (nodup_eraseDups _).imp_of_mem fun hk hk' hne heq => hne ?_
    obtain ⟨m, hm, rfl, rfl⟩ := hkey hk
    obtain ⟨m', hm', hport, rfl⟩ := hkey hk'
    obtain ⟨x, hx, hsame, hkx, hproto⟩ := protocol_matchOf hv trustDomain mc hm
    obtain ⟨x', hx', hsame', hkx', hproto'⟩ := protocol_matchOf hv trustDomain mc hm'
    rw [← hkx, ← hkx']
    refine matchKey_eq_of_unshared hv mc hun hx hx' ?_ (by rw [← hproto, ← hproto', heq])
    rw [hsame.1, hsame'.1, hport]

end

/-! ## Loading -/

theorem solveConfig_marshalIndent (strict : Bool) (order : RangeOrder) (conf : PipyConf)
    (ts version : String) : solveConfig strict order (conf.marshalIndent ts version) =
      (Config.ofConf order conf).merge strict := by
  rw [solveConfig, PipyConf.marshalIndent, Json.decode_indent]
  show (readConfig order (conf.stamped ts version)).bind _ = _
  rw [readConfig_stamped]
  rfl

section

variable {order : RangeOrder} {conf : PipyConf} {otp : Ctrl.OutboundTrafficPolicy} {strict : Bool}

theorem merge_ofConf (h : conf.outbound.getD {} = otp)
    (hne : otp.trafficMatchTable.isEmpty = false) :
    (Config.ofConf order conf).merge strict =
      (mergeTrafficMatches strict (listsOf order otp)).map fun merged =>
        { Config.ofConf order conf with trafficMatches := some merged } := by
  have hlists : (Config.ofConf order conf).trafficMatches = some (listsOf order otp) := by
    unfold Config.ofConf orNull
    rw [h, isEmpty_map_dict, hne]
    rfl
  unfold Config.merge
  rw [hlists]
  show (mergeTrafficMatches strict (listsOf order otp)).bind _ = _
  cases mergeTrafficMatches strict (listsOf order otp) <;> rfl

theorem merge_ofConf_of_empty (h : conf.outbound.getD {} = otp)
    (hne : otp.trafficMatchTable.isEmpty = true) :
    (Config.ofConf order conf).merge strict =
      some { Config.ofConf order conf with trafficMatches := none } := by
  have hlists : (Config.ofConf order conf).trafficMatches = none := by
    unfold Config.ofConf orNull
    rw [h, isEmpty_map_dict, hne]
    rfl
  unfold Config.merge
  rw [hlists]

theorem listsOf_of_empty (hne : otp.trafficMatchTable.isEmpty = true) : listsOf order otp = [] := by
  rw [listsOf, Std.ExtTreeMap.isEmpty_iff.1 hne]
  exact order.visit_nil

theorem ownIdentity_ofOutbound_ne_empty (tm : OutboundTrafficMatch) :
    (TrafficMatch.ofOutbound tm).ownIdentity ≠ "" :=
  ownIdentity_ne_empty fun h => by cases h

/-- A configuration loads if and only if its identities are different. -/
theorem merge_ofConf_isSome_iff (h : conf.outbound.getD {} = otp) :
    ((Config.ofConf order conf).merge true).isSome = true ↔
      Distinct (values (listsOf order otp)) := by
  cases hne : otp.trafficMatchTable.isEmpty with
  | true =>
    rw [merge_ofConf_of_empty h hne, listsOf_of_empty hne]
    exact ⟨fun _ => .nil, fun _ => rfl⟩
  | false =>
    rw [merge_ofConf h hne, Option.isSome_map]
    refine mergeTrafficMatches_isSome_iff (fun o ho => ?_) fun o ho => ?_
    · obtain ⟨port, tm, -, rfl⟩ := mem_values_listsOf.1 ho
      exact ownIdentity_ofOutbound_ne_empty tm
    · obtain ⟨port, tm, -, rfl⟩ := mem_values_listsOf.1 ho
      rfl

end

section

variable {env : Env} {cfg : Configurator} {mc : MeshCatalog}

theorem noBars_compile {services : List MeshService} {clusters : Dict WeightedEndpoints}
    {trustDomain : String} (hv : ∀ m ∈ services, NameValid m)
    (hbars : ∀ m ∈ services, '|' ∉ (matchProtocol m.protocol).toList) :
    NoBars ⟨compile trustDomain mc services, clusters⟩ := by
  intro port tm htm
  rw [trafficMatches_compile hv] at htm
  obtain ⟨k, hk, rfl⟩ := List.mem_map.1 htm
  obtain ⟨m, hm, rfl⟩ := List.mem_map.1 (List.mem_eraseDups.1 hk)
  obtain ⟨m', hm', -, -, hproto⟩ := protocol_matchOf hv trustDomain mc (List.mem_filter.1 hm).1
  rw [hproto]
  exact hbars m' hm'

theorem outbound_published (env : Env) (cfg : Configurator) (mc : MeshCatalog) :
    (published env cfg mc).outbound.getD {} =
      ⟨compile env.trustDomain mc mc.listMeshServices,
        (tablesOf mc mc.listMeshServices).map fun _ => rebalancedEndpoints⟩ := by
  unfold published
  cases mc.listMeshServices <;> rfl

/-- **The proxy loads** what a job publishes if and only if no two services that are not HTTP share
a port and a protocol without sharing a match. -/
theorem published_loads_iff (env : Env) (cfg : Configurator) (c : Cluster)
    (hbars : ∀ m ∈ c.listMeshServices, '|' ∉ (matchProtocol m.protocol).toList) :
    ∃ conf, run env cfg c.toMeshCatalog = some conf ∧
      ∀ (order : RangeOrder) (ts version : String),
        (solveConfig true order (conf.marshalIndent ts version)).isSome = true ↔
          Unshared c.listMeshServices := by
  refine ⟨_, run_eq env cfg c.nameValid, fun order ts version => ?_⟩
  rw [solveConfig_marshalIndent, merge_ofConf_isSome_iff (outbound_published env cfg _),
    distinct_listsOf (noBars_compile c.nameValid hbars), pairwise_protocol_iff c.nameValid]

/-- Two imports with one TCP port between them: the proxy throws on the configuration. -/
theorem two_tcp_imports_not_loaded :
    ∃ conf, run (.asIs "cluster.local") noConfig
        (twoImports false tcpEntry tcpEntry).toMeshCatalog = some conf ∧
      ∀ (order : RangeOrder) (ts version : String),
        solveConfig true order (conf.marshalIndent ts version) = none := by
  have hlist : (twoImports false tcpEntry tcpEntry).listMeshServices =
      [⟨"default", "a", 3306, 3306, "tcp", "c"⟩, ⟨"default", "b", 3306, 3306, "tcp", "c"⟩] := by
    decide +kernel
  have hbars : ∀ m ∈ (twoImports false tcpEntry tcpEntry).listMeshServices,
      '|' ∉ (matchProtocol m.protocol).toList := by
    rw [hlist]
    decide
  obtain ⟨conf, hrun, hloads⟩ :=
    published_loads_iff (.asIs "cluster.local") noConfig (twoImports false tcpEntry tcpEntry) hbars
  refine ⟨conf, hrun, fun order ts version => Option.not_isSome_iff_eq_none.1 fun hsome => ?_⟩
  have hun := (hloads order ts version).1 hsome
  rw [hlist] at hun
  cases (hun _ (.head _) _ (.tail _ (.head _)) (by decide) rfl rfl).2 with
  | inl h => exact absurd h.1 (by decide)
  | inr h => exact absurd h.2.2.1 (by decide)

end

end Proxy
