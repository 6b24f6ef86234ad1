import ErieCanalNet.Proxy.Load
import ErieCanalNet.Proxy.Proof.Visits

/-!
# The published configuration, in the proxy

`readConfig_marshalIndent`: the proxy reads from `config.json` what was compiled. What Go writes as
`null`, an empty map or slice, reads as missing.
-/

namespace Proxy

open Ctrl Go Json

/-! ## Values -/

section

variable {α V W : Type} {read : Json → Option W} {enc : V → Json} {view : V → W}

/-- A map that is `nil` when it is empty. -/
def orNull (m : Dict V) : Option (Dict V) := if m.isEmpty then none else some m

theorem nullable_null : nullable read .null = some none := rfl

theorem mapM_map_eq_some {α X : Type} {f : X → Option W} {e : α → X} {g : α → W}
    (h : ∀ x, f (e x) = some (g x)) (l : List α) : (l.map e).mapM f = some (l.map g) := by
  induction l with
  | nil => rfl
  | cons x l ih =>
    rw [List.map_cons, List.mapM_cons, h, ih]
    rfl

theorem getElem?_foldl_insert_entries (entries : List (String × V)) (t : Dict V) {k : String}
    {v : V} (hd : entries.Pairwise fun e e' => e.1 ≠ e'.1) (h : (k, v) ∈ entries) :
    (entries.foldl (fun t e => t.insert e.1 e.2) t)[k]? = some v := by
  have hother : ∀ (entries : List (String × V)) (t : Dict V), (∀ e ∈ entries, e.1 ≠ k) →
      (entries.foldl (fun t e => t.insert e.1 e.2) t)[k]? = t[k]? := by
    intro entries
    induction entries with
    | nil => exact fun t _ => rfl
    | cons e entries ih =>
      intro t hne
      rw [List.foldl_cons, ih _ fun e' he' => hne e' (.tail _ he'),
        Std.ExtTreeMap.getElem?_insert, if_neg]
      simpa using hne e (.head _)
  induction entries generalizing t with
  | nil => cases h
  | cons e entries ih =>
    rw [List.foldl_cons]
    rw [List.pairwise_cons] at hd
    cases h with
    | head => rw [hother _ _ fun e' he' => (hd.1 e' he').symm, Std.ExtTreeMap.getElem?_insert_self]
    | tail _ h => exact ih _ hd.2 h

/-- A table is made of its entries. -/
theorem foldl_insert_toList (m : Dict V) (view : V → W) :
    (m.toList.map fun e => (e.1, view e.2)).foldl (fun t e => t.insert e.1 e.2) ∅ =
      m.map fun _ => view := by
  have hd : (m.toList.map fun e => (e.1, view e.2)).Pairwise fun e e' => e.1 ≠ e'.1 := by
    rw [List.pairwise_map]
    exact m.distinct_keys_toList.imp fun h he => h (by simpa using he)
  refine Std.ExtTreeMap.ext_getElem? fun k => ?_
  rw [Std.ExtTreeMap.getElem?_map]
  cases hk : m[k]? with
  | some v =>
    exact getElem?_foldl_insert_entries _ ∅ hd (List.mem_map.2
      ⟨(k, v), Std.ExtTreeMap.mem_toList_iff_getElem?_eq_some.2 hk, rfl⟩)
  | none =>
    refine Std.ExtTreeMap.getElem?_eq_none fun hmem => ?_
    rw [mem_foldl_insert_dict, List.map_map] at hmem
    cases hmem with
    | inl h => exact Std.ExtTreeMap.not_mem_empty h
    | inr h =>
      obtain ⟨e, he, rfl⟩ := List.mem_map.1 h
      have hsome : m[e.1]? = some e.2 := Std.ExtTreeMap.mem_toList_iff_getElem?_eq_some.1 he
      exact Option.some_ne_none e.2 (hsome.symm.trans hk)

theorem isEmpty_map_dict (m : Dict V) (view : V → W) :
    (m.map fun _ => view).isEmpty = m.isEmpty := by
  simp [Std.ExtTreeMap.isEmpty_eq_size_beq_zero]

theorem map_id_dict (m : Dict V) : (m.map fun _ v => v) = m := by
  refine Std.ExtTreeMap.ext_getElem? fun k => ?_
  rw [Std.ExtTreeMap.getElem?_map, Option.map_id']

section

variable (h : ∀ v, read (enc v) = some (view v))
include h

theorem array_ofSlice (l : List V) : nullable (array read) (ofSlice enc l) =
    some (if l.isEmpty then none else some (l.map view)) := by
  unfold ofSlice
  split
  · rfl
  · show (array read (.arr (l.map enc))).map some = _
    rw [array, mapM_map_eq_some h]
    rfl

theorem orEmptyArray_ofSlice (l : List V) :
    orEmptyArray read (ofSlice enc l) = some (l.map view) := by
  rw [orEmptyArray, array_ofSlice h]
  cases l <;> rfl

theorem table_ofMap (m : Dict V) :
    nullable (table read) (ofMap enc m) = some (orNull (m.map fun _ => view)) := by
  unfold ofMap orNull
  rw [isEmpty_map_dict]
  split
  · rfl
  · show (table read (.obj _)).map some = _
    have hentry : ∀ e : String × V, (read (e.1, enc e.2).2).map (fun v => ((e.1, enc e.2).1, v)) =
        some (e.1, view e.2) := fun e => by rw [h]; rfl
    rw [table, mapM_map_eq_some hentry]
    show some (some (List.foldl _ _ _)) = _
    rw [foldl_insert_toList]

theorem orEmptyTable_ofMap (m : Dict V) :
    orEmptyTable read (ofMap enc m) = some (m.map fun _ => view) := by
  rw [orEmptyTable, table_ofMap h, orNull]
  split
  · rename_i he
    rw [Std.ExtTreeMap.isEmpty_iff.1 he]
    rfl
  · rfl

end

section

variable {read : Json → Option V} (h : ∀ v, read (enc v) = some v)
include h

theorem table_ofMap_self (m : Dict V) :
    nullable (table read) (ofMap enc m) = some (orNull m) := by
  rw [table_ofMap h, map_id_dict]

theorem orEmptyTable_ofMap_self (m : Dict V) : orEmptyTable read (ofMap enc m) = some m := by
  rw [orEmptyTable_ofMap h, map_id_dict]

end

end

theorem string_str (s : String) : string (.str s) = some s := rfl

theorem uint32_num (n : UInt32) : uint32 (.num n.toNat) = some n := by
  show (if n.toNat < UInt32.size then some (UInt32.ofNat n.toNat) else none) = some n
  rw [if_pos n.toNat_lt, UInt32.ofNat_toNat]

theorem orEmptyTable_weightedClustersJson (targets : WeightedClusters) :
    orEmptyTable uint32 (weightedClustersJson targets) = some targets :=
  orEmptyTable_ofMap_self uint32_num targets

/-! ## Matches -/

theorem uriMatchType_string (t : URIMatchType) : uriMatchType (.str t.string) = some t := by
  cases t <;> rfl

/-- What the proxy knows of a rule: whether any method is allowed shows in the methods. -/
def shownRule (rule : RouteRule) : RouteRule :=
  ({ rule.1 with allowedAnyMethod := rule.1.methods.isEmpty }, rule.2)

theorem routeRule_json (rule : RouteRule) :
    routeRule (routeRuleJson rule) = some (shownRule rule) := by
  obtain ⟨⟨path, type, headers, methods, any⟩, targets⟩ := rule
  have hmethods : nullable (array string) (ofSlice .str methods) =
      some (if methods.isEmpty then none else some methods) := by
    rw [array_ofSlice string_str, List.map_id']
  simp only [routeRule, routeRuleJson, member, List.foldl_cons, List.foldl_nil, String.reduceEq,
    reduceIte, string_str, uriMatchType_string, orEmptyTable_ofMap_self string_str, hmethods,
    orEmptyTable_weightedClustersJson, Option.bind_eq_bind, Option.bind_some]
  cases methods <;> rfl

theorem routeRules_json (rules : OutboundHTTPRouteRules) :
    routeRules (routeRulesJson rules) = some (rules.map shownRule) := by
  simp only [routeRules, routeRulesJson, member, List.foldl_cons, List.foldl_nil, reduceIte,
    orEmptyArray_ofSlice routeRule_json]

theorem tcpRules_json (targets : WeightedClusters) :
    nullable tcpRules (tcpRulesJson targets) = some (some targets) := by
  show (tcpRules (tcpRulesJson targets)).map some = _
  simp only [tcpRules, tcpRulesJson, member, List.foldl_cons, List.foldl_nil, reduceIte,
    orEmptyTable_weightedClustersJson, Option.map_some]

/-- A compiled match, as the proxy reads it. -/
def TrafficMatch.ofOutbound (tm : OutboundTrafficMatch) : TrafficMatch where
  port := tm.port.toNat
  protocol := tm.protocol
  httpHostPort2Service := orNull tm.httpHostPort2Service
  httpServiceRouteRules := orNull (tm.httpServiceRouteRules.map fun _ => List.map shownRule)
  tcpServiceRouteRules := tm.tcpServiceRouteRules

theorem trafficMatch_json (tm : OutboundTrafficMatch) :
    trafficMatch tm.json = some (.ofOutbound tm) := by
  have htcp : nullable tcpRules (ofPtr tcpRulesJson tm.tcpServiceRouteRules) =
      some tm.tcpServiceRouteRules := by
    cases tm.tcpServiceRouteRules with
    | none => rfl
    | some targets => exact tcpRules_json targets
  simp only [trafficMatch, OutboundTrafficMatch.json, member, List.foldl_cons, List.foldl_nil,
    String.reduceEq, reduceIte, number, string_str, nullable_null, table_ofMap_self string_str,
    table_ofMap routeRules_json, htcp, Option.bind_eq_bind, Option.bind_some]
  rfl

/-! ## Clusters -/

/-- A text that is left out when it is empty. -/
def orMissing (text : String) : Option String := if text.isEmpty then none else some text

def Endpoint.ofOutbound (wze : WeightedZoneEndpoint) : Endpoint where
  weight := wze.weight
  key := orMissing wze.cluster
  path := orMissing wze.contextPath

theorem foldl_omitEmpty (field name : String) (isEmpty : Bool) (value init : Json) :
    (omitEmpty field isEmpty value).foldl (fun value m => if m.1 = name then m.2 else value) init =
      if field = name ∧ isEmpty = false then value else init := by
  cases isEmpty <;> simp [omitEmpty]

theorem nullable_orMissing (text : String) :
    nullable string (if text.isEmpty = false then .str text else .null) = some (orMissing text) := by
  unfold orMissing
  cases text.isEmpty <;> rfl

theorem endpoint_json (wze : WeightedZoneEndpoint) : endpoint wze.json = some (.ofOutbound wze) := by
  simp only [endpoint, WeightedZoneEndpoint.json, member, List.foldl_cons, List.foldl_append,
    foldl_omitEmpty, String.reduceEq, reduceIte, false_and, true_and, uint32_num,
    nullable_orMissing, Option.bind_eq_bind, Option.bind_some]
  rfl

def ClusterConfig.ofOutbound (wes : WeightedEndpoints) : ClusterConfig where
  endpoints := orNull (wes.map fun _ => Endpoint.ofOutbound)

theorem clusterConfig_json (wes : WeightedEndpoints) :
    clusterConfig (clusterConfigsJson wes) = some (.ofOutbound wes) := by
  simp only [clusterConfig, clusterConfigsJson, member, List.foldl_cons, List.foldl_nil,
    String.reduceEq, reduceIte, table_ofMap endpoint_json, nullable_null, Option.bind_eq_bind,
    Option.bind_some]
  rfl

/-! ## The file -/

/-- A configuration, as the proxy reads it. -/
def Config.ofConf (order : RangeOrder) (conf : PipyConf) : Config TrafficMatch where
  sidecarLogLevel := some conf.sidecarLogLevel
  trafficMatches := (orNull ((conf.outbound.getD {}).trafficMatchTable.map fun _ =>
    List.map TrafficMatch.ofOutbound)).map fun table => order.visit table.toList
  clustersConfigs := (conf.outbound.getD {}).clustersConfigs.map fun _ => ClusterConfig.ofOutbound
  chains := conf.chains
  dnsResolveDB := conf.dnsResolveDB.map fun _ ips => if ips.isEmpty then none else some ips

section

variable (conf : PipyConf) (ts version : String)

theorem member_spec_stamped : member (member (conf.stamped ts version) "Spec") "SidecarLogLevel" =
    .str conf.sidecarLogLevel := by
  simp [member, PipyConf.stamped, PipyConf.json, foldl_omitEmpty]

theorem member_outbound_stamped :
    member (conf.stamped ts version) "Outbound" = ofPtr OutboundTrafficPolicy.json conf.outbound := by
  simp [member, PipyConf.stamped, PipyConf.json, foldl_omitEmpty]

theorem member_chains_stamped :
    member (conf.stamped ts version) "Chains" = ofMap (ofSlice .str) conf.chains := by
  unfold ofMap
  cases hc : conf.chains.isEmpty <;>
    simp [member, PipyConf.stamped, PipyConf.json, foldl_omitEmpty, hc, ofMap]

theorem member_dnsResolveDB_stamped :
    member (conf.stamped ts version) "DNSResolveDB" = ofMap (ofSlice .str) conf.dnsResolveDB := by
  unfold ofMap
  cases hc : conf.dnsResolveDB.isEmpty <;>
    simp [member, PipyConf.stamped, PipyConf.json, foldl_omitEmpty, hc, ofMap]

theorem readConfig_stamped (order : RangeOrder) :
    readConfig order (conf.stamped ts version) = some (.ofConf order conf) := by
  have hchains : orEmptyTable (orEmptyArray string) (ofMap (ofSlice .str) conf.chains) =
      some conf.chains :=
    orEmptyTable_ofMap_self (fun l => by rw [orEmptyArray_ofSlice string_str, List.map_id'])
      conf.chains
  have hnames : orEmptyTable (nullable (array string)) (ofMap (ofSlice .str) conf.dnsResolveDB) =
      some (conf.dnsResolveDB.map fun _ ips => if ips.isEmpty then none else some ips) :=
    orEmptyTable_ofMap (fun l => by rw [array_ofSlice string_str, List.map_id']) conf.dnsResolveDB
  have htables : ∀ otp : OutboundTrafficPolicy,
      nullable (table (orEmptyArray trafficMatch)) (member otp.json "TrafficMatches") =
        some (orNull (otp.trafficMatchTable.map fun _ => List.map TrafficMatch.ofOutbound)) ∧
      orEmptyTable clusterConfig (member otp.json "ClustersConfigs") =
        some (otp.clustersConfigs.map fun _ => ClusterConfig.ofOutbound) := fun otp => by
    simp only [OutboundTrafficPolicy.json, member, List.foldl_cons, List.foldl_nil,
      String.reduceEq, reduceIte, table_ofMap (orEmptyArray_ofSlice trafficMatch_json),
      orEmptyTable_ofMap clusterConfig_json, and_self]
  rw [readConfig, member_outbound_stamped, member_chains_stamped, member_spec_stamped,
    member_dnsResolveDB_stamped, hchains, hnames, Config.ofConf]
  cases conf.outbound with
  | none => rfl
  | some otp =>
    simp only [ofPtr, (htables otp).1, (htables otp).2, Option.bind_eq_bind, Option.bind_some]
    rfl

/-- **The published file** reads as the configuration it was made of. -/
theorem readConfig_marshalIndent (order : RangeOrder) :
    (decode (conf.marshalIndent ts version)).bind (readConfig order) = some (.ofConf order conf) := by
  rw [PipyConf.marshalIndent, decode_indent, Option.bind_some, readConfig_stamped]

end

end Proxy
