import ErieCanalNet.Ctrl.Marshal

/-!
# What the text of a configuration shows

The text of a configuration determines its traffic matches, port by port, and its table of names
(`marshal_eq_iff`). It does not show in which order the ports were written, nor whether a rule
without methods takes all of them: the rules the generator makes do (`Marked`).
-/

namespace Ctrl

open Go Json Lib

section

variable {V : Type} {value : V → Json}

theorem ofSlice_inj (h : Function.Injective value) {l l' : List V} :
    ofSlice value l = ofSlice value l' ↔ l = l' := by
  rw [ofSlice_eq_iff, (List.map_injective_iff.2 h).eq_iff]

theorem ofMap_eq_iff_getElem? {m m' : Dict V} : ofMap value m = ofMap value m' ↔
    ∀ k : String, m[k]?.map value = m'[k]?.map value := by
  rw [ofMap_eq_iff]
  constructor
  · intro h k
    have hk := congrArg (fun t => t[k]?) h
    simpa [Std.ExtTreeMap.getElem?_map] using hk
  · intro h
    refine Std.ExtTreeMap.ext_getElem? fun k => ?_
    rw [Std.ExtTreeMap.getElem?_map, Std.ExtTreeMap.getElem?_map, h k]

theorem ofMap_inj (h : Function.Injective value) {m m' : Dict V} :
    ofMap value m = ofMap value m' ↔ m = m' := by
  rw [ofMap_eq_iff_getElem?]
  refine ⟨fun hm => Std.ExtTreeMap.ext_getElem? fun k => Option.map_injective h (hm k), ?_⟩
  rintro rfl k
  rfl

/-- Values whose texts show a part of them. -/
theorem ofMap_eq_iff_shown {W : Type} {shown : V → W}
    (h : ∀ v v', value v = value v' ↔ shown v = shown v') {m m' : Dict V} :
    ofMap value m = ofMap value m' ↔ ∀ k : String, m[k]?.map shown = m'[k]?.map shown := by
  rw [ofMap_eq_iff_getElem?]
  refine forall_congr' fun k => ?_
  cases m[k]? with
  | none => cases m'[k]? <;> simp
  | some v => cases m'[k]? <;> simp [h]

theorem omitEmpty_ofMap_inj (h : Function.Injective value) {name : String} {m m' : Dict V} :
    omitEmpty name m.isEmpty (ofMap value m) = omitEmpty name m'.isEmpty (ofMap value m') ↔
      m = m' := by
  refine ⟨fun he => ?_, fun he => by rw [he]⟩
  cases hm : m.isEmpty with
  | true =>
    cases hm' : m'.isEmpty with
    | true => rw [Std.ExtTreeMap.isEmpty_iff.1 hm, Std.ExtTreeMap.isEmpty_iff.1 hm']
    | false => simp [omitEmpty, hm, hm'] at he
  | false =>
    cases hm' : m'.isEmpty with
    | true => simp [omitEmpty, hm, hm'] at he
    | false =>
      simp only [omitEmpty, hm, hm', Bool.false_eq_true, if_false, List.cons.injEq, Prod.mk.injEq,
        true_and, and_true] at he
      exact (ofMap_inj h).1 he

end

theorem str_injective : Function.Injective Json.str := fun _ _ h => Json.str.inj h

/-! ## Matches -/

theorem weightedClustersJson_inj {targets targets' : WeightedClusters} :
    weightedClustersJson targets = weightedClustersJson targets' ↔ targets = targets' :=
  ofMap_inj fun _ _ h => UInt32.toNat_inj.1 (Json.num.inj h)

theorem string_matchType_inj {t t' : URIMatchType} (h : t.string = t'.string) : t = t' := by
  revert h
  cases t <;> cases t' <;> decide

/-- A rule without methods takes all of them. -/
def Marked (rule : HTTPMatchRule) : Prop := rule.allowedAnyMethod = rule.methods.isEmpty

theorem routeRuleJson_inj {rule rule' : HTTPMatchRule × WeightedClusters} (h : Marked rule.1)
    (h' : Marked rule'.1) (he : routeRuleJson rule = routeRuleJson rule') : rule = rule' := by
  obtain ⟨⟨path, type, headers, methods, any⟩, targets⟩ := rule
  obtain ⟨⟨path', type', headers', methods', any'⟩, targets'⟩ := rule'
  simp only [Marked] at h h'
  simp only [routeRuleJson, Json.obj.injEq, List.cons.injEq, Prod.mk.injEq, true_and, and_true,
    Json.str.injEq, ofMap_inj str_injective, ofSlice_inj str_injective,
    weightedClustersJson_inj] at he
  obtain ⟨rfl, htype, rfl, rfl, rfl⟩ := he
  rw [string_matchType_inj htype, h, h']

/-- The rules of a match are marked. -/
def OutboundTrafficMatch.Marked (tm : OutboundTrafficMatch) : Prop :=
  ∀ (f : String) (rules : OutboundHTTPRouteRules), tm.httpServiceRouteRules[f]? = some rules →
    ∀ rule ∈ rules, Ctrl.Marked rule.1

theorem routeRulesJson_inj {rules rules' : OutboundHTTPRouteRules}
    (h : ∀ rule ∈ rules, Marked rule.1) (h' : ∀ rule ∈ rules', Marked rule.1)
    (he : routeRulesJson rules = routeRulesJson rules') : rules = rules' := by
  simp only [routeRulesJson, Json.obj.injEq, List.cons.injEq, Prod.mk.injEq, true_and, and_true,
    ofSlice_eq_iff] at he
  exact eq_of_map_eq (fun rule hr rule' hr' => routeRuleJson_inj (h rule hr) (h' rule' hr')) he

theorem ofPtr_tcpRulesJson_inj {o o' : Option WeightedClusters} :
    ofPtr tcpRulesJson o = ofPtr tcpRulesJson o' ↔ o = o' := by
  cases o with
  | none => cases o' <;> simp [ofPtr, tcpRulesJson]
  | some => cases o' <;> simp [ofPtr, tcpRulesJson, weightedClustersJson_inj]

/-- **A match is what its text shows.** -/
theorem json_trafficMatch_inj {tm tm' : OutboundTrafficMatch} (h : tm.Marked) (h' : tm'.Marked) :
    tm.json = tm'.json ↔ tm = tm' := by
  refine ⟨fun he => ?_, fun he => by rw [he]⟩
  obtain ⟨port, protocol, hosts, rules, tcp⟩ := tm
  obtain ⟨port', protocol', hosts', rules', tcp'⟩ := tm'
  simp only [OutboundTrafficMatch.json, Json.obj.injEq, List.cons.injEq, Prod.mk.injEq, true_and,
    and_true, Json.num.injEq, UInt16.toNat_inj, Json.str.injEq, ofMap_inj str_injective,
    ofPtr_tcpRulesJson_inj, ofMap_eq_iff_getElem?] at he
  obtain ⟨rfl, rfl, rfl, hrules, rfl⟩ := he
  have heq : rules = rules' := Std.ExtTreeMap.ext_getElem? fun f => by
    have hf := hrules f
    cases hr : rules[f]? with
    | none =>
      rw [hr] at hf
      exact (Option.map_eq_none_iff.1 hf.symm).symm
    | some rs =>
      rw [hr] at hf
      obtain ⟨rs', hr', hjson⟩ := Option.map_eq_some_iff.1 hf.symm
      rw [hr', routeRulesJson_inj (h f rs hr) (h' f rs' hr') hjson.symm]
  rw [heq]

/-! ## Ports -/

theorem getElem?_trafficMatchTable (otp : OutboundTrafficPolicy) (k : String) :
    otp.trafficMatchTable[k]? =
      if (otp.namedTrafficMatches.filter fun entry => toString entry.2.port.toNat = k) = [] then none
      else some ((otp.namedTrafficMatches.filter fun entry =>
        toString entry.2.port.toNat = k).map Prod.snd) := by
  rw [← groupFold_concat]
  exact getElem?_foldl_insert (fun entry : String × OutboundTrafficMatch =>
    toString entry.2.port.toNat) (fun entry matches' => matches'.getD [] ++ [entry.2]) _ ∅ k

theorem filter_namedTrafficMatches (otp : OutboundTrafficPolicy) (port : UInt16) :
    (otp.namedTrafficMatches.filter fun entry =>
      toString entry.2.port.toNat = toString port.toNat).map Prod.snd = otp.trafficMatches port := by
  rw [OutboundTrafficPolicy.trafficMatches, List.filter_map]
  refine congrArg _ (List.filter_congr fun entry _ => ?_)
  simp only [Function.comp_apply, toString_inj, UInt16.toNat_inj]

/-- **The matches are shown port by port.** -/
theorem trafficMatchTable_eq_iff {otp otp' : OutboundTrafficPolicy} :
    ofMap (ofSlice OutboundTrafficMatch.json) otp.trafficMatchTable =
        ofMap (ofSlice OutboundTrafficMatch.json) otp'.trafficMatchTable ↔
      ∀ port, (otp.trafficMatches port).map OutboundTrafficMatch.json =
        (otp'.trafficMatches port).map OutboundTrafficMatch.json := by
  have hshown : ∀ (otp otp' : OutboundTrafficPolicy) (k : String),
      otp.trafficMatchTable[k]?.map (ofSlice OutboundTrafficMatch.json) =
          otp'.trafficMatchTable[k]?.map (ofSlice OutboundTrafficMatch.json) ↔
        ((otp.namedTrafficMatches.filter fun entry =>
            toString entry.2.port.toNat = k).map Prod.snd).map OutboundTrafficMatch.json =
          ((otp'.namedTrafficMatches.filter fun entry =>
            toString entry.2.port.toNat = k).map Prod.snd).map OutboundTrafficMatch.json := by
    intro otp otp' k
    rw [getElem?_trafficMatchTable, getElem?_trafficMatchTable]
    cases otp.namedTrafficMatches.filter fun entry => toString entry.2.port.toNat = k with
    | nil =>
      cases otp'.namedTrafficMatches.filter fun entry => toString entry.2.port.toNat = k <;> simp
    | cons =>
      cases otp'.namedTrafficMatches.filter fun entry => toString entry.2.port.toNat = k with
      | nil => simp
      | cons => simp [ofSlice_eq_iff]
  rw [ofMap_eq_iff_getElem?]
  simp only [hshown]
  constructor
  · intro h port
    rw [← filter_namedTrafficMatches, ← filter_namedTrafficMatches]
    exact h _
  · intro h k
    by_cases hk : ∃ port : UInt16, toString port.toNat = k
    · obtain ⟨port, rfl⟩ := hk
      rw [filter_namedTrafficMatches, filter_namedTrafficMatches]
      exact h port
    · have hnil : ∀ otp : OutboundTrafficPolicy,
          (otp.namedTrafficMatches.filter fun entry => toString entry.2.port.toNat = k) = [] :=
        fun otp => List.filter_eq_nil_iff.2 fun entry _ he =>
          hk ⟨entry.2.port, of_decide_eq_true he⟩
      rw [hnil, hnil]

/-! ## Endpoints -/

/-- What the text shows of an endpoint. -/
def WeightedZoneEndpoint.shown (wze : WeightedZoneEndpoint) : UInt32 × String × String :=
  (wze.weight, wze.cluster, wze.contextPath)

theorem omitEmpty_str_append_inj {name : String} (text text' : String)
    {rest rest' : List (String × Json)}
    (hrest : ∀ member ∈ rest, member.1 ≠ name) (hrest' : ∀ member ∈ rest', member.1 ≠ name) :
    omitEmpty name text.isEmpty (.str text) ++ rest =
        omitEmpty name text'.isEmpty (.str text') ++ rest' ↔ text = text' ∧ rest = rest' := by
  refine ⟨fun he => ?_, fun ⟨htext, hr⟩ => by rw [htext, hr]⟩
  cases ht : text.isEmpty with
  | true =>
    cases ht' : text'.isEmpty with
    | true =>
      rw [String.isEmpty_iff.1 ht, String.isEmpty_iff.1 ht']
      simpa [omitEmpty, ht, ht'] using he
    | false =>
      simp only [omitEmpty, ht, ht', if_true, List.nil_append, Bool.false_eq_true, if_false,
        List.singleton_append] at he
      exact (hrest _ (he ▸ List.mem_cons_self) rfl).elim
  | false =>
    cases ht' : text'.isEmpty with
    | true =>
      simp only [omitEmpty, ht, ht', if_true, List.nil_append, Bool.false_eq_true, if_false,
        List.singleton_append] at he
      exact (hrest' _ (he ▸ List.mem_cons_self) rfl).elim
    | false => simpa [omitEmpty, ht, ht'] using he

theorem json_weightedZoneEndpoint_eq_iff {wze wze' : WeightedZoneEndpoint} :
    wze.json = wze'.json ↔ wze.shown = wze'.shown := by
  have hpath : ∀ wze : WeightedZoneEndpoint, ∀ member ∈
      omitEmpty "Path" wze.contextPath.isEmpty (.str wze.contextPath), member.1 ≠ "Key" := by
    intro wze member hmember
    unfold omitEmpty at hmember
    split at hmember
    · cases hmember
    · obtain rfl := List.mem_singleton.1 hmember
      exact show "Path" ≠ "Key" by decide
  have hlast : omitEmpty "Path" wze.contextPath.isEmpty (.str wze.contextPath) =
      omitEmpty "Path" wze'.contextPath.isEmpty (.str wze'.contextPath) ↔
        wze.contextPath = wze'.contextPath := by
    have hnil : ∀ member ∈ ([] : List (String × Json)), member.1 ≠ "Path" := by simp
    simpa using omitEmpty_str_append_inj wze.contextPath wze'.contextPath hnil hnil
  simp only [WeightedZoneEndpoint.json, WeightedZoneEndpoint.shown, Json.obj.injEq,
    List.cons.injEq, Prod.mk.injEq, true_and, Json.num.injEq, UInt32.toNat_inj,
    omitEmpty_str_append_inj _ _ (hpath wze) (hpath wze'), hlast]

/-- What the text shows of the table of a cluster. -/
def shownEndpoints (wes : WeightedEndpoints) : Dict (UInt32 × String × String) :=
  wes.map fun _ => WeightedZoneEndpoint.shown

theorem clusterConfigsJson_eq_iff {wes wes' : WeightedEndpoints} :
    clusterConfigsJson wes = clusterConfigsJson wes' ↔ shownEndpoints wes = shownEndpoints wes' := by
  simp only [clusterConfigsJson, Json.obj.injEq, List.cons.injEq, Prod.mk.injEq, true_and, and_true,
    ofMap_eq_iff_shown fun _ _ => json_weightedZoneEndpoint_eq_iff]
  constructor
  · intro h
    refine Std.ExtTreeMap.ext_getElem? fun k => ?_
    rw [shownEndpoints, shownEndpoints, Std.ExtTreeMap.getElem?_map, Std.ExtTreeMap.getElem?_map, h]
  · intro h k
    have hk := congrArg (fun t => t[k]?) h
    simpa [shownEndpoints, Std.ExtTreeMap.getElem?_map] using hk

/-- **The texts of two policies**: the matches of every port, and what is shown of every table. -/
theorem json_policy_eq_iff {otp otp' : OutboundTrafficPolicy}
    (h : ∀ port, ∀ tm ∈ otp.trafficMatches port, tm.Marked)
    (h' : ∀ port, ∀ tm ∈ otp'.trafficMatches port, tm.Marked) :
    otp.json = otp'.json ↔ (∀ port, otp.trafficMatches port = otp'.trafficMatches port) ∧
      ∀ k : String, otp.clustersConfigs[k]?.map shownEndpoints =
        otp'.clustersConfigs[k]?.map shownEndpoints := by
  simp only [OutboundTrafficPolicy.json, Json.obj.injEq, List.cons.injEq, Prod.mk.injEq, true_and,
    and_true, trafficMatchTable_eq_iff, ofMap_eq_iff_shown fun _ _ => clusterConfigsJson_eq_iff]
  refine and_congr_left fun _ => forall_congr' fun port =>
    ⟨eq_of_map_eq fun tm htm tm' htm' => ?_, congrArg _⟩
  exact (json_trafficMatch_inj (h port tm htm) (h' port tm' htm')).1

/-! ## Configurations -/

/-- **The texts of two configurations** that have the log level and the chains in common. -/
theorem marshal_eq_iff {conf conf' : PipyConf}
    (hlevel : conf.sidecarLogLevel = conf'.sidecarLogLevel)
    (hchains : conf.chains = conf'.chains) :
    conf.marshal = conf'.marshal ↔
      ofPtr OutboundTrafficPolicy.json conf.outbound =
          ofPtr OutboundTrafficPolicy.json conf'.outbound ∧
        conf.dnsResolveDB = conf'.dnsResolveDB := by
  have hdns : omitEmpty "DNSResolveDB" conf.dnsResolveDB.isEmpty
      (ofMap (ofSlice .str) conf.dnsResolveDB) = omitEmpty "DNSResolveDB" conf'.dnsResolveDB.isEmpty
        (ofMap (ofSlice .str) conf'.dnsResolveDB) ↔ conf.dnsResolveDB = conf'.dnsResolveDB :=
    omitEmpty_ofMap_inj fun _ _ => (ofSlice_inj str_injective).1
  have hjson : conf.marshal = conf'.marshal ↔ conf.json = conf'.json :=
    ⟨text_inj, fun h => by rw [PipyConf.marshal, PipyConf.marshal, h]⟩
  rw [hjson, PipyConf.json, PipyConf.json, hlevel, hchains, Json.obj.injEq, ← hdns,
    List.append_assoc, List.append_assoc]
  simp only [List.cons_append, List.nil_append, List.cons.injEq, Prod.mk.injEq, true_and,
    List.append_right_inj]

end Ctrl
