import ErieCanalNet.Ctrl.Proof.Pointers
import ErieCanalNet.Ctrl.Proof.Routes

/-!
# The two indexes of the traffic matches

* `Keyed`: what holds of a match and the name it is held under, kept by every round, whatever the
  policy (`Keyed.fills`, `keyed_of_generate`): the name starts with the port, a match that HTTP
  services use is held under the name `http`, and no two rules of a service have the same match.
* `Represents.consistent`: with the indexes of one table this gives `Consistent`.
* `indexes_consistent`: so the generator, which ends for services whose names the API server
  admits, leaves the two indexes consistent.
-/

namespace Ctrl

open Go Lib Mesh Policy

/-! ## Names and matches -/

/-- A match that HTTP and gRPC services use: by its protocol, or by what it holds. -/
def UsedForHTTP (tm : OutboundTrafficMatch) : Prop :=
  isHTTP tm.protocol = true ∨ tm.httpHostPort2Service ≠ ∅ ∨ tm.httpServiceRouteRules ≠ ∅

/-- What holds of a match under its name. -/
structure Keyed (key : String) (tm : OutboundTrafficMatch) : Prop where
  name : ∃ name, key = toString tm.port.toNat ++ "=" ++ name ∧ (UsedForHTTP tm → name = "http")
  rulesApart : RulesApart tm

/-- A match that is used by HTTP services has the name of its port. -/
theorem Keyed.key_eq {key : String} {tm : OutboundTrafficMatch} (h : Keyed key tm)
    (hused : UsedForHTTP tm) : key = toString tm.port.toNat ++ "=" ++ "http" := by
  obtain ⟨name, rfl, hname⟩ := h.name
  rw [hname hused]

theorem keyed_newTrafficMatch (trafficMatch : TrafficMatch) :
    Keyed (namedPort trafficMatch) (newTrafficMatch trafficMatch) := by
  rw [newTrafficMatch_eq]
  refine ⟨⟨_, rfl, ?_⟩, ?_⟩
  · intro hused
    have hhttp : isHTTP (toLower trafficMatch.destinationProtocol) = true := by
      rcases hused with h | h | h
      · exact kindOf_eq_http.1 (isHTTP_matchProtocol.1 h)
      · exact absurd rfl h
      · exact absurd rfl h
    rw [if_pos hhttp]
  · intro name rules h
    simp at h

/-- A match that is not filled by an HTTP service is not used by one more than before. -/
theorem Fills.usedForHTTP {tm tm' : OutboundTrafficMatch} (h : Fills false tm tm')
    (hused : UsedForHTTP tm') : UsedForHTTP tm := by
  unfold UsedForHTTP at hused ⊢
  rwa [h.protocol, h.hosts rfl, h.rules rfl] at hused

/-- **A round keeps the match under its name.** -/
theorem Keyed.fills {trafficMatch : TrafficMatch} {tm tm' : OutboundTrafficMatch}
    (h : Keyed (namedPort trafficMatch) tm)
    (hfills : Fills (isHTTP (toLower trafficMatch.destinationProtocol)) tm tm') :
    Keyed (namedPort trafficMatch) tm' := by
  obtain ⟨name, hkey, hused⟩ := h.name
  refine ⟨⟨name, by rw [hfills.port, hkey], fun hused' => ?_⟩, hfills.rulesApart h.rulesApart⟩
  obtain ⟨-, rfl⟩ := portKey_inj hkey
  cases hhttp : isHTTP (toLower trafficMatch.destinationProtocol) with
  | true => rw [if_pos rfl]
  | false =>
    rw [hhttp] at hfills hused
    exact hused (hfills.usedForHTTP hused')

theorem keyed_addTrafficMatch {order : RangeOrder} {outboundPolicy : OutboundMeshTrafficPolicy}
    {st st' : RouteState} {trafficMatch : TrafficMatch}
    (h : ∀ e ∈ st.otp.namedTrafficMatches, Keyed e.1 e.2)
    (hadd : addTrafficMatch order outboundPolicy st trafficMatch = some st') :
    ∀ e ∈ st'.otp.namedTrafficMatches, Keyed e.1 e.2 := by
  rw [addTrafficMatch_eq_map] at hadd
  obtain ⟨filled, hfilled, rfl⟩ := Option.map_eq_some_iff.1 hadd
  intro e he
  rcases mem_of_mem_upsert he with he | rfl
  · exact h e he
  · refine Keyed.fills ?_ (fills_routeTrafficMatch hfilled)
    cases hlookup : st.otp.namedTrafficMatches.lookup (namedPort trafficMatch) with
    | none => exact keyed_newTrafficMatch trafficMatch
    | some tm => exact h _ (mem_of_lookup hlookup)

/-- **All rounds keep the matches under their names.** -/
theorem keyed_of_generate {env : Env} {conf conf' : PipyConf}
    {outboundPolicy : OutboundMeshTrafficPolicy} {dependClusters : Map String WeightedCluster}
    (hconf : conf.outbound = none)
    (h : generatePipyOutboundTrafficRoutePolicy env conf outboundPolicy =
      some (conf', dependClusters)) :
    ∀ otp, conf'.outbound = some otp → ∀ e ∈ otp.namedTrafficMatches, Keyed e.1 e.2 := by
  unfold generatePipyOutboundTrafficRoutePolicy at h
  split at h
  · obtain ⟨rfl, -⟩ := Prod.mk.inj (Option.some.inj h)
    rw [hconf]
    intro otp hotp
    cases hotp
  · obtain ⟨st, hrun, hst⟩ := Option.bind_eq_some_iff.1 h
    obtain ⟨rfl, -⟩ := Prod.mk.inj (Option.some.inj hst)
    intro otp hotp
    obtain rfl := Option.some.inj hotp
    rw [hconf] at hrun
    exact Run.invariant_labels (fun _ st => ∀ e ∈ st.otp.namedTrafficMatches, Keyed e.1 e.2)
      (run_of_foldlM hrun) (fun e he => by cases he) keyed_addTrafficMatch

/-! ## Consistency -/

namespace Pointers

/-- Every match that has a name is in the slice of its own port, once, and in no other; the slices
hold nothing else; HTTP services use one match of a port at most; and no two rules of a service
have the same match. -/
structure OutboundTrafficPolicy.Consistent (otp : OutboundTrafficPolicy) : Prop where
  listed_once : ∀ key tm, otp.namedTrafficMatches.lookup key = some tm →
    ∃ trafficMatch, otp.made[tm]? = some trafficMatch ∧ ∀ port,
      ((otp.trafficMatches.lookup port).getD []).count tm =
        if port = trafficMatch.port then 1 else 0
  nothing_else : ∀ port, ∀ tm ∈ (otp.trafficMatches.lookup port).getD [],
    ∃ key, otp.namedTrafficMatches.lookup key = some tm
  one_http : ∀ port, ∀ tm ∈ (otp.trafficMatches.lookup port).getD [],
    ∀ tm' ∈ (otp.trafficMatches.lookup port).getD [],
      (∃ trafficMatch, otp.made[tm]? = some trafficMatch ∧ UsedForHTTP trafficMatch) →
      (∃ trafficMatch, otp.made[tm']? = some trafficMatch ∧ UsedForHTTP trafficMatch) → tm = tm'
  rules_apart : ∀ trafficMatch ∈ otp.made, RulesApart trafficMatch

end Pointers

theorem Represents.consistent {otp : Pointers.OutboundTrafficPolicy} {otp' : OutboundTrafficPolicy}
    (h : Represents otp otp') (hkeyed : ∀ e ∈ otp'.namedTrafficMatches, Keyed e.1 e.2) :
    otp.Consistent where
  listed_once key tm hkey := by
    obtain ⟨trafficMatch, hmade, -⟩ := h.getElem?_table hkey
    exact ⟨trafficMatch, hmade, h.count_grouped hmade⟩
  nothing_else port tm htm := by
    obtain ⟨trafficMatch, hmade, -⟩ := h.mem_grouped.1 htm
    obtain ⟨key, -, hkey⟩ := h.exists_name hmade
    exact ⟨key, hkey⟩
  one_http := by
    -- both have the name `http` of the port
    have hname : ∀ {port tm}, tm ∈ (otp.trafficMatches.lookup port).getD [] →
        (∃ trafficMatch, otp.made[tm]? = some trafficMatch ∧ UsedForHTTP trafficMatch) →
        otp.namedTrafficMatches.lookup (toString port.toNat ++ "=" ++ "http") = some tm := by
      intro port tm htm hused
      obtain ⟨trafficMatch, hmade, hused⟩ := hused
      obtain ⟨trafficMatch', hmade', rfl⟩ := h.mem_grouped.1 htm
      obtain rfl := Option.some.inj (hmade.symm.trans hmade')
      obtain ⟨key, hmem, hkey⟩ := h.exists_name hmade
      rw [← (hkeyed _ hmem).key_eq hused]
      exact hkey
    intro port tm htm tm' htm' hused hused'
    exact Option.some.inj ((hname htm hused).symm.trans (hname htm' hused'))
  rules_apart trafficMatch hmade := by
    obtain ⟨i, hi⟩ := List.mem_iff_getElem?.1 hmade
    obtain ⟨key, hmem, -⟩ := h.exists_name hi
    exact (hkeyed _ hmem).rulesApart

/-- Whatever the policy: a run that ends leaves the indexes consistent. -/
theorem consistent_of_generate (env : Env) {outboundPolicy : OutboundMeshTrafficPolicy}
    {otp : Pointers.OutboundTrafficPolicy} {dependClusters : Map String WeightedCluster}
    (h : Pointers.generatePipyOutboundTrafficRoutePolicy env.order none outboundPolicy =
      some (some otp, dependClusters)) : otp.Consistent := by
  have hstart : Option.Rel Represents none ({} : PipyConf).outbound := .none
  have hrel := generate_refines env outboundPolicy hstart
  rw [h] at hrel
  -- the run in the table ends as well, and the indexes are those of its table
  obtain ⟨⟨conf, dependClusters'⟩, hgen, houtbound, -⟩ := exists_of_rel_some_left hrel
  obtain ⟨otp', hotp, hrep⟩ := exists_of_rel_some_left houtbound
  exact hrep.consistent (keyed_of_generate rfl hgen otp' hotp)

/-- **The two indexes of the traffic matches are consistent** when the generator has compiled the
policy of services with valid names into an empty configuration. -/
theorem indexes_consistent (env : Env) (mc : MeshCatalog) {services : List MeshService}
    (hv : ∀ m ∈ services, NameValid m) :
    ∃ outbound dependClusters,
      Pointers.generatePipyOutboundTrafficRoutePolicy env.order none
          (outboundPolicyOf env.trustDomain mc services) = some (outbound, dependClusters) ∧
      ∀ otp, outbound = some otp → otp.Consistent := by
  have hstart : Option.Rel Represents none ({} : PipyConf).outbound := .none
  have hrel := generate_refines env (outboundPolicyOf env.trustDomain mc services) hstart
  rw [generate_eq env rfl hv] at hrel
  obtain ⟨⟨outbound, dependClusters⟩, hgen, -⟩ := exists_of_rel_some_right hrel
  refine ⟨outbound, dependClusters, hgen, ?_⟩
  intro otp hotp
  rw [hotp] at hgen
  exact consistent_of_generate env hgen

/-- The two services of `webAndPod` share the one match of their port, with a set of rules each. -/
theorem indexes_consistent_web_and_pod :
    ∃ otp dependClusters,
      Pointers.generatePipyOutboundTrafficRoutePolicy .asIs none
          (outboundPolicyOf "cluster.local" (importCatalog []) webAndPod) =
        some (some otp, dependClusters) ∧
      otp.trafficMatches.lookup 80 = some [0] ∧
      (otp.made.map fun tm => tm.httpServiceRouteRules.toList.map fun entry =>
        (entry.1, entry.2.length)) =
        [[("db-0.db.default.svc.cluster.local", 1), ("web.default.svc.cluster.local", 1)]] ∧
      otp.Consistent := by
  have hns : ∀ m ∈ webAndPod, K8s.isDNS1123Label m.ns = true := by decide
  have hv : ∀ m ∈ webAndPod, NameValid m :=
    fun m hm => (labelName_webAndPod m hm).nameValid (hns m hm)
  obtain ⟨outbound, dependClusters, hgen, hall⟩ :=
    indexes_consistent (.asIs "cluster.local") (importCatalog []) hv
  have heval : (Pointers.generatePipyOutboundTrafficRoutePolicy .asIs none
      (outboundPolicyOf "cluster.local" (importCatalog []) webAndPod)).map (fun r =>
        r.1.map fun otp => (otp.trafficMatches.lookup 80, otp.made.map fun tm =>
          tm.httpServiceRouteRules.toList.map fun entry => (entry.1, entry.2.length))) =
      some (some (some [0],
        [[("db-0.db.default.svc.cluster.local", 1), ("web.default.svc.cluster.local", 1)]])) := by
    decide +kernel
  change Pointers.generatePipyOutboundTrafficRoutePolicy .asIs none
    (outboundPolicyOf "cluster.local" (importCatalog []) webAndPod) = _ at hgen
  rw [hgen] at heval
  cases outbound with
  | none => cases Option.some.inj heval
  | some otp =>
    obtain ⟨hlookup, hrules⟩ := Prod.mk.inj (Option.some.inj (Option.some.inj heval))
    exact ⟨otp, dependClusters, hgen, hlookup, hrules, hall otp rfl⟩

end Ctrl
