import ErieCanalNet.Lib.Arena
import ErieCanalNet.Lib.Run
import ErieCanalNet.Ctrl.Pointers

/-!
# The generator with and without pointers

A round of the generator fills one match and leaves its port alone (`Fills`). So the pointers of
`Ctrl.Pointers` are positions in the table of `Ctrl.Generate`: both indexes are indexes of that
table (`Represents`), after every round and at the end (`generate_refines`), and a slice of pointers
reads as the slice of matches that the rest of the development uses
(`Represents.trafficMatches`).
-/

namespace Ctrl

open Go Lib Mesh Policy

/-! ## What a round writes -/

/-- No two rules of a service have the same match. -/
def RulesApart (tm : OutboundTrafficMatch) : Prop :=
  ∀ (name : String) (rules : OutboundHTTPRouteRules),
    tm.httpServiceRouteRules[name]? = some rules → (rules.map Prod.fst).Nodup

/-- What can become of a match that is filled, by an HTTP service or by another one. -/
structure Fills (http : Bool) (tm tm' : OutboundTrafficMatch) : Prop where
  port : tm'.port = tm.port
  protocol : tm'.protocol = tm.protocol
  rulesApart : RulesApart tm → RulesApart tm'
  hosts : http = false → tm'.httpHostPort2Service = tm.httpHostPort2Service
  rules : http = false → tm'.httpServiceRouteRules = tm.httpServiceRouteRules

theorem Fills.refl (http : Bool) (tm : OutboundTrafficMatch) : Fills http tm tm :=
  ⟨rfl, rfl, id, fun _ => rfl, fun _ => rfl⟩

theorem Fills.trans {http : Bool} {tm tm' tm'' : OutboundTrafficMatch} (h : Fills http tm tm')
    (h' : Fills http tm' tm'') : Fills http tm tm'' where
  port := h'.port.trans h.port
  protocol := h'.protocol.trans h.protocol
  rulesApart hr := h'.rulesApart (h.rulesApart hr)
  hosts hb := (h'.hosts hb).trans (h.hosts hb)
  rules hb := (h'.rules hb).trans (h.rules hb)

theorem Fills.foldlM {ι : Type} {http : Bool} {f : Filling → ι → Option Filling}
    (hf : ∀ {st i st'}, f st i = some st' → Fills http st.1 st'.1) {is : List ι}
    {st st' : Filling} (h : is.foldlM f st = some st') : Fills http st.1 st'.1 :=
  Run.invariant_labels (fun _ s => Fills http st.1 s.1) (run_of_foldlM h) (.refl ..)
    fun hs hstep => hs.trans (hf hstep)

/-- The rules of one name are written. -/
theorem RulesApart.insert {tm : OutboundTrafficMatch} (h : RulesApart tm) {name : String}
    {rules : OutboundHTTPRouteRules} (hrules : (rules.map Prod.fst).Nodup) :
    RulesApart
      { tm with httpServiceRouteRules := tm.httpServiceRouteRules.insert name rules } := by
  intro name' rules' h'
  simp only [getElem?_insert_eq] at h'
  split at h'
  · obtain rfl := Option.some.inj h'
    exact hrules
  · exact h name' rules' h'

theorem fills_newHTTPServiceRouteRules (name : String) (tm : OutboundTrafficMatch) :
    Fills true tm (tm.newHTTPServiceRouteRules name) := by
  unfold OutboundTrafficMatch.newHTTPServiceRouteRules
  split
  · exact .refl ..
  · refine ⟨rfl, rfl, fun h => h.insert ?_, nofun, nofun⟩
    cases hr : tm.httpServiceRouteRules[name]? with
    | none => exact List.nodup_nil
    | some rules => exact h name rules hr

theorem fills_foldl_addHTTPHostPort2Service (name : String) (hostnames : List String)
    (tm : OutboundTrafficMatch) :
    Fills true tm
      (hostnames.foldl (fun tm hostname => tm.addHTTPHostPort2Service hostname name) tm) := by
  induction hostnames generalizing tm with
  | nil => exact .refl ..
  | cons hostname hostnames ih =>
    have hone : Fills true tm (tm.addHTTPHostPort2Service hostname name) :=
      ⟨rfl, rfl, id, nofun, nofun⟩
    exact hone.trans (ih _)

theorem fills_addHTTPRoute {order : RangeOrder} {name : String} {st st' : Filling}
    {route : RouteWeightedClusters} (h : addHTTPRoute order name st route = some st') :
    Fills true st.1 st'.1 := by
  unfold addHTTPRoute at h
  obtain ⟨rules, hrules, rfl⟩ := Option.map_eq_some_iff.1 h
  exact ⟨rfl, rfl, fun hr => hr.insert (nodup_keys_upsert _ _ (hr name rules hrules)), nofun, nofun⟩

theorem fills_addHTTPRouteConfig {order : RangeOrder} {st st' : Filling}
    {config : Policy.OutboundTrafficPolicy} (h : addHTTPRouteConfig order st config = some st') :
    Fills true st.1 st'.1 := by
  unfold addHTTPRouteConfig at h
  have hnew := fills_newHTTPServiceRouteRules config.name st.1
  have hhosts := fills_foldl_addHTTPHostPort2Service config.name config.hostnames
    (st.1.newHTTPServiceRouteRules config.name)
  exact (hnew.trans hhosts).trans (Fills.foldlM fills_addHTTPRoute h)

theorem fills_addTCPClusters (http : Bool) (st : Filling) (clusters : List WeightedCluster) :
    Fills http st.1 (addTCPClusters st clusters).1 :=
  ⟨rfl, rfl, id, fun _ => rfl, fun _ => rfl⟩

/-- **What a round of the generator does to its match.** -/
theorem fills_routeTrafficMatch {order : RangeOrder} {outboundPolicy : OutboundMeshTrafficPolicy}
    {trafficMatch : TrafficMatch} {st st' : Filling}
    (h : routeTrafficMatch order outboundPolicy trafficMatch st = some st') :
    Fills (isHTTP (toLower trafficMatch.destinationProtocol)) st.1 st'.1 := by
  unfold routeTrafficMatch at h
  dsimp only at h
  split at h
  · rename_i hhttp
    rw [hhttp]
    obtain ⟨svc, -, h⟩ := Option.bind_eq_some_iff.1 h
    exact Fills.foldlM fills_addHTTPRouteConfig h
  split at h
  · obtain rfl := Option.some.inj h
    exact fills_addTCPClusters ..
  split at h
  · obtain ⟨svc, -, h⟩ := Option.bind_eq_some_iff.1 h
    split at h
    · obtain rfl := Option.some.inj h
      exact .refl ..
    · obtain rfl := Option.some.inj h
      exact fills_addTCPClusters ..
  · obtain rfl := Option.some.inj h
    exact .refl ..

/-! ## One table, two indexes -/

/-- The pointers are positions in the table. -/
def Represents (otp : Pointers.OutboundTrafficPolicy) (otp' : OutboundTrafficPolicy) : Prop :=
  Indexes OutboundTrafficMatch.port otp'.namedTrafficMatches otp.made otp.namedTrafficMatches
    otp.trafficMatches

theorem represents_empty : Represents {} {} := Indexes.empty _

/-- The pointers of a port read as its matches. -/
theorem Represents.trafficMatches {otp : Pointers.OutboundTrafficPolicy}
    {otp' : OutboundTrafficPolicy} (h : Represents otp otp') (port : UInt16) :
    ((otp.trafficMatches.lookup port).getD []).filterMap (otp.made[·]?) =
      otp'.trafficMatches port :=
  h.filterMap_grouped port

structure RouteState.Represents (st : Pointers.RouteState) (st' : RouteState) : Prop where
  otp : Ctrl.Represents st.otp st'.otp
  dependClusters : st.dependClusters = st'.dependClusters

section Round

variable (order : RangeOrder) (outboundPolicy : OutboundMeshTrafficPolicy)

/-- A round in the table: the match of the name is filled, from a new one if there is none. -/
theorem addTrafficMatch_eq_map (st : RouteState) (trafficMatch : TrafficMatch) :
    addTrafficMatch order outboundPolicy st trafficMatch =
      (routeTrafficMatch order outboundPolicy trafficMatch
        ((st.otp.namedTrafficMatches.lookup (namedPort trafficMatch)).getD
          (newTrafficMatch trafficMatch), st.dependClusters)).map fun filled =>
        { otp := { st.otp with
            namedTrafficMatches := upsert (namedPort trafficMatch) (fun _ => filled.1)
              st.otp.namedTrafficMatches }
          dependClusters := filled.2 } := by
  unfold addTrafficMatch
  rw [Option.map_eq_bind]
  rfl

namespace Pointers

theorem addTrafficMatch_known {st : RouteState} {trafficMatch : TrafficMatch} {i : Nat}
    {tm : OutboundTrafficMatch}
    (hi : st.otp.namedTrafficMatches.lookup (namedPort trafficMatch) = some i)
    (htm : st.otp.made[i]? = some tm) :
    addTrafficMatch order outboundPolicy st trafficMatch =
      (routeTrafficMatch order outboundPolicy trafficMatch (tm, st.dependClusters)).map
        fun filled =>
          { otp := { st.otp with made := st.otp.made.set i filled.1 }
            dependClusters := filled.2 } := by
  unfold namedPort at hi
  unfold addTrafficMatch OutboundTrafficPolicy.newTrafficMatch OutboundTrafficPolicy.update
  simp only [hi, htm, if_true, Option.bind_eq_bind, Option.bind_some, Option.map_eq_bind,
    List.set_eq_modify]
  rfl

theorem addTrafficMatch_new {st : RouteState} {trafficMatch : TrafficMatch}
    (hnone : st.otp.namedTrafficMatches.lookup (namedPort trafficMatch) = none) :
    addTrafficMatch order outboundPolicy st trafficMatch =
      (routeTrafficMatch order outboundPolicy trafficMatch
        (newTrafficMatch trafficMatch, st.dependClusters)).map fun filled =>
          let port := uint16 trafficMatch.destinationPort
          { otp :=
              { made := st.otp.made ++ [filled.1]
                namedTrafficMatches := st.otp.namedTrafficMatches.insert (namedPort trafficMatch)
                  st.otp.made.length
                trafficMatches := st.otp.trafficMatches.insert port
                  ((st.otp.trafficMatches.lookup port).getD [] ++ [st.otp.made.length]) }
            dependClusters := filled.2 } := by
  unfold namedPort at hnone ⊢
  unfold addTrafficMatch OutboundTrafficPolicy.newTrafficMatch OutboundTrafficPolicy.update
  simp only [hnone, Bool.false_eq_true, if_false, modify_concat_length,
    List.getElem?_concat_length, Option.bind_eq_bind, Option.bind_some, Option.map_eq_bind]
  rfl

end Pointers

/-- **A round with pointers is a round in the table.** -/
theorem RouteState.Represents.addTrafficMatch {st : Pointers.RouteState} {st' : RouteState}
    (h : RouteState.Represents st st') (trafficMatch : TrafficMatch) :
    Option.Rel RouteState.Represents (Pointers.addTrafficMatch order outboundPolicy st trafficMatch)
      (addTrafficMatch order outboundPolicy st' trafficMatch) := by
  rw [addTrafficMatch_eq_map, h.otp.lookup_table, ← h.dependClusters]
  cases hname : st.otp.namedTrafficMatches.lookup (namedPort trafficMatch) with
  | none =>
    rw [Pointers.addTrafficMatch_new order outboundPolicy hname, Option.bind_none, Option.getD_none]
    cases hfilled : routeTrafficMatch order outboundPolicy trafficMatch
        (newTrafficMatch trafficMatch, st.dependClusters) with
    | none => exact .none
    | some filled =>
      have hport : filled.1.port = uint16 trafficMatch.destinationPort :=
        (fills_routeTrafficMatch hfilled).port
      have hnew := h.otp.upsert_new hname filled.1
      rw [hport] at hnew
      exact .some ⟨hnew, rfl⟩
  | some i =>
    obtain ⟨tm, htm, -⟩ := h.otp.getElem?_table hname
    rw [Pointers.addTrafficMatch_known order outboundPolicy hname htm, Option.bind_some, htm,
      Option.getD_some]
    cases hfilled : routeTrafficMatch order outboundPolicy trafficMatch
        (tm, st.dependClusters) with
    | none => exact .none
    | some filled =>
      exact .some ⟨h.otp.upsert_set hname htm (fills_routeTrafficMatch hfilled).port, rfl⟩

end Round

/-- **The generator with pointers refines the one in the table**, for every policy: both panic, or
both end with the same clusters, and the indexes are those of the table. -/
theorem generate_refines (env : Env) (outboundPolicy : OutboundMeshTrafficPolicy)
    {outbound : Option Pointers.OutboundTrafficPolicy} {conf : PipyConf}
    (h : Option.Rel Represents outbound conf.outbound) :
    Option.Rel (fun r r' => Option.Rel Represents r.1 r'.1.outbound ∧ r.2 = r'.2)
      (Pointers.generatePipyOutboundTrafficRoutePolicy env.order outbound outboundPolicy)
      (generatePipyOutboundTrafficRoutePolicy env conf outboundPolicy) := by
  unfold Pointers.generatePipyOutboundTrafficRoutePolicy generatePipyOutboundTrafficRoutePolicy
  split
  · exact .some ⟨h, rfl⟩
  · have hstart : RouteState.Represents ⟨outbound.getD {}, ∅⟩ ⟨conf.outbound.getD {}, ∅⟩ := by
      refine ⟨?_, rfl⟩
      generalize conf.outbound = o at h ⊢
      cases h with
      | none => exact represents_empty
      | some h => exact h
    have hrun := foldlM_rel (fun t h => h.addTrafficMatch env.order outboundPolicy t)
      outboundPolicy.trafficMatches hstart
    generalize List.foldlM (Pointers.addTrafficMatch env.order outboundPolicy) _ _ = o,
      List.foldlM (addTrafficMatch env.order outboundPolicy) _ _ = o' at hrun ⊢
    cases hrun with
    | none => exact .none
    | some hst => exact .some ⟨.some hst.otp, hst.dependClusters⟩

end Ctrl
