import ErieCanalNet.Ctrl.Proof.Clusters

/-!
# The addresses the proxy dials

The second pass prints an endpoint with a port of its own choice: the target port of the cluster's
service for an endpoint of another cluster, the service's port for all others. The lookup of the
endpoints went by the target port.

* `mem_fillTable`: the keys of a table are the addresses dialled;
* `hostPort_eq_iff`: an IPv4 key is printed for an endpoint of that address;
* `port_of_mem_upstream`: with a target port, every endpoint of the cluster listens on it;
* `dials_listed_iff`: every IPv4 key is an endpoint's own address and port exactly when the ports
  agree where they matter (`Dialable`).
-/

namespace Ctrl

open Go K8s Lib Mesh Policy

/-! ## The property and its condition -/

/-- Every IPv4 address and port in a table is an endpoint's of the cluster. -/
def DialsListed (mc : MeshCatalog) (conf : PipyConf) : Prop :=
  ∀ (name : String) (wes : WeightedEndpoints), conf.clustersConfigs[name]? = some wes →
    ∀ (ip : IP) (port : Nat), ip.to4.isSome = true → (ip.string ++ ":" ++ toString port) ∈ wes →
      ∃ e ∈ getUpstreamEndpoints mc name, e.ip = ip ∧ e.port.toNat = port

/-- The port of the service is one its IPv4 endpoints listen on, where it is dialled: with a target
port, all of them are of other clusters or the port is the target port; without one, each address
has an endpoint on the port. -/
def Dialable (mc : MeshCatalog) (svc : MeshService) : Prop :=
  ∀ e ∈ getUpstreamEndpoints mc svc.clusterName, e.ip.to4.isSome = true →
    if svc.targetPort = 0 then
      ∃ e' ∈ getUpstreamEndpoints mc svc.clusterName, e'.ip = e.ip ∧ e'.port.toNat = svc.port.toNat
    else e.clusterKey ≠ "" ∨ svc.port = svc.targetPort

/-- The service whose config a cluster has. -/
def FirstOf (services : List MeshService) (svc : MeshService) : Prop :=
  services.find? (fun m => m.clusterName = svc.clusterName) = some svc

variable {mc : MeshCatalog}

/-! ## Keys -/

theorem addUpstreamEndpoint_eq (svc : MeshService) : addUpstreamEndpoint svc = fun wes e =>
    wes.insert (hostPort e.ip.string (dialPort svc e))
      ⟨e.weight, e.clusterKey, e.lbType, e.path⟩ := rfl

theorem mem_foldl_addUpstreamEndpoint (svc : MeshService) (endpoints : List Endpoint) (key : String) :
    key ∈ endpoints.foldl (addUpstreamEndpoint svc) ∅ ↔
      ∃ e ∈ endpoints, hostPort e.ip.string (dialPort svc e) = key := by
  rw [addUpstreamEndpoint_eq, Std.ExtTreeMap.mem_iff_isSome_getElem?,
    getElem?_foldl_insert _ (fun (e : Endpoint) _ => _), groupFold_isSome]
  simp

/-- An IPv4 key is printed for an endpoint of that address only. -/
theorem hostPort_eq_iff {e : IP} {dial : UInt16} {ip : IP} {port : Nat}
    (hip : ip.to4.isSome = true) :
    hostPort e.string dial = ip.string ++ ":" ++ toString port ↔ e = ip ∧ dial.toNat = port := by
  have hsep : ∀ n : Nat, ':' ∉ (toString n).toList := notMem_toString (by decide)
  constructor
  · intro h
    by_cases he : e.to4.isSome = true
    · rw [hostPort, endsInPort_string he, if_neg Bool.false_ne_true] at h
      obtain ⟨hs, hp⟩ := append_sep_inj_right (hsep _) (hsep _) rfl h
      exact ⟨(string_inj he hip).1 hs, toString_inj.1 hp⟩
    · -- the text of any other address has no dot
      exfalso
      have hdot : '.' ∈ (hostPort e.string dial).toList := by
        rw [h, String.toList_append, String.toList_append]
        simp [dot_mem_string hip]
      have hno := dot_notMem_string (Option.not_isSome_iff_eq_none.1 he)
      rw [hostPort] at hdot
      split at hdot
      · exact hno hdot
      · simp only [String.toList_append, List.mem_append] at hdot
        rcases hdot with (hdot | hdot) | hdot
        · exact hno hdot
        · revert hdot
          decide
        · exact notMem_toString (by decide) _ hdot
  · rintro ⟨rfl, rfl⟩
    rw [hostPort, endsInPort_string hip, if_neg Bool.false_ne_true]

/-! ## Ports -/

theorem port_of_mem_endpointsOf {svc : MeshService} {eps : Endpoints}
    {mk : IP → EndpointAddress → EndpointPort → Endpoint}
    (hmk : ∀ ip a p, (mk ip a p).port = UInt32.ofInt p.port) (ht : svc.targetPort ≠ 0) {e : Endpoint}
    (he : e ∈ endpointsOf svc eps mk) : e.port = UInt32.ofInt (svc.targetPort.toNat : Int) := by
  obtain ⟨ip, address, port, hport, rfl⟩ := exists_of_mem_endpointsOf he
  rw [hmk, hport ht]

theorem toNat_ofInt_port (port : UInt16) : (UInt32.ofInt (port.toNat : Int)).toNat = port.toNat := by
  have hlt := port.toNat_lt
  rw [UInt32.ofInt, UInt32.toNat_ofNat_of_lt']
  · omega
  · simp only [UInt32.size]
    omega

/-- With a target port, every endpoint of the cluster listens on it. -/
theorem port_of_mem_upstream {svc : MeshService} (hv : NameValid svc) (ht : svc.targetPort ≠ 0)
    {e : Endpoint} (he : e ∈ getUpstreamEndpoints mc svc.clusterName) :
    e.port.toNat = svc.targetPort.toNat := by
  suffices h : e.port = UInt32.ofInt (svc.targetPort.toNat : Int) by rw [h, toNat_ofInt_port]
  rw [getUpstreamEndpoints, hv.clusterToMeshSvc] at he
  rcases List.mem_append.1 he with he | he
  · rw [Kube.listEndpointsForService] at he
    split at he
    · cases he
    · exact port_of_mem_endpointsOf (fun _ _ _ => rfl) ht he
  · rw [Fsm.listEndpointsForService] at he
    split at he
    · cases he
    · exact port_of_mem_endpointsOf (fun _ _ _ => rfl) ht he

/-- The address an endpoint is dialled on is listed. -/
theorem dialable_iff {svc : MeshService} (hv : NameValid svc) :
    (∀ e ∈ getUpstreamEndpoints mc svc.clusterName, e.ip.to4.isSome = true →
      ∃ e' ∈ getUpstreamEndpoints mc svc.clusterName, e'.ip = e.ip ∧
        e'.port.toNat = (dialPort svc e).toNat) ↔ Dialable mc svc := by
  refine forall₂_congr fun e he => imp_congr_right fun _ => ?_
  by_cases ht : svc.targetPort = 0
  · have hdial : dialPort svc e = svc.port := by simp [dialPort, ht]
    rw [if_pos ht, hdial]
  · rw [if_neg ht]
    have hpos : 0 < svc.targetPort := UInt16.pos_iff_ne_zero.2 ht
    by_cases hkey : e.clusterKey = ""
    · have hdial : dialPort svc e = svc.port := by simp [dialPort, hkey]
      rw [hdial]
      constructor
      · rintro ⟨e', he', -, hport⟩
        rw [port_of_mem_upstream hv ht he'] at hport
        exact .inr (UInt16.toNat_inj.1 hport.symm)
      · rintro (hne | hport)
        · exact (hne hkey).elim
        · exact ⟨e, he, rfl, by rw [port_of_mem_upstream hv ht he, hport]⟩
    · have hlen : 0 < e.clusterKey.length := by
        simpa [Nat.pos_iff_ne_zero] using hkey
      have hdial : dialPort svc e = svc.targetPort := by simp [dialPort, hlen, hpos]
      rw [hdial]
      exact iff_of_true ⟨e, he, rfl, port_of_mem_upstream hv ht he⟩ (.inl hkey)

/-! ## The tables -/

/-- The tables of the routed clusters, each under the config of its first service. -/
theorem forall_tables_iff {services : List MeshService} {P : String → WeightedEndpoints → Prop} :
    (∀ (name : String) (wes : WeightedEndpoints), (tablesOf mc services)[name]? = some wes →
      P name wes) ↔
      ∀ svc, FirstOf services svc → svc.clusterName ∈ namesOf services →
        P svc.clusterName
          ((getUpstreamEndpoints mc svc.clusterName).foldl (addUpstreamEndpoint svc) ∅) := by
  constructor
  · intro h svc hfirst hname
    refine h _ _ ((getElem?_tablesOf services _).trans ?_)
    rw [if_pos hname, fillTable, show services.find? _ = some svc from hfirst]
    rfl
  · intro h name wes hwes
    rw [getElem?_tablesOf] at hwes
    split at hwes
    · rename_i hname
      obtain ⟨svc, hsvc⟩ := exists_find?_clusterName hname
      have heq : svc.clusterName = name := by simpa using List.find?_some hsvc
      obtain rfl := Option.some.inj hwes
      subst heq
      rw [fillTable, hsvc]
      exact h svc hsvc hname
    · cases hwes

/-- **The proxy dials listed addresses only exactly when** every routed cluster's first service is
dialable. -/
theorem dials_listed_iff (env : Env) (c : Cluster) {conf : PipyConf} (hconf : conf.outbound = none) :
    (∃ conf' ready, outbound env c.toMeshCatalog conf = some (conf', ready) ∧
      DialsListed c.toMeshCatalog conf') ↔
      ∀ svc, FirstOf c.listMeshServices svc → svc.clusterName ∈ namesOf c.listMeshServices →
        Dialable c.toMeshCatalog svc := by
  have hv := c.nameValid
  have hout := outbound_eq env hconf hv
  have hiff : ∀ conf', conf'.clustersConfigs = tablesOf c.toMeshCatalog c.listMeshServices →
      (DialsListed c.toMeshCatalog conf' ↔ ∀ svc, FirstOf c.listMeshServices svc →
        svc.clusterName ∈ namesOf c.listMeshServices → Dialable c.toMeshCatalog svc) := by
    intro conf' htables
    rw [DialsListed, htables, forall_tables_iff]
    refine forall₂_congr fun svc hfirst => imp_congr_right fun _ => ?_
    rw [← dialable_iff (hv svc (List.mem_of_find?_eq_some hfirst))]
    simp only [mem_foldl_addUpstreamEndpoint]
    constructor
    · intro h e he hip
      exact h e.ip _ hip ⟨e, he, (hostPort_eq_iff hip).2 ⟨rfl, rfl⟩⟩
    · rintro h ip port hip ⟨e, he, hkey⟩
      obtain ⟨rfl, rfl⟩ := (hostPort_eq_iff hip).1 hkey
      exact h e he hip
  constructor
  · rintro ⟨conf', ready, hrun, hdials⟩
    rw [hout] at hrun
    obtain ⟨rfl, -⟩ := Prod.mk.inj (Option.some.inj hrun)
    exact (hiff _ (clustersConfigs_of_outbound rfl)).1 hdials
  · intro h
    exact ⟨_, _, hout, (hiff _ (clustersConfigs_of_outbound rfl)).2 h⟩

theorem dials_listed_one_import :
    ∃ conf' ready, outbound (.asIs "cluster.local")
        (importCluster .activeActive [] [importEntry 80 "10.0.0.1" 8080]).toMeshCatalog {} =
          some (conf', ready) ∧
      DialsListed (importCluster .activeActive [] [importEntry 80 "10.0.0.1" 8080]).toMeshCatalog
        conf' := by
  have hconf : ({} : PipyConf).outbound = none := rfl
  refine (dials_listed_iff (.asIs "cluster.local") _ hconf).2 fun svc hfirst _ => ?_
  have hlist : (importCluster .activeActive []
      [importEntry 80 "10.0.0.1" 8080]).listMeshServices =
        [⟨"default", "web", 80, 8080, "http", "c"⟩] := by decide +kernel
  have hmem := List.mem_of_find?_eq_some hfirst
  rw [hlist] at hmem
  obtain rfl := List.mem_singleton.1 hmem
  unfold Dialable
  decide +kernel

/-- A cluster whose only import, `default/web` on 80 → 8080, has a local service beside it. -/
def sharedCluster : Cluster :=
  let md : ObjectMeta := webMeta
  let port : ServicePort := ⟨"http", "TCP", none, 80, 8080⟩
  let subset : EndpointSubset := ⟨[⟨"10.0.0.2", ""⟩], [⟨"http", "TCP", none, 8080⟩]⟩
  { importCluster .activeActive [] [importEntry 80 "10.0.0.1" 8080] with
    kube :=
      { services := ⟨[⟨md, "s", "10.96.0.1", ["10.96.0.1"], [port]⟩], by simp⟩
        endpoints := ⟨[⟨md, ∅, [subset]⟩], by simp⟩ }
    serviceName := by simp [md]; decide
    hostname := by simp [subset] }

/-- The local endpoint of the shared service listens on 8080 and is dialled on 80. -/
theorem not_dials_listed_shared :
    ∃ conf' ready, outbound (.asIs "cluster.local") sharedCluster.toMeshCatalog {} =
        some (conf', ready) ∧ ¬ DialsListed sharedCluster.toMeshCatalog conf' := by
  have heval : (outbound (.asIs "cluster.local") sharedCluster.toMeshCatalog {}).map (fun r =>
      (r.1.clustersConfigs["default/web|8080"]?).map (·.contains "10.0.0.2:80")) =
        some (some true) := by
    decide +kernel
  have hport : ∀ e ∈ getUpstreamEndpoints sharedCluster.toMeshCatalog "default/web|8080",
      e.port.toNat ≠ 80 := by
    decide +kernel
  obtain ⟨⟨conf', ready⟩, hrun, htable⟩ := Option.map_eq_some_iff.1 heval
  obtain ⟨wes, hwes, hkey⟩ := Option.map_eq_some_iff.1 htable
  refine ⟨conf', ready, hrun, fun h => ?_⟩
  have hmem : (ipv4 10 0 0 2).string ++ ":" ++ toString 80 ∈ wes := by
    rw [show (ipv4 10 0 0 2).string ++ ":" ++ toString 80 = "10.0.0.2:80" by decide]
    exact Std.ExtTreeMap.mem_iff_contains.2 hkey
  obtain ⟨e, he, -, hp⟩ := h _ wes hwes (ipv4 10 0 0 2) 80 rfl hmem
  exact hport e he hp

end Ctrl
