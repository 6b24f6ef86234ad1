import ErieCanalNet.Proxy.Proof.Retry

/-!
# Requests, from the rule to the endpoint

A request to a cluster goes to an endpoint that has a weight (`exists_targetOf`). With a retry policy
it is retried there (`loadBalance_retried`); without one it is sent once more, to an endpoint without
a weight, when the first response is a failure (`loadBalance_pass`). `handleRequest_tried` puts the
clusters of a rule together: a request is sent at most four times, and each time but the last the
response was a failure.
-/

namespace Proxy

open Ctrl Go

variable {rt : Runtime}

/-! ## Endpoints -/

/-- An endpoint of a cluster. -/
def ClusterConfig.HasEndpoint (config : ClusterConfig) (id : String) (endpoint : Endpoint) : Prop :=
  ∃ endpoints ∈ config.endpoints, endpoints[id]? = some endpoint

section

variable {cluster : NamedCluster} {call : Nat}

theorem hasEndpoint_of_targetOf {id : String}
    (h : targetOf rt call (some (makeClusterConfig rt cluster)) = some id) :
    ∃ endpoint, cluster.config.HasEndpoint id endpoint ∧ endpoint.weight ≠ 0 := by
  obtain ⟨weights, hweights, hnext⟩ := Option.bind_eq_some_iff.1 h
  obtain ⟨endpoints, hendpoints, rfl⟩ := Option.map_eq_some_iff.1 hweights
  obtain ⟨weight, hid, hne⟩ := rt.balancer.weight_ne_zero hnext
  rw [Std.ExtTreeMap.getElem?_map] at hid
  obtain ⟨endpoint, he, rfl⟩ := Option.map_eq_some_iff.1 hid
  exact ⟨endpoint, ⟨endpoints, hendpoints, he⟩, hne⟩

theorem exists_targetOf (rt : Runtime) (call : Nat) {id : String} {endpoint : Endpoint}
    (h : cluster.config.HasEndpoint id endpoint) (hw : endpoint.weight ≠ 0) :
    ∃ target, targetOf rt call (some (makeClusterConfig rt cluster)) = some target := by
  obtain ⟨endpoints, hendpoints, he⟩ := h
  have hweights : targetOf rt call (some (makeClusterConfig rt cluster)) =
      rt.balancer.next (endpoints.map fun _ v => v.weight) (call + 1) := by
    show (cluster.config.endpoints.map _).bind _ = _
    rw [hendpoints]
    rfl
  have hid : (endpoints.map fun _ v => v.weight)[id]? = some endpoint.weight := by
    rw [Std.ExtTreeMap.getElem?_map, he]
    rfl
  rw [hweights]
  exact Option.isSome_iff_exists.1 (rt.balancer.isSome_next (call + 1) hid hw)

theorem hasEndpoint_of_failover {targets : Dict UInt32} {id : String}
    (hf : (makeClusterConfig rt cluster).failoverBalancer = some targets)
    (h : rt.balancer.next targets call = some id) :
    ∃ endpoint, cluster.config.HasEndpoint id endpoint ∧ endpoint.weight = 0 := by
  obtain ⟨weights, hweights, hfailover⟩ := Option.bind_eq_some_iff.1 hf
  obtain ⟨endpoints, hendpoints, rfl⟩ := Option.map_eq_some_iff.1 hweights
  have hid := next_failover hfailover h
  rw [Std.ExtTreeMap.getElem?_map] at hid
  obtain ⟨endpoint, he, hw⟩ := Option.map_eq_some_iff.1 hid
  exact ⟨endpoint, ⟨endpoints, hendpoints, he⟩, hw⟩

theorem sentPath_eq {id : String} {endpoint : Endpoint}
    (h : targetOf rt call (some (makeClusterConfig rt cluster)) = some id)
    (he : cluster.config.HasEndpoint id endpoint) (path : String) :
    sentPath rt call (some (makeClusterConfig rt cluster)) path =
      endpoint.path.getD "" ++ path := by
  obtain ⟨endpoints, hendpoints, he⟩ := he
  have hattrs : (makeClusterConfig rt cluster).endpointAttributes = endpoints := by
    show cluster.config.endpoints.getD ∅ = endpoints
    rw [hendpoints]
    rfl
  unfold sentPath
  rw [h, Option.bind_some, Option.bind_some, hattrs, he]
  rfl

theorem loadBalance_retry (hasRoute : Bool) (path : String) (s : Session)
    (h : (makeClusterConfig rt cluster).needRetry = true) :
    loadBalance rt call hasRoute (some cluster) path s =
      retryLoop rt (makeClusterConfig rt cluster) hasRoute
        (targetOf rt call (some (makeClusterConfig rt cluster)))
        (sentPath rt call (some (makeClusterConfig rt cluster)) path)
        { s with failoverObject := failoverOf rt call (some (makeClusterConfig rt cluster)) s } := by
  simp [loadBalance, Option.filter, h]

theorem loadBalance_once (hasRoute : Bool) (path : String) (s : Session)
    (h : (makeClusterConfig rt cluster).needRetry = false) :
    loadBalance rt call hasRoute (some cluster) path s =
      failoverOnce rt hasRoute (targetOf rt call (some (makeClusterConfig rt cluster)))
        (sentPath rt call (some (makeClusterConfig rt cluster)) path)
        { s with failoverObject := failoverOf rt call (some (makeClusterConfig rt cluster)) s } := by
  simp [loadBalance, Option.filter, h]

/-! ## Retries -/

/-- **Retries** go to the endpoint that was taken first. -/
theorem loadBalance_retried {hasRoute : Bool} {path : String} {s : Session} {id : String}
    {endpoint : Endpoint} (hretry : (makeClusterConfig rt cluster).needRetry = true)
    (he : cluster.config.HasEndpoint id endpoint) (hw : endpoint.weight ≠ 0)
    (hs : s.retryCount ≤ (makeClusterConfig rt cluster).numRetries) :
    ∃ target e n, cluster.config.HasEndpoint target e ∧ e.weight ≠ 0 ∧
      s.retryCount + n ≤ (makeClusterConfig rt cluster).numRetries ∧
        Retried rt (makeClusterConfig rt cluster) target (e.path.getD "" ++ path) s n
          (loadBalance rt call hasRoute (some cluster) path s) := by
  obtain ⟨target, htarget⟩ := exists_targetOf rt call he hw
  obtain ⟨e, he, hw⟩ := hasEndpoint_of_targetOf htarget
  rw [loadBalance_retry hasRoute path s hretry, htarget, sentPath_eq htarget he]
  obtain ⟨n, hn, hrun⟩ := retryLoop_spec rt hasRoute target (e.path.getD "" ++ path)
    { s with failoverObject := failoverOf rt call (some (makeClusterConfig rt cluster)) s } hs
  exact ⟨target, e, n, he, hw, hn, ⟨hrun.sent, hrun.status, hrun.retryCount, hrun.retried,
    hrun.ended, hrun.counted, hrun.delays⟩⟩

/-- A runtime whose upstreams are not available. -/
def unavailable : Runtime where
  balancer := .inTurn
  regExp _ _ := true
  respond _ := some 503
  toInt _ := 5
  contains _ _ := false

/-- A cluster with one endpoint and a retry. -/
def retriedCluster : NamedCluster where
  name := "c"
  config :=
    { endpoints := some ((∅ : Dict Endpoint).insert "10.0.0.1:80" ⟨100, none, none⟩)
      retryPolicy := some ⟨some 1, none, none⟩ }

/-- The second response is a failure too, and the last one. -/
theorem loadBalance_retried_once :
    Retried unavailable (makeClusterConfig unavailable retriedCluster) "10.0.0.1:80" "/" {} 1
        (loadBalance unavailable 0 true (some retriedCluster) "/" {}) ∧
      (loadBalance unavailable 0 true (some retriedCluster) "/" {}).2.sent =
        [⟨"10.0.0.1:80", "/"⟩, ⟨"10.0.0.1:80", "/"⟩] := by
  have hone : retriedCluster.config.HasEndpoint "10.0.0.1:80" ⟨100, none, none⟩ :=
    ⟨_, rfl, Std.ExtTreeMap.getElem?_insert_self⟩
  have hretry : (makeClusterConfig unavailable retriedCluster).needRetry = true := rfl
  obtain ⟨target, e, n, he, -, -, hrun⟩ := @loadBalance_retried unavailable retriedCluster 0 true
    "/" {} _ _ hretry hone (by decide) (Nat.zero_le _)
  obtain ⟨rfl, rfl⟩ : "10.0.0.1:80" = target ∧ (⟨100, none, none⟩ : Endpoint) = e := by
    obtain ⟨endpoints, hendpoints, hget⟩ := he
    obtain rfl := Option.some.inj hendpoints
    rw [Std.ExtTreeMap.getElem?_insert] at hget
    simpa using hget
  have hfailed : ∀ sent, retryable (makeClusterConfig unavailable retriedCluster)
      (unavailable.respond sent) = true := fun _ =>
    show retryable (makeClusterConfig unavailable retriedCluster) (some 503) = true by decide
  have hn : 0 + n = 1 := hrun.ended (by rw [hrun.status, hfailed])
  obtain rfl : n = 1 := by omega
  exact ⟨hrun, hrun.sent⟩

/-! ## Failover to an endpoint -/

/-- What a request to a cluster without retries does: its response, and the requests sent. -/
inductive Pass (rt : Runtime) (config : ClusterConfig) (path : String) (sent : List Attempt) :
    Option Nat → List Attempt → Prop
  | noTarget : (∀ id e, config.HasEndpoint id e → e.weight = 0) →
      Pass rt config path sent (some 404) sent
  | once {id : String} {e : Endpoint} : config.HasEndpoint id e → e.weight ≠ 0 →
      (failed (rt.respond (sent ++ [⟨id, e.path.getD "" ++ path⟩])) = true →
        ∀ id' e', config.HasEndpoint id' e' → e'.weight ≠ 0) →
      Pass rt config path sent (rt.respond (sent ++ [⟨id, e.path.getD "" ++ path⟩]))
        (sent ++ [⟨id, e.path.getD "" ++ path⟩])
  | failedOver {id id' : String} {e e' : Endpoint} : config.HasEndpoint id e → e.weight ≠ 0 →
      config.HasEndpoint id' e' → e'.weight = 0 →
      failed (rt.respond (sent ++ [⟨id, e.path.getD "" ++ path⟩])) = true →
      Pass rt config path sent
        (rt.respond (sent ++ [⟨id, e.path.getD "" ++ path⟩] ++ [⟨id', e.path.getD "" ++ path⟩]))
        (sent ++ [⟨id, e.path.getD "" ++ path⟩] ++ [⟨id', e.path.getD "" ++ path⟩])

theorem failoverOf_eq_some {s : Session} {id : String} (hs : s.failoverObject = none)
    (h : failoverOf rt call (some (makeClusterConfig rt cluster)) s = some id) :
    ∃ e, cluster.config.HasEndpoint id e ∧ e.weight = 0 := by
  unfold failoverOf at h
  rw [Option.bind_some] at h
  cases hf : (makeClusterConfig rt cluster).failoverBalancer with
  | none =>
    rw [hf, hs] at h
    cases h
  | some targets =>
    rw [hf] at h
    exact hasEndpoint_of_failover hf h

theorem failoverOf_eq_none {s : Session} {id : String} {e : Endpoint}
    (h : failoverOf rt call (some (makeClusterConfig rt cluster)) s = none)
    (he : cluster.config.HasEndpoint id e) : e.weight ≠ 0 := by
  intro hw
  obtain ⟨endpoints, hendpoints, he⟩ := he
  have hbalancer : (makeClusterConfig rt cluster).failoverBalancer =
      failover (endpoints.map fun _ v => v.weight) := by
    show (cluster.config.endpoints.map _).bind failover = _
    rw [hendpoints]
    rfl
  have hid : (endpoints.map fun _ v => v.weight)[id]? = some 0 := by
    rw [Std.ExtTreeMap.getElem?_map, he, Option.map_some, hw]
  cases hf : failover (endpoints.map fun _ v => v.weight) with
  | none => exact failover_ne_none hid hf
  | some targets =>
    have htarget : targets[id]? = some 1 := by rw [failover_eq_some hf, if_pos hid]
    unfold failoverOf at h
    rw [Option.bind_some, hbalancer, hf] at h
    exact absurd h (Option.isSome_iff_ne_none.1 (rt.balancer.isSome_next call htarget (by decide)))

theorem failoverOnce_noTarget (path : String) (s : Session) :
    failoverOnce rt true none path s = (some 404, s) := by
  unfold failoverOnce upstream
  cases s.failoverObject <;> rfl

theorem failoverOnce_failed {id id' path : String} {s : Session} (hs : s.failoverObject = some id')
    (h : failed (rt.respond (s.sent ++ [⟨id, path⟩])) = true) :
    failoverOnce rt true (some id) path s =
      (rt.respond (s.sent ++ [⟨id, path⟩] ++ [⟨id', path⟩]),
        { s with sent := s.sent ++ [⟨id, path⟩] ++ [⟨id', path⟩], failoverObject := none }) := by
  unfold failoverOnce
  rw [hs]
  exact if_pos h

theorem failoverOnce_answered {id path : String} {s : Session}
    (h : failed (rt.respond (s.sent ++ [⟨id, path⟩])) = true → s.failoverObject = none) :
    failoverOnce rt true (some id) path s =
      (rt.respond (s.sent ++ [⟨id, path⟩]), { s with sent := s.sent ++ [⟨id, path⟩] }) := by
  obtain ⟨retryCount, failoverObject, sent, counted, delays⟩ := s
  cases failoverObject with
  | none => rfl
  | some id' => exact if_neg fun hfail => Option.some_ne_none id' (h hfail)

/-- **A request to a cluster** without retries. -/
theorem loadBalance_pass (call : Nat) (path : String) {s : Session}
    (hretry : (makeClusterConfig rt cluster).needRetry = false) (hs : s.failoverObject = none) :
    Pass rt cluster.config path s.sent (loadBalance rt call true (some cluster) path s).1
        (loadBalance rt call true (some cluster) path s).2.sent ∧
      (failed (loadBalance rt call true (some cluster) path s).1 = true →
        (loadBalance rt call true (some cluster) path s).2.failoverObject = none) := by
  rw [loadBalance_once true path s hretry]
  cases htarget : targetOf rt call (some (makeClusterConfig rt cluster)) with
  | none =>
    rw [failoverOnce_noTarget]
    refine ⟨.noTarget fun id e he => ?_, fun h => by cases h⟩
    by_contra hw
    obtain ⟨target, h⟩ := exists_targetOf rt call he hw
    rw [htarget] at h
    cases h
  | some id =>
    obtain ⟨e, he, hw⟩ := hasEndpoint_of_targetOf htarget
    rw [sentPath_eq htarget he]
    cases hf : failoverOf rt call (some (makeClusterConfig rt cluster)) s with
    | none =>
      rw [failoverOnce_answered fun _ => rfl]
      exact ⟨.once he hw fun _ id' e' he' => failoverOf_eq_none hf he', fun _ => rfl⟩
    | some id' =>
      obtain ⟨e', he', hw'⟩ := failoverOf_eq_some hs hf
      by_cases hfail : failed (rt.respond (s.sent ++ [⟨id, e.path.getD "" ++ path⟩])) = true
      · rw [failoverOnce_failed (s := { s with failoverObject := some id' }) rfl hfail]
        exact ⟨.failedOver he hw he' hw' hfail, fun _ => rfl⟩
      · rw [failoverOnce_answered (s := { s with failoverObject := some id' }) fun h =>
          absurd h hfail]
        exact ⟨.once he hw fun h => absurd h hfail, fun h => absurd h hfail⟩

end

/-! ## Failover to a cluster -/

/-- Each request but the last got a response that is a failure. -/
def AfterFailures (rt : Runtime) (sent : List Attempt) : Prop :=
  ∀ i, 0 < i → i < sent.length → failed (rt.respond (sent.take i)) = true

theorem afterFailures_concat {sent : List Attempt} {a : Attempt} (h : AfterFailures rt sent)
    (hlast : sent ≠ [] → failed (rt.respond sent) = true) : AfterFailures rt (sent ++ [a]) := by
  intro i hpos hi
  rw [List.length_append, List.length_singleton] at hi
  rw [List.take_append_of_le_length (by omega)]
  by_cases hlt : i < sent.length
  · exact h i hpos hlt
  · obtain rfl : i = sent.length := by omega
    rw [List.take_length]
    exact hlast (List.ne_nil_of_length_pos hpos)

theorem Pass.afterFailures {config : ClusterConfig} {path : String} {sent sent' : List Attempt}
    {status : Option Nat} (h : Pass rt config path sent status sent') (hs : AfterFailures rt sent)
    (hlast : sent ≠ [] → failed (rt.respond sent) = true) : AfterFailures rt sent' := by
  cases h with
  | noTarget => exact hs
  | once => exact afterFailures_concat hs hlast
  | failedOver _ _ _ _ hfail =>
    exact afterFailures_concat (afterFailures_concat hs hlast) fun _ => hfail

theorem Pass.append {config : ClusterConfig} {path : String} {sent sent' : List Attempt}
    {status : Option Nat} (h : Pass rt config path sent status sent') :
    ∃ more, sent' = sent ++ more := by
  cases h with
  | noTarget => exact ⟨[], (List.append_nil sent).symm⟩
  | once => exact ⟨_, rfl⟩
  | failedOver => exact ⟨_, List.append_assoc _ _ _⟩

theorem Pass.length_le {config : ClusterConfig} {path : String} {sent sent' : List Attempt}
    {status : Option Nat} (h : Pass rt config path sent status sent') :
    sent'.length ≤ sent.length + 2 := by
  cases h <;> simp

theorem Pass.hasEndpoint {config : ClusterConfig} {path : String} {sent sent' : List Attempt}
    {status : Option Nat} (h : Pass rt config path sent status sent') {a : Attempt}
    (ha : a ∈ sent') : a ∈ sent ∨ ∃ e, config.HasEndpoint a.target e := by
  cases h with
  | noTarget => exact .inl ha
  | once he =>
    rcases List.mem_append.1 ha with ha | ha
    · exact .inl ha
    · rw [List.mem_singleton.1 ha]
      exact .inr ⟨_, he⟩
  | failedOver he _ he' =>
    rcases List.mem_append.1 ha with ha | ha
    · rcases List.mem_append.1 ha with ha | ha
      · exact .inl ha
      · rw [List.mem_singleton.1 ha]
        exact .inr ⟨_, he⟩
    · rw [List.mem_singleton.1 ha]
      exact .inr ⟨_, he'⟩

/-- What a request without retries does, once its rule is known. -/
structure Tried (rt : Runtime) (config : Config IdentifiedMatch) (route : Option RouteRule)
    (path : String) (answer : Option Nat × Session) : Prop where
  atMost : answer.2.sent.length ≤ 4
  afterFailures : AfterFailures rt answer.2.sent
  /-- A request that failed everywhere and has another cluster without a target to go to is not
  found. -/
  status : answer.2.sent ≠ [] → answer.1 = rt.respond answer.2.sent ∨
    failed (rt.respond answer.2.sent) = true ∧ answer.1 = some 404
  answered : answer.2.sent = [] → answer.1 = some (if route.isSome then 404 else 403)
  /-- Requests go to endpoints of the target clusters. -/
  target : ∀ a ∈ answer.2.sent, ∃ rule ∈ route, ∃ name ∈ rule.2,
    ∃ (cluster : ClusterConfig) (e : Endpoint),
      config.clustersConfigs[name]? = some cluster ∧ cluster.HasEndpoint a.target e
  /-- The first one goes to an endpoint with a weight, of a cluster with a weight. -/
  first : ∀ a, answer.2.sent.head? = some a → ∃ rule ∈ route,
    ∃ (name : String) (weight : UInt32) (cluster : ClusterConfig) (e : Endpoint),
      rule.2[name]? = some weight ∧ weight ≠ 0 ∧ config.clustersConfigs[name]? = some cluster ∧
        cluster.HasEndpoint a.target e ∧ e.weight ≠ 0 ∧ a.path = e.path.getD "" ++ path

section

variable {config : Config IdentifiedMatch} {rule : RouteRule} {path : String}

theorem loadBalance_none (rt : Runtime) (call : Nat) (hasRoute : Bool) (path : String) :
    loadBalance rt call hasRoute none path {} = (some (if hasRoute then 404 else 403), {}) := rfl

theorem Pass.status {config : ClusterConfig} {sent sent' : List Attempt}
    {status : Option Nat} (h : Pass rt config path sent status sent') :
    (sent' = sent ∧ status = some 404) ∨ (sent' ≠ [] ∧ status = rt.respond sent') := by
  cases h with
  | noTarget => exact .inl ⟨rfl, rfl⟩
  | once => exact .inr ⟨by simp, rfl⟩
  | failedOver => exact .inr ⟨by simp, rfl⟩

/-- A cluster with a weighted endpoint is sent the request. -/
theorem Pass.sent_ne_nil {config : ClusterConfig} {sent sent' : List Attempt}
    {status : Option Nat} (h : Pass rt config path sent status sent') {id : String} {e : Endpoint}
    (he : config.HasEndpoint id e) (hw : e.weight ≠ 0) : sent' ≠ [] := by
  cases h with
  | noTarget hall => exact absurd (hall id e he) hw
  | once => simp
  | failedOver => simp

theorem Pass.head {config : ClusterConfig} {sent' : List Attempt} {status : Option Nat} {a : Attempt}
    (h : Pass rt config path [] status sent') (ha : sent'.head? = some a) :
    ∃ e, config.HasEndpoint a.target e ∧ e.weight ≠ 0 ∧ a.path = e.path.getD "" ++ path := by
  cases h with
  | noTarget => cases ha
  | once he hw =>
    obtain rfl := Option.some.inj ha
    exact ⟨_, he, hw, rfl⟩
  | failedOver he hw =>
    obtain rfl := Option.some.inj ha
    exact ⟨_, he, hw, rfl⟩

theorem mem_of_getElem?_dict {V : Type} {d : Dict V} {k : String} {v : V} (h : d[k]? = some v) :
    k ∈ d := Std.ExtTreeMap.mem_iff_isSome_getElem?.2 (Option.isSome_iff_exists.2 ⟨v, h⟩)

/-- A cluster that a balancer of a rule has named. -/
theorem cluster_next {targets : Dict UInt32} {call : Nat} {cluster : NamedCluster}
    (hundef : undefined ∉ config.clustersConfigs)
    (h : config.cluster ((rt.balancer.next targets call).getD undefined) = some cluster) :
    ∃ weight, targets[cluster.name]? = some weight ∧ weight ≠ 0 ∧
      config.clustersConfigs[cluster.name]? = some cluster.config := by
  obtain ⟨c, hc, rfl⟩ := Option.map_eq_some_iff.1 h
  cases hnext : rt.balancer.next targets call with
  | none =>
    rw [hnext] at hc
    exact absurd (mem_of_getElem?_dict hc) hundef
  | some name =>
    rw [hnext] at hc
    obtain ⟨weight, hw, hne⟩ := rt.balancer.weight_ne_zero hnext
    exact ⟨weight, hw, hne, hc⟩

theorem tried_nothing (rt : Runtime) (config : Config IdentifiedMatch) (route : Option RouteRule)
    (path : String) :
    Tried rt config route path (some (if route.isSome then 404 else 403), {}) where
  atMost := Nat.zero_le 4
  afterFailures := fun i _ hi => absurd hi (Nat.not_lt_zero i)
  status := absurd rfl
  answered := fun _ => rfl
  target := fun _ ha => absurd ha List.not_mem_nil
  first := fun _ ha => by cases ha

/-- The first cluster answers. -/
theorem Tried.of_pass {cluster : NamedCluster} {weight : UInt32} {answer : Option Nat × Session}
    (hname : rule.2[cluster.name]? = some weight) (hw : weight ≠ 0)
    (hconf : config.clustersConfigs[cluster.name]? = some cluster.config)
    (h : Pass rt cluster.config path [] answer.1 answer.2.sent) :
    Tried rt config (some rule) path answer where
  atMost := by
    have := h.length_le
    simp only [List.length_nil] at this
    omega
  afterFailures := h.afterFailures (fun i _ hi => absurd hi (Nat.not_lt_zero i)) (absurd rfl)
  status hne := by
    cases h.status with
    | inl h => exact absurd h.1 hne
    | inr h => exact .inl h.2
  answered hnil := by
    cases h.status with
    | inl h => exact h.2
    | inr h => exact absurd hnil h.1
  target a ha := by
    cases h.hasEndpoint ha with
    | inl h => cases h
    | inr h =>
      obtain ⟨e, he⟩ := h
      exact ⟨rule, rfl, cluster.name, mem_of_getElem?_dict hname, cluster.config, e, hconf, he⟩
  first a ha := by
    obtain ⟨e, he, hwe, hpath⟩ := h.head ha
    exact ⟨rule, rfl, cluster.name, weight, cluster.config, e, hname, hw, hconf, he, hwe, hpath⟩

/-- The second cluster answers, after a failure. -/
theorem Tried.again {cluster : NamedCluster} {answer answer' : Option Nat × Session}
    (h : Tried rt config (some rule) path answer) (hlen : answer.2.sent.length ≤ 2)
    (hsent : answer.2.sent ≠ []) (hfail : failed (rt.respond answer.2.sent) = true)
    (hmem : cluster.name ∈ rule.2)
    (hconf : config.clustersConfigs[cluster.name]? = some cluster.config)
    (hpass : Pass rt cluster.config path answer.2.sent answer'.1 answer'.2.sent) :
    Tried rt config (some rule) path answer' := by
  obtain ⟨more, hmore⟩ := hpass.append
  refine ⟨by have := hpass.length_le; omega, hpass.afterFailures h.afterFailures fun _ => hfail,
    fun _ => ?_, fun hnil => ?_, fun a ha => ?_, fun a ha => ?_⟩
  · cases hpass.status with
    | inl hs => exact .inr ⟨hs.1 ▸ hfail, hs.2⟩
    | inr hs => exact .inl hs.2
  · rw [hmore] at hnil
    exact absurd (List.append_eq_nil_iff.1 hnil).1 hsent
  · cases hpass.hasEndpoint ha with
    | inl ha => exact h.target a ha
    | inr he =>
      obtain ⟨e, he⟩ := he
      exact ⟨rule, rfl, cluster.name, hmem, cluster.config, e, hconf, he⟩
  · rw [hmore, List.head?_append_of_ne_nil _ hsent] at ha
    exact h.first a ha

end

section

variable {config : Config IdentifiedMatch} {port : IdentifiedMatch} {head : RequestHead}
  (hretry : ∀ (name : String) (cluster : ClusterConfig),
    config.clustersConfigs[name]? = some cluster → cluster.retryPolicy = none)
  (hundef : undefined ∉ config.clustersConfigs)

include hretry in
theorem needRetry_eq_false {cluster : NamedCluster}
    (h : config.clustersConfigs[cluster.name]? = some cluster.config) :
    (makeClusterConfig rt cluster).needRetry = false := by
  simp [makeClusterConfig, BalancedCluster.needRetry, hretry _ _ h]

/-- A request to a cluster that is not there. -/
theorem handleRequest_of_none (call : Nat) {rule : RouteRule}
    (hroute : routeOf rt port head = some rule)
    (hc : config.cluster ((rt.balancer.next rule.2 call).getD undefined) = none) :
    handleRequest rt config call port head = (some 404, {}) := by
  unfold handleRequest
  rw [hroute]
  dsimp only
  rw [hc, loadBalance_none]
  -- a request that is not found does not go to another cluster
  split <;> rfl

include hretry hundef in
/-- The requests to the first cluster, and those to the second after a failure. -/
theorem handleRequest_passes (call : Nat) {rule : RouteRule}
    (hroute : routeOf rt port head = some rule) {cluster : NamedCluster}
    (hc : config.cluster ((rt.balancer.next rule.2 call).getD undefined) = some cluster) :
    ∃ answer : Option Nat × Session, Pass rt cluster.config head.path [] answer.1 answer.2.sent ∧
      (handleRequest rt config call port head = answer ∨ failed answer.1 = true ∧
        ∃ cluster' : NamedCluster, cluster'.name ∈ rule.2 ∧
          config.clustersConfigs[cluster'.name]? = some cluster'.config ∧
          Pass rt cluster'.config head.path answer.2.sent
            (handleRequest rt config call port head).1
            (handleRequest rt config call port head).2.sent) := by
  obtain ⟨weight, -, -, hconf⟩ := cluster_next hundef hc
  obtain ⟨hpass, hobject⟩ :=
    loadBalance_pass (s := {}) (call + 2) head.path (needRetry_eq_false hretry hconf) rfl
  refine ⟨_, hpass, ?_⟩
  unfold handleRequest
  rw [hroute]
  dsimp only
  rw [hc]
  split
  · rename_i cluster' hc'
    obtain ⟨targets, hfailover, hc'⟩ := Option.bind_eq_some_iff.1 hc'
    obtain ⟨weight', hname', -, hconf'⟩ := cluster_next hundef hc'
    split
    · rename_i hfail
      refine .inr ⟨hfail, cluster', ?_, hconf', (loadBalance_pass (call + 4) head.path
        (needRetry_eq_false hretry hconf') (hobject hfail)).1⟩
      rw [failover_eq_some hfailover] at hname'
      split at hname'
      · exact mem_of_getElem?_dict ‹_›
      · cases hname'
    · exact .inl rfl
  · exact .inl rfl

include hretry hundef

/-- **A request** of a configuration without retry policies is sent to the target clusters of its
rule, at most four times, and again only after a failure. -/
theorem handleRequest_tried (rt : Runtime) (call : Nat) (port : IdentifiedMatch)
    (head : RequestHead) :
    Tried rt config (routeOf rt port head) head.path (handleRequest rt config call port head) := by
  cases hroute : routeOf rt port head with
  | none =>
    unfold handleRequest
    rw [hroute]
    exact tried_nothing rt config none head.path
  | some rule =>
    cases hc : config.cluster ((rt.balancer.next rule.2 call).getD undefined) with
    | none =>
      rw [handleRequest_of_none call hroute hc]
      exact tried_nothing rt config (some rule) head.path
    | some cluster =>
      obtain ⟨weight, hname, hw, hconf⟩ := cluster_next hundef hc
      obtain ⟨answer, hpass, hcases⟩ := handleRequest_passes hretry hundef call hroute hc
      have htried : Tried rt config (some rule) head.path answer := .of_pass hname hw hconf hpass
      rcases hcases with heq | ⟨hfail, cluster', hmem, hconf', hpass'⟩
      · rwa [heq]
      · cases hpass.status with
        | inl h => simp [h.2, failed] at hfail
        | inr h => exact htried.again hpass.length_le h.1 (h.2 ▸ hfail) hmem hconf' hpass'

/-- **A request is sent** if and only if its rule has a target cluster with a weight, where such
clusters have endpoints with weights: the clusters to fail over to do not count. -/
theorem handleRequest_sent_iff (call : Nat) {rule : RouteRule}
    (hroute : routeOf rt port head = some rule)
    (hserve : ∀ (name : String) (weight : UInt32), rule.2[name]? = some weight → weight ≠ 0 →
      ∃ (cluster : ClusterConfig) (id : String) (e : Endpoint),
        config.clustersConfigs[name]? = some cluster ∧ cluster.HasEndpoint id e ∧ e.weight ≠ 0) :
    (handleRequest rt config call port head).2.sent ≠ [] ↔
      ∃ (name : String) (weight : UInt32), rule.2[name]? = some weight ∧ weight ≠ 0 := by
  constructor
  · intro hsent
    obtain ⟨a, rest, hcons⟩ := List.exists_cons_of_ne_nil hsent
    obtain ⟨rule', hrule', name, weight, -, -, hname, hw, -⟩ :=
      (handleRequest_tried hretry hundef rt call port head).first a (by rw [hcons]; rfl)
    rw [hroute] at hrule'
    obtain rfl := Option.some.inj hrule'
    exact ⟨name, weight, hname, hw⟩
  · intro h
    obtain ⟨name, weight, hname, hw⟩ := h
    obtain ⟨name', hnext⟩ := Option.isSome_iff_exists.1 (rt.balancer.isSome_next call hname hw)
    obtain ⟨weight', hname', hw'⟩ := rt.balancer.weight_ne_zero hnext
    obtain ⟨cluster, id, e, hconf, he, hwe⟩ := hserve name' weight' hname' hw'
    have hcluster : config.cluster ((rt.balancer.next rule.2 call).getD undefined) =
        some ⟨name', cluster⟩ := by
      rw [hnext, Option.getD_some, Config.cluster, hconf]
      rfl
    obtain ⟨answer, hpass, hcases⟩ := handleRequest_passes hretry hundef call hroute hcluster
    have hsent : answer.2.sent ≠ [] := hpass.sent_ne_nil he hwe
    rcases hcases with heq | ⟨-, cluster', -, -, hpass'⟩
    · rwa [heq]
    · obtain ⟨more, hmore⟩ := hpass'.append
      rw [hmore]
      exact List.append_ne_nil_of_left_ne_nil hsent more

end

end Proxy
