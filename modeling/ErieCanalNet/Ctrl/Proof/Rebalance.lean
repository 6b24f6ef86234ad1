import ErieCanalNet.Ctrl.Proof.Clusters

/-!
# Rebalanced weights

`rebalancedOutboundClusters` changes the weights of the endpoints and nothing else (`rebalanced`):
the new weight of an endpoint depends on the others only through the presence of a local one
(`HasLocal`), which the change itself keeps.

* `rebalanced_pos`: apart from the fail-over endpoints beside a local one, every weight is positive;
* `rebalanced_clusters`: what this means for every cluster of a configuration.
-/

namespace Ctrl

open Go

/-- A cluster has a local endpoint. -/
def HasLocal (wes : WeightedEndpoints) : Prop :=
  ∃ (key : String) (e : WeightedZoneEndpoint), wes[key]? = some e ∧ e.cluster = ""

/-- The endpoints of other clusters are of a type that is rebalanced. -/
def Balanceable (wes : WeightedEndpoints) : Prop :=
  ∀ (key : String) (e : WeightedZoneEndpoint), wes[key]? = some e → e.cluster ≠ "" →
    e.lbType = "FailOver" ∨ e.lbType = "ActiveActive"

/-- The endpoints of a cluster, before and after. -/
structure Rebalanced (wes wes' : WeightedEndpoints) : Prop where
  keys : ∀ key, key ∈ wes' ↔ key ∈ wes
  positive : ∀ key, key ∈ wes →
    ∃ (key' : String) (e : WeightedZoneEndpoint), wes'[key']? = some e ∧ 0 < e.weight
  failOver : ∀ (key : String) (e e' : WeightedZoneEndpoint), wes[key]? = some e →
    wes'[key]? = some e' → e.cluster ≠ "" → e.lbType = "FailOver" → (e'.weight = 0 ↔ HasLocal wes)
  kept : ∀ (key : String) (e : WeightedZoneEndpoint), wes[key]? = some e → 0 < e.weight →
    e.cluster = "" ∨ e.lbType = "ActiveActive" → wes'[key]? = some e

/-! ## One endpoint -/

section Endpoint

variable (b : Bool) (e : WeightedZoneEndpoint)

theorem rebalanced_eq : rebalanced b e = { e with weight := (rebalanced b e).weight } := by
  unfold rebalanced
  split_ifs <;> rfl

theorem cluster_rebalanced : (rebalanced b e).cluster = e.cluster := by rw [rebalanced_eq]

theorem rebalanced_rebalanced : rebalanced b (rebalanced b e) = rebalanced b e := by
  unfold rebalanced
  -- only the weight changes, so the second pass takes the branch of the first
  by_cases hc : 0 < e.cluster.length
  · by_cases hf : e.lbType = "FailOver"
    · simp only [if_pos hc, if_pos hf]
    · by_cases ha : e.lbType = "ActiveActive"
      · by_cases hw : e.weight = 0
        · simp only [if_pos hc, if_neg hf, if_pos ha, if_pos hw, ite_self]
        · simp only [if_pos hc, if_neg hf, if_pos ha, if_neg hw]
      · simp only [if_pos hc, if_neg hf, if_neg ha]
  · by_cases hw : e.weight = 0
    · simp only [if_neg hc, if_pos hw, ite_self]
    · simp only [if_neg hc, if_neg hw]

variable {b e}

theorem rebalanced_failOver (hc : e.cluster ≠ "") (hl : e.lbType = "FailOver") :
    (rebalanced b e).weight = 0 ↔ b = true := by
  have hlen : 0 < e.cluster.length := by simpa [Nat.pos_iff_ne_zero] using hc
  rw [rebalanced, if_pos hlen, if_pos hl]
  cases b <;> simp

theorem rebalanced_kept (hw : 0 < e.weight) (h : e.cluster = "" ∨ e.lbType = "ActiveActive") :
    rebalanced b e = e := by
  have hne : e.weight ≠ 0 := UInt32.pos_iff_ne_zero.1 hw
  rcases h with hc | hl
  · simp [rebalanced, hc, hne]
  · simp [rebalanced, hl, hne]

/-- A fail-over endpoint beside a local one has weight zero, every other endpoint a positive one. -/
theorem rebalanced_pos (hl : e.cluster ≠ "" → e.lbType = "FailOver" ∨ e.lbType = "ActiveActive")
    (h : e.cluster = "" ∨ b = false) : 0 < (rebalanced b e).weight := by
  have hpos : ∀ e : WeightedZoneEndpoint,
      0 < (if e.weight = 0 then { e with weight := 100 } else e).weight := by
    intro e
    split
    · exact (by decide : (0 : UInt32) < 100)
    · rename_i hw
      exact UInt32.pos_iff_ne_zero.2 hw
  by_cases hc : e.cluster = ""
  · rw [rebalanced, if_neg (by simp [hc])]
    exact hpos e
  · have hlen : 0 < e.cluster.length := by simpa [Nat.pos_iff_ne_zero] using hc
    rw [rebalanced, if_pos hlen]
    rcases hl hc with hfo | haa
    · rw [if_pos hfo, h.resolve_left hc]
      exact (by decide : (0 : UInt32) < 100)
    · rw [if_neg (by simp [haa]), if_pos haa]
      exact hpos e

end Endpoint

/-! ## The endpoints of a cluster -/

variable {wes : WeightedEndpoints}

theorem any_isEmpty_iff : (wes.toList.any fun entry => entry.2.cluster.isEmpty) = true ↔
    HasLocal wes := by
  simp [HasLocal, List.any_eq_true, Prod.exists, Std.ExtTreeMap.mem_toList_iff_getElem?_eq_some]

theorem getElem?_rebalancedEndpoints (wes : WeightedEndpoints) : ∃ b : Bool,
    (b = true ↔ HasLocal wes) ∧ ∀ key : String, (rebalancedEndpoints wes)[key]? =
      wes[key]?.map (rebalanced b) :=
  ⟨_, any_isEmpty_iff, fun _ => Std.ExtTreeMap.getElem?_map⟩

theorem hasLocal_rebalancedEndpoints : HasLocal (rebalancedEndpoints wes) ↔ HasLocal wes := by
  obtain ⟨b, -, hget⟩ := getElem?_rebalancedEndpoints wes
  simp only [HasLocal, hget, Option.map_eq_some_iff]
  constructor
  · rintro ⟨key, -, ⟨e, he, rfl⟩, hc⟩
    exact ⟨key, e, he, by rwa [cluster_rebalanced] at hc⟩
  · rintro ⟨key, e, he, hc⟩
    exact ⟨key, _, ⟨e, he, rfl⟩, by rwa [cluster_rebalanced]⟩

theorem rebalancedEndpoints_idem : rebalancedEndpoints (rebalancedEndpoints wes) =
    rebalancedEndpoints wes := by
  obtain ⟨b, hb, hget⟩ := getElem?_rebalancedEndpoints wes
  obtain ⟨b', hb', hget'⟩ := getElem?_rebalancedEndpoints (rebalancedEndpoints wes)
  obtain rfl : b' = b := by rw [Bool.eq_iff_iff, hb, hb', hasLocal_rebalancedEndpoints]
  refine Std.ExtTreeMap.ext_getElem? fun key => ?_
  rw [hget', hget, Option.map_map]
  simp only [Function.comp_def, rebalanced_rebalanced]

theorem rebalanced_rebalancedEndpoints (h : Balanceable wes) :
    Rebalanced wes (rebalancedEndpoints wes) := by
  obtain ⟨b, hb, hget⟩ := getElem?_rebalancedEndpoints wes
  have hmem : ∀ {key : String} {e : WeightedZoneEndpoint}, wes[key]? = some e →
      (rebalancedEndpoints wes)[key]? = some (rebalanced b e) := by
    intro key e he
    rw [hget, he, Option.map_some]
  refine ⟨fun key => ?_, fun key hkey => ?_, fun key e e' he he' hc hl => ?_,
    fun key e he hw hk => ?_⟩
  · rw [Std.ExtTreeMap.mem_iff_isSome_getElem?, hget, Option.isSome_map,
      Std.ExtTreeMap.mem_iff_isSome_getElem?]
  · -- a local endpoint has a positive weight; without one, every endpoint has
    cases hloc : b with
    | true =>
      obtain ⟨key', e, he, hc⟩ := hb.1 hloc
      exact ⟨key', _, hmem he, rebalanced_pos (h key' e he) (.inl hc)⟩
    | false =>
      obtain ⟨e, he⟩ := Option.isSome_iff_exists.1 (Std.ExtTreeMap.mem_iff_isSome_getElem?.1 hkey)
      exact ⟨key, _, hmem he, rebalanced_pos (h key e he) (.inr hloc)⟩
  · rw [hmem he, Option.some.injEq] at he'
    rw [← he', rebalanced_failOver hc hl, hb]
  · rw [hmem he, rebalanced_kept hw hk]

/-! ## The result -/

theorem clustersConfigs_rebalanced (conf : PipyConf) :
    conf.rebalancedOutboundClusters.clustersConfigs =
      conf.clustersConfigs.map fun _ => rebalancedEndpoints := by
  unfold PipyConf.rebalancedOutboundClusters PipyConf.clustersConfigs
  cases conf.outbound with
  | none => exact Std.ExtTreeMap.ext_getElem? fun name => by simp
  | some otp => rfl

/-- **Rebalancing** keeps the clusters and the keys of their endpoints, leaves every cluster with
endpoints one of positive weight, gives a remote fail-over endpoint weight zero exactly beside a
local one, keeps the positive weights of the others, and changes nothing the second time. -/
theorem rebalanced_clusters (conf : PipyConf)
    (h : ∀ (name : String) (wes : WeightedEndpoints), conf.clustersConfigs[name]? = some wes →
      Balanceable wes) :
    (∀ name, name ∈ conf.rebalancedOutboundClusters.clustersConfigs ↔
        name ∈ conf.clustersConfigs) ∧
      (∀ (name : String) (wes wes' : WeightedEndpoints), conf.clustersConfigs[name]? = some wes →
        conf.rebalancedOutboundClusters.clustersConfigs[name]? = some wes' → Rebalanced wes wes') ∧
      conf.rebalancedOutboundClusters.rebalancedOutboundClusters =
        conf.rebalancedOutboundClusters := by
  refine ⟨fun name => ?_, fun name wes wes' hwes hwes' => ?_, ?_⟩
  · rw [clustersConfigs_rebalanced, Std.ExtTreeMap.mem_iff_isSome_getElem?,
      Std.ExtTreeMap.getElem?_map, Option.isSome_map, Std.ExtTreeMap.mem_iff_isSome_getElem?]
  · rw [clustersConfigs_rebalanced, Std.ExtTreeMap.getElem?_map, hwes] at hwes'
    obtain rfl := Option.some.inj hwes'
    exact rebalanced_rebalancedEndpoints (h name wes hwes)
  · simp only [PipyConf.rebalancedOutboundClusters, Option.map_map]
    congr 2
    funext otp
    have hidem : (otp.clustersConfigs.map fun _ => rebalancedEndpoints).map
        (fun _ => rebalancedEndpoints) = otp.clustersConfigs.map fun _ => rebalancedEndpoints := by
      refine Std.ExtTreeMap.ext_getElem? fun name => ?_
      rw [Std.ExtTreeMap.getElem?_map, Std.ExtTreeMap.getElem?_map, Option.map_map]
      simp only [Function.comp_def, rebalancedEndpoints_idem]
    simp only [Function.comp_apply, hidem]

/-- A local endpoint and a fail-over endpoint of another cluster. -/
def localAndRemote : WeightedEndpoints :=
  ((∅ : WeightedEndpoints).insert "10.0.0.1:80" ⟨0, "", "", ""⟩).insert "10.0.0.2:80"
    ⟨50, "c", "FailOver", ""⟩

/-- A configuration with this cluster. -/
def localAndRemoteConf : PipyConf where
  outbound := some { clustersConfigs := Std.ExtTreeMap.insert ∅ "default/web|80" localAndRemote }

theorem balanceable_localAndRemote : Balanceable localAndRemote := by
  have hlist : localAndRemote.toList = [("10.0.0.1:80", ⟨0, "", "", ""⟩),
      ("10.0.0.2:80", ⟨50, "c", "FailOver", ""⟩)] := by decide +kernel
  intro key e he hc
  rw [← Std.ExtTreeMap.mem_toList_iff_getElem?_eq_some, hlist] at he
  simp only [List.mem_cons, List.not_mem_nil, or_false, Prod.mk.injEq] at he
  rcases he with ⟨-, rfl⟩ | ⟨-, rfl⟩
  · exact absurd rfl hc
  · exact .inl rfl

theorem rebalanced_clusters_local_and_remote :
    localAndRemoteConf.clustersConfigs["default/web|80"]? = some localAndRemote ∧
      localAndRemoteConf.rebalancedOutboundClusters.clustersConfigs["default/web|80"]? =
        some (rebalancedEndpoints localAndRemote) ∧
      Rebalanced localAndRemote (rebalancedEndpoints localAndRemote) := by
  have hconf : localAndRemoteConf.clustersConfigs["default/web|80"]? = some localAndRemote :=
    Std.ExtTreeMap.getElem?_insert_self
  have hconf' : localAndRemoteConf.rebalancedOutboundClusters.clustersConfigs["default/web|80"]? =
      some (rebalancedEndpoints localAndRemote) := by
    rw [clustersConfigs_rebalanced, Std.ExtTreeMap.getElem?_map, hconf, Option.map_some]
  have hbal : ∀ (name : String) (wes : WeightedEndpoints),
      localAndRemoteConf.clustersConfigs[name]? = some wes → Balanceable wes := by
    intro name wes hwes
    rw [show localAndRemoteConf.clustersConfigs[name]? = _ from Lib.getElem?_insert_eq _ _ _ _]
      at hwes
    split at hwes
    · obtain rfl := Option.some.inj hwes
      exact balanceable_localAndRemote
    · simp at hwes
  exact ⟨hconf, hconf', (rebalanced_clusters _ hbal).2.1 _ _ _ hconf hconf'⟩

end Ctrl
