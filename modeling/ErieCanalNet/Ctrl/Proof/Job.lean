import ErieCanalNet.Ctrl.Job
import ErieCanalNet.Ctrl.Proof.Clusters

/-!
# What a job publishes

`run_eq`: a job does not panic, and the configuration it publishes is `published`. The route rules
are those the two passes left, since a service has one rule and nothing is sorted
(`reorderedMatch_matchOf`); the endpoint tables are those of the second pass, balanced.
-/

namespace Ctrl

open Go K8s Lib Mesh Policy

/-- The configuration of the services of a catalog. -/
def published (env : Env) (cfg : Configurator) (mc : MeshCatalog) : PipyConf where
  sidecarLogLevel := cfg.getEcnetConfig.logLevel
  chains := (setSidecarChain env cfg {}).chains
  dnsResolveDB := (getOutboundMeshTrafficPolicy env.trustDomain mc).servicesResolvableSet.map
    fun _ => toSlice env.order
  outbound := if mc.listMeshServices.isEmpty then none else
    some ⟨compile env.trustDomain mc mc.listMeshServices,
      (tablesOf mc mc.listMeshServices).map fun _ => rebalancedEndpoints⟩

variable {trustDomain : String} {mc : MeshCatalog}

/-! ## Sorting -/

theorem map_sortedRules_rulesOf (env : Env) (group : List MeshService) :
    (rulesOf mc group).map (fun _ => sortedRules env) = rulesOf mc group := by
  refine Std.ExtTreeMap.ext_getElem? fun f => ?_
  rw [Std.ExtTreeMap.getElem?_map, getElem?_rulesOf]
  split
  · rfl
  · rfl

/-- A match of services is left as it is. -/
theorem reorderedMatch_matchOf (env : Env) (group : List MeshService) :
    reorderedMatch env (matchOf trustDomain mc group) = matchOf trustDomain mc group := by
  cases group with
  | nil => rfl
  | cons m group =>
    rw [matchOf, newMatch_eq]
    cases kindOf m.protocol with
    | http => rw [reorderedMatch, map_sortedRules_rulesOf]
    | tcp => rfl
    | other => rfl

theorem map_reorderedMatch_compile (env : Env) {services : List MeshService}
    (hv : ∀ m ∈ services, NameValid m) :
    (compile trustDomain mc services).map (fun entry => (entry.1, reorderedMatch env entry.2)) =
      compile trustDomain mc services := by
  rw [compile_eq hv, List.map_map]
  exact List.map_congr_left fun k _ => by simp [reorderedMatch_matchOf]

/-! ## The job -/

theorem setSidecarLogLevel_empty (level : String) :
    setSidecarLogLevel level {} = { sidecarLogLevel := level } := by
  rw [setSidecarLogLevel]
  split
  · rename_i h
    obtain rfl : level = "" := String.toList_inj.1 (by simpa [equalFold] using h)
    rfl
  · rfl

/-- **A job publishes** the configuration of the services. -/
theorem run_eq (env : Env) (cfg : Configurator) (hv : ∀ m ∈ mc.listMeshServices, NameValid m) :
    run env cfg mc = some (published env cfg mc) := by
  have hconf : (setSidecarChain env cfg
      { sidecarLogLevel := cfg.getEcnetConfig.logLevel }).outbound = none := rfl
  rw [run, setSidecarLogLevel_empty, outbound_eq env hconf hv, Option.bind_eq_bind, Option.bind_some]
  simp only [PipyConf.rebalancedOutboundClusters, reorder, published]
  by_cases hs : mc.listMeshServices.isEmpty = true
  · simp [hs, setSidecarChain]
  · simp [hs, setSidecarChain, map_reorderedMatch_compile env hv]

end Ctrl
