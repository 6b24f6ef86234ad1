import ErieCanalNet.Go.Map

/-!
# Load balancers

`algo.RoundRobinLoadBalancer` is part of Pipy. Of its `next` the proofs use that it gives a target
of a positive weight, if there is one; when which target has its turn is left open.
`utils.js` makes of the targets without a weight the balancer to fail over to.
-/

namespace Proxy

open Go

/-- What `next` gives for a table of weights, by the number of the call. -/
structure LoadBalancer where
  next : Dict UInt32 → Nat → Option String
  weight_ne_zero : ∀ {targets : Dict UInt32} {call : Nat} {id : String},
    next targets call = some id → ∃ weight, targets[id]? = some weight ∧ weight ≠ 0
  isSome_next : ∀ {targets : Dict UInt32} {id : String} {weight : UInt32} (call : Nat),
    targets[id]? = some weight → weight ≠ 0 → (next targets call).isSome = true

/-- The targets that have a turn. -/
def active (targets : Dict UInt32) : List String :=
  (targets.toList.filter fun e => e.2 ≠ 0).map Prod.fst

theorem mem_active {targets : Dict UInt32} {id : String} :
    id ∈ active targets ↔ ∃ weight, targets[id]? = some weight ∧ weight ≠ 0 := by
  simp [active, Std.ExtTreeMap.mem_toList_iff_getElem?_eq_some]

/-- Turns one after the other, whatever the weights. -/
def LoadBalancer.inTurn : LoadBalancer where
  next targets call := (active targets)[call % (active targets).length]?
  weight_ne_zero h := mem_active.1 (List.mem_of_getElem? h)
  isSome_next call h hw := by
    have hmem := mem_active.2 ⟨_, h, hw⟩
    have hlt := Nat.mod_lt call (List.length_pos_of_mem hmem)
    exact Option.isSome_iff_exists.2 ⟨_, List.getElem?_eq_getElem hlt⟩

/-- `failover`, the targets of the balancer it makes: those of weight `0`, with a weight each. -/
def failover (json : Dict UInt32) : Option (Dict UInt32) :=
  let obj : Dict UInt32 := (json.filter fun _ v => v = 0).map fun _ _ => 1
  if obj.isEmpty then none else some obj

theorem failover_eq_some {json targets : Dict UInt32} (h : failover json = some targets)
    (id : String) : targets[id]? = if json[id]? = some 0 then some 1 else none := by
  rw [failover] at h
  split at h
  · cases h
  · obtain rfl := Option.some.inj h
    rw [Std.ExtTreeMap.getElem?_map, Std.ExtTreeMap.getElem?_filter]
    cases hid : json[id]? with
    | none => simp
    | some w => by_cases hw : w = 0 <;> simp [hw]

/-- What is failed over to has no weight. -/
theorem next_failover {balancer : LoadBalancer} {json targets : Dict UInt32} {call : Nat}
    {id : String} (hf : failover json = some targets) (h : balancer.next targets call = some id) :
    json[id]? = some 0 := by
  obtain ⟨weight, hw, -⟩ := balancer.weight_ne_zero h
  rw [failover_eq_some hf] at hw
  split at hw
  · assumption
  · cases hw

/-- There is a balancer to fail over to if a target has no weight. -/
theorem failover_ne_none {json : Dict UInt32} {id : String} (h : json[id]? = some 0) :
    failover json ≠ none := by
  intro hnone
  rw [failover] at hnone
  split at hnone
  · rename_i hempty
    have hid : ((json.filter fun _ v => v = 0).map fun _ _ => (1 : UInt32))[id]? = some 1 := by
      simp [Std.ExtTreeMap.getElem?_map, Std.ExtTreeMap.getElem?_filter, h]
    rw [Std.ExtTreeMap.isEmpty_iff.1 hempty] at hid
    cases hid
  · cases hnone

end Proxy
