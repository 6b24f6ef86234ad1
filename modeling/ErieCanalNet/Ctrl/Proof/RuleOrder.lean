import ErieCanalNet.Lib.Sort
import ErieCanalNet.Ctrl.Job
import ErieCanalNet.Proxy.Routing

/-!
# The order of the route rules

`reorder` sorts the rules of a service so that the proxy, which takes the first rule that matches,
tries a match-all last (`CatchAllLast`). `Less` only says that a match-all is less than nothing, not
that it is greater than the rest: together with a path above `.*`, such as any that starts with `/`,
it is no strict weak order, and a sort may leave the match-all where it is.
-/

namespace Ctrl

open Go Lib Policy Proxy OutboundHTTPRouteRules

/-- What the order of the rules is for. -/
structure CatchAllLast (rules sorted : OutboundHTTPRouteRules) : Prop where
  perm : sorted.Perm rules
  /-- After a match-all come match-alls only. -/
  catchAll : sorted.Pairwise fun a b => a.1.path = regexMatchAll → b.1.path = regexMatchAll
  ascending : (sorted.filter fun rule => rule.1.path ≠ regexMatchAll).Pairwise
    fun a b => a.1.path ≤ b.1.path
  /-- A request that can take a specific rule takes one. -/
  notShadowed : ∀ (regExp : RegExp) (head : RequestHead),
    (∃ rule ∈ rules, rule.1.path ≠ regexMatchAll ∧ takes regExp head rule) →
      ∃ rule, makeServiceHandler regExp sorted head = some rule ∧ rule.1.path ≠ regexMatchAll

/-- No path comes after a match-all. -/
def CatchAllGreatest (rules : OutboundHTTPRouteRules) : Prop :=
  ∀ c ∈ rules, c.1.path = regexMatchAll → ∀ rule ∈ rules, rule.1.path ≤ regexMatchAll

/-- Of such rules `Less` compares the paths. -/
theorem CatchAllGreatest.less_eq {rules : OutboundHTTPRouteRules} (h : CatchAllGreatest rules)
    {a b : HTTPMatchRule × WeightedClusters} (ha : a ∈ rules) (hb : b ∈ rules) :
    less a b = decide (a.1.path < b.1.path) := by
  unfold less
  split
  · rename_i hall
    have hle : b.1.path ≤ a.1.path := by
      rw [hall]
      exact h a ha hall b hb
    exact (decide_eq_false (not_lt.2 hle)).symm
  · rfl

theorem CatchAllGreatest.strictWeakOn {rules : OutboundHTTPRouteRules}
    (h : CatchAllGreatest rules) : StrictWeakOn less rules where
  asymm a ha b hb hab := by
    rw [h.less_eq ha hb, decide_eq_true_eq] at hab
    rw [h.less_eq hb ha]
    exact decide_eq_false (not_lt.2 hab.le)
  negTrans a ha b hb c hc hab hbc := by
    rw [h.less_eq ha hb, decide_eq_false_iff_not, not_lt] at hab
    rw [h.less_eq hb hc, decide_eq_false_iff_not, not_lt] at hbc
    rw [h.less_eq ha hc]
    exact decide_eq_false (not_lt.2 (hbc.trans hab))

/-- A list of one item or less is sorted as it is. -/
theorem sorts_sortedRules {env : Env} (hsort : Sorts less env.sortRules) :
    Sorts less (sortedRules env) where
  perm rules := by
    unfold sortedRules
    split
    · exact hsort.perm rules
    · exact .refl _
  sorted rules hord := by
    unfold sortedRules
    split
    · exact hsort.sorted rules hord
    · rename_i hlen
      rcases rules with _ | ⟨rule, _ | ⟨rule', rules⟩⟩
      · exact .nil
      · exact List.pairwise_singleton _ _
      · simp at hlen

/-- Where the match-alls come last, the first rule of a request is one only if there is no other. -/
theorem notShadowed_of_pairwise {sorted : OutboundHTTPRouteRules}
    (hlast : sorted.Pairwise fun a b => a.1.path = regexMatchAll → b.1.path = regexMatchAll)
    {regExp : RegExp} {head : RequestHead} {rule : RouteRule} (hmem : rule ∈ sorted)
    (hspecific : rule.1.path ≠ regexMatchAll) (htakes : takes regExp head rule = true) :
    ∃ rule, makeServiceHandler regExp sorted head = some rule ∧ rule.1.path ≠ regexMatchAll := by
  rw [makeServiceHandler_eq]
  induction sorted with
  | nil => cases hmem
  | cons first sorted ih =>
    obtain ⟨hfirst, hlast⟩ := List.pairwise_cons.1 hlast
    cases hf : takes regExp head first with
    | true =>
      refine ⟨first, by simp [hf], fun hall => ?_⟩
      rcases List.mem_cons.1 hmem with rfl | hmem
      · exact hspecific hall
      · exact hspecific (hfirst rule hmem hall)
    | false =>
      rcases List.mem_cons.1 hmem with rfl | hmem
      · rw [hf] at htakes
        cases htakes
      · rw [List.find?_cons_of_neg (by simp [hf])]
        exact ih hlast hmem

theorem CatchAllGreatest.catchAllLast {rules : OutboundHTTPRouteRules}
    (h : CatchAllGreatest rules) {env : Env} (hsort : Sorts less env.sortRules) :
    CatchAllLast rules (sortedRules env rules) := by
  have hperm := (sorts_sortedRules hsort).perm rules
  have hsorted := (sorts_sortedRules hsort).sorted rules h.strictWeakOn
  have hle : (sortedRules env rules).Pairwise fun a b => a.1.path ≤ b.1.path := by
    refine hsorted.imp_of_mem fun ha hb hba => ?_
    rw [h.less_eq (hperm.mem_iff.1 hb) (hperm.mem_iff.1 ha), decide_eq_false_iff_not, not_lt] at hba
    exact hba
  have hlast : (sortedRules env rules).Pairwise
      fun a b => a.1.path = regexMatchAll → b.1.path = regexMatchAll := by
    refine hle.imp_of_mem fun {a b} ha hb hab hall => ?_
    have hb' := h a (hperm.mem_iff.1 ha) hall b (hperm.mem_iff.1 hb)
    rw [hall] at hab
    exact le_antisymm hb' hab
  refine ⟨hperm, hlast, hle.filter _, fun regExp head hexists => ?_⟩
  obtain ⟨rule, hmem, hspecific, htakes⟩ := hexists
  exact notShadowed_of_pairwise hlast (hperm.mem_iff.2 hmem) hspecific htakes

/-! ## The sort of a few items -/

/-- `sort.Sort` sorts twelve items and less by insertion. -/
def insertionEnv : Env := { Env.asIs "cluster.local" with sortRules := insertionSort less }

/-- The match-alls before the rest. -/
def catchAllFirst (rules : OutboundHTTPRouteRules) : OutboundHTTPRouteRules :=
  (rules.filter fun rule => rule.1.path = regexMatchAll) ++
    rules.filter fun rule => ¬rule.1.path = regexMatchAll

theorem perm_catchAllFirst (rules : OutboundHTTPRouteRules) :
    (catchAllFirst rules).Perm rules := by
  have h := List.filter_append_perm (fun rule : RouteRule => rule.1.path = regexMatchAll) rules
  simpa [catchAllFirst] using h

/-- A path above a match-all is left behind it. -/
theorem pair_insertionSort_catchAllFirst {rules : OutboundHTTPRouteRules} {c rule : RouteRule}
    (hc : c ∈ rules) (hall : c.1.path = regexMatchAll) (hrule : rule ∈ rules)
    (hgt : regexMatchAll < rule.1.path) :
    [c, rule].Sublist (insertionSort less (catchAllFirst rules)) := by
  have hspecific : ¬rule.1.path = regexMatchAll := fun he => lt_irrefl _ (he ▸ hgt)
  refine pair_insertionSort rfl (List.mem_filter.2 ⟨hc, decide_eq_true hall⟩)
    (List.mem_filter.2 ⟨hrule, decide_eq_true hspecific⟩) ?_
  unfold less
  rw [if_neg hspecific, hall]
  exact decide_eq_false (not_lt.2 hgt.le)

/-- **The rules of a service** come out in their order, with the match-alls last, of every sort if
and only if no path of a rule is above that of a match-all. -/
theorem rules_sorted_iff (rules : OutboundHTTPRouteRules) :
    (∀ env : Env, Sorts less env.sortRules → CatchAllLast rules (sortedRules env rules)) ↔
      CatchAllGreatest rules := by
  refine ⟨fun h c hc hall rule hrule => ?_, fun h env hsort => h.catchAllLast hsort⟩
  by_contra hgt
  rw [not_le] at hgt
  have hsort : Sorts less (insertionSort less ∘ catchAllFirst) :=
    (sorts_insertionSort less).comp perm_catchAllFirst
  have hlast := (h { insertionEnv with sortRules := insertionSort less ∘ catchAllFirst }
    hsort).catchAll
  have hpair := pair_insertionSort_catchAllFirst hc hall hrule hgt
  have hlen : 1 < rules.length := by
    rw [← (hsort.perm rules).length_eq]
    exact hpair.length_le
  rw [sortedRules, if_pos hlen] at hlast
  have hspecific := List.rel_of_pairwise_cons (hlast.sublist hpair) (.head _) hall
  exact lt_irrefl _ (hspecific ▸ hgt)

def catchAllRule : RouteRule := ({ path := regexMatchAll, type := .pathMatchRegex }, ∅)

def fooRule : RouteRule := ({ path := "/foo", type := .pathMatchExact }, ∅)

/-- `/foo` stays behind the match-all, and a request for it takes the match-all. -/
theorem not_rules_sorted :
    Sorts less insertionEnv.sortRules ∧
      sortedRules insertionEnv [catchAllRule, fooRule] = [catchAllRule, fooRule] ∧
        ¬CatchAllLast [catchAllRule, fooRule]
          (sortedRules insertionEnv [catchAllRule, fooRule]) ∧
          makeServiceHandler (fun pattern _ => pattern == regexMatchAll)
            (sortedRules insertionEnv [catchAllRule, fooRule]) ⟨"GET", "/foo", ∅⟩ =
              some catchAllRule := by
  have hsorted : sortedRules insertionEnv [catchAllRule, fooRule] = [catchAllRule, fooRule] := by
    have hless : less fooRule catchAllRule = false := by decide
    simp [sortedRules, insertionEnv, insertionSort, insertBack, hless]
  refine ⟨sorts_insertionSort less, hsorted, fun h => ?_, ?_⟩
  · have hlast := h.catchAll
    rw [hsorted] at hlast
    exact absurd (List.rel_of_pairwise_cons hlast (.head _) rfl) (by decide)
  · rw [hsorted, makeServiceHandler_eq]
    have htakes : takes (fun pattern _ => pattern == regexMatchAll) ⟨"GET", "/foo", ∅⟩
        catchAllRule = true := by decide
    simp [htakes]

end Ctrl
