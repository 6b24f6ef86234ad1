import ErieCanalNet.Bridge.Sync
import ErieCanalNet.Lib.Run

/-!
# The names in the shadow map of the resolver

A run of `syncDNSResolves` leaves the shadow map with the names of the policy, whatever it held
before, unless the policy has no HTTP route at all: then the run returns before it reconciles
anything (`mem_syncDNSResolves`, `syncDNSResolves_noRoutes`). So the shadow map is right after
every run exactly when a policy without routes only follows policies without names
(`alwaysResolves_iff`).
-/

namespace Bridge

open Go Lib

/-! ## Runs and the property -/

/-- One run of the job: the kernel side, the order of its loops and the policy. -/
structure ResolveRun where
  env : ResolveEnv
  order : RangeOrder
  policy : OutboundMeshTrafficPolicy

def ResolveRun.sync (st : ResolveState) (r : ResolveRun) : Option ResolveState :=
  some (syncDNSResolves r.env r.order r.policy st)

/-- A hostname without a port that occurs in the routes of a policy. -/
def Resolvable (policy : OutboundMeshTrafficPolicy) (hostname : String) : Prop :=
  ∃ entry ∈ policy.httpRouteConfigsPerPort.entries, ∃ outboundPolicy ∈ entry.2,
    hostname ∈ outboundPolicy.hostnames ∧ ':' ∉ hostname.toList

/-- **The shadow map holds the names of the policy.** -/
def Resolves (r : ResolveRun) (st : ResolveState) : Prop :=
  ∀ hostname, hostname ∈ st.dnsResolves ↔ Resolvable r.policy hostname

/-- The policy has no HTTP route. -/
def NoRoutes (policy : OutboundMeshTrafficPolicy) : Prop :=
  policy.httpRouteConfigsPerPort.entries = []

/-! ## One run -/

theorem mem_resolvableNames (order : RangeOrder) {policy : OutboundMeshTrafficPolicy}
    {hostname : String} : hostname ∈ resolvableNames order policy ↔ Resolvable policy hostname := by
  simp only [resolvableNames, List.mem_flatMap, order.mem_visit, Resolvable, List.mem_filter,
    contains]
  simp

theorem mem_foldl_addResolve {env : ResolveEnv} {hostname : String} :
    ∀ {l : List String} {st : ResolveState},
      hostname ∈ (l.foldl (addResolve env) st).dnsResolves ↔
        hostname ∈ st.dnsResolves ∨ hostname ∈ l
  | [], st => by simp
  | h :: l, st => by
    have hadd : hostname ∈ (addResolve env st h).dnsResolves ↔
        hostname ∈ st.dnsResolves ∨ hostname = h := by
      unfold addResolve
      split
      · rename_i hmem
        exact ⟨.inl, fun hor => hor.elim id fun he => he ▸ hmem⟩
      · simp [or_comm]
    rw [List.foldl_cons, mem_foldl_addResolve, hadd, List.mem_cons, or_assoc]

theorem mem_foldl_dropResolve {env : ResolveEnv} {latest : Map String UInt8} {hostname : String}
    {l : List String} {st : ResolveState} :
    hostname ∈ (l.foldl (dropResolve env latest) st).dnsResolves ↔
      hostname ∈ st.dnsResolves ∧ (hostname ∈ l → hostname ∈ latest) := by
  have hdrop : ∀ (st : ResolveState) (h : String),
      hostname ∈ (dropResolve env latest st h).dnsResolves ↔
        hostname ∈ st.dnsResolves ∧ (hostname = h → hostname ∈ latest) := by
    intro st h
    unfold dropResolve
    split
    · rename_i hmem
      exact ⟨fun hs => ⟨hs, fun he => he ▸ hmem⟩, And.left⟩
    · rename_i hmem
      rw [AList.mem_erase, and_comm]
      exact and_congr_right fun _ =>
        ⟨fun hne he => absurd he hne, fun him he => hmem (he ▸ him he)⟩
  refine (foldl_iff_forall (P := fun st : ResolveState => hostname ∈ st.dnsResolves) hdrop).trans ?_
  exact and_congr_right fun _ => ⟨fun h hm => h _ hm rfl, fun h _ hi he => h (he ▸ hi)⟩

/-- A policy without routes leaves everything as it is. -/
theorem syncDNSResolves_noRoutes {env : ResolveEnv} {order : RangeOrder}
    {policy : OutboundMeshTrafficPolicy} {st : ResolveState} (h : NoRoutes policy) :
    syncDNSResolves env order policy st = st := by
  rw [syncDNSResolves, if_pos (by rw [h]; rfl)]

/-- The latest names of a run are those the policy resolves. -/
theorem mem_latest (order : RangeOrder) {policy : OutboundMeshTrafficPolicy} {hostname : String} :
    hostname ∈ ((resolvableNames order policy).foldl
        (fun latest hostname => latest.insert hostname 0) ∅ : Map String UInt8) ↔
      Resolvable policy hostname := by
  rw [mem_foldl_insert, ← mem_resolvableNames order]
  simp

/-- **A run on a policy with routes leaves its names.** -/
theorem mem_syncDNSResolves {env : ResolveEnv} {order : RangeOrder}
    {policy : OutboundMeshTrafficPolicy} {st : ResolveState} {hostname : String}
    (h : ¬ NoRoutes policy) :
    hostname ∈ (syncDNSResolves env order policy st).dnsResolves ↔
      Resolvable policy hostname := by
  rw [syncDNSResolves, if_neg (by simpa [NoRoutes] using h)]
  rw [mem_foldl_dropResolve, order.mem_visit, ← AList.mem_keys, mem_foldl_addResolve,
    order.mem_visit, ← AList.mem_keys, mem_latest]
  exact ⟨fun ⟨hnew, hkept⟩ => hkept hnew, fun hr => ⟨.inr hr, fun _ => hr⟩⟩

/-! ## Sequences of runs -/

/-- **The shadow map is right after every run exactly when** a policy without routes only
follows policies without names. -/
theorem alwaysResolves_iff (resdb : ResolveTable) (rs : List ResolveRun) :
    AlwaysAfter ResolveRun.sync Resolves ⟨∅, resdb⟩ rs ↔
      rs.IsChain fun p q => NoRoutes q.policy → ∀ hostname, ¬ Resolvable p.policy hostname := by
  cases rs with
  | nil => simp [AlwaysAfter]
  | cons r rs =>
    rw [alwaysAfter_iff_isChain (fun _ => True)
      (fun st q => NoRoutes q.policy → ∀ hostname, hostname ∉ st.dnsResolves)
      (fun p q => NoRoutes q.policy → ∀ hostname, ¬ Resolvable p.policy hostname) _ _ trivial]
    · simp
    · intro st q _
      refine ⟨_, rfl, trivial, ?_⟩
      by_cases hq : NoRoutes q.policy
      · have hno : ∀ hostname, ¬ Resolvable q.policy hostname := by
          rintro hostname ⟨entry, hentry, -⟩
          rw [hq] at hentry
          simp at hentry
        simp [Resolves, syncDNSResolves_noRoutes hq, hno, hq]
      · simp [Resolves, mem_syncDNSResolves hq, hq]
    · intro st p q _ hst
      simp only [hst _]

/-- A run with one route for the given hostnames. -/
def routeRun (hostnames : List String) : ResolveRun where
  env := ⟨fun _ => none, 0, fun _ _ => true, fun _ _ => true⟩
  order := .asIs
  policy := ⟨AList.singleton 80 [⟨hostnames⟩]⟩

/-- A run after the last route is gone. -/
def emptyRun : ResolveRun := { routeRun [] with policy := ⟨∅⟩ }

/-- The name of the last service stays when its route goes away. -/
theorem not_alwaysResolves_last_route :
    ¬ AlwaysAfter ResolveRun.sync Resolves ⟨∅, fun _ => none⟩
      [routeRun ["web.default"], emptyRun] := by
  rintro ⟨st₁, h₁, -, st₂, h₂, hresolves, -⟩
  obtain rfl := Option.some.inj h₁
  obtain rfl := Option.some.inj h₂
  obtain ⟨entry, hentry, -⟩ := (hresolves "web.default").1 (by decide)
  simp [emptyRun] at hentry

end Bridge
