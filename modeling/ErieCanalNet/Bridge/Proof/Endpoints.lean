import ErieCanalNet.Bridge.Sync
import ErieCanalNet.Lib.Run

/-!
# The endpoints of the DNS service in the kernel

`syncDNSEndpoints` writes a new endpoint to the kernel map and not to its shadow map, so the
shadow map stays empty and nothing is ever deleted (`sync_of_empty`): the kernel map is right
after every run exactly when no endpoint ever goes away (`alwaysServes_iff`).
-/

namespace Bridge

open Go K8s Lib Mesh

/-! ## Snapshots -/

/-- What a run of the job sees: the DNS service and its endpoints are there, with IPv4
addresses. -/
structure DNSSnapshot where
  dns : DNSSpec
  kubeController : K8s.Client
  order : RangeOrder
  svc : Service
  dnsEndpoints : Endpoints
  clusterIP : Addr
  hasService : kubeController.getService dns.service = some svc
  hasEndpoints : kubeController.getEndpoints dns.service = some dnsEndpoints
  clusterIPv4 : ip2ptr svc.clusterIP = .ok (some clusterIP)
  endpointsIPv4 : ∀ a ∈ dnsAddresses dns.service dnsEndpoints, ∃ k, ip2ptr a = .ok (some k)

/-- The endpoint addresses of a snapshot. -/
def DNSSnapshot.endpoints (q : DNSSnapshot) : Set Addr :=
  {k | ∃ a ∈ dnsAddresses q.dns.service q.dnsEndpoints, ip2ptr a = .ok (some k)}

/-- One run of the job on a snapshot. -/
def DNSSnapshot.sync (st : EndpointState) (q : DNSSnapshot) : Option EndpointState :=
  (syncDNSEndpoints q.order q.dns q.kubeController st).toOption

/-- **The kernel map is that of the snapshot**: its endpoints, each with its cluster IP. -/
def Serves (q : DNSSnapshot) (st : EndpointState) : Prop :=
  ∀ k c, st.endpt k = some c ↔ k ∈ q.endpoints ∧ c = q.clusterIP

/-- Both maps empty. -/
def EndpointState.empty : EndpointState := ⟨∅, fun _ => none⟩

/-! ## One run -/

theorem latestEndpoints_some (svc : Service) (addresses : List String) :
    latestEndpoints (some svc) addresses =
      .ok (addresses.foldl (fun latest ip => latest.insert ip svc.clusterIP) ∅) := by
  suffices h : ∀ m : Map String String,
      addresses.foldlM (fun latest ip =>
        (.ok (latest.insert ip svc.clusterIP) : Except GoPanic (Map String String))) m =
        .ok (addresses.foldl (fun latest ip => latest.insert ip svc.clusterIP) m) from h ∅
  induction addresses with
  | nil => exact fun m => rfl
  | cons a as ih => exact fun m => ih _

/-- With an empty shadow map the first loop writes every entry to the kernel. -/
theorem foldlM_addEndpoint {clusterIP : String} {c : Addr}
    (hc : ip2ptr clusterIP = .ok (some c)) :
    ∀ (entries : List ((_ : String) × String)) (endpt : EndpointTable),
      (∀ e ∈ entries, e.2 = clusterIP ∧ ∃ k, ip2ptr e.1 = .ok (some k)) →
      ∃ endpt', entries.foldlM addEndpoint ⟨∅, endpt⟩ = .ok ⟨∅, endpt'⟩ ∧
        ∀ k, ((∃ e ∈ entries, ip2ptr e.1 = .ok (some k)) → endpt' k = some c) ∧
          ((¬ ∃ e ∈ entries, ip2ptr e.1 = .ok (some k)) → endpt' k = endpt k)
  | [], endpt, _ => ⟨endpt, rfl, fun k => ⟨by simp, fun _ => rfl⟩⟩
  | e :: entries, endpt, h => by
    obtain ⟨he, k₀, hk₀⟩ := h e (.head _)
    have hadd : addEndpoint ⟨∅, endpt⟩ e = .ok ⟨∅, Function.update endpt k₀ (some c)⟩ := by
      simp [addEndpoint, updateDNSEndpointEntry, he, hk₀, hc]
      rfl
    obtain ⟨endpt', hrun, hspec⟩ := foldlM_addEndpoint hc entries
      (Function.update endpt k₀ (some c)) fun e' he' => h e' (.tail _ he')
    refine ⟨endpt', by rw [List.foldlM_cons, hadd]; exact hrun, fun k => ?_⟩
    have hhead : ip2ptr e.1 = .ok (some k) ↔ k = k₀ := by rw [hk₀]; simp [eq_comm]
    simp only [List.mem_cons, exists_eq_or_imp, hhead]
    by_cases htail : ∃ e ∈ entries, ip2ptr e.1 = .ok (some k)
    · exact ⟨fun _ => (hspec k).1 htail, fun hn => absurd (.inr htail) hn⟩
    · rw [(hspec k).2 htail]
      by_cases hk : k = k₀
      · exact ⟨fun _ => by rw [hk, Function.update_self], fun hn => absurd (.inl hk) hn⟩
      · exact ⟨fun hy => absurd hy (by simp [hk, htail]),
          fun _ => Function.update_of_ne hk _ _⟩

/-- **A run with an empty shadow map** adds the endpoints of the snapshot to the kernel map, and
leaves the shadow map empty. -/
theorem sync_of_empty (q : DNSSnapshot) {st : EndpointState} (hst : st.dnsEndpoints = ∅) :
    ∃ st', q.sync st = some st' ∧ st'.dnsEndpoints = ∅ ∧
      ∀ k, (k ∈ q.endpoints → st'.endpt k = some q.clusterIP) ∧
        (k ∉ q.endpoints → st'.endpt k = st.endpt k) := by
  obtain ⟨shadow, endpt⟩ := st
  obtain rfl : shadow = ∅ := hst
  let addresses := dnsAddresses q.dns.service q.dnsEndpoints
  let latest : Map String String :=
    addresses.foldl (fun latest ip => latest.insert ip q.svc.clusterIP) ∅
  have hmem : ∀ e, e ∈ q.order.visit latest.entries ↔ e.1 ∈ addresses ∧ e.2 = q.svc.clusterIP := by
    intro e
    rw [q.order.mem_visit, mem_entries_foldl_insert]
  obtain ⟨endpt', hrun, hspec⟩ := foldlM_addEndpoint q.clusterIPv4
    (q.order.visit latest.entries) endpt
    fun e he => ⟨((hmem e).1 he).2, q.endpointsIPv4 e.1 ((hmem e).1 he).1⟩
  have hkeys : ∀ k, (∃ e ∈ q.order.visit latest.entries, ip2ptr e.1 = .ok (some k)) ↔
      k ∈ q.endpoints := fun k =>
    ⟨fun ⟨e, he, hk⟩ => ⟨e.1, ((hmem e).1 he).1, hk⟩,
      fun ⟨a, ha, hk⟩ => ⟨⟨a, q.svc.clusterIP⟩, (hmem _).2 ⟨ha, rfl⟩, hk⟩⟩
  refine ⟨⟨∅, endpt'⟩, ?_, rfl, fun k => ?_⟩
  · -- the second loop has no key to visit
    have hdrop : (q.order.visit (∅ : Map String String).keys).foldlM (dropEndpoint latest)
        ⟨∅, endpt'⟩ = .ok ⟨∅, endpt'⟩ := by
      rw [AList.keys_empty, q.order.visit_nil]; rfl
    have hsync : syncDNSEndpoints q.order q.dns q.kubeController ⟨∅, endpt⟩ = .ok ⟨∅, endpt'⟩ := by
      simp only [syncDNSEndpoints, q.hasService, q.hasEndpoints, latestEndpoints_some]
      show (List.foldlM addEndpoint _ _ >>= fun st => _) = _
      rw [hrun]
      exact hdrop
    rw [DNSSnapshot.sync, hsync]
    rfl
  · simpa only [hkeys] using hspec k

/-! ## Sequences of runs -/

/-- **The kernel map is right after every run exactly when no endpoint goes away.** -/
theorem alwaysServes_iff (qs : List DNSSnapshot) :
    AlwaysAfter DNSSnapshot.sync Serves .empty qs ↔
      qs.IsChain fun p q => p.endpoints ⊆ q.endpoints := by
  cases qs with
  | nil => simp [AlwaysAfter]
  | cons q qs =>
    rw [alwaysAfter_iff_isChain (fun st => st.dnsEndpoints = ∅)
      (fun st q => ∀ k, st.endpt k ≠ none → k ∈ q.endpoints)
      (fun p q => p.endpoints ⊆ q.endpoints) _ _ rfl]
    · simp [EndpointState.empty]
    · intro st q hst
      obtain ⟨st', hsync, hst', hspec⟩ := sync_of_empty q hst
      refine ⟨st', hsync, hst', fun hserves k hk => ?_, fun hok k c => ?_⟩
      · by_contra hout
        obtain ⟨c, hc⟩ := Option.ne_none_iff_exists'.1 hk
        exact hout ((hserves k c).1 (by rw [(hspec k).2 hout, hc])).1
      · by_cases hk : k ∈ q.endpoints
        · rw [(hspec k).1 hk]
          simp [hk, eq_comm]
        · have hnone : st.endpt k = none := by
            by_contra hne
            exact hk (hok k hne)
          rw [(hspec k).2 hk, hnone]
          simp [hk]
    · intro st p q _ hserves
      refine ⟨fun hok k hk => hok k ?_, fun hsub k hk => hsub ?_⟩
      · rw [(hserves k p.clusterIP).2 ⟨hk, rfl⟩]
        simp
      · obtain ⟨c, hc⟩ := Option.ne_none_iff_exists'.1 hk
        exact ((hserves k c).1 hc).1

/-- The cluster DNS at 10.96.0.10 with one endpoint. -/
def dnsClient (endpointIP : String) : K8s.Client :=
  let md : ObjectMeta := ⟨"kube-system", "kube-dns", by decide, by decide⟩
  { services := ⟨[⟨md, "u", "10.96.0.10", ["10.96.0.10"], []⟩], by simp⟩
    endpoints := ⟨[⟨md, ∅, [⟨[⟨endpointIP, ""⟩], [⟨"dns", "UDP", none, 53⟩]⟩]⟩], by simp⟩ }

def dnsSnapshot (endpointIP : String) (k : Addr) (hk : ip2ptr endpointIP = .ok (some k)) :
    DNSSnapshot where
  dns := ⟨"kube-system", "kube-dns", 53, "udp"⟩
  kubeController := dnsClient endpointIP
  order := .asIs
  svc := _
  dnsEndpoints := _
  clusterIP := le32 10 96 0 10
  hasService := rfl
  hasEndpoints := rfl
  clusterIPv4 := by decide
  endpointsIPv4 a ha := by
    have hsub : (DNSSpec.service ⟨"kube-system", "kube-dns", 53, "udp"⟩).subdomain = "" := by decide
    obtain ⟨-, -, rfl⟩ : _ ∧ _ ∧ endpointIP = a := by simpa [dnsAddresses, hsub] using ha
    exact ⟨k, hk⟩

/-- An endpoint that is replaced stays in the kernel map. -/
theorem not_alwaysServes_replaced : ¬ AlwaysAfter DNSSnapshot.sync Serves .empty
    [dnsSnapshot "10.0.0.2" (le32 10 0 0 2) (by decide),
      dnsSnapshot "10.0.0.3" (le32 10 0 0 3) (by decide)] := by
  rintro ⟨st₁, h₁, -, st₂, h₂, hserves, -⟩
  obtain rfl := Option.some.inj h₁
  obtain rfl := Option.some.inj h₂
  obtain ⟨⟨a, ha, hk⟩, -⟩ := (hserves (le32 10 0 0 2) (le32 10 96 0 10)).1 rfl
  have hout : ∀ a ∈ ["10.0.0.3"], ip2ptr a ≠ .ok (some (le32 10 0 0 2)) := by decide
  exact hout a ha hk

end Bridge
