import ErieCanalNet.Bridge.Proof.Endpoints

/-!
# When `syncDNSEndpoints` panics

The lookups of the Kubernetes client return nil for a missing object, and `ip2ptr` takes the first of
the four bytes of any address that parses, which an IPv6 address does not have. A run completes
exactly when the objects it dereferences are there and no address that reaches `ip2ptr` is an IPv6
address (`syncDNSEndpoints_completes_iff`).

Whether an endpoint reaches `ip2ptr` depends on the shadow map; a loop changes it only at the key it
visits, so that each visit is decided by the shadow map the run starts with (`foldlM_isOk_iff`).
-/

namespace Bridge

open Go K8s Lib Mesh

/-! ## Addresses -/

/-- The text does not parse as an IPv6 address. -/
def NotIPv6 (s : String) : Prop := ∀ ip, parseIP s = some ip → ip.to4 ≠ none

theorem length_to4 {ip : IP} {bs : List Byte} (h : ip.to4 = some bs) : bs.length = 4 := by
  unfold IP.to4 at h
  split at h
  · obtain rfl := Option.some.inj h
    rw [List.length_drop, ip.len]
  · cases h

theorem ip2ptr_isOk_iff {s : String} : (∃ p, ip2ptr s = .ok p) ↔ NotIPv6 s := by
  unfold ip2ptr NotIPv6
  cases parseIP s with
  | none => simp
  | some ip =>
    cases h4 : ip.to4 with
    | none => simp [h4]
    | some bs =>
      match bs, length_to4 h4 with
      | [a, b, c, d], _ => simp [h4]

variable {eip cip : String}

theorem updateDNSEndpointEntry_isOk_iff (table : EndpointTable) :
    (∃ table', updateDNSEndpointEntry eip cip table = .ok table') ↔ NotIPv6 eip ∧ NotIPv6 cip := by
  rw [← ip2ptr_isOk_iff, ← ip2ptr_isOk_iff]
  simp only [updateDNSEndpointEntry, bind_eq_ok]
  constructor
  · rintro ⟨table', e, he, c, hc, -⟩
    exact ⟨⟨e, he⟩, c, hc⟩
  · rintro ⟨⟨e, he⟩, c, hc⟩
    cases e with
    | none => exact ⟨table, none, he, c, hc, rfl⟩
    | some e =>
      cases c with
      | none => exact ⟨table, some e, he, none, hc, rfl⟩
      | some c => exact ⟨_, some e, he, some c, hc, rfl⟩

theorem deleteDNSEndpointEntry_isOk_iff (table : EndpointTable) :
    (∃ table', deleteDNSEndpointEntry eip table = .ok table') ↔ NotIPv6 eip := by
  rw [← ip2ptr_isOk_iff]
  simp only [deleteDNSEndpointEntry, bind_eq_ok]
  constructor
  · rintro ⟨table', e, he, -⟩
    exact ⟨e, he⟩
  · rintro ⟨e, he⟩
    cases e with
    | none => exact ⟨table, none, he, rfl⟩
    | some e => exact ⟨_, some e, he, rfl⟩

/-! ## The loops -/

/-- The shadow map has the endpoint, with this cluster IP. -/
def HasEndpoint (shadow : Map String String) (eip cip : String) : Prop :=
  ∃ pcip, shadow.lookup eip = some pcip ∧ equalFold cip pcip = true

variable {st st' : EndpointState} {entry : (_ : String) × String}

theorem addEndpoint_isOk_iff : (∃ st', addEndpoint st entry = .ok st') ↔
    HasEndpoint st.dnsEndpoints entry.1 entry.2 ∨ (NotIPv6 entry.1 ∧ NotIPv6 entry.2) := by
  rw [← updateDNSEndpointEntry_isOk_iff st.endpt, HasEndpoint]
  unfold addEndpoint
  cases hlookup : st.dnsEndpoints.lookup entry.1 with
  | none => simp [bind_eq_ok, pure, Except.pure]
  | some pcip =>
    dsimp only
    split
    · rename_i heq
      exact iff_of_true ⟨st, rfl⟩ (.inl ⟨pcip, rfl, heq⟩)
    · rename_i heq
      simp [bind_eq_ok, heq, pure, Except.pure]

/-- The first loop keeps the keys of the shadow map, and what it has at every other key. -/
theorem addEndpoint_shadow (h : addEndpoint st entry = .ok st') :
    (∀ k, k ∈ st'.dnsEndpoints ↔ k ∈ st.dnsEndpoints) ∧
      ∀ k, entry.1 ≠ k → st'.dnsEndpoints.lookup k = st.dnsEndpoints.lookup k := by
  unfold addEndpoint at h
  cases hlookup : st.dnsEndpoints.lookup entry.1 with
  | none =>
    rw [hlookup] at h
    obtain ⟨endpt, -, hst⟩ := bind_eq_ok.1 h
    obtain rfl := Except.ok.inj hst
    exact ⟨fun _ => Iff.rfl, fun _ _ => rfl⟩
  | some pcip =>
    simp only [hlookup] at h
    split at h
    · obtain rfl := Except.ok.inj h
      exact ⟨fun _ => Iff.rfl, fun _ _ => rfl⟩
    · obtain ⟨endpt, -, hst⟩ := bind_eq_ok.1 h
      obtain rfl := Except.ok.inj hst
      have hmem : entry.1 ∈ st.dnsEndpoints := AList.lookup_isSome.1 (by rw [hlookup]; rfl)
      refine ⟨fun k => ?_, fun k hk => AList.lookup_insert_ne hk.symm⟩
      rw [AList.mem_insert]
      exact or_iff_right_of_imp fun he => he ▸ hmem

theorem mem_foldlM_addEndpoint {k : String} : ∀ {l : List ((_ : String) × String)}
    {st st' : EndpointState}, l.foldlM addEndpoint st = .ok st' →
      (k ∈ st'.dnsEndpoints ↔ k ∈ st.dnsEndpoints)
  | [], st, st', h => by
    obtain rfl := Except.ok.inj h
    exact Iff.rfl
  | entry :: l, st, st', h => by
    rw [List.foldlM_cons, bind_eq_ok] at h
    obtain ⟨st₁, h₁, hl⟩ := h
    exact (mem_foldlM_addEndpoint hl).trans ((addEndpoint_shadow h₁).1 k)

theorem foldlM_addEndpoint_isOk_iff {l : List ((_ : String) × String)}
    (hl : l.Pairwise fun e e' => e.1 ≠ e'.1) :
    (∃ st', l.foldlM addEndpoint st = .ok st') ↔ ∀ e ∈ l,
      HasEndpoint st.dnsEndpoints e.1 e.2 ∨ (NotIPv6 e.1 ∧ NotIPv6 e.2) := by
  refine foldlM_isOk_iff (fun st e => addEndpoint_isOk_iff) ?_ hl
  intro s e s' e' hs hne
  rw [HasEndpoint, HasEndpoint, (addEndpoint_shadow hs).2 e'.1 hne]

theorem dropEndpoint_isOk_iff {latest : Map String String} :
    (∃ st', dropEndpoint latest st eip = .ok st') ↔ eip ∈ latest ∨ NotIPv6 eip := by
  rw [← deleteDNSEndpointEntry_isOk_iff st.endpt]
  unfold dropEndpoint
  split
  · rename_i hmem
    exact iff_of_true ⟨st, rfl⟩ (.inl hmem)
  · rename_i hmem
    simp [bind_eq_ok, hmem, pure, Except.pure]

theorem foldlM_dropEndpoint_isOk_iff {latest : Map String String} {l : List String} :
    (∃ st', l.foldlM (dropEndpoint latest) st = .ok st') ↔
      ∀ eip ∈ l, eip ∈ latest ∨ NotIPv6 eip := by
  have hok : ∀ st eip, (∃ st', dropEndpoint latest st eip = .ok st') ↔
      eip ∈ latest ∨ NotIPv6 eip := fun _ _ => dropEndpoint_isOk_iff
  exact foldlM_isOk_iff (R := fun _ _ => True) hok (fun _ _ => Iff.rfl)
    (List.pairwise_of_forall fun _ _ => trivial)

/-! ## The run -/

/-- The endpoints object is there; for each of its addresses the service is there, and an address
that is not in the shadow map with the cluster IP of the service goes to the kernel as IPv4; so does
an address that leaves the shadow map. -/
def NoPanic (dns : DNSSpec) (kubeController : K8s.Client) (shadow : Map String String) : Prop :=
  ∃ dnsEndpoints, kubeController.getEndpoints dns.service = some dnsEndpoints ∧
    (∀ eip ∈ dnsAddresses dns.service dnsEndpoints,
      ∃ svc, kubeController.getService dns.service = some svc ∧
        (HasEndpoint shadow eip svc.clusterIP ∨ (NotIPv6 eip ∧ NotIPv6 svc.clusterIP))) ∧
    ∀ eip ∈ shadow, eip ∈ dnsAddresses dns.service dnsEndpoints ∨ NotIPv6 eip

/-- The two loops, over a map of the addresses to one cluster IP. -/
theorem loops_isOk_iff {order : RangeOrder} {latest : Map String String} {addresses : List String}
    {clusterIP : String}
    (hlatest : ∀ e, e ∈ latest.entries ↔ e.1 ∈ addresses ∧ e.2 = clusterIP) :
    (∃ st', ((order.visit latest.entries).foldlM addEndpoint st >>= fun st =>
        (order.visit st.dnsEndpoints.keys).foldlM (dropEndpoint latest) st) = .ok st') ↔
      (∀ eip ∈ addresses,
        HasEndpoint st.dnsEndpoints eip clusterIP ∨ (NotIPv6 eip ∧ NotIPv6 clusterIP)) ∧
      ∀ eip ∈ st.dnsEndpoints, eip ∈ addresses ∨ NotIPv6 eip := by
  have hmem : ∀ eip, eip ∈ latest ↔ eip ∈ addresses := by
    intro eip
    rw [AList.mem_keys, AList.keys, List.keys, List.mem_map]
    constructor
    · rintro ⟨e, he, rfl⟩
      exact ((hlatest e).1 he).1
    · exact fun heip => ⟨⟨eip, clusterIP⟩, (hlatest _).2 ⟨heip, rfl⟩, rfl⟩
  have hadd : (∃ st', (order.visit latest.entries).foldlM addEndpoint st = .ok st') ↔
      ∀ eip ∈ addresses,
        HasEndpoint st.dnsEndpoints eip clusterIP ∨ (NotIPv6 eip ∧ NotIPv6 clusterIP) := by
    rw [foldlM_addEndpoint_isOk_iff (order.pairwise_visit latest)]
    simp only [order.mem_visit, hlatest]
    constructor
    · exact fun h eip heip => h ⟨eip, clusterIP⟩ ⟨heip, rfl⟩
    · rintro h ⟨eip, _⟩ ⟨heip, rfl⟩
      exact h eip heip
  have hdrop : ∀ {st₁}, (order.visit latest.entries).foldlM addEndpoint st = .ok st₁ →
      ((∃ st', (order.visit st₁.dnsEndpoints.keys).foldlM (dropEndpoint latest) st₁ = .ok st') ↔
        ∀ eip ∈ st.dnsEndpoints, eip ∈ addresses ∨ NotIPv6 eip) := by
    intro st₁ h₁
    rw [foldlM_dropEndpoint_isOk_iff]
    simp only [order.mem_visit, ← AList.mem_keys, mem_foldlM_addEndpoint h₁, hmem]
  simp only [bind_eq_ok]
  constructor
  · rintro ⟨st', st₁, h₁, h'⟩
    exact ⟨hadd.1 ⟨st₁, h₁⟩, (hdrop h₁).1 ⟨st', h'⟩⟩
  · rintro ⟨hok, hrest⟩
    obtain ⟨st₁, h₁⟩ := hadd.2 hok
    obtain ⟨st', h'⟩ := (hdrop h₁).2 hrest
    exact ⟨st', st₁, h₁, h'⟩

/-- **A run completes exactly when** what it dereferences is there and every address it hands to the
kernel is no IPv6 address. -/
theorem syncDNSEndpoints_completes_iff (order : RangeOrder) (dns : DNSSpec)
    (kubeController : K8s.Client) (st : EndpointState) :
    (∃ st', syncDNSEndpoints order dns kubeController st = .ok st') ↔
      NoPanic dns kubeController st.dnsEndpoints := by
  unfold syncDNSEndpoints NoPanic
  cases kubeController.getEndpoints dns.service with
  | none => simp
  | some dnsEndpoints =>
    simp only [Option.some.injEq, exists_eq_left']
    cases kubeController.getService dns.service with
    | none =>
      cases haddresses : dnsAddresses dns.service dnsEndpoints with
      | nil =>
        have hlatest : ∀ e : (_ : String) × String,
            e ∈ (∅ : Map String String).entries ↔ e.1 ∈ ([] : List String) ∧ e.2 = "" := by simp
        refine (loops_isOk_iff hlatest).trans (and_congr_left fun _ => ?_)
        exact iff_of_true (fun _ h => by cases h) fun _ h => by cases h
      | cons eip addresses =>
        refine iff_of_false ?_ ?_
        · rintro ⟨st', h⟩
          cases h
        · rintro ⟨h, -⟩
          obtain ⟨svc, hsvc, -⟩ := h eip (.head _)
          cases hsvc
    | some svc =>
      simp only [latestEndpoints_some, Option.some.injEq, exists_eq_left']
      exact loops_isOk_iff (mem_entries_foldl_insert svc.clusterIP _)

/-- The cluster DNS with its endpoints missing, with its service missing, and with an IPv6
endpoint. -/
theorem syncDNSEndpoints_panics :
    syncDNSEndpoints .asIs ⟨"kube-system", "kube-dns", 53, "udp"⟩
        { dnsClient "10.0.0.2" with endpoints := ⟨[], by simp⟩ } .empty =
      .error .nilDereference ∧
    syncDNSEndpoints .asIs ⟨"kube-system", "kube-dns", 53, "udp"⟩
        { dnsClient "10.0.0.2" with services := ⟨[], by simp⟩ } .empty =
      .error .nilDereference ∧
    syncDNSEndpoints .asIs ⟨"kube-system", "kube-dns", 53, "udp"⟩ (dnsClient "fd00::2") .empty =
      .error .indexOutOfRange :=
  ⟨rfl, rfl, rfl⟩

end Bridge
