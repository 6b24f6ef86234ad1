import ErieCanalNet.Bridge.Node
import ErieCanalNet.Bridge.Proof.Delete
import ErieCanalNet.Bridge.Proof.Endpoints
import ErieCanalNet.Bridge.Proof.Installs

/-!
# The kernel maps of a node over its life

The maps after any sequence of jobs, restarts and evictions, read off the events:

* the shadow map of the endpoints stays empty (`dnsEndpoints_of_reaches`), so that an endpoint is in
  the kernel since the last job that listed it (`endpt_of_reaches`);
* a name is in the shadow map of the resolver since a job that had it (`dnsResolves_of_reaches`);
* a record is in the kernel since a job that had its name anew and wrote it: no job removes one
  (`resdb_of_reaches`).
-/

namespace Bridge

open Go K8s Lib Mesh

/-! ## Endpoints -/

/-- The job lists the endpoint, and the service has the cluster IP. -/
def BridgeNodeWatcherJob.Lists (job : BridgeNodeWatcherJob) (eip cip : Addr) : Prop :=
  ∃ dnsEndpoints svc, job.kubeController.getEndpoints job.dns.service = some dnsEndpoints ∧
    job.kubeController.getService job.dns.service = some svc ∧
    (∃ a ∈ dnsAddresses job.dns.service dnsEndpoints, ip2ptr a = .ok (some eip)) ∧
    ip2ptr svc.clusterIP = .ok (some cip)

theorem BridgeNodeWatcherJob.lists_iff (job : BridgeNodeWatcherJob) {dnsEndpoints : Endpoints}
    {svc : Service} (hendpoints : job.kubeController.getEndpoints job.dns.service =
      some dnsEndpoints) (hsvc : job.kubeController.getService job.dns.service = some svc)
    {eip cip : Addr} : job.Lists eip cip ↔
      (∃ a ∈ dnsAddresses job.dns.service dnsEndpoints, ip2ptr a = .ok (some eip)) ∧
        ip2ptr svc.clusterIP = .ok (some cip) := by
  simp [Lists, hendpoints, hsvc]

/-- The endpoint is listed anew, or goes. -/
def NodeEvent.EndsEndpoint (eip : Addr) : NodeEvent → Prop
  | .job j => ∃ cip, j.Lists eip cip
  | .restart stopped => stopped = true
  | .evictResolve _ => False
  | .evictEndpoint eip' => eip' = eip

/-- The last job that listed the endpoint had this cluster IP. -/
def Served (eip cip : Addr) : List NodeEvent → Prop :=
  Since (fun _ e => ∃ job, e = .job job ∧ job.Lists eip cip) (NodeEvent.EndsEndpoint eip)

/-- What an update of the kernel map that does not panic leaves. -/
theorem updateDNSEndpointEntry_ok {eip cip : String} {table table' : EndpointTable}
    (h : updateDNSEndpointEntry eip cip table = .ok table') (k c : Addr) :
    table' k = some c ↔ (ip2ptr eip = .ok (some k) ∧ ip2ptr cip = .ok (some c)) ∨
      table k = some c ∧ ¬ (ip2ptr eip = .ok (some k) ∧ ∃ c', ip2ptr cip = .ok (some c')) := by
  simp only [updateDNSEndpointEntry, bind_eq_ok] at h
  obtain ⟨e, he, p, hp, hrest⟩ := h
  rw [he, hp]
  cases e with
  | none =>
    obtain rfl := Except.ok.inj hrest
    simp
  | some e =>
    cases p with
    | none =>
      obtain rfl := Except.ok.inj hrest
      simp
    | some p =>
      obtain rfl := Except.ok.inj hrest
      by_cases hk : k = e
      · subst hk
        simp [Function.update_self]
      · simp [Function.update_of_ne hk, Ne.symm hk]

/-- The first loop, with an empty shadow map and one cluster IP for all endpoints. -/
theorem foldlM_addEndpoint_ok {cip : String} {entries : List ((_ : String) × String)}
    {endpt : EndpointTable} {st : EndpointState} (hcip : ∀ e ∈ entries, e.2 = cip)
    (h : entries.foldlM addEndpoint ⟨∅, endpt⟩ = .ok st) :
    st.dnsEndpoints = ∅ ∧ ∀ k c, st.endpt k = some c ↔
      ((∃ e ∈ entries, ip2ptr e.1 = .ok (some k)) ∧ ip2ptr cip = .ok (some c)) ∨
        endpt k = some c ∧ ¬ ((∃ e ∈ entries, ip2ptr e.1 = .ok (some k)) ∧
          ∃ c', ip2ptr cip = .ok (some c')) := by
  induction entries generalizing endpt with
  | nil =>
    obtain rfl := Except.ok.inj h
    simp
  | cons e entries ih =>
    obtain ⟨he, hentries⟩ := List.forall_mem_cons.1 hcip
    rw [List.foldlM_cons, bind_eq_ok] at h
    obtain ⟨st₁, h₁, hrest⟩ := h
    obtain ⟨endpt₁, hupdate, hst₁⟩ := bind_eq_ok.1 (show (updateDNSEndpointEntry e.1 e.2 endpt >>=
      fun endpt => _) = Except.ok st₁ from h₁)
    obtain rfl := Except.ok.inj hst₁
    rw [he] at hupdate
    obtain ⟨hempty, hspec⟩ := ih hentries hrest
    refine ⟨hempty, fun k c => ?_⟩
    rw [hspec, updateDNSEndpointEntry_ok hupdate]
    simp only [List.mem_cons, exists_eq_or_imp]
    grind

theorem exists_mem_entries {latest : Map String String} {addresses : List String} {cip : String}
    {order : RangeOrder} (hlatest : ∀ e, e ∈ latest.entries ↔ e.1 ∈ addresses ∧ e.2 = cip)
    (k : Addr) : (∃ e ∈ order.visit latest.entries, ip2ptr e.1 = .ok (some k)) ↔
      ∃ a ∈ addresses, ip2ptr a = .ok (some k) := by
  simp only [order.mem_visit, hlatest]
  constructor
  · rintro ⟨e, ⟨he, -⟩, hk⟩
    exact ⟨e.1, he, hk⟩
  · rintro ⟨a, ha, hk⟩
    exact ⟨⟨a, cip⟩, ⟨ha, rfl⟩, hk⟩

/-- **A run with an empty shadow map** writes the endpoints it lists, and nothing else. -/
theorem syncDNSEndpoints_ok {job : BridgeNodeWatcherJob} {endpt : EndpointTable}
    {st : EndpointState}
    (h : syncDNSEndpoints job.endpointOrder job.dns job.kubeController ⟨∅, endpt⟩ = .ok st) :
    st.dnsEndpoints = ∅ ∧ ∀ k c, st.endpt k = some c ↔
      job.Lists k c ∨ endpt k = some c ∧ ¬ ∃ c', job.Lists k c' := by
  unfold syncDNSEndpoints at h
  cases hendpoints : job.kubeController.getEndpoints job.dns.service with
  | none => simp [hendpoints] at h
  | some dnsEndpoints =>
    simp only [hendpoints, bind_eq_ok] at h
    obtain ⟨latest, hlatest, st₁, hadd, hdrop⟩ := h
    cases hsvc : job.kubeController.getService job.dns.service with
    | none =>
      -- without the service no address may be listed
      rw [hsvc] at hlatest
      cases haddresses : dnsAddresses job.dns.service dnsEndpoints with
      | nil =>
        rw [haddresses] at hlatest
        obtain rfl : ∅ = latest := Except.ok.inj hlatest
        rw [AList.empty_entries, job.endpointOrder.visit_nil] at hadd
        obtain rfl := Except.ok.inj hadd
        rw [AList.keys_empty, job.endpointOrder.visit_nil] at hdrop
        obtain rfl := Except.ok.inj hdrop
        simp [BridgeNodeWatcherJob.Lists, hsvc]
      | cons a addresses =>
        rw [haddresses] at hlatest
        cases hlatest
    | some svc =>
      rw [hsvc, latestEndpoints_some] at hlatest
      obtain rfl := Except.ok.inj hlatest
      have hentries := mem_entries_foldl_insert svc.clusterIP
        (dnsAddresses job.dns.service dnsEndpoints)
      obtain ⟨hempty, hspec⟩ := foldlM_addEndpoint_ok
        (fun e he => ((hentries e).1 (job.endpointOrder.mem_visit.1 he)).2) hadd
      rw [hempty, AList.keys_empty, job.endpointOrder.visit_nil] at hdrop
      obtain rfl := Except.ok.inj hdrop
      refine ⟨hempty, fun k c => ?_⟩
      rw [hspec, exists_mem_entries hentries]
      simp only [job.lists_iff hendpoints hsvc, exists_and_left]

variable {pack : List Byte → Option (List Byte)} {bridgeIPInt : BitVec 32}
  {events : List NodeEvent} {node node' : Node}

/-- What a job that completes has done. -/
theorem BridgeNodeWatcherJob.run_ok {job : BridgeNodeWatcherJob}
    (h : node.step pack bridgeIPInt (.job job) = some node') :
    syncDNSEndpoints job.endpointOrder job.dns job.kubeController node.endpoints =
        .ok node'.endpoints ∧
      node'.resolves = syncDNSResolves (job.env pack bridgeIPInt) job.resolveOrder job.policy
        node.resolves := by
  unfold Node.step BridgeNodeWatcherJob.run at h
  cases hsync : syncDNSEndpoints job.endpointOrder job.dns job.kubeController node.endpoints with
  | error panic => simp [hsync, bind, Except.bind, Except.toOption] at h
  | ok endpoints =>
    simp only [hsync] at h
    obtain rfl := Option.some.inj h
    exact ⟨rfl, rfl⟩

/-- The shadow map of the endpoints stays empty. -/
theorem dnsEndpoints_of_reaches (h : Node.Reaches pack bridgeIPInt events node) :
    node.endpoints.dnsEndpoints = ∅ := by
  refine Run.invariant_labels (fun _ node => node.endpoints.dnsEndpoints = ∅) h rfl ?_
  intro _ node e node' hempty hstep
  cases e with
  | job job =>
    obtain ⟨hsync, -⟩ := BridgeNodeWatcherJob.run_ok hstep
    rw [show node.endpoints = ⟨∅, node.endpoints.endpt⟩ by rw [← hempty]] at hsync
    exact (syncDNSEndpoints_ok hsync).1
  | restart stopped => cases stopped <;> (obtain rfl := Option.some.inj hstep; rfl)
  | evictResolve q => obtain rfl := Option.some.inj hstep; exact hempty
  | evictEndpoint eip => obtain rfl := Option.some.inj hstep; exact hempty

/-- **The endpoints in the kernel.** -/
theorem endpt_of_reaches (h : Node.Reaches pack bridgeIPInt events node) (eip cip : Addr) :
    node.endpoints.endpt eip = some cip ↔ Served eip cip events := by
  refine Run.iff_since (fun node => node.endpoints.endpt eip = some cip) h nofun ?_
  intro events node e node' hrun hstep
  cases e with
  | job job =>
    obtain ⟨hsync, -⟩ := BridgeNodeWatcherJob.run_ok hstep
    rw [show node.endpoints = ⟨∅, node.endpoints.endpt⟩ by
      rw [← dnsEndpoints_of_reaches hrun]] at hsync
    rw [(syncDNSEndpoints_ok hsync).2]
    simp [NodeEvent.EndsEndpoint]
  | restart stopped =>
    cases stopped <;> (obtain rfl := Option.some.inj hstep; simp [NodeEvent.EndsEndpoint, Node.new])
  | evictResolve q => obtain rfl := Option.some.inj hstep; simp [NodeEvent.EndsEndpoint]
  | evictEndpoint eip' =>
    obtain rfl := Option.some.inj hstep
    by_cases he : eip = eip'
    · simp [NodeEvent.EndsEndpoint, he]
    · simp [NodeEvent.EndsEndpoint, Function.update_of_ne he, Ne.symm he]

/-! ## Names -/

/-- The shadow map loses the name. -/
def NodeEvent.EndsName (hostname : String) : NodeEvent → Prop
  | .job j => ¬ NoRoutes j.policy ∧ ¬ Resolvable j.policy hostname
  | .restart _ => True
  | .evictResolve _ => False
  | .evictEndpoint _ => False

/-- The server has the name from a job. -/
def Held (hostname : String) : List NodeEvent → Prop :=
  Since (fun _ e => ∃ job, e = .job job ∧ Resolvable job.policy hostname)
    (NodeEvent.EndsName hostname)

/-- **The names in the shadow map.** -/
theorem dnsResolves_of_reaches (h : Node.Reaches pack bridgeIPInt events node)
    (hostname : String) : hostname ∈ node.resolves.dnsResolves ↔ Held hostname events := by
  refine Run.iff_since (fun node => hostname ∈ node.resolves.dnsResolves) h
    (AList.notMem_empty hostname) ?_
  intro events node e node' _ hstep
  cases e with
  | job job =>
    obtain ⟨-, hsync⟩ := BridgeNodeWatcherJob.run_ok hstep
    rw [hsync]
    by_cases hno : NoRoutes job.policy
    · have hnot : ¬ Resolvable job.policy hostname := fun hr => hr.hasRoutes hno
      rw [syncDNSResolves_noRoutes hno]
      simp [NodeEvent.EndsName, hno, hnot]
    · rw [mem_syncDNSResolves hno]
      simp only [NodeEvent.EndsName, NodeEvent.job.injEq, exists_eq_left', hno]
      tauto
  | restart stopped =>
    cases stopped <;>
      (obtain rfl := Option.some.inj hstep; simp [NodeEvent.EndsName, Node.new])
  | evictResolve q => obtain rfl := Option.some.inj hstep; simp [NodeEvent.EndsName]
  | evictEndpoint eip => obtain rfl := Option.some.inj hstep; simp [NodeEvent.EndsName]

/-! ## Records -/

/-- Every record points to the bridge. -/
def bridgeRecord (bridgeIPInt : BitVec 32) : ARecord := { addr := bswap32 bridgeIPInt, ttl := 60 }

/-- An update of the name writes the record under the key. -/
def ResolveEnv.Writes (env : ResolveEnv) (hostname : String) (q : DnsQuery) : Prop :=
  ∃ packed, env.pack (bytesOf hostname ++ [46]) = some packed ∧
    ∃ qType ∈ [typeA, typeAAAA], env.updateOk hostname qType = true ∧ q = queryKey qType packed

theorem updateDNSResolveEntry_eq_some {env : ResolveEnv} {hostname : String} {table : ResolveTable}
    {q : DnsQuery} {a : ARecord} :
    updateDNSResolveEntry env.pack (env.updateOk hostname) env.bridgeIPInt (bytesOf hostname) 60
        table q = some a ↔
      (env.Writes hostname q ∧ a = bridgeRecord env.bridgeIPInt) ∨
        table q = some a ∧ ¬ env.Writes hostname q := by
  unfold ResolveEnv.Writes
  cases hpack : env.pack (bytesOf hostname ++ [46]) with
  | none => simp [updateDNSResolveEntry_of_none hpack]
  | some packed =>
    have hupdate : ∀ (table : ResolveTable) (qType : BitVec 16),
        (if env.updateOk hostname qType then Function.update table (queryKey qType packed)
          (some (bridgeRecord env.bridgeIPInt)) else table) q = some a ↔
        ((env.updateOk hostname qType = true ∧ q = queryKey qType packed) ∧
          a = bridgeRecord env.bridgeIPInt) ∨
        table q = some a ∧ ¬ (env.updateOk hostname qType = true ∧ q = queryKey qType packed) := by
      intro table qType
      by_cases hok : env.updateOk hostname qType = true
      · by_cases hq : q = queryKey qType packed
        · subst hq
          simp [hok, eq_comm]
        · simp [hok, hq]
      · simp [hok]
    simp only [updateDNSResolveEntry, List.foldl_cons, List.foldl_nil, hpack]
    rw [show ({ addr := bswap32 env.bridgeIPInt, ttl := 60 } : ARecord) =
      bridgeRecord env.bridgeIPInt from rfl, hupdate, hupdate]
    simp only [Option.some.injEq, exists_eq_left', List.mem_cons, List.not_mem_nil, or_false,
      exists_eq_or_imp, exists_eq_left]
    tauto

/-- The first loop writes the names that are not in the shadow map. -/
theorem resdb_foldl_addResolve {env : ResolveEnv} {q : DnsQuery} {a : ARecord} {l : List String}
    {st : ResolveState} :
    (l.foldl (addResolve env) st).resdb q = some a ↔
      ((∃ hostname ∈ l, hostname ∉ st.dnsResolves ∧ env.Writes hostname q) ∧
          a = bridgeRecord env.bridgeIPInt) ∨
        st.resdb q = some a ∧
          ¬ ∃ hostname ∈ l, hostname ∉ st.dnsResolves ∧ env.Writes hostname q := by
  induction l generalizing st with
  | nil => simp
  | cons hostname l ih =>
    rw [List.foldl_cons, ih]
    simp only [List.mem_cons, exists_eq_or_imp]
    unfold addResolve
    split
    · rename_i hmem
      simp [hmem]
    · rename_i hmem
      simp only [updateDNSResolveEntry_eq_some, AList.mem_insert, hmem, not_false_eq_true, true_and,
        not_or]
      grind

/-- The second loop removes nothing, if none of the names is qualified. -/
theorem resdb_foldl_dropResolve {env : ResolveEnv} {latest : Map String UInt8} {l : List String}
    {st : ResolveState} (h : ∀ hostname ∈ l, env.pack (bytesOf hostname) = none) :
    (l.foldl (dropResolve env latest) st).resdb = st.resdb := by
  induction l generalizing st with
  | nil => rfl
  | cons hostname l ih =>
    obtain ⟨hnone, hl⟩ := List.forall_mem_cons.1 h
    rw [List.foldl_cons, ih hl]
    unfold dropResolve
    split
    · rfl
    · exact deleteDNSResolveEntry_of_none hnone

/-- **A run** writes the records of its new names. -/
theorem resdb_syncDNSResolves {env : ResolveEnv} {order : RangeOrder}
    {policy : OutboundMeshTrafficPolicy} {st : ResolveState} {q : DnsQuery} {a : ARecord}
    (hst : ∀ hostname ∈ st.dnsResolves, env.pack (bytesOf hostname) = none)
    (hpolicy : ∀ hostname, Resolvable policy hostname → env.pack (bytesOf hostname) = none) :
    (syncDNSResolves env order policy st).resdb q = some a ↔
      ((∃ hostname, Resolvable policy hostname ∧ hostname ∉ st.dnsResolves ∧
          env.Writes hostname q) ∧ a = bridgeRecord env.bridgeIPInt) ∨
        st.resdb q = some a ∧ ¬ ∃ hostname, Resolvable policy hostname ∧
          hostname ∉ st.dnsResolves ∧ env.Writes hostname q := by
  by_cases hno : NoRoutes policy
  · have hnot : ∀ hostname, ¬ Resolvable policy hostname := fun _ hr => hr.hasRoutes hno
    rw [syncDNSResolves_noRoutes hno]
    simp [hnot]
  · rw [syncDNSResolves, if_neg (by simpa [NoRoutes] using hno)]
    dsimp only
    rw [resdb_foldl_dropResolve, resdb_foldl_addResolve]
    · simp only [order.mem_visit, ← AList.mem_keys, mem_latest]
    · intro hostname hmem
      rw [order.mem_visit, ← AList.mem_keys, mem_foldl_addResolve, order.mem_visit,
        ← AList.mem_keys, mem_latest] at hmem
      exact hmem.elim (hst hostname) (hpolicy hostname)

/-- The record goes. -/
def NodeEvent.EndsRecord (q : DnsQuery) : NodeEvent → Prop
  | .job _ => False
  | .restart stopped => stopped = true
  | .evictResolve q' => q' = q
  | .evictEndpoint _ => False

/-- A job has a name of the record that the server does not have, and writes it. -/
def NodeEvent.SetsRecord (pack : List Byte → Option (List Byte)) (bridgeIPInt : BitVec 32)
    (q : DnsQuery) (before : List NodeEvent) (e : NodeEvent) : Prop :=
  ∃ job, e = .job job ∧ ∃ hostname, Resolvable job.policy hostname ∧ ¬ Held hostname before ∧
    (job.env pack bridgeIPInt).Writes hostname q

/-- A job has written the record. -/
def Recorded (pack : List Byte → Option (List Byte)) (bridgeIPInt : BitVec 32) (q : DnsQuery) :
    List NodeEvent → Prop :=
  Since (NodeEvent.SetsRecord pack bridgeIPInt q) (NodeEvent.EndsRecord q)

/-- A hostname that is a name of the DNS, other than the root. -/
def IsName (hostname : String) : Prop :=
  ∃ n : Dns.Name, n.labels ≠ [] ∧ bytesOf hostname = Dns.text n.labels

/-- The names of a job are names of the DNS. -/
def NodeEvent.Named : NodeEvent → Prop
  | .job j => ∀ hostname, Resolvable j.policy hostname → IsName hostname
  | _ => True

theorem pack_of_named (hp : PacksQualified pack) {hostname : String} (h : IsName hostname) :
    pack (bytesOf hostname) = none := by
  obtain ⟨n, hroot, hn⟩ := h
  rw [hn]
  exact hp.unqualified _ (n.text_ne_nil hroot) (Dns.not_fullyQualified_text n)

theorem Held.named {hostname : String} (h : Held hostname events) (hnamed : ∀ e ∈ events, e.Named) :
    IsName hostname := by
  obtain ⟨before, e, after, rfl, ⟨job, rfl, hr⟩, -⟩ := h
  exact hnamed (.job job) (by simp) hostname hr

/-- **One event**: a job writes the records of its new names, and removes none. -/
theorem resdb_step (hp : PacksQualified pack) (h : Node.Reaches pack bridgeIPInt events node)
    (hnamed : ∀ e ∈ events, e.Named) {e : NodeEvent} (he : e.Named)
    (hstep : node.step pack bridgeIPInt e = some node') {q : DnsQuery} {a : ARecord} :
    node'.resolves.resdb q = some a ↔
      (e.SetsRecord pack bridgeIPInt q events ∧ a = bridgeRecord bridgeIPInt) ∨
        node.resolves.resdb q = some a ∧ ¬ e.SetsRecord pack bridgeIPInt q events ∧
          ¬ e.EndsRecord q := by
  cases e with
  | job job =>
    obtain ⟨-, hsync⟩ := BridgeNodeWatcherJob.run_ok hstep
    rw [hsync, resdb_syncDNSResolves]
    · simp only [dnsResolves_of_reaches h, NodeEvent.SetsRecord, NodeEvent.job.injEq,
        exists_eq_left', NodeEvent.EndsRecord, not_false_eq_true, and_true]
      rfl
    · intro hostname hmem
      exact pack_of_named hp (((dnsResolves_of_reaches h hostname).1 hmem).named hnamed)
    · exact fun hostname hr => pack_of_named hp (he hostname hr)
  | restart stopped =>
    cases stopped <;> obtain rfl := Option.some.inj hstep <;>
      simp [NodeEvent.SetsRecord, NodeEvent.EndsRecord, Node.new]
  | evictResolve q' =>
    obtain rfl := Option.some.inj hstep
    by_cases hq : q = q'
    · simp [NodeEvent.SetsRecord, NodeEvent.EndsRecord, hq]
    · simp [NodeEvent.SetsRecord, NodeEvent.EndsRecord, hq, Ne.symm hq]
  | evictEndpoint eip =>
    obtain rfl := Option.some.inj hstep
    simp [NodeEvent.SetsRecord, NodeEvent.EndsRecord]

/-- Every record points to the bridge. -/
theorem record_of_reaches (hp : PacksQualified pack) (h : Node.Reaches pack bridgeIPInt events node)
    (hnamed : ∀ e ∈ events, e.Named) {q : DnsQuery} {a : ARecord}
    (ha : node.resolves.resdb q = some a) : a = bridgeRecord bridgeIPInt := by
  induction h with
  | nil => cases ha
  | snoc hrun hstep ih =>
    rw [List.forall_mem_append, List.forall_mem_singleton] at hnamed
    rcases (resdb_step hp hrun hnamed.1 hnamed.2 hstep).1 ha with ⟨-, ha⟩ | ⟨ha, -⟩
    · exact ha
    · exact ih hnamed.1 ha

/-- **The records in the kernel.** -/
theorem resdb_of_reaches (hp : PacksQualified pack) (h : Node.Reaches pack bridgeIPInt events node)
    (hnamed : ∀ e ∈ events, e.Named) (q : DnsQuery) :
    node.resolves.resdb q = some (bridgeRecord bridgeIPInt) ↔
      Recorded pack bridgeIPInt q events := by
  induction h with
  | nil => exact iff_of_false nofun not_since_nil
  | snoc hrun hstep ih =>
    rw [List.forall_mem_append, List.forall_mem_singleton] at hnamed
    rw [resdb_step hp hrun hnamed.1 hnamed.2 hstep, ih hnamed.1, Recorded, since_concat]
    tauto

/-! ## Nodes that lose nothing -/

/-- Every update succeeds, and no entry goes. -/
def NodeEvent.Lossless : NodeEvent → Prop
  | .job j => ∀ hostname qType, j.updateOk hostname qType = true
  | .restart stopped => stopped = false
  | .evictResolve _ => False
  | .evictEndpoint _ => False

theorem NodeEvent.Lossless.not_endsRecord {e : NodeEvent} (h : e.Lossless) (q : DnsQuery) :
    ¬ e.EndsRecord q := by
  cases e with
  | job j => exact id
  | restart stopped => exact fun hs => Bool.false_ne_true (h.symm.trans hs)
  | evictResolve q' => exact h.elim
  | evictEndpoint eip => exact id

/-- **Every name a job had** has its records. -/
theorem recorded_of_lossless (hp : PacksQualified pack) (bridgeIPInt : BitVec 32)
    (hl : ∀ e ∈ events, e.Lossless) {job : BridgeNodeWatcherJob} (hjob : .job job ∈ events)
    {hostname : String} (hr : Resolvable job.policy hostname) {n : Dns.Name}
    (hn : bytesOf hostname = Dns.text n.labels) {qType : BitVec 16}
    (hq : qType ∈ [typeA, typeAAAA]) :
    Recorded pack bridgeIPInt (queryKey qType n.wire) events := by
  induction events using List.reverseRecOn generalizing job with
  | nil => cases hjob
  | append_singleton events e ih =>
    rw [List.forall_mem_append, List.forall_mem_singleton] at hl
    refine since_concat.2 ?_
    rcases List.mem_append.1 hjob with hjob | hjob
    · exact .inr ⟨ih hl.1 hjob hr, hl.2.not_endsRecord _⟩
    · obtain rfl := List.mem_singleton.1 hjob
      by_cases hheld : Held hostname events
      · -- the name was written when it came
        obtain ⟨before, e', after, rfl, ⟨job', rfl, hr'⟩, -⟩ := hheld
        exact .inr ⟨ih hl.1 (by simp) hr', hl.2.not_endsRecord _⟩
      · have hpack : pack (bytesOf hostname ++ [46]) = some n.wire := by
          rw [hn]
          exact hp.wire n
        exact .inl ⟨job, rfl, hostname, hr, hheld, n.wire, hpack, qType, hq, hl.2 hostname qType,
          rfl⟩

end Bridge
