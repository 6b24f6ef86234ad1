import Mathlib.Data.List.Find
import ErieCanalNet.Mesh.Providers

/-!
# Upstream endpoints of imported services

The config generator looks the endpoints of a cluster up by its name, and a cluster name has no
service port: the lookup of the imported endpoints runs with port 0 and stops at the first port
entry with endpoints, whichever entry the service was listed for.

* `exists_upstream_iff`: what the lookup yields for a listed service;
* `exists_entry_of_listed`, `listed_of_entry`: which services are listed;
* `upstreamComplete_iff`: the lookup is complete exactly when the first entry, or the local
  cluster, serves what every other entry offers.
-/

namespace Mesh

open Go K8s Multicluster

/-! ## The property and its condition -/

/-- Every port of the import is a port. -/
def PortsValid (imp : ServiceImport) : Prop :=
  ∀ port ∈ imp.ports, IsPort port.port ∧ ∀ ep ∈ port.endpoints, IsPort ep.target.port

instance (imp : ServiceImport) : Decidable (PortsValid imp) :=
  inferInstanceAs (Decidable (∀ port ∈ imp.ports, _))

/-- The endpoints of the import's port entries `m.port` that the service `m` stands for. -/
def EntryEndpoint (imp : ServiceImport) (p : GlobalTrafficPolicy) (m : MeshService)
    (ep : ImportEndpoint) : Prop :=
  ∃ port ∈ imp.ports, port.port = (m.port.toNat : Int) ∧ ep ∈ port.endpoints ∧
    ep.target.port = (m.targetPort.toNat : Int) ∧ Allowed p.targets ep.clusterKey

/-- **The upstream lookup is complete**: a listed service gets an address for every endpoint of
its port entry, and no empty list when the addresses of these endpoints are valid. -/
def UpstreamComplete (cat : MeshCatalog) : Prop :=
  ∀ m ∈ Fsm.listServices cat.mc, ∀ imp ∈ cat.mc.serviceImports.items, imp.md.ns = m.ns →
    imp.md.name = m.name → ∀ p, cat.mc.getGlobalTrafficPolicy m = some p →
    (∀ ep, EntryEndpoint imp p m ep → ∀ ip, parseIP ep.target.ip = some ip →
      ∃ e ∈ getUpstreamEndpoints cat m.clusterName,
        e.ip = ip ∧ e.port = UInt32.ofInt ep.target.port) ∧
    ((∀ ep, EntryEndpoint imp p m ep → (parseIP ep.target.ip).isSome) →
      getUpstreamEndpoints cat m.clusterName ≠ [])

/-- The entry has port number `n`, and endpoints. -/
def offers (n : Int) (port : ImportPort) : Bool := port.port == n && !port.endpoints.isEmpty

/-- The first entry of port number `n` that has endpoints offers the target port `t` to the
policy. -/
def Offered (imp : ServiceImport) (p : GlobalTrafficPolicy) (n t : Int) : Prop :=
  ∃ port, imp.ports.find? (offers n) = some port ∧
    ∃ ep ∈ port.endpoints, ep.target.port = t ∧ Allowed p.targets ep.clusterKey

/-- The import's first entry with endpoints serves the address to the policy. -/
def ServedByFirst (imp : ServiceImport) (p : GlobalTrafficPolicy) (ip : IP) (t : Int) : Prop :=
  ∃ first, imp.ports.find? (fun port => !port.endpoints.isEmpty) = some first ∧
    ∃ ep ∈ first.endpoints, ep.target.port = t ∧ Allowed p.targets ep.clusterKey ∧
      parseIP ep.target.ip = some ip

/-- An `Endpoints` object has the address. -/
def HasAddress (eps : Endpoints) (ip : IP) (t : Int) : Prop :=
  ∃ subset ∈ eps.subsets, (∃ port ∈ subset.ports, port.port = t) ∧
    ∃ address ∈ subset.addresses, parseIP address.ip = some ip

/-- The local cluster serves the address under the import's name. -/
def ServedLocally (c : K8s.Client) (imp : ServiceImport) (ip : IP) (t : Int) : Prop :=
  ∃ eps, c.endpoints.getByKey imp.md.key = some eps ∧ HasAddress eps ip t

/-- What every port entry of an import offers, the first entry with endpoints or the local
cluster serves. -/
def FirstEntryServesAll (cat : MeshCatalog) : Prop :=
  ∀ imp ∈ cat.mc.serviceImports.items, '.' ∉ imp.md.name.toList →
    ∀ p, cat.mc.globalTrafficPolicies.getByKey imp.md.key = some p → p.lbType ≠ .locality →
    ∀ port ∈ imp.ports, ∀ ep ∈ port.endpoints, Allowed p.targets ep.clusterKey →
      Offered imp p port.port ep.target.port → ∀ ip, parseIP ep.target.ip = some ip →
        ServedByFirst imp p ip ep.target.port ∨ ServedLocally cat.kube imp ip ep.target.port

/-! ## Lookups -/

theorem namespacedKey_of_noDot {ms : MeshService} {md : ObjectMeta} (hns : ms.ns = md.ns)
    (hname : ms.name = md.name) (hdot : '.' ∉ md.name.toList) : ms.namespacedKey = md.key := by
  rw [MeshService.namespacedKey, providerKey_of_noDot (hname ▸ hdot), hns, hname, ObjectMeta.key]

/-- A name of an object has no separator of cluster names. -/
theorem isClusterSep_of_name (md : ObjectMeta) :
    (∀ c ∈ md.ns.toList, isClusterSep c = false) ∧
      ∀ c ∈ md.name.toList, isClusterSep c = false := by
  have hsep : ∀ c, c = '.' ∨ isNameChar c = true → isClusterSep c = false := by
    intro c hc
    by_contra hs
    simp only [isClusterSep, Bool.not_eq_false, Bool.or_eq_true, beq_iff_eq] at hs
    rcases hs with rfl | rfl <;> revert hc <;> decide
  exact ⟨fun c hc => hsep c (.inr (label_char md.nsValid c hc)),
    fun c hc => hsep c (subdomain_char md.nameValid c hc)⟩

/-- The lookup of a service named as an object runs with the object's names, the target port and
no service port. -/
theorem getUpstreamEndpoints_clusterName {cat : MeshCatalog} {m : MeshService} {md : ObjectMeta}
    (hns : m.ns = md.ns) (hname : m.name = md.name) :
    getUpstreamEndpoints cat m.clusterName =
      cat.listUpstreamEndpointsForService
        { ns := md.ns, name := md.name, targetPort := m.targetPort } := by
  have hsep := isClusterSep_of_name md
  have h : clusterToMeshSvc m.clusterName = .ok _ :=
    clusterToMeshSvc_clusterName (hns ▸ label_ne_empty md.nsValid)
      (hname ▸ subdomain_ne_empty md.nameValid) (hns ▸ hsep.1) (hname ▸ hsep.2)
  rw [getUpstreamEndpoints, h, hns, hname]

theorem exists_mem_endpointsOf {svc : MeshService} {eps : Endpoints}
    {mk : IP → EndpointAddress → EndpointPort → Endpoint} {ip : IP} {t : Int}
    (hmk : ∀ ip a p, (mk ip a p).ip = ip ∧ (mk ip a p).port = UInt32.ofInt p.port)
    (hsub : svc.subdomain = "") (ht : IsPort t) (htp : svc.targetPort = uint16 t) :
    (∃ e ∈ endpointsOf svc eps mk, e.ip = ip ∧ e.port = UInt32.ofInt t) ↔
      HasAddress eps ip t := by
  have h0 : svc.targetPort ≠ 0 := htp ▸ uint16_ne_zero ht
  simp only [mem_endpointsOf hsub h0, htp, toNat_uint16 ht]
  constructor
  · rintro ⟨_, ⟨subset, hs, port, hp, hpt, a, ha, ip', hip, rfl⟩, rfl, -⟩
    exact ⟨subset, hs, ⟨port, hp, hpt⟩, a, ha, by rw [hip, (hmk ip' a port).1]⟩
  · rintro ⟨subset, hs, ⟨port, hp, hpt⟩, a, ha, hip⟩
    exact ⟨_, ⟨subset, hs, port, hp, hpt, a, ha, ip, hip, rfl⟩, (hmk ip a port).1,
      by rw [(hmk ip a port).2, hpt]⟩

/-- The subsets of the lookup without a service port are those of the first entry. -/
theorem hasAddress_getEndpoints {c : Multicluster.Client} {imp : ServiceImport}
    {p : GlobalTrafficPolicy} {svc : MeshService} {ip : IP} {t : Int}
    (hp : c.getGlobalTrafficPolicy svc = some p) (hl : p.lbType ≠ .locality)
    (hi : c.serviceImports.getByKey svc.namespacedKey = some imp) (hname : svc.name = imp.md.name)
    (hport : svc.port = 0) (hv : PortsValid imp) (ht : IsPort t)
    (htp : svc.targetPort = uint16 t) :
    (∃ eps, c.getEndpoints svc = some eps ∧ HasAddress eps ip t) ↔ ServedByFirst imp p ip t := by
  have hsel : selectsPort imp svc = fun port => !port.endpoints.isEmpty := by
    funext port; simp [selectsPort, hname, hport, equalFold]
  have hspec := getEndpoints_subsets hp hl hi
  rw [hsel] at hspec
  unfold ServedByFirst HasAddress
  cases hf : imp.ports.find? fun port => !port.endpoints.isEmpty with
  | none =>
    have : c.getEndpoints svc = none := by simpa [hf] using hspec
    simp [this]
  | some first =>
    obtain ⟨eps, heps, hsub⟩ : ∃ eps, c.getEndpoints svc = some eps ∧ eps.subsets =
        (first.endpoints.filter (keeps svc (clusterKeysOf p.targets))).map (subsetOf first) := by
      simpa [hf, Option.map_eq_some_iff] using hspec
    have hmem := List.mem_of_find?_eq_some hf
    have hkeeps : ∀ ep ∈ first.endpoints, keeps svc (clusterKeysOf p.targets) ep = true ↔
        ep.target.port = t ∧ Allowed p.targets ep.clusterKey := by
      intro ep hep
      have h0 : 0 < uint16 t := UInt16.pos_iff_ne_zero.2 (uint16_ne_zero ht)
      rw [keeps, Bool.and_eq_true, lbWeight_isSome, htp, ← uint16_inj ((hv _ hmem).2 ep hep) ht]
      simp [h0, eq_comm (a := uint16 t)]
    simp only [heps, Option.some.injEq, exists_eq_left', hsub, List.mem_map, List.mem_filter]
    constructor
    · rintro ⟨_, ⟨ep, ⟨hep, hk⟩, rfl⟩, ⟨_, -, -⟩, a, ha, hip⟩
      obtain rfl : a = _ := by simpa [subsetOf] using ha
      obtain ⟨h1, h2⟩ := (hkeeps ep hep).1 hk
      exact ⟨ep, hep, h1, h2, hip⟩
    · rintro ⟨ep, hep, h1, h2, hip⟩
      exact ⟨_, ⟨ep, ⟨hep, (hkeeps ep hep).2 ⟨h1, h2⟩⟩, rfl⟩, ⟨_, .head _, h1⟩, _, .head _, hip⟩

/-- **What the upstream lookup yields** for the target port `t` of an import. -/
theorem exists_upstream_iff {cat : MeshCatalog} {m : MeshService} {imp : ServiceImport}
    {p : GlobalTrafficPolicy} {ip : IP} {t : Int} (hi : imp ∈ cat.mc.serviceImports.items)
    (hns : m.ns = imp.md.ns) (hname : m.name = imp.md.name) (hdot : '.' ∉ imp.md.name.toList)
    (hp : cat.mc.globalTrafficPolicies.getByKey imp.md.key = some p) (hl : p.lbType ≠ .locality)
    (hv : PortsValid imp) (ht : IsPort t) (htp : m.targetPort = uint16 t) :
    (∃ e ∈ getUpstreamEndpoints cat m.clusterName, e.ip = ip ∧ e.port = UInt32.ofInt t) ↔
      ServedByFirst imp p ip t ∨ ServedLocally cat.kube imp ip t := by
  let svc : MeshService := { ns := imp.md.ns, name := imp.md.name, targetPort := m.targetPort }
  have hkey : svc.namespacedKey = imp.md.key := namespacedKey_of_noDot rfl rfl hdot
  have hsub : svc.subdomain = "" := subdomain_of_noDot hdot
  have hlocal : (∃ e ∈ Kube.listEndpointsForService cat.kube svc,
      e.ip = ip ∧ e.port = UInt32.ofInt t) ↔ ServedLocally cat.kube imp ip t := by
    unfold Kube.listEndpointsForService ServedLocally K8s.Client.getEndpoints
    rw [hkey]
    cases cat.kube.endpoints.getByKey imp.md.key with
    | none => simp
    | some eps =>
      simp only [Option.some.injEq, exists_eq_left']
      exact exists_mem_endpointsOf (fun _ _ _ => ⟨rfl, rfl⟩) hsub ht htp
  have himport : (∃ e ∈ Fsm.listEndpointsForService cat.mc svc,
      e.ip = ip ∧ e.port = UInt32.ofInt t) ↔ ServedByFirst imp p ip t := by
    have hpol : cat.mc.getGlobalTrafficPolicy svc = some p := by
      rw [Multicluster.Client.getGlobalTrafficPolicy, hkey, hp]
    have himp : cat.mc.serviceImports.getByKey svc.namespacedKey = some imp := by
      rw [hkey]; exact Store.getByKey_eq_some.2 ⟨hi, rfl⟩
    rw [← hasAddress_getEndpoints hpol hl himp rfl rfl hv ht htp]
    unfold Fsm.listEndpointsForService
    cases cat.mc.getEndpoints svc with
    | none => simp
    | some eps =>
      simp only [Option.some.injEq, exists_eq_left']
      exact exists_mem_endpointsOf (fun _ _ _ => ⟨rfl, rfl⟩) hsub ht htp
  rw [getUpstreamEndpoints_clusterName hns hname, MeshCatalog.listUpstreamEndpointsForService,
    ← hlocal, ← himport]
  simp only [List.mem_append, or_and_right, exists_or]
  exact or_comm

/-! ## Listed services -/

/-- With a service port, `GetEndpoints` stops at the first entry of that number. -/
theorem find?_selectsPort {imp : ServiceImport} {svc : MeshService} {n : Int}
    (hname : svc.name = imp.md.name) (hv : PortsValid imp) (hn : IsPort n)
    (hport : svc.port = uint16 n) :
    imp.ports.find? (selectsPort imp svc) = imp.ports.find? (offers n) := by
  refine List.find?_congr fun port hmem => ?_
  have h := uint16_inj hn (hv port hmem).1
  rw [Bool.eq_iff_iff]
  simp [selectsPort, offers, hname, equalFold, hport, uint16_ne_zero hn, h, eq_comm (a := n)]

/-- The subsets a service with a port and no target port is listed from. -/
theorem mem_subsets_getEndpoints {c : Multicluster.Client} {imp : ServiceImport}
    {p : GlobalTrafficPolicy} {svc : MeshService} {n : Int} {s : EndpointSubset}
    (hp : c.getGlobalTrafficPolicy svc = some p) (hl : p.lbType ≠ .locality)
    (hi : c.serviceImports.getByKey svc.namespacedKey = some imp) (hname : svc.name = imp.md.name)
    (hv : PortsValid imp) (hn : IsPort n) (hport : svc.port = uint16 n)
    (htp : svc.targetPort = 0) :
    (∃ eps, c.getEndpoints svc = some eps ∧ s ∈ eps.subsets) ↔
      ∃ port, imp.ports.find? (offers n) = some port ∧
        ∃ ep ∈ port.endpoints, Allowed p.targets ep.clusterKey ∧ s = subsetOf port ep := by
  have hspec := getEndpoints_subsets hp hl hi
  rw [find?_selectsPort hname hv hn hport] at hspec
  cases hf : imp.ports.find? (offers n) with
  | none =>
    have : c.getEndpoints svc = none := by simpa [hf] using hspec
    simp [this]
  | some port =>
    obtain ⟨eps, heps, hsub⟩ : ∃ eps, c.getEndpoints svc = some eps ∧ eps.subsets =
        (port.endpoints.filter (keeps svc (clusterKeysOf p.targets))).map (subsetOf port) := by
      simpa [hf, Option.map_eq_some_iff] using hspec
    simp [heps, hsub, keeps, htp, lbWeight_isSome, and_assoc, eq_comm (a := s)]

/-- Only undotted names have imported endpoints: the lookup goes by the part after the last dot
and then compares full names. -/
theorem noDot_of_getEndpoints {c : Multicluster.Client} {svc : MeshService} {eps : Endpoints}
    (hns : '/' ∉ svc.ns.toList) (h : c.getEndpoints svc = some eps) :
    '.' ∉ svc.name.toList := by
  obtain ⟨p, imp, hp, hl, hi⟩ := getEndpoints_eq_some h
  have hspec := getEndpoints_subsets hp hl hi
  obtain ⟨port, hport⟩ : ∃ port, imp.ports.find? (selectsPort imp svc) = some port := by
    cases hf : imp.ports.find? (selectsPort imp svc) with
    | none => simp [h, hf] at hspec
    | some port => exact ⟨port, rfl⟩
  have hfold : equalFold imp.md.name svc.name = true := by
    have := List.find?_some hport
    simp only [selectsPort, Bool.and_eq_true] at this
    exact this.1.1
  have hkey : imp.md.name = svc.providerKey :=
    (append_sep_inj imp.md.slash_notMem_ns hns (t := "/") rfl
      (Store.getByKey_eq_some.1 hi).2).2
  intro hdot
  exact dot_notMem_providerKey svc (hkey ▸ dot_mem_of_equalFold hfold hdot)

/-- **Which services are listed**: those of an import that is not local, for a port number whose
first entry with endpoints offers the target port. -/
theorem exists_entry_of_listed {c : Multicluster.Client} {m : MeshService}
    (hv : ∀ imp ∈ c.serviceImports.items, PortsValid imp) (h : m ∈ Fsm.listServices c) :
    ∃ imp ∈ c.serviceImports.items, m.ns = imp.md.ns ∧ m.name = imp.md.name ∧
      '.' ∉ imp.md.name.toList ∧ ∃ p, c.globalTrafficPolicies.getByKey imp.md.key = some p ∧
      p.lbType ≠ .locality ∧ ∃ n t, IsPort n ∧ IsPort t ∧ m.port = uint16 n ∧
      m.targetPort = uint16 t ∧ Offered imp p n t := by
  obtain ⟨_, hsvc, hm⟩ := List.mem_flatMap.1 h
  obtain ⟨imp, hi, -, entry, hentry, ep, -, rfl⟩ := mem_listServices.1 hsvc
  obtain ⟨eps, heps, subset, hsubset, q, hq, rfl⟩ := (mem_serviceToMeshServices rfl).1 hm
  have hnoDot := fun hns => noDot_of_getEndpoints hns heps
  have hdot : '.' ∉ imp.md.name.toList := hnoDot imp.md.slash_notMem_ns
  have hkey : (Fsm.portService (serviceOf imp entry ep) (servicePortOf entry ep)).namespacedKey =
      imp.md.key := namespacedKey_of_noDot rfl rfl hdot
  have hn : IsPort entry.port := (hv imp hi entry hentry).1
  obtain ⟨p, _, hp, hl, -⟩ := getEndpoints_eq_some heps
  obtain ⟨port, hfind, ep0, hep0, hallow, rfl⟩ :=
    (mem_subsets_getEndpoints hp hl (hkey ▸ Store.getByKey_eq_some.2 ⟨hi, rfl⟩) rfl (hv imp hi) hn
      rfl rfl).1 ⟨eps, heps, hsubset⟩
  obtain rfl := List.mem_singleton.1 hq
  have ht : IsPort ep0.target.port := (hv imp hi port (List.mem_of_find?_eq_some hfind)).2 _ hep0
  rw [Multicluster.Client.getGlobalTrafficPolicy, hkey] at hp
  exact ⟨imp, hi, rfl, rfl, hdot, p, hp, hl, entry.port, ep0.target.port, hn, ht, rfl, rfl, port,
    hfind, ep0, hep0, rfl, hallow⟩

theorem listed_of_entry {c : Multicluster.Client} {imp : ServiceImport} {p : GlobalTrafficPolicy}
    {n t : Int} (hi : imp ∈ c.serviceImports.items) (hdot : '.' ∉ imp.md.name.toList)
    (hp : c.globalTrafficPolicies.getByKey imp.md.key = some p) (hl : p.lbType ≠ .locality)
    (hv : PortsValid imp) (hn : IsPort n) (h : Offered imp p n t) :
    ∃ m ∈ Fsm.listServices c, m.ns = imp.md.ns ∧ m.name = imp.md.name ∧ m.port = uint16 n ∧
      m.targetPort = uint16 t := by
  obtain ⟨port, hfind, ep, hep, rfl, hallow⟩ := h
  have hport : port.port = n := by
    have := List.find?_some hfind
    simp only [offers, Bool.and_eq_true, beq_iff_eq] at this
    exact this.1
  have hpol : ∀ ms : MeshService, ms.ns = imp.md.ns → ms.name = imp.md.name →
      c.getGlobalTrafficPolicy ms = some p := fun ms hns hname => by
    rw [Multicluster.Client.getGlobalTrafficPolicy, namespacedKey_of_noDot hns hname hdot, hp]
  have hsvc : serviceOf imp port ep ∈ c.listServices := by
    refine mem_listServices.2 ⟨imp, hi, ?_, port, List.mem_of_find?_eq_some hfind, ep, hep, rfl⟩
    simp [Multicluster.Client.isLocality, hpol, hl]
  have hkey : (Fsm.portService (serviceOf imp port ep) (servicePortOf port ep)).namespacedKey =
      imp.md.key := namespacedKey_of_noDot rfl rfl hdot
  obtain ⟨eps, heps, hsub⟩ :=
    (mem_subsets_getEndpoints (hpol _ rfl rfl) hl (hkey ▸ Store.getByKey_eq_some.2 ⟨hi, rfl⟩) rfl
      hv hn (congrArg uint16 hport) rfl).2 ⟨port, hfind, ep, hep, hallow, rfl⟩
  exact ⟨_, List.mem_flatMap.2 ⟨_, hsvc, (mem_serviceToMeshServices rfl).2
    ⟨eps, heps, _, hsub, _, .head _, rfl⟩⟩, rfl, rfl, congrArg uint16 hport, rfl⟩

/-! ## Completeness -/

/-- **The upstream lookup is complete exactly when** the first entry with endpoints, or the local
cluster, serves what the entries of every import offer. -/
theorem upstreamComplete_iff {cat : MeshCatalog}
    (hv : ∀ imp ∈ cat.mc.serviceImports.items, PortsValid imp) :
    UpstreamComplete cat ↔ FirstEntryServesAll cat := by
  constructor
  · intro h imp hi hdot p hp hl port hport ep hep hallow hoff ip hip
    have hn : IsPort port.port := (hv imp hi port hport).1
    have ht : IsPort ep.target.port := (hv imp hi port hport).2 ep hep
    obtain ⟨m, hm, hns, hname, hmp, hmt⟩ := listed_of_entry hi hdot hp hl (hv imp hi) hn hoff
    have hpol : cat.mc.getGlobalTrafficPolicy m = some p := by
      rw [Multicluster.Client.getGlobalTrafficPolicy, namespacedKey_of_noDot hns hname hdot, hp]
    have hentry : EntryEndpoint imp p m ep :=
      ⟨port, hport, by rw [hmp, toNat_uint16 hn], hep, by rw [hmt, toNat_uint16 ht], hallow⟩
    exact (exists_upstream_iff hi hns hname hdot hp hl (hv imp hi) ht hmt).1
      ((h m hm imp hi hns.symm hname.symm p hpol).1 ep hentry ip hip)
  · intro h m hm imp' hi' hns' hname' p' hp'
    obtain ⟨imp, hi, hns, hname, hdot, p, hp, hl, n, t, hn, ht, hmp, hmt, hoff⟩ :=
      exists_entry_of_listed hv hm
    -- the service's import and its policy are the ones it was listed for
    obtain rfl : imp = imp' := by
      have hkey : imp'.md.key = imp.md.key := by
        rw [ObjectMeta.key, hns', hname', hns, hname, ObjectMeta.key]
      exact Option.some.inj ((Store.getByKey_eq_some.2 ⟨hi, rfl⟩).symm.trans
        (Store.getByKey_eq_some.2 ⟨hi', hkey⟩))
    obtain rfl : p = p' := by
      rw [Multicluster.Client.getGlobalTrafficPolicy, namespacedKey_of_noDot hns hname hdot] at hp'
      exact Option.some.inj (hp.symm.trans hp')
    have hlookup : ∀ ep, EntryEndpoint imp p m ep → ∀ ip, parseIP ep.target.ip = some ip →
        ∃ e ∈ getUpstreamEndpoints cat m.clusterName,
          e.ip = ip ∧ e.port = UInt32.ofInt ep.target.port := by
      rintro ep ⟨port, hport, hpn, hep, hept, hallow⟩ ip hip
      rw [hmp, toNat_uint16 hn] at hpn
      rw [hmt, toNat_uint16 ht] at hept
      rw [hept]
      have hserved := h imp hi hdot p hp hl port hport ep hep hallow (hpn ▸ hept ▸ hoff) ip hip
      exact (exists_upstream_iff hi hns hname hdot hp hl (hv imp hi) ht hmt).2 (hept ▸ hserved)
    refine ⟨hlookup, fun hvalid => ?_⟩
    obtain ⟨port, hfind, ep, hep, hept, hallow⟩ := hoff
    have hpn : port.port = n := by
      have := List.find?_some hfind
      simp only [offers, Bool.and_eq_true, beq_iff_eq] at this
      exact this.1
    have hentry : EntryEndpoint imp p m ep :=
      ⟨port, List.mem_of_find?_eq_some hfind, by rw [hmp, toNat_uint16 hn, hpn], hep,
        by rw [hmt, toNat_uint16 ht, hept], hallow⟩
    obtain ⟨ip, hip⟩ := Option.isSome_iff_exists.1 (hvalid ep hentry)
    obtain ⟨e, he, -⟩ := hlookup ep hentry ip hip
    exact List.ne_nil_of_mem he

/-- The metadata of `default/web`. -/
def webMeta : ObjectMeta := ⟨"default", "web", by decide, by decide⟩

/-- A catalog with one import, `default/web`, under a policy that admits every cluster. -/
def importCatalog (ports : List ImportPort) : MeshCatalog :=
  let md : ObjectMeta := webMeta
  { kube := { services := ⟨[], by simp⟩, endpoints := ⟨[], by simp⟩ }
    mc :=
      { serviceImports := ⟨[⟨md, "u", ports⟩], by simp⟩
        globalTrafficPolicies := ⟨[⟨md, .activeActive, []⟩], by simp⟩ } }

/-- A port entry with one endpoint. -/
def importEntry (port : Int) (ip : String) (target : Int) : ImportPort where
  name := "http"
  protocol := "TCP"
  appProtocol := none
  port := port
  endpoints := [{ target := { host := "", ip, port := target, path := "" }, clusterKey := "c" }]

/-- Two ports of the same endpoint: the first entry serves the second one's service. -/
theorem upstreamComplete_two_ports : UpstreamComplete
    (importCatalog [importEntry 80 "10.0.0.1" 8080, importEntry 443 "10.0.0.1" 8080]) := by
  refine (upstreamComplete_iff fun imp hi => ?_).2 fun imp hi hdot p hp hl port hport ep hep _ _
    ip hip => .inl ?_
  · obtain rfl := List.mem_singleton.1 hi
    decide
  · obtain rfl := List.mem_singleton.1 hi
    obtain rfl := List.mem_singleton.1 (Store.getByKey_eq_some.1 hp).1
    have hfirst : ep ∈ (importEntry 80 "10.0.0.1" 8080).endpoints := by
      rcases List.mem_pair.1 hport with rfl | rfl
      · exact hep
      · exact hep
    exact ⟨_, rfl, ep, hfirst, rfl, .inl rfl, hip⟩

/-- With two endpoints the service of the second port gets none. -/
theorem not_upstreamComplete_two_entries :
    ¬ UpstreamComplete
      (importCatalog [importEntry 80 "10.0.0.1" 8080, importEntry 443 "10.0.0.2" 8443]) := by
  have hvalid : ∀ port ∈ [importEntry 80 "10.0.0.1" 8080, importEntry 443 "10.0.0.2" 8443],
      ∀ ep ∈ port.endpoints, (parseIP ep.target.ip).isSome := by decide
  intro h
  refine (h ⟨"default", "web", 443, 8443, "http", "c"⟩ (by decide) _ (.head _) rfl rfl _ rfl).2
    ?_ (by decide)
  rintro ep ⟨port, hport, -, hep, -⟩
  exact hvalid port hport ep hep

end Mesh
