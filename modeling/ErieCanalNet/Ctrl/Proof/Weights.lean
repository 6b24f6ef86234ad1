import ErieCanalNet.Ctrl.Proof.Job

/-!
# The weights of the route targets

A target has weight 0 exactly when the last service of its cluster was imported under a fail-over
policy (`weight_pos_iff`). The services of a rule come import first, and a local one outweighs
nothing but itself: a rule is left without a positive target exactly when no local service shares
it and the last endpoint of the import's entries for it has a cluster key (`Backed`).

* `listServices_filter`: the imported services that share a rule, in order;
* `map_lastKey`: the last of them on any target port has the key of the last endpoint;
* `positive_targets_iff`: every rule of the published configuration has a positive target exactly
  when every fail-over import is backed.
-/

namespace Ctrl

open Go K8s Lib Mesh Multicluster Policy

/-! ## The property and its condition -/

/-- Every rule with targets has one of positive weight. -/
def PositiveTargets (conf : PipyConf) : Prop :=
  ∀ targetClusters ∈ conf.targetClusters, targetClusters.isEmpty = false →
    ∃ (name : String) (weight : UInt32), targetClusters[name]? = some weight ∧ 0 < weight

/-- Ports and protocols of services of one name that share a rule. -/
def SameRoute (port port' : UInt16) (protocol protocol' : String) : Prop :=
  port = port' ∧ (kindOf protocol = .http ∧ kindOf protocol' = .http ∨
    kindOf protocol ≠ .http ∧ protocol = protocol')

instance (port port' : UInt16) (protocol protocol' : String) :
    Decidable (SameRoute port port' protocol protocol') :=
  inferInstanceAs (Decidable (_ ∧ (_ ∨ _)))

/-- The endpoints of the entries of an import that share the rule of an entry. -/
def routeEndpoints (imp : ServiceImport) (entry : ImportPort) : List ImportEndpoint :=
  (imp.ports.filter fun entry' => SameRoute (uint16 entry'.port) (uint16 entry.port)
    (entryProtocol entry') (entryProtocol entry)).flatMap (·.endpoints)

/-- A local service shares the rule of an entry of the import. -/
def LocalPeer (c : K8s.Client) (imp : ServiceImport) (entry : ImportPort) : Prop :=
  ∃ svc ∈ c.services.items, svc.md.ns = imp.md.ns ∧ svc.md.name = imp.md.name ∧
    ListedAsItself c svc ∧ ∃ portSpec ∈ svc.ports,
      SameRoute (uint16 portSpec.port) (uint16 entry.port) (Fsm.portProtocol portSpec)
        (entryProtocol entry)

/-- Every entry of a fail-over import that is routed has a local service beside it, or the last
endpoint of its rule has no cluster key. -/
def Backed (mc : MeshCatalog) : Prop :=
  ∀ imp ∈ mc.mc.serviceImports.items, ∀ p, policyOf mc.mc imp = some p → p.lbType = .failOver →
    ∀ entry ∈ imp.ports, entry.endpoints ≠ [] → kindOf (entryProtocol entry) ≠ .other →
      targetPorts p imp (uint16 entry.port) ≠ [] →
      LocalPeer mc.kube imp entry ∨
        ∃ ep, (routeEndpoints imp entry).getLast? = some ep ∧ ep.clusterKey = ""

variable {mc : MeshCatalog}

/-! ## Weights -/

/-- A service imported under a fail-over policy. -/
def FailsOver (mc : MeshCatalog) (m : MeshService) : Prop :=
  m.serviceImportUID ≠ "" ∧ ∃ p, mc.mc.getGlobalTrafficPolicy m = some p ∧ p.lbType = .failOver

/-- The weights of the targets of a policy are absent, or numbers of 32 bits. -/
def WeightsValid (mc : MeshCatalog) : Prop :=
  ∀ p ∈ mc.mc.globalTrafficPolicies.items, ∀ target ∈ p.targets, ∀ w ∈ target.weight,
    0 ≤ w ∧ w < 4294967296

theorem ofInt_pos {w : Int} (h : 0 < w) (hw : w < 4294967296) : 0 < UInt32.ofInt w := by
  rw [UInt32.lt_iff_toNat_lt, UInt32.ofInt, UInt32.toNat_ofNat_of_lt']
  · simp only [UInt32.toNat_zero]
    omega
  · simp only [UInt32.size]
    omega

/-- What an active-active policy says of a service. -/
theorem getLbWeightForService_aa (hw : WeightsValid mc) {m : MeshService} {p : GlobalTrafficPolicy}
    (hp : mc.mc.getGlobalTrafficPolicy m = some p) (haa : p.lbType = .activeActive) :
    (mc.mc.getLbWeightForService m).aa = true ∧ (mc.mc.getLbWeightForService m).fo = false ∧
      (mc.mc.getLbWeightForService m).weight < 4294967296 := by
  have hmem : p ∈ mc.mc.globalTrafficPolicies.items := (Store.getByKey_eq_some.1 hp).1
  unfold Client.getLbWeightForService
  simp only [hp, haa]
  split
  · decide
  · split
    · decide
    · rename_i lbt hfind
      have hlbt := hw p hmem lbt (List.mem_of_find?_eq_some hfind)
      refine ⟨rfl, rfl, ?_⟩
      show lbt.weight.getD 0 < _
      cases hwt : lbt.weight with
      | none => decide
      | some w => exact (hlbt w hwt).2

/-- The weight of a service is 0 for the fail-over ones only: an absent or zero weight of an
active-active policy gives way to that of the local services. -/
theorem weight_pos_iff (hw : WeightsValid mc) (m : MeshService) :
    0 < UInt32.ofInt (upstreamWeight mc m) ↔ ¬ FailsOver mc m := by
  by_cases hmc : m.serviceImportUID = ""
  · have h100 : upstreamWeight mc m = 100 := by
      simp [upstreamWeight, MeshService.isMultiClusterService, hmc, clusterWeightAcceptAll]
    rw [h100]
    exact iff_of_true (by decide) fun h => h.1 hmc
  · have hlen : m.isMultiClusterService = true := by
      simpa [MeshService.isMultiClusterService, Nat.pos_iff_ne_zero] using hmc
    have hlocal : (mc.mc.getLbWeightForService m).aa = false →
        (mc.mc.getLbWeightForService m).fo = false → upstreamWeight mc m = 100 := fun haa hfo => by
      simp [upstreamWeight, hlen, haa, hfo, clusterWeightAcceptAll]
    cases hp : mc.mc.getGlobalTrafficPolicy m with
    | none =>
      have hlb : mc.mc.getLbWeightForService m = { lc := true } := by
        simp [Client.getLbWeightForService, hp]
      rw [hlocal (by rw [hlb]) (by rw [hlb])]
      refine iff_of_true (by decide) ?_
      rintro ⟨-, p, hp', -⟩
      rw [hp] at hp'
      cases hp'
    | some p =>
      have hover : FailsOver mc m ↔ p.lbType = .failOver := by
        simp [FailsOver, hmc, hp]
      rw [hover]
      cases hl : p.lbType with
      | activeActive =>
        obtain ⟨haa, hfo, hlt⟩ := getLbWeightForService_aa hw hp hl
        refine iff_of_true ?_ (by simp)
        by_cases hpos : 0 < (mc.mc.getLbWeightForService m).weight
        · have hval : upstreamWeight mc m = (mc.mc.getLbWeightForService m).weight := by
            simp [upstreamWeight, hlen, haa, hpos]
          rw [hval]
          exact ofInt_pos hpos hlt
        · have hval : upstreamWeight mc m = 100 := by
            simp [upstreamWeight, hlen, hfo, hpos, clusterWeightAcceptAll]
          rw [hval]
          decide
      | locality =>
        have hlb : mc.mc.getLbWeightForService m = { lc := true } := by
          simp [Client.getLbWeightForService, hp, hl]
        rw [hlocal (by rw [hlb]) (by rw [hlb])]
        exact iff_of_true (by decide) (by simp)
      | failOver =>
        have h0 : upstreamWeight mc m = 0 := by
          simp [upstreamWeight, hlen, Client.getLbWeightForService, hp, hl, clusterWeightFailOver]
        rw [h0]
        exact iff_of_false (by decide) (by simp)

/-! ## The imported services of a rule -/

theorem sameRule_iff {m m' : MeshService} :
    SameRule m m' ↔ SameRoute m.port m'.port m.protocol m'.protocol ∧ m.ns = m'.ns ∧
      m.name = m'.name := by
  unfold SameRule SameMatch SameRoute
  constructor
  · rintro ⟨⟨hp, hk⟩, hn⟩
    exact ⟨⟨hp, hk.imp_right fun h => ⟨h.1, h.2.2.2⟩⟩, hn⟩
  · rintro ⟨⟨hp, hk⟩, hn⟩
    exact ⟨⟨hp, hk.imp_right fun h => ⟨h.1, hn.1, hn.2, h.2⟩⟩, hn⟩

/-- The imported services that share the rule of an entry: those of the entries that do. -/
theorem listServices_filter {c : Multicluster.Client} {imp : ServiceImport}
    {p : GlobalTrafficPolicy} (hi : imp ∈ c.serviceImports.items) (hp : policyOf c imp = some p)
    (entry : ImportPort) (ep : ImportEndpoint) (t : UInt16) :
    (Fsm.listServices c).filter (fun m => SameRule m (importedMeshService imp entry ep t)) =
      (imp.ports.filter fun entry' => SameRoute (uint16 entry'.port) (uint16 entry.port)
        (entryProtocol entry') (entryProtocol entry)).flatMap fun entry' =>
          entry'.endpoints.flatMap fun ep' =>
            (targetPorts p imp (uint16 entry.port)).map (importedMeshService imp entry' ep') := by
  have hrule : ∀ (entry' : ImportPort) (ep' : ImportEndpoint) (t' : UInt16),
      SameRule (importedMeshService imp entry' ep' t') (importedMeshService imp entry ep t) ↔
        SameRoute (uint16 entry'.port) (uint16 entry.port) (entryProtocol entry')
          (entryProtocol entry) := fun entry' ep' t' =>
    sameRule_iff.trans (and_iff_left ⟨rfl, rfl⟩)
  rw [listServices_eq, List.filter_flatMap, Store.flatMap_eq _ hi]
  · simp only [servicesOf, hp, importServices, List.filter_flatMap, List.filter_map, flatMap_filter,
      Function.comp_def, hrule]
    refine List.flatMap_congr fun entry' _ => ?_
    by_cases hr : SameRoute (uint16 entry'.port) (uint16 entry.port) (entryProtocol entry')
        (entryProtocol entry)
    · simp only [hr, decide_true, List.filter_true, if_true]
      rw [hr.1]
    · simp [hr]
  · intro imp' hi' hkey
    refine List.filter_eq_nil_iff.2 fun m hm hrule => hkey ?_
    obtain ⟨p', -, entry', -, ep', -, t', -, rfl⟩ := mem_servicesOf.1 hm
    obtain ⟨-, hns, hname⟩ := sameRule_iff.1 (of_decide_eq_true hrule)
    exact congrArg₂ (fun ns name => ns ++ "/" ++ name) hns hname

/-- **The last service on a target port** has the key of the last endpoint of the rule. -/
theorem map_lastKey {c : Multicluster.Client} {imp : ServiceImport} {p : GlobalTrafficPolicy}
    (hi : imp ∈ c.serviceImports.items) (hp : policyOf c imp = some p) (entry : ImportPort)
    (ep : ImportEndpoint) (t : UInt16) {t' : UInt16}
    (ht' : t' ∈ targetPorts p imp (uint16 entry.port)) :
    (((Fsm.listServices c).filter fun m =>
        SameRule m (importedMeshService imp entry ep t)).filter fun m =>
          m.targetPort = t').getLast?.map MeshService.serviceImportUID =
      (routeEndpoints imp entry).getLast?.map ImportEndpoint.clusterKey := by
  have hblock : ∀ (entry' : ImportPort) (ep' : ImportEndpoint),
      (((targetPorts p imp (uint16 entry.port)).map (importedMeshService imp entry' ep')).filter
        fun m => m.targetPort = t').map MeshService.serviceImportUID =
      ((targetPorts p imp (uint16 entry.port)).filter fun x => x = t').map fun _ => ep'.clusterKey :=
    fun entry' ep' => by rw [List.filter_map, List.map_map]; rfl
  rw [listServices_filter hi hp, ← List.getLast?_map, routeEndpoints]
  simp only [List.filter_flatMap, List.map_flatMap, hblock]
  rw [← List.flatMap_assoc]
  refine getLast?_flatMap_const ?_ _ _
  exact List.ne_nil_of_mem (List.mem_filter.2 ⟨ht', decide_eq_true rfl⟩)

/-! ## The local services of a rule -/

/-- The local services that share the rule of an entry. -/
theorem exists_localPeer_iff (c : Cluster) {imp : ServiceImport} {p : GlobalTrafficPolicy}
    (hp : policyOf c.mc imp = some p) (entry : ImportPort) (ep : ImportEndpoint) (t : UInt16) :
    (∃ m ∈ Kube.listServices c.kube, SameRule m (importedMeshService imp entry ep t)) ↔
      LocalPeer c.kube imp entry := by
  obtain ⟨hdot, -, -⟩ := policyOf_eq_some.1 hp
  constructor
  · rintro ⟨m, hm, hrule⟩
    obtain ⟨hroute, hns, hname⟩ := sameRule_iff.1 hrule
    obtain ⟨svc, hsvc, portSpec, hport, hns', hp', hproto, -,
      ⟨hname', hself⟩ | ⟨hostname, -, hname'⟩⟩ :=
      exists_service c hm
    · exact ⟨svc, hsvc, hns'.symm.trans hns, hname'.symm.trans hname, hself, portSpec, hport,
        hp' ▸ hproto ▸ hroute⟩
    · refine (hdot ?_).elim
      rw [show imp.md.name = m.name from hname.symm, hname']
      simp
  · rintro ⟨svc, hsvc, hns, hname, hself, portSpec, hport, hroute⟩
    rcases portServices_cases (c := c.kube) (label_noDot (c.serviceName svc hsvc)) portSpec with
      ⟨-, tp, hp'⟩ | ⟨_, _, _, hnot, _⟩
    · refine ⟨_, List.mem_flatMap.2 ⟨svc, hsvc, List.mem_flatMap.2 ⟨portSpec, hport,
        hp' ▸ List.mem_singleton_self _⟩⟩, sameRule_iff.2 ⟨hroute, hns, hname⟩⟩
    · exact (hnot hself).elim

/-! ## Rules with a positive target -/

/-- Some cluster of the services has a service that does not fail over as its last. -/
def HasPositive (mc : MeshCatalog) (group : List MeshService) : Prop :=
  ∃ name m, (group.filter fun m => m.clusterName = name).getLast? = some m ∧ ¬ FailsOver mc m

theorem exists_positive_iff (hw : WeightsValid mc) (group : List MeshService) :
    (∃ (name : String) (weight : UInt32), (targetsOf mc group)[name]? = some weight ∧ 0 < weight) ↔
      HasPositive mc group := by
  simp only [HasPositive, getElem?_targetsOf, Option.map_eq_some_iff]
  refine exists_congr fun name => ?_
  constructor
  · rintro ⟨_, ⟨m, hm, rfl⟩, hpos⟩
    exact ⟨m, hm, (weight_pos_iff hw m).1 hpos⟩
  · rintro ⟨m, hm, hpos⟩
    exact ⟨_, ⟨m, hm, rfl⟩, (weight_pos_iff hw m).2 hpos⟩

/-- Services that come last and do not fail over. -/
theorem hasPositive_append {before after : List MeshService} (hne : after ≠ [])
    (h : ∀ m ∈ after, ¬ FailsOver mc m) : HasPositive mc (before ++ after) := by
  obtain ⟨m, hm⟩ := List.exists_mem_of_ne_nil _ hne
  have hne' : after.filter (fun m' => m'.clusterName = m.clusterName) ≠ [] :=
    List.ne_nil_of_mem (List.mem_filter.2 ⟨hm, decide_eq_true rfl⟩)
  refine ⟨m.clusterName, _, ?_, h _ (List.mem_filter.1 (List.getLast_mem hne')).1⟩
  rw [List.filter_append, List.getLast?_append, List.getLast?_eq_some_getLast hne', Option.some_or]

/-- The clusters of services of one name are told apart by their target ports. -/
theorem filter_clusterName {group : List MeshService} {m : MeshService} (hm : NameValid m)
    (h : ∀ m' ∈ group, NameValid m' ∧ m'.ns = m.ns ∧ m'.name = m.name) :
    (group.filter fun m' => m'.clusterName = m.clusterName) =
      group.filter fun m' => m'.targetPort = m.targetPort := by
  refine List.filter_congr fun m' hm' => ?_
  obtain ⟨hv, hns, hname⟩ := h m' hm'
  rw [Bool.eq_iff_iff, decide_eq_true_eq, decide_eq_true_eq, clusterName_inj hv hm]
  exact ⟨fun h => h.2.2, fun h => ⟨hns, hname, h⟩⟩

/-- **The imported services of a rule** have a positive target unless the policy is fail-over and
the last endpoint has a key. -/
theorem hasPositive_imported_iff {imp : ServiceImport} {p : GlobalTrafficPolicy}
    (hi : imp ∈ mc.mc.serviceImports.items) (hp : policyOf mc.mc imp = some p) {entry : ImportPort}
    (hentry : entry ∈ imp.ports) {ep : ImportEndpoint} (hep : ep ∈ entry.endpoints) {t : UInt16}
    (ht : t ∈ targetPorts p imp (uint16 entry.port)) :
    HasPositive mc ((Fsm.listServices mc.mc).filter fun m =>
        SameRule m (importedMeshService imp entry ep t)) ↔
      (p.lbType = .failOver →
        ∃ ep', (routeEndpoints imp entry).getLast? = some ep' ∧ ep'.clusterKey = "") := by
  set m := importedMeshService imp entry ep t with hm
  set group := (Fsm.listServices mc.mc).filter fun m' => SameRule m' m with hgroup
  obtain ⟨hdot, hkey, hl⟩ := policyOf_eq_some.1 hp
  have hmem : m ∈ group := List.mem_filter.2 ⟨mem_imported.2 ⟨imp, hi, p, hp, entry, hentry, ep, hep,
    t, ht, rfl⟩, decide_eq_true (sameRule_refl m)⟩
  have hgroup' : ∀ m' ∈ group, NameValid m' ∧ m'.ns = m.ns ∧ m'.name = m.name := fun m' hm' => by
    obtain ⟨hm', hrule⟩ := List.mem_filter.1 hm'
    exact ⟨nameValid_import hm', (of_decide_eq_true hrule).2⟩
  have hover : ∀ m' ∈ group, FailsOver mc m' ↔ m'.serviceImportUID ≠ "" ∧ p.lbType = .failOver := by
    intro m' hm'
    obtain ⟨-, hns, hname⟩ := hgroup' m' hm'
    have hpol : mc.mc.getGlobalTrafficPolicy m' = some p := by
      rw [Client.getGlobalTrafficPolicy, namespacedKey_of_noDot hns hname hdot, hkey]
    simp [FailsOver, hpol]
  have hlast : ∀ {m' : MeshService}, m'.ns = m.ns → m'.name = m.name → NameValid m' →
      m'.targetPort ∈ targetPorts p imp (uint16 entry.port) →
      (group.filter fun m'' => m''.clusterName = m'.clusterName).getLast?.map
        MeshService.serviceImportUID =
          (routeEndpoints imp entry).getLast?.map ImportEndpoint.clusterKey := by
    intro m' hns hname hv ht'
    rw [filter_clusterName hv fun m'' hm'' => by
      obtain ⟨h1, h2, h3⟩ := hgroup' m'' hm''
      exact ⟨h1, h2.trans hns.symm, h3.trans hname.symm⟩]
    exact map_lastKey hi hp entry ep t ht'
  constructor
  · rintro ⟨name, m', hm', hnot⟩ hfo
    obtain ⟨hin, hname⟩ := List.mem_filter.1 (List.mem_of_getLast? hm')
    obtain rfl := of_decide_eq_true hname
    have huid : m'.serviceImportUID = "" := by
      by_contra hne
      exact hnot ((hover m' hin).2 ⟨hne, hfo⟩)
    obtain ⟨hv, hns, hname⟩ := hgroup' m' hin
    rw [hgroup, listServices_filter hi hp] at hin
    simp only [List.mem_flatMap, List.mem_map] at hin
    obtain ⟨entry', -, ep', -, t', ht', rfl⟩ := hin
    have hkeys := hlast hns hname hv ht'
    rw [hm', Option.map_some, huid] at hkeys
    exact Option.map_eq_some_iff.1 hkeys.symm
  · intro h
    by_cases hfo : p.lbType = .failOver
    · obtain ⟨ep', hep', hnil⟩ := h hfo
      have hkeys := hlast rfl rfl (hgroup' m hmem).1 ht
      rw [hep', Option.map_some, hnil, Option.map_eq_some_iff] at hkeys
      obtain ⟨m', hm', huid⟩ := hkeys
      have hin := (List.mem_filter.1 (List.mem_of_getLast? hm')).1
      exact ⟨m.clusterName, m', hm', fun h => ((hover m' hin).1 h).1 huid⟩
    · exact List.nil_append group ▸ hasPositive_append (List.ne_nil_of_mem hmem) fun m' hm' hf =>
        hfo ((hover m' hm').1 hf).2

/-- The services of the rule of an imported service. -/
theorem hasPositive_rulePeers_iff (c : Cluster) {imp : ServiceImport} {p : GlobalTrafficPolicy}
    (hi : imp ∈ c.mc.serviceImports.items) (hp : policyOf c.mc imp = some p) {entry : ImportPort}
    (hentry : entry ∈ imp.ports) {ep : ImportEndpoint} (hep : ep ∈ entry.endpoints) {t : UInt16}
    (ht : t ∈ targetPorts p imp (uint16 entry.port)) :
    HasPositive c.toMeshCatalog
        (rulePeers c.listMeshServices (importedMeshService imp entry ep t)) ↔
      (p.lbType = .failOver → LocalPeer c.kube imp entry ∨
        ∃ ep', (routeEndpoints imp entry).getLast? = some ep' ∧ ep'.clusterKey = "") := by
  set m := importedMeshService imp entry ep t
  have hm : m ∈ Fsm.listServices c.mc :=
    mem_imported.2 ⟨imp, hi, p, hp, entry, hentry, ep, hep, t, ht, rfl⟩
  rw [rulePeers, MeshCatalog.listMeshServices, List.filter_append]
  set locals := List.filter (fun m' => SameRule m' m) (List.filter _ (Kube.listServices c.kube))
    with hlocals
  have hmem : ∀ m', m' ∈ locals ↔ m' ∈ Kube.listServices c.kube ∧ SameRule m' m := fun m' => by
    rw [hlocals, List.mem_filter, List.mem_filter, decide_eq_true_eq]
    refine ⟨fun h => ⟨h.1.1, h.2⟩, fun h => ⟨⟨h.1, List.any_eq_true.2 ⟨m, hm, ?_⟩⟩, h.2⟩⟩
    simp [h.2.2.1, h.2.2.2]
  have hpeer : locals ≠ [] ↔ LocalPeer c.kube imp entry := by
    rw [← exists_localPeer_iff c hp entry ep t]
    constructor
    · intro hne
      obtain ⟨m', hm'⟩ := List.exists_mem_of_ne_nil _ hne
      exact ⟨m', (hmem m').1 hm'⟩
    · rintro ⟨m', hm'⟩
      exact List.ne_nil_of_mem ((hmem m').2 hm')
  by_cases hne : locals = []
  · rw [hne, List.append_nil, hasPositive_imported_iff hi hp hentry hep ht]
    have hno : ¬ LocalPeer c.kube imp entry := fun h => hpeer.2 h hne
    simp [hno]
  · refine iff_of_true (hasPositive_append hne fun m' hm' hover => ?_) fun _ => .inl (hpeer.1 hne)
    obtain ⟨_, -, _, -, -, -, -, huid, -⟩ := exists_service c ((hmem m').1 hm').1
    exact hover.1 huid

/-- **Every rule has a positive target exactly when** every routed entry of a fail-over import is
backed. -/
theorem positive_targets_iff (env : Env) (cfg : Configurator) (c : Cluster)
    (hw : WeightsValid c.toMeshCatalog) :
    (∃ conf, run env cfg c.toMeshCatalog = some conf ∧ PositiveTargets conf) ↔
      Backed c.toMeshCatalog := by
  have hv := c.nameValid
  have hconf : PositiveTargets (published env cfg c.toMeshCatalog) ↔
      ∀ m ∈ c.listMeshServices, routed m = true →
        HasPositive c.toMeshCatalog (rulePeers c.listMeshServices m) := by
    unfold PositiveTargets
    rw [targetClusters_of_outbound rfl]
    simp only [mem_targetClusters_compile hv]
    constructor
    · intro h m hm hr
      refine (exists_positive_iff hw _).1 (h _ ⟨m, hm, hr, rfl⟩ ?_)
      have hin : m.clusterName ∈ targetsOf c.toMeshCatalog (rulePeers c.listMeshServices m) :=
        mem_targetsOf.2 ⟨m, List.mem_filter.2 ⟨hm, decide_eq_true (sameRule_refl m)⟩, rfl⟩
      rw [Std.ExtTreeMap.isEmpty_eq_false_iff]
      exact fun he => Std.ExtTreeMap.eq_empty_iff_forall_not_mem.1 he _ hin
    · rintro h _ ⟨m, hm, hr, rfl⟩ -
      exact (exists_positive_iff hw _).2 (h m hm hr)
  rw [run_eq env cfg hv]
  simp only [Option.some.injEq, exists_eq_left']
  rw [hconf]
  constructor
  · intro h imp hi p hp hfo entry hentry hne hkind htargets
    obtain ⟨ep, hep⟩ := List.exists_mem_of_ne_nil _ hne
    obtain ⟨t, ht⟩ := List.exists_mem_of_ne_nil _ htargets
    have hm : importedMeshService imp entry ep t ∈ c.listMeshServices := List.mem_append_left _
      (mem_imported.2 ⟨imp, hi, p, hp, entry, hentry, ep, hep, t, ht, rfl⟩)
    exact (hasPositive_rulePeers_iff c hi hp hentry hep ht).1 (h _ hm (decide_eq_true hkind)) hfo
  · intro h m hm hr
    rcases List.mem_append.1 hm with himp | hlocal
    · obtain ⟨imp, hi, p, hp, entry, hentry, ep, hep, t, ht, rfl⟩ := mem_imported.1 himp
      exact (hasPositive_rulePeers_iff c hi hp hentry hep ht).2 fun hfo =>
        h imp hi p hp hfo entry hentry (List.ne_nil_of_mem hep) (of_decide_eq_true hr)
          (List.ne_nil_of_mem ht)
    · -- a local service shares its own rule
      rw [rulePeers, MeshCatalog.listMeshServices, List.filter_append]
      refine hasPositive_append (List.ne_nil_of_mem (List.mem_filter.2
        ⟨hlocal, decide_eq_true (sameRule_refl m)⟩)) fun m' hm' hover => ?_
      obtain ⟨_, -, _, -, -, -, -, huid, -⟩ :=
        exists_service c (List.mem_filter.1 (List.mem_filter.1 hm').1).1
      exact hover.1 huid

/-- A configurator without its object. -/
def noConfig : Configurator := ⟨⟨[], by simp⟩, "ecnet-system/ecnet-config"⟩

theorem positive_targets_active_active :
    ∃ conf, run (.asIs "cluster.local") noConfig (importCluster .activeActive [⟨"c", some 30⟩]
        [importEntry 80 "10.0.0.1" 8080]).toMeshCatalog = some conf ∧ PositiveTargets conf := by
  refine (positive_targets_iff (.asIs "cluster.local") noConfig _ ?_).2 ?_
  · intro p hp target htarget w hw
    obtain rfl := List.mem_singleton.1 hp
    obtain rfl := List.mem_singleton.1 htarget
    obtain rfl := Option.some.inj hw
    decide
  · rintro imp hi p hp hfo
    obtain ⟨-, hkey, -⟩ := policyOf_eq_some.1 hp
    obtain rfl := List.mem_singleton.1 (Store.getByKey_eq_some.1 hkey).1
    cases hfo

/-- A fail-over import without a local service: its only route has weight 0. -/
theorem not_positive_targets_fail_over :
    ∃ conf, run (.asIs "cluster.local") noConfig
        (importCluster .failOver [] [importEntry 80 "10.0.0.1" 8080]).toMeshCatalog = some conf ∧
      ¬ PositiveTargets conf := by
  have heval : (run (.asIs "cluster.local") noConfig
      (importCluster .failOver [] [importEntry 80 "10.0.0.1" 8080]).toMeshCatalog).map
        (fun conf => conf.targetClusters.map (·.toList)) = some [[("default/web|8080", 0)]] := by
    decide +kernel
  obtain ⟨conf, hrun, htargets⟩ := Option.map_eq_some_iff.1 heval
  obtain ⟨targets, hconf, hlist⟩ : ∃ targets : WeightedClusters, conf.targetClusters = [targets] ∧
      targets.toList = [("default/web|8080", 0)] := by
    simpa [List.map_eq_singleton_iff] using htargets
  refine ⟨conf, hrun, fun hpos => ?_⟩
  have hweight : ∀ (name : String) (weight : UInt32), targets[name]? = some weight → weight = 0 := by
    intro name weight hw
    rw [← Std.ExtTreeMap.mem_toList_iff_getElem?_eq_some, hlist, List.mem_singleton] at hw
    exact (Prod.mk.inj hw).2
  have hne : targets.isEmpty = false := by
    rw [Std.ExtTreeMap.isEmpty_eq_false_iff]
    rintro rfl
    exact absurd hlist (by decide)
  obtain ⟨name, weight, hw, hlt⟩ := hpos targets (hconf ▸ List.mem_singleton_self _) hne
  rw [hweight name weight hw] at hlt
  exact absurd hlt (by decide)

end Ctrl
