import ErieCanalNet.Ctrl.Proof.Clusters
import ErieCanalNet.Mesh.Proof.Addresses
import ErieCanalNet.Messaging.Events

/-!
# Events that update no proxy

`getProxyUpdateEvent` lets every event of an `Endpoints`, a `ServiceImport` or a
`GlobalTrafficPolicy` pass, and those updates of an `EcnetConfig` that change what a proxy is
configured with. It drops all events of services, and an `EcnetConfig` that comes or goes:

* a service is listed when an imported one has its name, and its cluster IP is an address of that
  name: `policy_eq_iff` says which changes the outbound policy does not see;
* an `EcnetConfig` stands in for the default values, and the other way round
  (`getEcnetConfig_replaced`).

`ignored_harmless_iff`: exactly these changes are lost.
-/

namespace Messaging

open Go K8s Lib Mesh Policy Ctrl

/-! ## Changes of the cluster -/

section

variable {α : Type}

def Event.old : Event α → Option α
  | .add _ => none
  | .update oldObj _ => some oldObj
  | .delete obj => some obj

def Event.new : Event α → Option α
  | .add obj => some obj
  | .update _ newObj => some newObj
  | .delete _ => none

/-- The key of the object of an event. -/
def Event.key (md : α → ObjectMeta) : Event α → String
  | .add obj => (md obj).key
  | .update _ newObj => (md newObj).key
  | .delete obj => (md obj).key

end

/-- The caches the outbound policy and the configuration of the proxies are made of. -/
structure ClusterState where
  catalog : MeshCatalog
  cfg : Configurator

/-- A change of one object. -/
inductive Change
  | service (e : Event Service)
  | endpoints (e : Event Endpoints)
  | serviceImport (e : Event Multicluster.ServiceImport)
  | globalTrafficPolicy (e : Event Multicluster.GlobalTrafficPolicy)
  | ecnetConfig (e : Event EcnetConfig)

def Change.message : Change → PubSubMessage
  | .service e => Resource.service.eventTypes.message .service e
  | .endpoints e => Resource.endpoint.eventTypes.message .endpoints e
  | .serviceImport e => Resource.serviceImport.eventTypes.message .serviceImport e
  | .globalTrafficPolicy e => Resource.globalTrafficPolicy.eventTypes.message .globalTrafficPolicy e
  | .ecnetConfig e => Resource.ecnetConfig.eventTypes.message .ecnetConfig e

/-- The catalog over another cache of services. -/
def withServices (mc : MeshCatalog) (services : Store Service (·.md)) : MeshCatalog where
  kube := { services, endpoints := mc.kube.endpoints }
  mc := mc.mc

/-- What a change makes of the caches. -/
inductive Takes (st : ClusterState) : Change → ClusterState → Prop
  | service {e : Event Service} {services : Store Service (·.md)}
      (h : st.catalog.kube.services.Replaced services e.old e.new) :
      Takes st (.service e) { st with catalog := withServices st.catalog services }
  | endpoints {e : Event Endpoints} {endpoints : Store Endpoints (·.md)}
      (h : st.catalog.kube.endpoints.Replaced endpoints e.old e.new) :
      Takes st (.endpoints e) { st with catalog.kube.endpoints := endpoints }
  | serviceImport {e : Event Multicluster.ServiceImport}
      {serviceImports : Store Multicluster.ServiceImport (·.md)}
      (h : st.catalog.mc.serviceImports.Replaced serviceImports e.old e.new) :
      Takes st (.serviceImport e) { st with catalog.mc.serviceImports := serviceImports }
  | globalTrafficPolicy {e : Event Multicluster.GlobalTrafficPolicy}
      {policies : Store Multicluster.GlobalTrafficPolicy (·.md)}
      (h : st.catalog.mc.globalTrafficPolicies.Replaced policies e.old e.new) :
      Takes st (.globalTrafficPolicy e) { st with catalog.mc.globalTrafficPolicies := policies }
  | ecnetConfig {e : Event EcnetConfig} {ecnetConfigs : Store EcnetConfig (·.md)}
      (h : st.cfg.ecnetConfigs.Replaced ecnetConfigs e.old e.new) :
      Takes st (.ecnetConfig e) { st with cfg.ecnetConfigs := ecnetConfigs }

/-- **Nothing changes for the proxies**: the outbound policy, the log level and the plugin chains are
the same. -/
structure SameInput (trustDomain : String) (st st' : ClusterState) : Prop where
  policy : getOutboundMeshTrafficPolicy trustDomain st.catalog =
    getOutboundMeshTrafficPolicy trustDomain st'.catalog
  logLevel : st.cfg.getEcnetConfig.logLevel = st'.cfg.getEcnetConfig.logLevel
  chains : st.cfg.getGlobalPluginChains = st'.cfg.getGlobalPluginChains

/-! ## Changes that are not seen -/

/-- The mesh services of the given services that share their names with imported ones. -/
def keptServices (mc : MeshCatalog) (svcs : List Service) : List MeshService :=
  (svcs.flatMap (Kube.serviceToMeshServices mc.kube)).filter fun svc =>
    (Fsm.listServices mc.mc).any fun mcSvc => svc.name == mcSvc.name && svc.ns == mcSvc.ns

/-- All plugins are disabled. -/
def NoPlugins (spec : PluginChainsSpec) : Prop :=
  ∀ chain ∈ [spec.inboundTCPChains, spec.inboundHTTPChains, spec.outboundTCPChains,
    spec.outboundHTTPChains], ∀ plugin ∈ chain, plugin.disable = true

/-- The changes without an effect among those that are ignored. -/
def Harmless (st : ClusterState) : Change → Prop
  | .service e =>
      keptServices st.catalog e.old.toList = keptServices st.catalog e.new.toList ∧
      ∀ m, GivesAddresses st.catalog m → m.namespacedKey = e.key (·.md) →
        addressesWith st.catalog e.old m = addressesWith st.catalog e.new m
  | .ecnetConfig (.add c) | .ecnetConfig (.delete c) => c.md.key = st.cfg.ecnetConfigCacheKey →
      c.spec.logLevel = "" ∧ NoPlugins c.spec.pluginChains
  | _ => True

/-! ## The outbound policy -/

attribute [ext] OutboundMeshTrafficPolicy

section

variable {trustDomain : String} {mc : MeshCatalog}

/-- The routes do not depend on the services of the local cluster. -/
theorem httpRouteConfigsPerPort_congr (kube : K8s.Client) (services : List MeshService) :
    (outboundPolicyOf trustDomain { mc with kube } services).httpRouteConfigsPerPort =
      (outboundPolicyOf trustDomain mc services).httpRouteConfigsPerPort := by
  induction services using List.reverseRecOn with
  | nil => rfl
  | append_singleton services m ih =>
    rw [outboundPolicyOf_concat, outboundPolicyOf_concat, addService_httpRouteConfigsPerPort,
      addService_httpRouteConfigsPerPort, ih]
    rfl

/-- **Two policies of the same services** differ in the addresses of their names only. -/
theorem outboundPolicyOf_eq_iff (kube : K8s.Client) (services : List MeshService) :
    outboundPolicyOf trustDomain mc services =
        outboundPolicyOf trustDomain { mc with kube } services ↔
      ∀ m, (services.filter fun m' => m'.fqdn == m.fqdn && hasImported mc m').getLast? = some m →
        addressesWith mc (mc.kube.getService m) m =
          addressesWith { mc with kube } (kube.getService m) m := by
  have himp : ∀ m, hasImported { mc with kube } m = hasImported mc m := fun _ => rfl
  constructor
  · intro h m hm
    have hk := congrArg (fun policy => policy.servicesResolvableSet[m.fqdn]?) h
    simp only [servicesResolvableSet_eq, himp, hm, Option.map_some] at hk
    exact Option.some.inj hk
  · intro h
    refine OutboundMeshTrafficPolicy.ext ?_ (httpRouteConfigsPerPort_congr kube services).symm ?_
      (Std.ExtTreeMap.ext_getElem? fun k => ?_)
    · rw [trafficMatches_outboundPolicyOf, trafficMatches_outboundPolicyOf]
      rfl
    · rw [clustersConfigs_outboundPolicyOf, clustersConfigs_outboundPolicyOf]
    · simp only [servicesResolvableSet_eq, himp]
      cases hlast : (services.filter fun m => m.fqdn == k && hasImported mc m).getLast? with
      | none => rfl
      | some m =>
        have hm := (List.mem_filter.1 (List.mem_of_getLast? hlast)).2
        rw [Bool.and_eq_true, beq_iff_eq] at hm
        rw [Option.map_some, Option.map_some, h m (hm.1 ▸ hlast)]

end

/-! ## Services -/

section

variable {α : Type} {md : α → ObjectMeta} {s s' : Store α md} {e : Event α}

theorem key_old (h : s.Replaced s' e.old e.new) : ∀ x ∈ e.old, (md x).key = e.key md := by
  obtain ⟨-, -, -, -, hkey⟩ := h
  cases e with
  | add obj => simp [Event.old]
  | update oldObj newObj => exact fun x hx => hkey x hx newObj rfl
  | delete obj => simp [Event.old, Event.key]

theorem key_new : ∀ y ∈ e.new, (md y).key = e.key md := by
  cases e <;> simp [Event.new, Event.key]

theorem isSome_old_or_new : e.old.isSome ∨ e.new.isSome := by
  cases e <;> simp [Event.old, Event.new]

/-- The key of the object finds the old one before, and the new one after the change. -/
theorem getByKey_key (h : s.Replaced s' e.old e.new) :
    s.getByKey (e.key md) = e.old ∧ s'.getByKey (e.key md) = e.new :=
  ⟨h.getByKey_old (key_old h) key_new isSome_old_or_new,
    h.symm.getByKey_old key_new (key_old h) isSome_old_or_new.symm⟩

theorem getByKey_of_ne (h : s.Replaced s' e.old e.new) {k : String} (hk : k ≠ e.key md) :
    s'.getByKey k = s.getByKey k :=
  h.getByKey_ne (fun x hx he => hk (he.symm.trans (key_old h x hx)))
    fun y hy he => hk (he.symm.trans (key_new y hy))

end

theorem keptServices_append (mc : MeshCatalog) (svcs svcs' : List Service) :
    keptServices mc (svcs ++ svcs') = keptServices mc svcs ++ keptServices mc svcs' := by
  rw [keptServices, List.flatMap_append, List.filter_append]
  rfl

theorem listMeshServices_withServices (mc : MeshCatalog) (services : Store Service (·.md)) :
    (withServices mc services).listMeshServices =
      Fsm.listServices mc.mc ++ keptServices mc services.items := rfl

/-- **A change of a service is not seen** when neither the listed services nor the addresses of a
name change. -/
theorem policy_eq_iff {trustDomain : String} {mc : MeshCatalog} {e : Event Service}
    {services : Store Service (·.md)} (h : mc.kube.services.Replaced services e.old e.new) :
    getOutboundMeshTrafficPolicy trustDomain mc =
        getOutboundMeshTrafficPolicy trustDomain (withServices mc services) ↔
      keptServices mc e.old.toList = keptServices mc e.new.toList ∧
        ∀ m, GivesAddresses mc m → m.namespacedKey = e.key (·.md) →
          addressesWith mc e.old m = addressesWith mc e.new m := by
  have hservices : mc.listMeshServices = (withServices mc services).listMeshServices ↔
      keptServices mc e.old.toList = keptServices mc e.new.toList := by
    obtain ⟨l₁, l₂, h₁, h₂, -⟩ := h
    rw [show mc.listMeshServices = _ from listMeshServices_withServices mc mc.kube.services,
      listMeshServices_withServices, h₁, h₂, List.append_right_inj]
    simp only [keptServices_append, List.append_left_inj, List.append_right_inj]
  have haddr : ∀ m, addressesWith mc (mc.kube.getService m) m =
      addressesWith (withServices mc services) ((withServices mc services).kube.getService m) m ↔
        (m.namespacedKey = e.key (·.md) →
          addressesWith mc e.old m = addressesWith mc e.new m) := by
    intro m
    by_cases hk : m.namespacedKey = e.key (·.md)
    · have hold : mc.kube.getService m = e.old := by
        rw [K8s.Client.getService, hk, (getByKey_key h).1]
      have hnew : (withServices mc services).kube.getService m = e.new := by
        rw [K8s.Client.getService, hk]
        exact (getByKey_key h).2
      rw [hold, hnew, forall_prop_of_true hk]
      rfl
    · have hsame : (withServices mc services).kube.getService m = mc.kube.getService m :=
        getByKey_of_ne h hk
      rw [hsame]
      exact iff_of_true rfl fun he => (hk he).elim
  rw [getOutboundMeshTrafficPolicy, getOutboundMeshTrafficPolicy]
  constructor
  · intro hp
    have hs : mc.listMeshServices = (withServices mc services).listMeshServices := by
      have hc := congrArg OutboundMeshTrafficPolicy.clustersConfigs hp
      rw [clustersConfigs_outboundPolicyOf, clustersConfigs_outboundPolicyOf] at hc
      exact List.map_injective_iff.2 (fun m m' he => congrArg MeshClusterConfig.service he) hc
    rw [← hs] at hp
    exact ⟨hservices.1 hs, fun m hm => (haddr m).1 ((outboundPolicyOf_eq_iff _ _).1 hp m hm)⟩
  · rintro ⟨hk, hm⟩
    rw [← hservices.2 hk]
    exact (outboundPolicyOf_eq_iff _ _).2 fun m hlast => (haddr m).2 (hm m hlast)

/-! ## The configuration -/

section

variable {cfg : Configurator} {e : Event EcnetConfig} {ecnetConfigs : Store EcnetConfig (·.md)}
  (h : cfg.ecnetConfigs.Replaced ecnetConfigs e.old e.new)
include h

/-- The object of the configurator comes and goes: default values stand in for it. -/
theorem getEcnetConfig_replaced (hk : e.key (·.md) = cfg.ecnetConfigCacheKey) :
    cfg.getEcnetConfig = (e.old.map (·.spec)).getD {} ∧
      ({ cfg with ecnetConfigs } : Configurator).getEcnetConfig = (e.new.map (·.spec)).getD {} := by
  obtain ⟨hold, hnew⟩ := getByKey_key h
  rw [hk] at hold hnew
  simp only [Configurator.getEcnetConfig, hold, hnew]
  constructor
  · cases e.old <;> rfl
  · cases e.new <;> rfl

theorem getEcnetConfig_of_ne (hk : e.key (·.md) ≠ cfg.ecnetConfigCacheKey) :
    ({ cfg with ecnetConfigs } : Configurator).getEcnetConfig = cfg.getEcnetConfig := by
  simp only [Configurator.getEcnetConfig, getByKey_of_ne h (Ne.symm hk)]

end

theorem enabledPlugins_eq_nil {chain : List PluginChainSpec} :
    enabledPlugins chain = [] ↔ ∀ plugin ∈ chain, plugin.disable = true := by
  simp [enabledPlugins, List.filter_eq_nil_iff]

/-- The default values have no log level and no plugins. -/
theorem default_eq_iff {cfg cfg' : Configurator} (h : cfg.getEcnetConfig = {}) :
    cfg.getEcnetConfig.logLevel = cfg'.getEcnetConfig.logLevel ∧
        cfg.getGlobalPluginChains = cfg'.getGlobalPluginChains ↔
      cfg'.getEcnetConfig.logLevel = "" ∧ NoPlugins cfg'.getEcnetConfig.pluginChains := by
  have hnil : enabledPlugins [] = [] := rfl
  rw [Configurator.getGlobalPluginChains, Configurator.getGlobalPluginChains, h]
  refine and_congr eq_comm ?_
  simp [NoPlugins, enabledPlugins_eq_nil, hnil]

section

variable {trustDomain : String} {st : ClusterState} {cfg : Configurator}

theorem sameInput_cfg_iff : SameInput trustDomain st { st with cfg } ↔
    st.cfg.getEcnetConfig.logLevel = cfg.getEcnetConfig.logLevel ∧
      st.cfg.getGlobalPluginChains = cfg.getGlobalPluginChains :=
  ⟨fun h => ⟨h.logLevel, h.chains⟩, fun h => ⟨rfl, h.1, h.2⟩⟩

/-- A job reads two fields of the `EcnetConfig`. -/
theorem sameInput_of_getEcnetConfig
    (hlevel : cfg.getEcnetConfig.logLevel = st.cfg.getEcnetConfig.logLevel)
    (hchains : cfg.getEcnetConfig.pluginChains = st.cfg.getEcnetConfig.pluginChains) :
    SameInput trustDomain st { st with cfg } := by
  rw [sameInput_cfg_iff, Configurator.getGlobalPluginChains, Configurator.getGlobalPluginChains,
    hchains]
  exact ⟨hlevel.symm, rfl⟩

end

/-! ## What is ignored -/

/-- An update of an `EcnetConfig` that is ignored leaves what proxies are configured with. -/
theorem spec_eq_of_ignored {c c' : EcnetConfig}
    (h : getProxyUpdateEvent (Change.ecnetConfig (.update c c')).message = none) :
    c'.spec.logLevel = c.spec.logLevel ∧ c'.spec.pluginChains = c.spec.pluginChains := by
  simp only [Change.message, Resource.eventTypes, EventTypes.message, getProxyUpdateEvent] at h
  split at h
  · cases h
  · rename_i hsame
    rw [not_or, not_not, not_not] at hsame
    exact ⟨hsame.1.symm, hsame.2.symm⟩

/-- **An ignored change** leaves the policy, the log level and the plugin chains as they are exactly
when it is harmless. -/
theorem ignored_harmless_iff (trustDomain : String) {st st' : ClusterState} {ch : Change}
    (h : Takes st ch st') (hnil : getProxyUpdateEvent ch.message = none) :
    SameInput trustDomain st st' ↔ Harmless st ch := by
  cases h with
  | service h =>
    exact ⟨fun hs => (policy_eq_iff h).1 hs.policy, fun hh => ⟨(policy_eq_iff h).2 hh, rfl, rfl⟩⟩
  | @endpoints e _ h => cases e <;> cases hnil
  | @serviceImport e _ h => cases e <;> cases hnil
  | @globalTrafficPolicy e _ h => cases e <;> cases hnil
  | @ecnetConfig e ecnetConfigs h =>
    by_cases hk : e.key (·.md) = st.cfg.ecnetConfigCacheKey
    · obtain ⟨hold, hnew⟩ := getEcnetConfig_replaced h hk
      cases e with
      | add c =>
        rw [sameInput_cfg_iff, default_eq_iff hold, hnew]
        exact ⟨fun hh _ => hh, fun hh => hh hk⟩
      | update c c' =>
        obtain ⟨hlevel, hchains⟩ := spec_eq_of_ignored hnil
        refine iff_of_true (sameInput_of_getEcnetConfig ?_ ?_) trivial
        · rw [hold, hnew]
          exact hlevel
        · rw [hold, hnew]
          exact hchains
      | delete c =>
        rw [sameInput_cfg_iff, eq_comm, eq_comm (b := Configurator.getGlobalPluginChains _),
          default_eq_iff hnew, hold]
        exact ⟨fun hh _ => hh, fun hh => hh hk⟩
    · have hsame := getEcnetConfig_of_ne h hk
      refine iff_of_true (sameInput_of_getEcnetConfig (by rw [hsame]) (by rw [hsame])) ?_
      cases e with
      | add c => exact fun he => (hk he).elim
      | update c c' => trivial
      | delete c => exact fun he => (hk he).elim

/-- A service of the local cluster with one port. -/
def localService (name : String) (h : isDNS1123Subdomain name = true) (port : Int) : Service where
  md := ⟨"default", name, webMeta.nsValid, h⟩
  uid := ""
  clusterIP := "10.96.0.1"
  clusterIPs := ["10.96.0.1"]
  ports := [{ name := "http", protocol := "TCP", appProtocol := none, port, targetPort := 8080 }]

/-- A cluster with one import, `default/web`, and the given local services. -/
def importState (services : Store Service (·.md)) : ClusterState where
  catalog := withServices
    (importCluster .activeActive [] [importEntry 80 "10.0.0.1" 8080]).toMeshCatalog services
  cfg := ⟨⟨[], List.nodup_nil⟩, "ecnet-system/ecnet-config"⟩

/-- A service that no import shares its name with may come. -/
theorem ignored_harmless_other_service :
    SameInput "cluster.local" (importState ⟨[], by simp⟩)
      (importState ⟨[localService "db" (by decide) 80], by simp⟩) := by
  have htakes : Takes (importState ⟨[], by simp⟩) (.service (.add (localService "db" (by decide) 80)))
      (importState ⟨[localService "db" (by decide) 80], by simp⟩) :=
    .service ⟨[], [], rfl, rfl, fun _ hx => by cases hx⟩
  refine (ignored_harmless_iff "cluster.local" htakes rfl).2 ⟨by decide +kernel, fun m hm hk => ?_⟩
  have hlist : (importState ⟨[], by simp⟩).catalog.listMeshServices =
      [⟨"default", "web", 80, 8080, "http", "c"⟩] := by decide +kernel
  have hmem := (List.mem_filter.1 (List.mem_of_getLast? hm)).1
  rw [hlist, List.mem_singleton] at hmem
  subst hmem
  revert hk
  decide

/-- The port of a local service is changed. -/
def portUpdate : Event Service :=
  .update (localService "web" webMeta.nameValid 80) (localService "web" webMeta.nameValid 81)

/-- No proxy is told of a change of a port. -/
theorem not_sameInput_port_update :
    Takes (importState ⟨[localService "web" (by decide) 80], by simp⟩) (.service portUpdate)
        (importState ⟨[localService "web" (by decide) 81], by simp⟩) ∧
      getProxyUpdateEvent (Change.service portUpdate).message = none ∧
      ¬ SameInput "cluster.local" (importState ⟨[localService "web" (by decide) 80], by simp⟩)
        (importState ⟨[localService "web" (by decide) 81], by simp⟩) := by
  refine ⟨.service ⟨[], [], rfl, rfl, ?_⟩, rfl, fun h => ?_⟩
  · rintro _ ⟨⟩ _ ⟨⟩
    rfl
  · have hports := congrArg (fun policy => policy.trafficMatches.map (·.destinationPort)) h.policy
    revert hports
    decide +kernel

end Messaging
