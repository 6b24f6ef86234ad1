import ErieCanalNet.Ctrl.Generate

/-!
# The generator job

`PipyConfGeneratorJob.Run` up to the configuration it publishes, with what it reads of the
`EcnetConfig` (`pkg/ecnet/configurator`): the log level and the plugin chains.
-/

namespace Ctrl

open Go K8s Mesh Policy

/-! ## The configurator -/

/-- `priority` is a `float32`. -/
structure PluginChainSpec where
  plugin : String
  priority : Rat
  disable : Bool
deriving DecidableEq, Repr

structure PluginChainsSpec where
  inboundTCPChains : List PluginChainSpec := []
  inboundHTTPChains : List PluginChainSpec := []
  outboundTCPChains : List PluginChainSpec := []
  outboundHTTPChains : List PluginChainSpec := []
deriving DecidableEq, Repr

/-- The parts of an `EcnetConfig`'s spec that a proxy configuration is made of, and the interval of
the resync ticker. -/
structure EcnetConfigSpec where
  logLevel : String := ""
  pluginChains : PluginChainsSpec := {}
  configResyncInterval : String := ""
deriving DecidableEq, Repr

structure EcnetConfig where
  md : ObjectMeta
  spec : EcnetConfigSpec
deriving DecidableEq

/-- The configurator reads one object of its cache. -/
structure Configurator where
  ecnetConfigs : Store EcnetConfig (·.md)
  ecnetConfigCacheKey : String

/-- `getEcnetConfig`: default values stand in for an object that is not there. -/
def Configurator.getEcnetConfig (c : Configurator) : EcnetConfigSpec :=
  match c.ecnetConfigs.getByKey c.ecnetConfigCacheKey with
  | some ecnetConfig => ecnetConfig.spec
  | none => {}

structure Plugin where
  name : String
  priority : Rat
  buildIn : Bool
deriving DecidableEq, Repr

/-- The plugins of a chain that are not disabled. -/
def enabledPlugins (chain : List PluginChainSpec) : List Plugin :=
  (chain.filter fun plugin => !plugin.disable).map fun plugin =>
    { name := plugin.plugin, priority := plugin.priority, buildIn := true }

/-- `GetGlobalPluginChains`, by mount point. -/
def Configurator.getGlobalPluginChains (c : Configurator) : List (String × List Plugin) :=
  let spec := c.getEcnetConfig.pluginChains
  [("inbound-tcp", enabledPlugins spec.inboundTCPChains),
    ("inbound-http", enabledPlugins spec.inboundHTTPChains),
    ("outbound-tcp", enabledPlugins spec.outboundTCPChains),
    ("outbound-http", enabledPlugins spec.outboundHTTPChains)]

/-! ## The job -/

def pluginURI (plugin : Plugin) : String :=
  if plugin.buildIn then plugin.name ++ ".js" else "plugins/" ++ plugin.name ++ ".js"

/-- `setSidecarChain`. -/
def setSidecarChain (env : Env) (cfg : Configurator) (pipyConf : PipyConf) : PipyConf :=
  { pipyConf with
    chains := cfg.getGlobalPluginChains.foldl (fun chains (mountPoint, pluginItems) =>
      if pluginItems.isEmpty then chains
      else chains.insert mountPoint ((env.sortPlugins Plugin.priority pluginItems).map pluginURI)) ∅ }

def setSidecarLogLevel (sidecarLogLevel : String) (pipyConf : PipyConf) : PipyConf :=
  if equalFold pipyConf.sidecarLogLevel sidecarLogLevel then pipyConf
  else { pipyConf with sidecarLogLevel }

/-- `OutboundHTTPRouteRuleSlice.Less`: a match-all is less than nothing. Paths are compared byte by
byte, which is the order of their characters. -/
def OutboundHTTPRouteRules.less (a b : HTTPMatchRule × WeightedClusters) : Bool :=
  if a.1.path = regexMatchAll then false else decide (a.1.path < b.1.path)

/-- `OutboundHTTPRouteRuleSlice.sort`. -/
def sortedRules (env : Env) (rules : OutboundHTTPRouteRules) : OutboundHTTPRouteRules :=
  if 1 < rules.length then env.sortRules rules else rules

def reorderedMatch (env : Env) (tm : OutboundTrafficMatch) : OutboundTrafficMatch :=
  { tm with httpServiceRouteRules := tm.httpServiceRouteRules.map fun _ => sortedRules env }

def reorder (env : Env) (pipyConf : PipyConf) : PipyConf :=
  { pipyConf with outbound := pipyConf.outbound.map fun otp =>
      { otp with
        namedTrafficMatches := otp.namedTrafficMatches.map fun entry =>
          (entry.1, reorderedMatch env entry.2) } }

/-- `Run`, up to the configuration it publishes. -/
def run (env : Env) (cfg : Configurator) (cataloger : MeshCatalog) : Option PipyConf := do
  let pipyConf := setSidecarLogLevel cfg.getEcnetConfig.logLevel {}
  let pipyConf := setSidecarChain env cfg pipyConf
  let (pipyConf, _) ← outbound env cataloger pipyConf
  return reorder env pipyConf.rebalancedOutboundClusters

end Ctrl
