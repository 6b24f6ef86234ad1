import ErieCanalNet.Ctrl.Job

/-!
# Events of the cluster

`GetEventHandlerFuncs` of `pkg/ecnet/k8s` makes a message of every change of an object an informer
watches; `getProxyUpdateEvent` of `pkg/ecnet/messaging/broker.go` decides which messages update the
proxies.

`reflect.DeepEqual` of two plugin chains is equality here: a `nil` and an empty list, which it tells
apart, are one list.
-/

namespace Messaging

open Go K8s Mesh

/-! ## Messages -/

/-- The objects the announcements are about. -/
inductive Resource
  | pod
  | endpoint
  | ns
  | service
  | serviceAccount
  | ecnetConfig
  | serviceImport
  | globalTrafficPolicy
deriving DecidableEq, Repr

inductive Verb
  | added
  | deleted
  | updated
deriving DecidableEq, Repr

/-- `announcements.Kind`. -/
inductive Kind
  | proxyUpdate
  | on (resource : Resource) (verb : Verb)
deriving DecidableEq, Repr

def Resource.string : Resource → String
  | .pod => "pod"
  | .endpoint => "endpoint"
  | .ns => "namespace"
  | .service => "service"
  | .serviceAccount => "serviceaccount"
  | .ecnetConfig => "ecnetconfig"
  | .serviceImport => "serviceimport"
  | .globalTrafficPolicy => "globaltrafficpolicy"

def Verb.string : Verb → String
  | .added => "added"
  | .deleted => "deleted"
  | .updated => "updated"

def Kind.string : Kind → String
  | .proxyUpdate => "proxy-update"
  | .on resource verb => resource.string ++ "-" ++ verb.string

/-- `corev1.Pod`. -/
structure Pod where
  md : ObjectMeta
  uid : String
  annotations : Map String String

/-- The object of a message. -/
inductive Object
  | pod (pod : Pod)
  | endpoints (endpoints : Endpoints)
  | service (service : Service)
  | ecnetConfig (ecnetConfig : Ctrl.EcnetConfig)
  | serviceImport (serviceImport : Multicluster.ServiceImport)
  | globalTrafficPolicy (globalTrafficPolicy : Multicluster.GlobalTrafficPolicy)
  | other

structure PubSubMessage where
  kind : Kind
  newObj : Option Object
  oldObj : Option Object

/-! ## Handlers -/

/-- What an informer tells its handlers. -/
inductive Event (α : Type)
  | add (obj : α)
  | update (oldObj newObj : α)
  | delete (obj : α)

structure EventTypes where
  add : Kind
  update : Kind
  delete : Kind

/-- The event types the handlers of a resource are made with. -/
def Resource.eventTypes (resource : Resource) : EventTypes where
  add := .on resource .added
  update := .on resource .updated
  delete := .on resource .deleted

/-- `GetEventHandlerFuncs`: the message of an event that is observed. -/
def EventTypes.message {α : Type} (eventTypes : EventTypes) (object : α → Object) :
    Event α → PubSubMessage
  | .add obj => { kind := eventTypes.add, newObj := some (object obj), oldObj := none }
  | .update oldObj newObj =>
    { kind := eventTypes.update, newObj := some (object newObj), oldObj := some (object oldObj) }
  | .delete obj => { kind := eventTypes.delete, newObj := none, oldObj := some (object obj) }

/-! ## The filter -/

structure ProxyUpdateEvent where
  msg : PubSubMessage
  topic : String

/-- `GetPubSubTopicForProxyUUID`. -/
def getPubSubTopicForProxyUUID (uuid : String) : String := "proxy:" ++ uuid

/-- `constants.PrometheusScrapeAnnotation`. -/
def prometheusScrapeAnnotation : String := "prometheus.io/scrape"

/-- `getProxyUpdateEvent`; `none` is its `nil`. -/
def getProxyUpdateEvent (msg : PubSubMessage) : Option ProxyUpdateEvent :=
  match msg.kind with
  | .on .endpoint _ | .on .serviceImport _ | .on .globalTrafficPolicy _ | .proxyUpdate =>
    some { msg, topic := Kind.proxyUpdate.string }
  | .on .ecnetConfig .updated =>
    match msg.oldObj, msg.newObj with
    | some (.ecnetConfig prevEcnetConfig), some (.ecnetConfig newEcnetConfig) =>
      let prevSpec := prevEcnetConfig.spec
      let newSpec := newEcnetConfig.spec
      if prevSpec.logLevel ≠ newSpec.logLevel ∨ prevSpec.pluginChains ≠ newSpec.pluginChains then
        some { msg, topic := Kind.proxyUpdate.string }
      else none
    | _, _ => none
  | .on .pod .updated =>
    match msg.oldObj, msg.newObj with
    | some (.pod prevPod), some (.pod newPod) =>
      let prevMetricAnnotation := (prevPod.annotations.lookup prometheusScrapeAnnotation).getD ""
      let newMetricAnnotation := (newPod.annotations.lookup prometheusScrapeAnnotation).getD ""
      if prevMetricAnnotation ≠ newMetricAnnotation then
        some { msg, topic := getPubSubTopicForProxyUUID newPod.uid }
      else if 0 < newPod.uid.length then some { msg, topic := Kind.proxyUpdate.string }
      else none
    | _, _ => none
  | _ => none

end Messaging
