import ErieCanalNet.Lib.PubSub
import ErieCanalNet.Lib.WorkQueue
import ErieCanalNet.Messaging.Dispatcher
import ErieCanalNet.Messaging.Events

/-!
# The message broker

`pkg/ecnet/messaging`: the queue that the event handlers fill, the goroutine that processes its
items, and the dispatcher. What they publish goes through two hubs: the updates of proxies through
`proxyUpdatePubSub`, and every message through `kubeEventPubSub`.

The queue and the hubs come from other packages and are parameters (`Packages`): no more is known
of them than the laws of `Lib.WorkQueue` and `Lib.PubSub`. `pubsub.New(0)` has no buffers, so a `Pub`
waits until the hub has sent all of the message before.

An item of the queue is compared by the pointers in it, `message` is what it holds. Left out are the
stop signal and the shutdown of the queue.
-/

namespace Messaging

/-- The goroutines that subscribe to `proxyUpdatePubSub`. -/
inductive Party
  | listener
  | informer
deriving DecidableEq, Repr

/-- The goroutines that subscribe to `kubeEventPubSub`. -/
inductive KubeClient
  /-- `WatchAndUpdateLogLevel` -/
  | logLevel
  /-- `watchConfig` of the resync ticker -/
  | ticker
deriving DecidableEq, Repr

instance : Fintype Party := ⟨{.listener, .informer}, fun p => by cases p <;> decide⟩

instance : Fintype KubeClient := ⟨{.logLevel, .ticker}, fun c => by cases c <;> decide⟩

structure Packages (μ : Type) [DecidableEq μ] where
  queue : Lib.WorkQueue μ
  /-- The dispatcher publishes its variable `event`, which is `none` before the first one. -/
  proxyUpdatePubSub : Lib.PubSub Party String (Option μ)
  kubeEventPubSub : Lib.PubSub KubeClient String μ

/-- The next statement of the processor. -/
inductive Processor (μ : Type)
  /-- `b.queue.Get()` -/
  | get
  /-- `atomic.AddUint64` of `totalQEventCount` -/
  | got (item : μ)
  /-- `atomic.AddUint64` of `totalQProxyEventCount` -/
  | update (item : μ) (topic : String)
  /-- `b.proxyUpdatePubSub.Pub` of an event that is not a broadcast -/
  | pub (item : μ) (topic : String)
  /-- `atomic.AddUint64` of `totalDispatchedProxyEventCount` -/
  | published (item : μ)
  /-- `b.proxyUpdateCh <- *event` -/
  | send (item : μ)
  /-- `b.kubeEventPubSub.Pub` -/
  | kube (item : μ)
  /-- `b.queue.Done(item)`, which was deferred -/
  | done (item : μ)
deriving DecidableEq

/-- The goroutine that publishes. -/
inductive Publisher
  | processor
  | dispatcher
deriving DecidableEq, Repr

/-- What the broker does by itself. -/
inductive BrokerAction (μ : Type)
  /-- the delay of an item has passed -/
  | due (item : μ)
  | get (item : μ)
  /-- the processor increases a counter -/
  | count
  /-- `proxyUpdatePubSub` takes an event, with the order in which it will send it -/
  | publish (publisher : Publisher) (order : List Party)
  /-- the dispatcher receives an event -/
  | send (item : μ)
  /-- `kubeEventPubSub` takes an event -/
  | kube (order : List KubeClient)
  | done
  /-- steps of the dispatcher -/
  | expire (w : Which)
  | fired (w : Which)
  | next
  | counted
deriving DecidableEq

section

variable {μ : Type} (message : μ → PubSubMessage)

/-- The topic of an item that updates proxies. -/
def topicOf (item : μ) : Option String := (getProxyUpdateEvent (message item)).map (·.topic)

/-- `processEvent` up to its first statement that others can see. -/
def processEvent (item : μ) : Processor μ :=
  match topicOf message item with
  | none => .kube item
  | some topic => .update item topic

/-- The topic of the variable `event` of the dispatcher. -/
def State.topic (d : State μ) : String := (d.event.bind (topicOf message)).getD ""

end

structure Broker {μ : Type} [DecidableEq μ] (pk : Packages μ) where
  queue : pk.queue.State
  proxyUpdatePubSub : pk.proxyUpdatePubSub.State
  kubeEventPubSub : pk.kubeEventPubSub.State
  processor : Processor μ
  dispatcher : State μ
  totalQEventCount : UInt64
  totalQProxyEventCount : UInt64
  totalDispatchedProxyEventCount : UInt64

namespace Broker

variable {μ : Type} [DecidableEq μ]

/-- `NewBroker`. -/
def new (pk : Packages μ) : Broker pk where
  queue := pk.queue.new
  proxyUpdatePubSub := pk.proxyUpdatePubSub.new
  kubeEventPubSub := pk.kubeEventPubSub.new
  processor := .get
  dispatcher := .init
  totalQEventCount := 0
  totalQProxyEventCount := 0
  totalDispatchedProxyEventCount := 0

variable {pk : Packages μ} (b : Broker pk) (message : μ → PubSubMessage)

/-- `b.GetQueue().AddRateLimited(item)`. -/
def addRateLimited (item : μ) : Broker pk :=
  { b with queue := pk.queue.addRateLimited b.queue item }

/-- A step of the dispatcher. -/
def dispatch (a : Action μ) : Option (Broker pk) :=
  (Messaging.step b.dispatcher a).map fun dispatcher => { b with dispatcher }

/-- A counter of the processor, and what it does up to the next statement that others can see. -/
def count : Option (Broker pk) :=
  match b.processor with
  | .got item =>
    some { b with
      totalQEventCount := b.totalQEventCount + 1
      processor := processEvent message item }
  | .update item topic =>
    some { b with
      totalQProxyEventCount := b.totalQProxyEventCount + 1
      processor := if topic ≠ Kind.proxyUpdate.string then .pub item topic else .send item }
  | .published item =>
    some { b with
      totalDispatchedProxyEventCount := b.totalDispatchedProxyEventCount + 1
      processor := .kube item }
  | _ => none

/-- `b.proxyUpdatePubSub.Pub`. -/
def publish (order : List Party) : Publisher → Option (Broker pk)
  | .processor =>
    match b.processor with
    | .pub item topic =>
      (pk.proxyUpdatePubSub.pub b.proxyUpdatePubSub (some item) topic order).map
        fun proxyUpdatePubSub => { b with proxyUpdatePubSub, processor := .published item }
    | _ => none
  | .dispatcher =>
    (pk.proxyUpdatePubSub.pub b.proxyUpdatePubSub b.dispatcher.event (b.dispatcher.topic message)
      order).bind fun proxyUpdatePubSub =>
        ({ b with proxyUpdatePubSub } : Broker pk).dispatch (.publish b.dispatcher.event)

def step : BrokerAction μ → Option (Broker pk)
  | .due item => (pk.queue.due b.queue item).map fun queue => { b with queue }
  | .get item =>
    if b.processor = .get then
      (pk.queue.get b.queue).bind fun (item', queue) =>
        if item' = item then some { b with queue, processor := .got item } else none
    else none
  | .count => b.count message
  | .publish publisher order => b.publish message order publisher
  | .send item =>
    if b.processor = .send item then
      (b.dispatch (.receive item)).map fun b => { b with processor := .kube item }
    else none
  | .kube order =>
    match b.processor with
    | .kube item =>
      (pk.kubeEventPubSub.pub b.kubeEventPubSub item (message item).kind.string order).map
        fun kubeEventPubSub => { b with kubeEventPubSub, processor := .done item }
    | _ => none
  | .done =>
    match b.processor with
    | .done item => some { b with processor := .get, queue := pk.queue.done b.queue item }
    | _ => none
  | .expire w => b.dispatch (.expire w)
  | .fired w => b.dispatch (.fired w)
  | .next => b.dispatch .next
  | .counted =>
    (b.dispatch .count).map fun b =>
      { b with totalDispatchedProxyEventCount := b.totalDispatchedProxyEventCount + 1 }

end Broker

end Messaging
