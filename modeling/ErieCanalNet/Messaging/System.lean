import ErieCanalNet.Messaging.Broker
import ErieCanalNet.Ticker.Resync
import ErieCanalNet.Workerpool.Pool

/-!
# From an event to a job

The goroutines between the event handlers and the jobs that bring the proxies, or the maps of a
node, up to date: the broker, `broadcastListener` of the control plane or of the data plane, in the
control plane `informTrafficPolicies` for the registered proxy, and the workers. With them go the two
subscribers of `kubeEventPubSub`, which both planes have: the processor waits for them.

A job of the control plane holds the lock of the proxy: `begin` is where it has got it and nothing
was read yet, and `finish` is behind `publishSidecarConf`. A job of the data plane has no lock, but
there is one goroutine to add such jobs, and it waits for each.

`System.step` is executable. Left out is what ends `informTrafficPolicies`: nothing sends on the
channel `Quit` of a proxy.
-/

namespace Messaging

open Workerpool

inductive Plane
  | ctrl
  | data
deriving DecidableEq, Repr

/-! ## The server -/

/-- The statement of a `Party` that comes next. -/
inductive Stage
  /-- not started -/
  | absent
  /-- `proxyUpdatePubSub.Sub` -/
  | subscribing
  /-- the `select` of the loop -/
  | select
  /-- `wg.Wait()` of `informProxy` -/
  | registering
  /-- `s.workQueues.AddJob(newJob())` -/
  | adding
  /-- the receive from the channel of the job -/
  | waiting
deriving DecidableEq, Repr

def Stage.subscribed : Stage → Bool
  | .absent | .subscribing => false
  | _ => true

structure Server where
  stage : Party → Stage
  /-- `slidingTimer`; it is made after `Sub`. -/
  timer : Timer
  reconfirm : Bool
  workQueues : WorkerPool Party
  /-- Whose job holds the lock. -/
  holder : Option Party
  /-- Whose job has closed its channel. -/
  done : List Party

/-- `go s.broadcastListener()`. -/
def Server.start (nWorkers goMaxProcs : Nat) : Server where
  stage := fun
    | .listener => .subscribing
    | .informer => .absent
  timer := ⟨none, false⟩
  reconfirm := true
  workQueues := .new nWorkers goMaxProcs
  holder := none
  done := []

/-- What the server does by itself. -/
inductive ServerAction
  /-- the timer expires -/
  | expire
  /-- the listener takes the value of the timer -/
  | fire
  /-- `wg.Wait()` returns -/
  | registered
  | addJob (p : Party)
  | take (p : Party)
  | begin (p : Party)
  /-- `retryProxiesJob` of `outbound`, when a service has no endpoint -/
  | retry
  | finish (p : Party)
  /-- the channel of a job is closed -/
  | resume (p : Party)
deriving DecidableEq, Repr

namespace Server

def move (s : Server) (p : Party) (stage : Stage) : Server :=
  { s with stage := Function.update s.stage p stage }

/-- The end of the timer's case, `if reconfirm`, and of the case of an update in the informer. -/
def resume (s : Server) (p : Party) : Server :=
  { s.move p .select with
    reconfirm := if p = .listener then false else s.reconfirm
    timer := if p = .listener ∧ s.reconfirm then s.timer.reset .window else s.timer }

def step (plane : Plane) (s : Server) : ServerAction → Option Server
  | .expire => s.timer.expire.map fun timer => { s with timer }
  | .fire =>
    if s.stage .listener = .select then
      s.timer.receive.map fun timer =>
        -- `fireExistProxies` registers the proxy and waits until it is informed
        if plane = .ctrl ∧ s.stage .informer = .absent then
          (({ s with timer } : Server).move .informer .subscribing).move .listener .registering
        else ({ s with timer } : Server).move .listener .adding
    else none
  | .registered =>
    if s.stage .listener = .registering ∧ (s.stage .informer).subscribed then
      some (s.move .listener .adding)
    else none
  | .addJob p =>
    if s.stage p = .adding then
      (s.workQueues.addJob p).map fun workQueues =>
        ({ s with workQueues } : Server).move p .waiting
    else none
  | .take p =>
    s.workQueues.take.bind fun (p', workQueues) =>
      if p' = p then some { s with workQueues } else none
  | .begin p =>
    if p ∈ s.workQueues.running ∧ s.holder = none then some { s with holder := some p } else none
  | .retry =>
    if plane = .ctrl ∧ s.holder.isSome then some { s with timer := s.timer.reset .window } else none
  | .finish p =>
    if s.holder = some p then
      (s.workQueues.finish p).map fun workQueues =>
        { s with workQueues, holder := none, done := p :: s.done }
    else none
  | .resume p =>
    if s.stage p = .waiting ∧ p ∈ s.done then
      some (({ s with done := s.done.erase p } : Server).resume p)
    else none

/-- A subscriber receives an event. -/
def receive (s : Server) (p : Party) : Option Server :=
  if s.stage p = .select then
    match p with
    | .listener => some { s with timer := s.timer.reset .window, reconfirm := true }
    | .informer => some (s.move .informer .adding)
  else none

/-- `Sub` of a subscriber, and what it does before its loop. -/
def subscribe (s : Server) (p : Party) : Option Server :=
  if s.stage p = .subscribing then
    match p with
    | .listener => some (({ s with timer := .newTimer .window } : Server).move .listener .select)
    | .informer => some (s.move .informer .select)
  else none

end Server

/-! ## The clients of `kubeEventPubSub` -/

structure Clients where
  subscribed : KubeClient → Bool
  ticker : Ticker.State

/-- The two intervals in an update of an `EcnetConfig`. -/
def PubSubMessage.resyncIntervals (msg : PubSubMessage) : Option (String × String) :=
  match msg.oldObj, msg.newObj with
  | some (.ecnetConfig old), some (.ecnetConfig new) =>
    some (old.spec.configResyncInterval, new.spec.configResyncInterval)
  | _, _ => none

/-- The case of a message in `watchConfig`, up to its first statement that another goroutine can
see. -/
def watchConfig (t : Ticker.ResyncTicker) (s : Ticker.State) (msg : PubSubMessage) : Ticker.State :=
  match msg.resyncIntervals with
  | some (old, new) => t.onEvent s (.update old new)
  | none => s

namespace Clients

variable (t : Ticker.ResyncTicker) (c : Clients)

def subscribe (client : KubeClient) : Option Clients :=
  if c.subscribed client then none
  else some { c with subscribed := Function.update c.subscribed client true }

/-- A client receives a message. `WatchAndUpdateLogLevel` is always at its `select`, and does nothing
with what it receives. -/
def receive (msg : PubSubMessage) : KubeClient → Option Clients
  | .logLevel => some c
  | .ticker =>
    if c.ticker.watch = .select then some { c with ticker := watchConfig t c.ticker msg } else none

end Clients

/-! ## The system -/

/-- A control plane or a data plane, with what it is started with. -/
structure Process (μ : Type) [DecidableEq μ] extends Packages μ where
  message : μ → PubSubMessage
  plane : Plane
  /-- The UUID of the registered proxy. -/
  uuid : String
  nWorkers : Nat
  goMaxProcs : Nat
  ticker : Ticker.ResyncTicker
  resyncInterval : Int

structure System {μ : Type} [DecidableEq μ] (pr : Process μ) where
  broker : Broker pr.toPackages
  server : Server
  clients : Clients

inductive Label (μ : Type)
  /-- a handler, or a ticker, adds an item to the queue -/
  | announce (item : μ)
  | broker (a : BrokerAction μ)
  | server (a : ServerAction)
  | subscribe (p : Party)
  /-- `proxyUpdatePubSub` sends to a subscriber -/
  | deliver (p : Party)
  /-- a client subscribes to `kubeEventPubSub` -/
  | watch (client : KubeClient)
  /-- `kubeEventPubSub` sends to a client -/
  | notify (client : KubeClient) (item : μ)
  /-- a step of `watchConfig` or of a ticker -/
  | ticker (l : Ticker.Label)
deriving DecidableEq

section

variable {μ : Type} [DecidableEq μ] {pr : Process μ}

/-- What a goroutine subscribes to, where the proxy has this UUID. -/
def Party.topics (uuid : String) : Party → List String
  | .listener => [Kind.proxyUpdate.string]
  | .informer => [Kind.proxyUpdate.string, getPubSubTopicForProxyUUID uuid]

def System.start (pr : Process μ) : System pr where
  broker := .new pr.toPackages
  server := .start pr.nWorkers pr.goMaxProcs
  clients := ⟨fun _ => false, pr.ticker.start pr.resyncInterval⟩

def System.step (s : System pr) : Label μ → Option (System pr)
  | .announce item => some { s with broker := s.broker.addRateLimited item }
  | .broker a => (s.broker.step pr.message a).map fun broker => { s with broker }
  | .server a => (s.server.step pr.plane a).map fun server => { s with server }
  | .subscribe p =>
    (pr.proxyUpdatePubSub.sub s.broker.proxyUpdatePubSub p (p.topics pr.uuid)).bind
      fun proxyUpdatePubSub => (s.server.subscribe p).map fun server =>
        { s with server, broker := { s.broker with proxyUpdatePubSub } }
  | .deliver p =>
    (pr.proxyUpdatePubSub.send s.broker.proxyUpdatePubSub p).bind
      fun (_, proxyUpdatePubSub) => (s.server.receive p).map fun server =>
        { s with server, broker := { s.broker with proxyUpdatePubSub } }
  | .watch client =>
    (pr.kubeEventPubSub.sub s.broker.kubeEventPubSub client
      [(Kind.on .ecnetConfig .updated).string]).bind
      fun kubeEventPubSub => (s.clients.subscribe client).map fun clients =>
        { s with clients, broker := { s.broker with kubeEventPubSub } }
  | .notify client item =>
    (pr.kubeEventPubSub.send s.broker.kubeEventPubSub client).bind
      fun (item', kubeEventPubSub) =>
        if item' = item then
          (s.clients.receive pr.ticker (pr.message item) client).map fun clients =>
            { s with clients, broker := { s.broker with kubeEventPubSub } }
        else none
  | .ticker l =>
    -- its events are what it is notified of, and its ticks are announcements
    if l = .next ∨ l = .starts ∨ l = .receives then
      (pr.ticker.step s.clients.ticker l).map fun ticker =>
        { s with clients := { s.clients with ticker } }
    else none

/-- The system goes from one state to another. -/
def System.Runs (s : System pr) (labels : List (Label μ)) (s' : System pr) : Prop :=
  Lib.Run (fun s l s' => System.step s l = some s') s labels s'

/-- A run of the process. -/
def Process.Reaches (pr : Process μ) (labels : List (Label μ)) (s : System pr) : Prop :=
  (System.start pr).Runs labels s

end

end Messaging
