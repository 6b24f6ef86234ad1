import ErieCanalNet.Messaging.Proof.Dispatcher
import ErieCanalNet.Messaging.System
import ErieCanalNet.Workerpool.Proof.Pool

/-!
# What a step of the system does

`Server.Steps`, `Broker.Steps` and `System.Steps` list, for each action, when it can be taken and
what it changes; the step functions do nothing else (`steps_of_step`). All results about the system
go by the cases of these relations.
-/

namespace Messaging

open Workerpool

/-! ## The server -/

inductive Server.Steps (plane : Plane) (s : Server) : ServerAction → Server → Prop
  | expire (hrunning : s.timer.running = some .window) :
      Steps plane s .expire { s with timer := ⟨none, true⟩ }
  /-- the proxy is registered -/
  | register (hpc : s.stage .listener = .select) (hvalue : s.timer.value = true)
      (hplane : plane = .ctrl) (habsent : s.stage .informer = .absent) :
      Steps plane s .fire (({ s with timer := { s.timer with value := false } } : Server).move
        .informer .subscribing |>.move .listener .registering)
  | fire (hpc : s.stage .listener = .select) (hvalue : s.timer.value = true)
      (hregistered : plane = .ctrl → s.stage .informer ≠ .absent) :
      Steps plane s .fire
        (({ s with timer := { s.timer with value := false } } : Server).move .listener .adding)
  | registered (hpc : s.stage .listener = .registering)
      (hinformer : (s.stage .informer).subscribed = true) :
      Steps plane s .registered (s.move .listener .adding)
  | addJob {p : Party} {workQueues : WorkerPool Party} (hpc : s.stage p = .adding)
      (hadd : s.workQueues.addJob p = some workQueues) :
      Steps plane s (.addJob p) (({ s with workQueues } : Server).move p .waiting)
  | take {p : Party} {workQueues : WorkerPool Party}
      (htake : s.workQueues.take = some (p, workQueues)) :
      Steps plane s (.take p) { s with workQueues }
  | begin {p : Party} (hrunning : p ∈ s.workQueues.running) (hholder : s.holder = none) :
      Steps plane s (.begin p) { s with holder := some p }
  | retry (hplane : plane = .ctrl) (hholder : s.holder.isSome) :
      Steps plane s .retry { s with timer := s.timer.reset .window }
  | finish {p : Party} {workQueues : WorkerPool Party} (hholder : s.holder = some p)
      (hfinish : s.workQueues.finish p = some workQueues) :
      Steps plane s (.finish p) { s with workQueues, holder := none, done := p :: s.done }
  | resume {p : Party} (hpc : s.stage p = .waiting) (hdone : p ∈ s.done) :
      Steps plane s (.resume p) (({ s with done := s.done.erase p } : Server).resume p)

theorem Server.steps_of_step {plane : Plane} {s s' : Server} {a : ServerAction}
    (h : s.step plane a = some s') : s.Steps plane a s' := by
  cases a with
  | expire =>
    obtain ⟨t, ht, rfl⟩ := Option.map_eq_some_iff.1 h
    obtain ⟨hrunning, rfl⟩ := Timer.expire_eq_some ht
    exact .expire hrunning
  | fire =>
    obtain ⟨hpc, hs⟩ := Option.ite_none_right_eq_some.1 h
    obtain ⟨t, ht, rfl⟩ := Option.map_eq_some_iff.1 hs
    obtain ⟨hvalue, rfl⟩ := Timer.receive_eq_some ht
    split
    · rename_i hreg
      exact .register hpc hvalue hreg.1 hreg.2
    · rename_i hreg
      exact .fire hpc hvalue fun hplane habsent => hreg ⟨hplane, habsent⟩
  | registered =>
    obtain ⟨⟨hpc, hinformer⟩, hs⟩ := Option.ite_none_right_eq_some.1 h
    obtain rfl := Option.some.inj hs
    exact .registered hpc hinformer
  | addJob p =>
    obtain ⟨hpc, hs⟩ := Option.ite_none_right_eq_some.1 h
    obtain ⟨wp, hwp, rfl⟩ := Option.map_eq_some_iff.1 hs
    exact .addJob hpc hwp
  | take p =>
    obtain ⟨⟨q, wp⟩, hwp, hq⟩ := Option.bind_eq_some_iff.1 h
    obtain ⟨rfl, hs⟩ := Option.ite_none_right_eq_some.1 hq
    obtain rfl := Option.some.inj hs
    exact .take hwp
  | begin p =>
    obtain ⟨⟨hrunning, hholder⟩, hs⟩ := Option.ite_none_right_eq_some.1 h
    obtain rfl := Option.some.inj hs
    exact .begin hrunning hholder
  | retry =>
    obtain ⟨⟨hplane, hholder⟩, hs⟩ := Option.ite_none_right_eq_some.1 h
    obtain rfl := Option.some.inj hs
    exact .retry hplane hholder
  | finish p =>
    obtain ⟨hholder, hs⟩ := Option.ite_none_right_eq_some.1 h
    obtain ⟨wp, hwp, rfl⟩ := Option.map_eq_some_iff.1 hs
    exact .finish hholder hwp
  | resume p =>
    obtain ⟨⟨hpc, hdone⟩, hs⟩ := Option.ite_none_right_eq_some.1 h
    obtain rfl := Option.some.inj hs
    exact .resume hpc hdone

/-! ## The broker -/

section

variable {μ : Type} [DecidableEq μ] {pk : Packages μ} {message : μ → PubSubMessage}

inductive Broker.Steps (message : μ → PubSubMessage) (b : Broker pk) :
    BrokerAction μ → Broker pk → Prop
  | due {item : μ} {queue : pk.queue.State} (hdue : pk.queue.due b.queue item = some queue) :
      Steps message b (.due item) { b with queue }
  | get {item : μ} {queue : pk.queue.State} (hpc : b.processor = .get)
      (hget : pk.queue.get b.queue = some (item, queue)) :
      Steps message b (.get item) { b with queue, processor := .got item }
  | countEvent {item : μ} (hpc : b.processor = .got item) :
      Steps message b .count { b with
        totalQEventCount := b.totalQEventCount + 1
        processor := processEvent message item }
  | countUpdate {item : μ} {topic : String} (hpc : b.processor = .update item topic) :
      Steps message b .count { b with
        totalQProxyEventCount := b.totalQProxyEventCount + 1
        processor := if topic ≠ Kind.proxyUpdate.string then .pub item topic else .send item }
  | countPublish {item : μ} (hpc : b.processor = .published item) :
      Steps message b .count { b with
        totalDispatchedProxyEventCount := b.totalDispatchedProxyEventCount + 1
        processor := .kube item }
  | pubProcessor {order : List Party} {item : μ} {topic : String}
      {proxyUpdatePubSub : pk.proxyUpdatePubSub.State} (hpc : b.processor = .pub item topic)
      (hpub : pk.proxyUpdatePubSub.pub b.proxyUpdatePubSub (some item) topic order =
        some proxyUpdatePubSub) :
      Steps message b (.publish .processor order)
        { b with proxyUpdatePubSub, processor := .published item }
  | pubDispatcher {order : List Party} {proxyUpdatePubSub : pk.proxyUpdatePubSub.State}
      {dispatcher : State μ}
      (hpub : pk.proxyUpdatePubSub.pub b.proxyUpdatePubSub b.dispatcher.event
        (b.dispatcher.topic message) order = some proxyUpdatePubSub)
      (hd : Messaging.step b.dispatcher (.publish b.dispatcher.event) = some dispatcher) :
      Steps message b (.publish .dispatcher order) { b with proxyUpdatePubSub, dispatcher }
  | send {item : μ} {dispatcher : State μ} (hpc : b.processor = .send item)
      (hd : Messaging.step b.dispatcher (.receive item) = some dispatcher) :
      Steps message b (.send item) { b with dispatcher, processor := .kube item }
  | kube {order : List KubeClient} {item : μ} {kubeEventPubSub : pk.kubeEventPubSub.State}
      (hpc : b.processor = .kube item)
      (hpub : pk.kubeEventPubSub.pub b.kubeEventPubSub item (message item).kind.string order =
        some kubeEventPubSub) :
      Steps message b (.kube order) { b with kubeEventPubSub, processor := .done item }
  | done {item : μ} (hpc : b.processor = .done item) :
      Steps message b .done { b with processor := .get, queue := pk.queue.done b.queue item }
  | expire {w : Which} {dispatcher : State μ}
      (hd : Messaging.step b.dispatcher (.expire w) = some dispatcher) :
      Steps message b (.expire w) { b with dispatcher }
  | fired {w : Which} {dispatcher : State μ}
      (hd : Messaging.step b.dispatcher (.fired w) = some dispatcher) :
      Steps message b (.fired w) { b with dispatcher }
  | next {dispatcher : State μ} (hd : Messaging.step b.dispatcher .next = some dispatcher) :
      Steps message b .next { b with dispatcher }
  | counted {dispatcher : State μ} (hd : Messaging.step b.dispatcher .count = some dispatcher) :
      Steps message b .counted { b with
        dispatcher
        totalDispatchedProxyEventCount := b.totalDispatchedProxyEventCount + 1 }

variable {b b' : Broker pk}

theorem Broker.steps_of_count (h : b.count message = some b') : b.Steps message .count b' := by
  unfold Broker.count at h
  split at h
  · obtain rfl := Option.some.inj h
    exact .countEvent (by assumption)
  · obtain rfl := Option.some.inj h
    exact .countUpdate (by assumption)
  · obtain rfl := Option.some.inj h
    exact .countPublish (by assumption)
  · cases h

theorem Broker.steps_of_publish {order : List Party} {publisher : Publisher}
    (h : b.publish message order publisher = some b') :
    b.Steps message (.publish publisher order) b' := by
  cases publisher with
  | processor =>
    simp only [Broker.publish] at h
    split at h
    · obtain ⟨hub, hpub, rfl⟩ := Option.map_eq_some_iff.1 h
      exact .pubProcessor (by assumption) hpub
    · cases h
  | dispatcher =>
    obtain ⟨hub, hpub, hs⟩ := Option.bind_eq_some_iff.1 h
    obtain ⟨d, hd, rfl⟩ := Option.map_eq_some_iff.1 hs
    exact .pubDispatcher hpub hd

theorem Broker.steps_of_step {a : BrokerAction μ} (h : b.step message a = some b') :
    b.Steps message a b' := by
  cases a with
  | due item =>
    obtain ⟨queue, hdue, rfl⟩ := Option.map_eq_some_iff.1 h
    exact .due hdue
  | get item =>
    obtain ⟨hpc, hs⟩ := Option.ite_none_right_eq_some.1 h
    obtain ⟨⟨item', queue⟩, hget, hitem⟩ := Option.bind_eq_some_iff.1 hs
    obtain ⟨rfl, hs'⟩ := Option.ite_none_right_eq_some.1 hitem
    obtain rfl := Option.some.inj hs'
    exact .get hpc hget
  | count => exact steps_of_count h
  | publish publisher order => exact steps_of_publish h
  | send item =>
    obtain ⟨hpc, hs⟩ := Option.ite_none_right_eq_some.1 h
    obtain ⟨b₁, hd, rfl⟩ := Option.map_eq_some_iff.1 hs
    obtain ⟨d, hstep, rfl⟩ := Option.map_eq_some_iff.1 hd
    exact .send hpc hstep
  | kube order =>
    simp only [Broker.step] at h
    split at h
    · obtain ⟨hub, hpub, rfl⟩ := Option.map_eq_some_iff.1 h
      exact .kube (by assumption) hpub
    · cases h
  | done =>
    simp only [Broker.step] at h
    split at h
    · obtain rfl := Option.some.inj h
      exact .done (by assumption)
    · cases h
  | expire w =>
    obtain ⟨d, hd, rfl⟩ := Option.map_eq_some_iff.1 h
    exact .expire hd
  | fired w =>
    obtain ⟨d, hd, rfl⟩ := Option.map_eq_some_iff.1 h
    exact .fired hd
  | next =>
    obtain ⟨d, hd, rfl⟩ := Option.map_eq_some_iff.1 h
    exact .next hd
  | counted =>
    obtain ⟨b₁, hd, rfl⟩ := Option.map_eq_some_iff.1 h
    obtain ⟨d, hstep, rfl⟩ := Option.map_eq_some_iff.1 hd
    exact .counted hstep

end

/-! ## The system -/

section

variable {μ : Type} [DecidableEq μ] {pr : Process μ}

inductive System.Steps (s : System pr) : Label μ → System pr → Prop
  | announce {item : μ} :
      Steps s (.announce item) { s with broker := s.broker.addRateLimited item }
  | broker {a : BrokerAction μ} {broker : Broker pr.toPackages}
      (h : s.broker.Steps pr.message a broker) : Steps s (.broker a) { s with broker }
  | server {a : ServerAction} {server : Server} (h : s.server.Steps pr.plane a server) :
      Steps s (.server a) { s with server }
  | listen {proxyUpdatePubSub : pr.proxyUpdatePubSub.State}
      (hsub : pr.proxyUpdatePubSub.sub s.broker.proxyUpdatePubSub .listener
        (Party.listener.topics pr.uuid) = some proxyUpdatePubSub)
      (hpc : s.server.stage .listener = .subscribing) :
      Steps s (.subscribe .listener) { s with
        broker := { s.broker with proxyUpdatePubSub }
        server := ({ s.server with timer := .newTimer .window } : Server).move .listener .select }
  | inform {proxyUpdatePubSub : pr.proxyUpdatePubSub.State}
      (hsub : pr.proxyUpdatePubSub.sub s.broker.proxyUpdatePubSub .informer
        (Party.informer.topics pr.uuid) = some proxyUpdatePubSub)
      (hpc : s.server.stage .informer = .subscribing) :
      Steps s (.subscribe .informer) { s with
        broker := { s.broker with proxyUpdatePubSub }
        server := s.server.move .informer .select }
  | hear {m : Option μ} {proxyUpdatePubSub : pr.proxyUpdatePubSub.State}
      (hsend : pr.proxyUpdatePubSub.send s.broker.proxyUpdatePubSub .listener =
        some (m, proxyUpdatePubSub))
      (hpc : s.server.stage .listener = .select) :
      Steps s (.deliver .listener) { s with
        broker := { s.broker with proxyUpdatePubSub }
        server := { s.server with timer := s.server.timer.reset .window, reconfirm := true } }
  | update {m : Option μ} {proxyUpdatePubSub : pr.proxyUpdatePubSub.State}
      (hsend : pr.proxyUpdatePubSub.send s.broker.proxyUpdatePubSub .informer =
        some (m, proxyUpdatePubSub))
      (hpc : s.server.stage .informer = .select) :
      Steps s (.deliver .informer) { s with
        broker := { s.broker with proxyUpdatePubSub }
        server := s.server.move .informer .adding }
  | watch {client : KubeClient} {kubeEventPubSub : pr.kubeEventPubSub.State}
      (hsub : pr.kubeEventPubSub.sub s.broker.kubeEventPubSub client
        [(Kind.on .ecnetConfig .updated).string] = some kubeEventPubSub)
      (hnew : s.clients.subscribed client = false) :
      Steps s (.watch client) { s with
        broker := { s.broker with kubeEventPubSub }
        clients := { s.clients with
          subscribed := Function.update s.clients.subscribed client true } }
  | notifyLogLevel {item : μ} {kubeEventPubSub : pr.kubeEventPubSub.State}
      (hsend : pr.kubeEventPubSub.send s.broker.kubeEventPubSub .logLevel =
        some (item, kubeEventPubSub)) :
      Steps s (.notify .logLevel item) { s with broker := { s.broker with kubeEventPubSub } }
  | notifyTicker {item : μ} {kubeEventPubSub : pr.kubeEventPubSub.State}
      (hsend : pr.kubeEventPubSub.send s.broker.kubeEventPubSub .ticker =
        some (item, kubeEventPubSub))
      (hpc : s.clients.ticker.watch = .select) :
      Steps s (.notify .ticker item) { s with
        broker := { s.broker with kubeEventPubSub }
        clients := { s.clients with
          ticker := watchConfig pr.ticker s.clients.ticker (pr.message item) } }
  | ticker {l : Ticker.Label} {ticker : Ticker.State}
      (hl : l = .next ∨ l = .starts ∨ l = .receives)
      (ht : pr.ticker.step s.clients.ticker l = some ticker) :
      Steps s (.ticker l) { s with clients := { s.clients with ticker } }

theorem System.steps_of_step {s s' : System pr} {l : Label μ} (h : s.step l = some s') :
    s.Steps l s' := by
  cases l with
  | announce item =>
    obtain rfl := Option.some.inj h
    exact .announce
  | broker a =>
    obtain ⟨b, hb, rfl⟩ := Option.map_eq_some_iff.1 h
    exact .broker (Broker.steps_of_step hb)
  | server a =>
    obtain ⟨v, hv, rfl⟩ := Option.map_eq_some_iff.1 h
    exact .server (Server.steps_of_step hv)
  | subscribe p =>
    obtain ⟨hub, hsub, hs⟩ := Option.bind_eq_some_iff.1 h
    obtain ⟨v, hv, rfl⟩ := Option.map_eq_some_iff.1 hs
    obtain ⟨hpc, hv'⟩ := Option.ite_none_right_eq_some.1 hv
    cases p with
    | listener =>
      obtain rfl := Option.some.inj hv'
      exact .listen hsub hpc
    | informer =>
      obtain rfl := Option.some.inj hv'
      exact .inform hsub hpc
  | deliver p =>
    obtain ⟨⟨m, hub⟩, hsend, hs⟩ := Option.bind_eq_some_iff.1 h
    obtain ⟨v, hv, rfl⟩ := Option.map_eq_some_iff.1 hs
    obtain ⟨hpc, hv'⟩ := Option.ite_none_right_eq_some.1 hv
    cases p with
    | listener =>
      obtain rfl := Option.some.inj hv'
      exact .hear hsend hpc
    | informer =>
      obtain rfl := Option.some.inj hv'
      exact .update hsend hpc
  | watch client =>
    obtain ⟨hub, hsub, hs⟩ := Option.bind_eq_some_iff.1 h
    obtain ⟨c, hc, rfl⟩ := Option.map_eq_some_iff.1 hs
    obtain ⟨hnew, hc'⟩ := Option.ite_none_left_eq_some.1 hc
    obtain rfl := Option.some.inj hc'
    exact .watch hsub (Bool.eq_false_of_not_eq_true hnew)
  | notify client item =>
    obtain ⟨⟨item', hub⟩, hsend, hitem⟩ := Option.bind_eq_some_iff.1 h
    obtain ⟨rfl, hs⟩ := Option.ite_none_right_eq_some.1 hitem
    obtain ⟨c, hc, rfl⟩ := Option.map_eq_some_iff.1 hs
    cases client with
    | logLevel =>
      obtain rfl := Option.some.inj hc
      exact .notifyLogLevel hsend
    | ticker =>
      obtain ⟨hpc, hc'⟩ := Option.ite_none_right_eq_some.1 hc
      obtain rfl := Option.some.inj hc'
      exact .notifyTicker hsend hpc
  | ticker l =>
    obtain ⟨hl, hs⟩ := Option.ite_none_right_eq_some.1 h
    obtain ⟨t, ht, rfl⟩ := Option.map_eq_some_iff.1 hs
    exact .ticker hl ht

end

end Messaging
