import ErieCanalNet.Messaging.Proof.Steps
import ErieCanalNet.Ticker.Proof.Resync

/-!
# The invariant of the system

What holds along every run of the system (`System.inv_of_reaches`): the dispatcher inside it is a
dispatcher, and its events update all proxies; the processor has the item that is processed; the
hub's subscribers are the goroutines that have subscribed; and a goroutine waits for a job exactly
when it has one.
-/

namespace Messaging

open Lib Workerpool

/-! ## The server -/

/-- How many jobs a goroutine has in the pool, or done. -/
def Server.jobsOf (s : Server) (p : Party) : Nat :=
  s.workQueues.jobs.count p + s.workQueues.running.count p + s.done.count p

structure Server.Inv (s : Server) : Prop where
  listener : s.stage .listener ≠ .absent
  informer : s.stage .informer ≠ .registering
  registering : s.stage .listener = .registering → s.stage .informer ≠ .absent
  jobs : ∀ p, s.jobsOf p = if s.stage p = .waiting then 1 else 0
  holder : ∀ p, s.holder = some p → p ∈ s.workQueues.running
  workers : s.workQueues.idle + s.workQueues.running.length = s.workQueues.nWorkers

theorem Server.inv_start (nWorkers goMaxProcs : Nat) : (Server.start nWorkers goMaxProcs).Inv where
  listener := by simp [Server.start]
  informer := by simp [Server.start]
  registering := by simp [Server.start]
  jobs := fun p => by cases p <;> simp [Server.jobsOf, Server.start, WorkerPool.new]
  holder := by simp [Server.start]
  workers := by simp [Server.start, WorkerPool.new]

section

variable {s s' : Server} {p : Party}

@[simp] theorem Server.stage_move (s : Server) (p q : Party) (stage : Stage) :
    (s.move p stage).stage q = if q = p then stage else s.stage q :=
  Function.update_apply ..

@[simp] theorem Server.stage_resume (s : Server) (p q : Party) :
    (s.resume p).stage q = if q = p then .select else s.stage q :=
  Server.stage_move ..

/-- Who does not wait for a job has none. -/
theorem Server.Inv.no_job (hi : s.Inv) (h : s.stage p ≠ .waiting) :
    p ∉ s.workQueues.jobs ∧ p ∉ s.workQueues.running := by
  have hnone := hi.jobs p
  rw [if_neg h] at hnone
  unfold Server.jobsOf at hnone
  exact ⟨List.count_eq_zero.1 (by omega), List.count_eq_zero.1 (by omega)⟩

/-- What a change of the stages keeps, when the pool is left alone and nobody begins or ends to
wait. -/
theorem Server.Inv.stage (hi : s.Inv) (hpool : s'.workQueues = s.workQueues)
    (hdone : s'.done = s.done) (hholder : s'.holder = s.holder)
    (hlistener : s'.stage .listener ≠ .absent) (hinformer : s'.stage .informer ≠ .registering)
    (hregistering : s'.stage .listener = .registering → s'.stage .informer ≠ .absent)
    (hwaiting : ∀ p, s'.stage p = .waiting ↔ s.stage p = .waiting) : s'.Inv where
  listener := hlistener
  informer := hinformer
  registering := hregistering
  jobs := fun p => by
    simp only [Server.jobsOf, hpool, hdone, hwaiting]
    exact hi.jobs p
  holder := by
    rw [hpool, hholder]
    exact hi.holder
  workers := by
    rw [hpool]
    exact hi.workers

/-- The timer is not seen by the rest. -/
theorem Server.Inv.timer (hi : s.Inv) {timer : Timer} {reconfirm : Bool} :
    ({ s with timer, reconfirm } : Server).Inv :=
  hi.stage rfl rfl rfl hi.listener hi.informer hi.registering fun _ => Iff.rfl

/-- The listener goes on to where it does not wait for a job. -/
theorem Server.Inv.move_listener (hi : s.Inv) {stage : Stage} {timer : Timer}
    (hpc : s.stage .listener ≠ .waiting) (hstage : stage = .select ∨ stage = .adding) :
    (({ s with timer } : Server).move .listener stage).Inv := by
  refine hi.stage rfl rfl rfl ?_ ?_ ?_ fun p => ?_
  · rcases hstage with rfl | rfl <;> simp
  · simpa using hi.informer
  · rcases hstage with rfl | rfl <;> simp
  · rcases hstage with rfl | rfl <;> cases p <;> simp [hpc]

/-- The informer goes on to where it does not wait for a job. -/
theorem Server.Inv.move_informer (hi : s.Inv) {stage : Stage}
    (hpc : s.stage .informer ≠ .waiting) (hstage : stage = .select ∨ stage = .adding) :
    (s.move .informer stage).Inv := by
  refine hi.stage rfl rfl rfl ?_ ?_ ?_ fun p => ?_
  · simpa using hi.listener
  · rcases hstage with rfl | rfl <;> simp
  · rcases hstage with rfl | rfl <;> simp
  · rcases hstage with rfl | rfl <;> cases p <;> simp [hpc]

/-- A goroutine begins or ends to wait, with its job. -/
theorem Server.Inv.pool (hi : s.Inv) (hstage : ∀ q, q ≠ p → s'.stage q = s.stage q)
    (howner : s'.stage p = .waiting ∨ s'.stage p = .select)
    (hjobs : ∀ q, s'.jobsOf q = if q = p then (if s'.stage p = .waiting then 1 else 0)
      else s.jobsOf q)
    (hholder : ∀ q, s'.holder = some q → q ∈ s'.workQueues.running)
    (hworkers : s'.workQueues.idle + s'.workQueues.running.length = s'.workQueues.nWorkers) :
    s'.Inv where
  listener := by
    cases p with
    | listener => rcases howner with h | h <;> simp [h]
    | informer =>
      rw [hstage .listener (by decide)]
      exact hi.listener
  informer := by
    cases p with
    | listener =>
      rw [hstage .informer (by decide)]
      exact hi.informer
    | informer => rcases howner with h | h <;> simp [h]
  registering := by cases p <;> rcases howner with h | h <;> simp [h]
  jobs := fun q => by
    rw [hjobs]
    by_cases hq : q = p
    · simp [hq]
    · rw [if_neg hq, hstage q hq]
      exact hi.jobs q
  holder := hholder
  workers := hworkers

theorem Server.Inv.addJob {wp : WorkerPool Party} (hi : s.Inv) (hpc : s.stage p = .adding)
    (h : s.workQueues.addJob p = some wp) :
    (({ s with workQueues := wp } : Server).move p .waiting).Inv := by
  obtain ⟨hjobs, hrunning, hidle, hn⟩ := addJob_eq_some h
  have hnone : s.jobsOf p = 0 := by rw [hi.jobs, hpc]; rfl
  refine hi.pool (p := p) (fun q hq => ?_) (.inl ?_) (fun q => ?_) ?_ ?_
  · simp [hq]
  · simp
  · by_cases hq : q = p
    · subst hq
      unfold Server.jobsOf at hnone ⊢
      simp only [Server.move, hjobs, hrunning, List.count_append, List.count_singleton_self,
        Function.update_self, if_true]
      omega
    · simp [Server.jobsOf, Server.move, hjobs, hrunning, hq, Ne.symm hq]
  · show ∀ q, s.holder = some q → q ∈ wp.running
    rw [hrunning]
    exact hi.holder
  · show wp.idle + wp.running.length = wp.nWorkers
    rw [hrunning, hidle, hn]
    exact hi.workers

theorem Server.Inv.take {wp : WorkerPool Party} (hi : s.Inv)
    (h : s.workQueues.take = some (p, wp)) : ({ s with workQueues := wp } : Server).Inv := by
  obtain ⟨hjobs, hrunning, hidle, hn⟩ := take_eq_some h
  refine ⟨hi.listener, hi.informer, hi.registering, fun q => ?_, fun q hq => ?_, ?_⟩
  · have hq := hi.jobs q
    simp only [Server.jobsOf, hjobs, List.count_cons] at hq
    simp only [Server.jobsOf, hrunning, List.count_cons, ← hq]
    omega
  · rw [hrunning]
    exact List.mem_cons_of_mem _ (hi.holder q hq)
  · have hw := hi.workers
    simp only [hrunning, hn, List.length_cons, ← hw]
    omega

theorem Server.Inv.finish {wp : WorkerPool Party} (hi : s.Inv)
    (h : s.workQueues.finish p = some wp) :
    ({ s with workQueues := wp, holder := none, done := p :: s.done } : Server).Inv := by
  obtain ⟨hmem, hjobs, hrunning, hidle, hn⟩ := finish_eq_some h
  refine ⟨hi.listener, hi.informer, hi.registering, fun q => ?_, fun q hq => ?_, ?_⟩
  · have hpos := List.count_pos_iff.2 hmem
    rw [← hi.jobs q]
    by_cases hq : q = p
    · subst hq
      simp only [Server.jobsOf, hjobs, hrunning, List.count_erase_self, List.count_cons_self]
      omega
    · simp only [Server.jobsOf, hjobs, hrunning, List.count_erase_of_ne hq,
        List.count_cons_of_ne (Ne.symm hq)]
  · cases hq
  · have hw := hi.workers
    have hpos := List.length_pos_of_mem hmem
    simp only [hrunning, hidle, hn, ← hw, List.length_erase_of_mem hmem]
    omega

theorem Server.Inv.resume (hi : s.Inv) (hpc : s.stage p = .waiting) (hdone : p ∈ s.done) :
    (({ s with done := s.done.erase p } : Server).resume p).Inv := by
  have hone : s.jobsOf p = 1 := by rw [hi.jobs, hpc]; rfl
  have hpos := List.count_pos_iff.2 hdone
  refine hi.pool (p := p) (fun q hq => ?_) (.inr ?_) (fun q => ?_) hi.holder hi.workers
  · simp [hq]
  · simp
  · unfold Server.jobsOf at hone ⊢
    by_cases hq : q = p
    · subst hq
      simp [Server.resume, Server.move]
      omega
    · simp [Server.resume, Server.move, hq, List.count_erase_of_ne hq]

theorem Server.Inv.step {plane : Plane} {a : ServerAction} (hi : s.Inv)
    (h : s.Steps plane a s') : s'.Inv := by
  cases h with
  | expire => exact hi.timer
  | register hpc hvalue hplane habsent =>
    refine hi.stage rfl rfl rfl ?_ ?_ ?_ fun p => ?_
    · simp
    · simp
    · simp
    · cases p <;> simp [hpc, habsent]
  | fire hpc => exact hi.move_listener (by simp [hpc]) (.inr rfl)
  | registered hpc => exact hi.move_listener (by simp [hpc]) (.inr rfl)
  | addJob hpc hadd => exact hi.addJob hpc hadd
  | take htake => exact hi.take htake
  | begin hrunning =>
    refine ⟨hi.listener, hi.informer, hi.registering, hi.jobs, fun q hq => ?_, hi.workers⟩
    exact Option.some.inj hq ▸ hrunning
  | retry => exact hi.timer
  | finish _ hfinish => exact hi.finish hfinish
  | resume hpc hdone => exact hi.resume hpc hdone

/-! ## Subscriptions last -/

theorem subscribed_move {stage : Stage} (h : stage.subscribed = (s.stage p).subscribed)
    (q : Party) : ((s.move p stage).stage q).subscribed = (s.stage q).subscribed := by
  rw [Server.stage_move]
  split
  · rename_i hq
    rw [hq, h]
  · rfl

theorem Server.Steps.subscribed {plane : Plane} {a : ServerAction} (h : s.Steps plane a s')
    (q : Party) : (s'.stage q).subscribed = (s.stage q).subscribed := by
  cases h with
  | expire => rfl
  | register hpc hvalue hplane habsent =>
    cases q with
    | listener => simp [hpc, Stage.subscribed]
    | informer => simp [habsent, Stage.subscribed]
  | fire hpc => exact subscribed_move (s := { s with timer := _ }) (by rw [hpc]; rfl) q
  | registered hpc => exact subscribed_move (by rw [hpc]; rfl) q
  | addJob hpc => exact subscribed_move (s := { s with workQueues := _ }) (by rw [hpc]; rfl) q
  | take => rfl
  | begin => rfl
  | retry => rfl
  | finish => rfl
  | resume hpc => exact subscribed_move (s := { s with done := _ }) (by rw [hpc]; rfl) q

end

/-! ## The dispatcher -/

section

variable {μ : Type} [DecidableEq μ] {message : μ → PubSubMessage}

/-- An item that updates all proxies. -/
def Updates {μ : Type} (message : μ → PubSubMessage) (item : μ) : Prop :=
  topicOf message item = some Kind.proxyUpdate.string

/-- A dispatcher that runs, and has received nothing but updates of all proxies. -/
structure State.Fed (message : μ → PubSubMessage) (d : State μ) : Prop where
  run : ∃ actions, Messaging.Reaches actions d
  running : d.pc ≠ .exited
  event : ∀ item, d.event = some item → Updates message item

/-- The dispatcher exits at a stop signal only. -/
theorem running_of_step {d d' : State μ} {a : Action μ} (hd : d.pc ≠ .exited) (ha : a ≠ .exit)
    (h : Messaging.step d a = some d') : d'.pc ≠ .exited := by
  cases State.steps_of_step h with
  | exit => exact absurd rfl ha
  | expire => exact hd
  | _ => simp

theorem State.Fed.step {d d' : State μ} {a : Action μ} (hf : d.Fed message) (ha : a ≠ .exit)
    (hreceive : ∀ item, a = .receive item → Updates message item)
    (h : Messaging.step d a = some d') : d'.Fed message := by
  obtain ⟨actions, hrun⟩ := hf.run
  refine ⟨⟨_, hrun.snoc h⟩, running_of_step hf.running ha h, fun item hitem => ?_⟩
  have ht := traced_of_reaches hrun
  rw [(ht.step h).event, lastReceived_concat] at hitem
  cases a with
  | receive e =>
    obtain rfl := Option.some.inj hitem
    exact hreceive _ rfl
  | _ => exact hf.event item (ht.event.trans hitem)

/-- What the dispatcher publishes is for all proxies. -/
theorem State.Fed.topic_eq {d d' : State μ} {e : Option μ} (hf : d.Fed message)
    (h : Messaging.step d (.publish e) = some d') :
    d.topic message = Kind.proxyUpdate.string := by
  obtain ⟨actions, hrun⟩ := hf.run
  obtain ⟨-, hsince⟩ := publish_of_reaches (hrun.snoc h)
  obtain ⟨item, hitem⟩ := lastReceived_isSome hsince
  have hevent := (traced_of_reaches hrun).event.trans hitem
  rw [State.topic, hevent, Option.bind_some, hf.event item hevent, Option.getD_some]

end

/-! ## The broker -/

section

variable {μ : Type}

/-- The item that the processor has not finished. -/
def Processor.items : Processor μ → Finset μ
  | .get => ∅
  | .got item | .update item _ | .pub item _ | .published item | .send item | .kube item
  | .done item => {item}

/-- What the processor has found out about its item. -/
def Processor.Knows (message : μ → PubSubMessage) : Processor μ → Prop
  | .update item topic => topicOf message item = some topic
  | .send item => Updates message item
  | _ => True

variable {message : μ → PubSubMessage}

theorem items_processEvent (item : μ) : (processEvent message item).items = {item} := by
  unfold processEvent
  split <;> rfl

theorem knows_processEvent (item : μ) : (processEvent message item).Knows message := by
  unfold processEvent
  split
  · exact trivial
  · assumption

end

section

variable {μ : Type} [DecidableEq μ] {pk : Packages μ} {message : μ → PubSubMessage}
  {b b' : Broker pk}

structure Broker.Inv (message : μ → PubSubMessage) (b : Broker pk) : Prop where
  dispatcher : b.dispatcher.Fed message
  processing : pk.queue.processing b.queue = b.processor.items
  knows : b.processor.Knows message

theorem Broker.inv_new : (Broker.new pk).Inv message where
  dispatcher := ⟨⟨[], .nil⟩, by simp [Broker.new, State.init], nofun⟩
  processing := pk.queue.processing_new
  knows := trivial

theorem Broker.Inv.step {a : BrokerAction μ} (hi : b.Inv message) (h : b.Steps message a b') :
    b'.Inv message := by
  have hitem := hi.processing
  have hknows := hi.knows
  cases h with
  | due hdue => exact ⟨hi.dispatcher, (pk.queue.due_eq_some hdue).2.2.2.trans hitem, hknows⟩
  | get hpc hget =>
    rw [hpc] at hitem
    refine ⟨hi.dispatcher, ?_, trivial⟩
    simp only [(pk.queue.get_eq_some hget).2.2.2, hitem]
    rfl
  | @countEvent item hpc =>
    rw [hpc] at hitem
    exact ⟨hi.dispatcher, hitem.trans (items_processEvent item).symm, knows_processEvent item⟩
  | @countUpdate item topic hpc =>
    rw [hpc] at hitem hknows
    by_cases htopic : topic = Kind.proxyUpdate.string
    · subst htopic
      simp only [ne_eq, not_true_eq_false, if_false]
      exact ⟨hi.dispatcher, hitem, hknows⟩
    · simp only [ne_eq, htopic, not_false_eq_true, if_true]
      exact ⟨hi.dispatcher, hitem, trivial⟩
  | countPublish hpc | pubProcessor hpc | kube hpc =>
    rw [hpc] at hitem
    exact ⟨hi.dispatcher, hitem, trivial⟩
  | pubDispatcher hpub hd => exact ⟨hi.dispatcher.step (by simp) (by simp) hd, hitem, hknows⟩
  | send hpc hd =>
    rw [hpc] at hitem hknows
    refine ⟨hi.dispatcher.step (by simp) (fun item he => ?_) hd, hitem, trivial⟩
    cases he
    exact hknows
  | done hpc =>
    rw [hpc] at hitem
    exact ⟨hi.dispatcher, by simp [hitem, Processor.items], trivial⟩
  | expire hd | fired hd | next hd | counted hd =>
    exact ⟨hi.dispatcher.step (by simp) (by simp) hd, hitem, hknows⟩

/-- The broker by itself does nothing with `proxyUpdatePubSub` but publish. -/
theorem Broker.Steps.hub_cases {a : BrokerAction μ} (h : b.Steps message a b') :
    b'.proxyUpdatePubSub = b.proxyUpdatePubSub ∨ ∃ m topic order,
      pk.proxyUpdatePubSub.pub b.proxyUpdatePubSub m topic order = some b'.proxyUpdatePubSub := by
  cases h with
  | pubProcessor _ hpub => exact .inr ⟨_, _, _, hpub⟩
  | pubDispatcher hpub => exact .inr ⟨_, _, _, hpub⟩
  | _ => exact .inl rfl

end

/-! ## The hub and its subscribers -/

section

variable {μ : Type} [DecidableEq μ] {pr : Process μ} {hub hub' : pr.proxyUpdatePubSub.State}
  {v v' : Server}

/-- The hub knows who has subscribed, and sends to no one else. -/
structure Registered (pr : Process μ) (hub : pr.proxyUpdatePubSub.State) (v : Server) : Prop where
  subscribed : ∀ p topic, pr.proxyUpdatePubSub.subscribed hub p topic ↔
    (v.stage p).subscribed = true ∧ topic ∈ p.topics pr.uuid
  sending : ∀ e ∈ pr.proxyUpdatePubSub.sending hub, (v.stage e.1).subscribed = true

theorem registered_new (nWorkers goMaxProcs : Nat) :
    Registered pr pr.proxyUpdatePubSub.new (.start nWorkers goMaxProcs) where
  subscribed := fun p topic => by
    refine iff_of_false (pr.proxyUpdatePubSub.not_subscribed_new p topic) fun h => ?_
    cases p <;> exact absurd h.1 (by simp [Server.start, Stage.subscribed])
  sending := by simp [pr.proxyUpdatePubSub.sending_new]

theorem Registered.congr (hr : Registered pr hub v)
    (h : ∀ p, (v'.stage p).subscribed = (v.stage p).subscribed) : Registered pr hub v' where
  subscribed := fun p topic => by rw [hr.subscribed, h]
  sending := fun e he => (h e.1).trans (hr.sending e he)

theorem Registered.pub {m : Option μ} {topic : String} {order : List Party}
    (hr : Registered pr hub v)
    (h : pr.proxyUpdatePubSub.pub hub m topic order = some hub') : Registered pr hub' v where
  subscribed := fun p t => by rw [(pr.proxyUpdatePubSub.pub_eq_some h).2, hr.subscribed]
  sending := fun e he =>
    ((hr.subscribed e.1 topic).1 ((PubSub.mem_sending_of_pub h).1 he).1).1

theorem Registered.send {p : Party} {m : Option μ} (hr : Registered pr hub v)
    (h : pr.proxyUpdatePubSub.send hub p = some (m, hub')) : Registered pr hub' v where
  subscribed := fun q t => by rw [(pr.proxyUpdatePubSub.send_eq_some h).2, hr.subscribed]
  sending := fun e he => by
    apply hr.sending e
    rw [(pr.proxyUpdatePubSub.send_eq_some h).1]
    exact List.mem_cons_of_mem _ he

/-- A goroutine subscribes, to its own topics. -/
theorem Registered.sub {p : Party} (hr : Registered pr hub v)
    (h : pr.proxyUpdatePubSub.sub hub p (p.topics pr.uuid) = some hub')
    (hp : (v'.stage p).subscribed = true)
    (hq : ∀ q, q ≠ p → (v'.stage q).subscribed = (v.stage q).subscribed) :
    Registered pr hub' v' where
  subscribed := fun q topic => by
    rw [(pr.proxyUpdatePubSub.sub_eq_some h).2, hr.subscribed]
    by_cases hne : q = p
    · subst hne
      simp only [hp, true_and]
      tauto
    · simp only [hne, false_and, or_false, hq q hne]
  sending := by simp [(pr.proxyUpdatePubSub.sub_eq_some h).1]

end

/-! ## The ticker -/

section

open Ticker ResyncTicker

variable {t : ResyncTicker} {s s' : Ticker.State}

/-- A message does not end `watchConfig`. -/
theorem exiting_watchConfig (msg : PubSubMessage) (h : s.watch.exiting = false) :
    (watchConfig t s msg).watch.exiting = false := by
  unfold watchConfig
  split
  · unfold onEvent
    dsimp only
    split
    · exact h
    · rfl
    · rfl
    · exact h
  · exact h

theorem exiting_of_step {l : Ticker.Label} (hl : l = .next ∨ l = .starts ∨ l = .receives)
    (h : t.step s l = some s') : s'.watch.exiting = s.watch.exiting := by
  rcases hl with rfl | rfl | rfl
  · rcases step_next_cases h with ⟨interval, hw, rfl⟩ | ⟨after, hw, rfl⟩ | ⟨interval, hw, rfl⟩
    · rw [hw]
      dsimp only
      split <;> rfl
    · rw [hw]
      cases after <;> rfl
    · rw [hw]
      rfl
  · obtain ⟨-, hs⟩ := Option.ite_none_right_eq_some.1 h
    obtain rfl := Option.some.inj hs
    rfl
  · obtain ⟨after, hw, -, rfl⟩ := step_receives_cases h
    rw [hw]
    cases after <;> rfl

end

/-! ## The system -/

section

variable {μ : Type} [DecidableEq μ] {pr : Process μ} {s s' : System pr}

structure System.Inv (s : System pr) : Prop where
  broker : s.broker.Inv pr.message
  server : s.server.Inv
  hub : Registered pr s.broker.proxyUpdatePubSub s.server
  watch : s.clients.ticker.watch.exiting = false

theorem System.inv_start : (System.start pr).Inv where
  broker := Broker.inv_new
  server := Server.inv_start ..
  hub := registered_new ..
  watch := rfl

/-- What is done with the hubs is not seen by the rest of the broker. -/
theorem Broker.Inv.hubs {pk : Packages μ} {message : μ → PubSubMessage} {b : Broker pk}
    (hi : b.Inv message) {proxyUpdatePubSub : pk.proxyUpdatePubSub.State}
    {kubeEventPubSub : pk.kubeEventPubSub.State} :
    ({ b with proxyUpdatePubSub, kubeEventPubSub } : Broker pk).Inv message :=
  ⟨hi.dispatcher, hi.processing, hi.knows⟩

theorem System.Inv.step {l : Label μ} (hi : s.Inv) (h : s.step l = some s') : s'.Inv := by
  cases System.steps_of_step h with
  | announce =>
    refine ⟨⟨hi.broker.dispatcher, ?_, hi.broker.knows⟩, hi.server, hi.hub, hi.watch⟩
    simpa [Broker.addRateLimited] using hi.broker.processing
  | broker hb =>
    refine ⟨hi.broker.step hb, hi.server, ?_, hi.watch⟩
    rcases hb.hub_cases with heq | ⟨m, topic, order, hpub⟩
    · exact heq ▸ hi.hub
    · exact hi.hub.pub hpub
  | server hv => exact ⟨hi.broker, hi.server.step hv, hi.hub.congr hv.subscribed, hi.watch⟩
  | listen hsub hpc =>
    refine ⟨hi.broker.hubs, hi.server.move_listener (by simp [hpc]) (.inl rfl), ?_, hi.watch⟩
    exact hi.hub.sub hsub (by simp [Stage.subscribed]) fun q hq => by simp [hq]
  | inform hsub hpc =>
    refine ⟨hi.broker.hubs, hi.server.move_informer (by simp [hpc]) (.inl rfl), ?_, hi.watch⟩
    exact hi.hub.sub hsub (by simp [Stage.subscribed]) fun q hq => by simp [hq]
  | hear hsend hpc =>
    exact ⟨hi.broker.hubs, hi.server.timer, (hi.hub.send hsend).congr fun _ => rfl, hi.watch⟩
  | update hsend hpc =>
    refine ⟨hi.broker.hubs, hi.server.move_informer (by simp [hpc]) (.inr rfl), ?_, hi.watch⟩
    exact (hi.hub.send hsend).congr (subscribed_move (by rw [hpc]; rfl))
  | watch => exact ⟨hi.broker.hubs, hi.server, hi.hub, hi.watch⟩
  | notifyLogLevel => exact ⟨hi.broker.hubs, hi.server, hi.hub, hi.watch⟩
  | notifyTicker => exact ⟨hi.broker.hubs, hi.server, hi.hub, exiting_watchConfig _ hi.watch⟩
  | ticker hl ht =>
    exact ⟨hi.broker, hi.server, hi.hub, (exiting_of_step hl ht).trans hi.watch⟩

theorem System.inv_of_reaches {labels : List (Label μ)} (h : pr.Reaches labels s) : s.Inv :=
  Run.invariant System.inv_start System.Inv.step h

end

end Messaging
