import ErieCanalNet.Messaging.Proof.Updates

/-!
# The system goes on

Every goroutine of the system waits for another one, and the lemmas follow who waits for whom. There
is one circle. The listener registers the proxy and waits for the informer to subscribe; `Sub` waits
for `proxyUpdatePubSub`; and that hub may be sending to the listener, which does not receive. And
there is one dead end. The processor waits for `kubeEventPubSub`, which sends to `watchConfig`, which
may wait for a ticker that is not there. `canStep_of_not_resting`: in every other state the system can
do something, or is at rest.
-/

namespace Messaging

open Lib Workerpool

/-- What the system does when nothing happens around it: no item is added, and no job asks for
another one. -/
def Label.own {μ : Type} : Label μ → Bool
  | .announce _ | .server .retry => false
  | _ => true

/-! ## Jobs -/

section

variable {s : Server} {p : Party} (plane : Plane)

/-- One of the jobs that are run goes on: the one that holds the lock, or any one if none does. -/
theorem exists_step_of_running (hi : s.Inv) (h : p ∈ s.workQueues.running) :
    ∃ a s', a ≠ .retry ∧ s.step plane a = some s' := by
  cases hholder : s.holder with
  | none => exact ⟨.begin p, _, by simp, if_pos ⟨h, hholder⟩⟩
  | some q =>
    obtain ⟨wp, hwp⟩ := exists_finish (hi.holder q hholder)
    exact ⟨.finish q, _, by simp, by rw [Server.step, if_pos hholder, hwp]; rfl⟩

/-- Who waits for a job does not wait in vain. -/
theorem exists_step_of_waiting (hi : s.Inv) (hsize : 0 < s.workQueues.nWorkers)
    (h : s.stage p = .waiting) : ∃ a s', a ≠ .retry ∧ s.step plane a = some s' := by
  have hone := hi.jobs p
  rw [if_pos h] at hone
  by_cases hdone : p ∈ s.done
  · exact ⟨.resume p, _, by simp, if_pos ⟨h, hdone⟩⟩
  by_cases hrunning : p ∈ s.workQueues.running
  · exact exists_step_of_running plane hi hrunning
  have hjobs : p ∈ s.workQueues.jobs := by
    unfold Server.jobsOf at hone
    rw [List.count_eq_zero.2 hdone, List.count_eq_zero.2 hrunning] at hone
    exact List.count_pos_iff.1 (by omega)
  by_cases hidle : 0 < s.workQueues.idle
  · obtain ⟨q, wp, hwp⟩ := exists_take (List.ne_nil_of_mem hjobs) hidle
    refine ⟨.take q, { s with workQueues := wp }, by simp, ?_⟩
    rw [Server.step, hwp, Option.bind_some]
    exact if_pos rfl
  · -- all workers have a job
    have hworkers := hi.workers
    obtain ⟨q, hq⟩ := List.exists_mem_of_length_pos (by omega : 0 < s.workQueues.running.length)
    exact exists_step_of_running plane hi hq

/-- With no other job in the pool a job can be added. -/
theorem exists_step_of_adding (hi : s.Inv) (hsize : 0 < s.workQueues.nWorkers)
    (h : s.stage p = .adding) : ∃ a s', a ≠ .retry ∧ s.step plane a = some s' := by
  by_cases hwaiting : ∃ q, s.stage q = .waiting
  · obtain ⟨q, hq⟩ := hwaiting
    exact exists_step_of_waiting plane hi hsize hq
  · have hnil : s.workQueues.jobs = [] :=
      List.eq_nil_iff_forall_not_mem.2 fun q => (hi.no_job fun hw => hwaiting ⟨q, hw⟩).1
    have hlen : s.workQueues.jobs.length < s.workQueues.nWorkers := by rw [hnil]; exact hsize
    obtain ⟨wp, hwp⟩ := exists_addJob p hlen
    exact ⟨.addJob p, _, by simp, by rw [Server.step, if_pos h, hwp]; rfl⟩

end

/-! ## The dispatcher -/

section

variable {μ : Type} [DecidableEq μ] {d : State μ}

/-- Between the `select` and the `Pub` the dispatcher goes on by itself. -/
theorem exists_next (hi : Messaging.Inv d) (hhead : d.pc ≠ .head) (hpublish : d.pc ≠ .publish)
    (hcount : d.pc ≠ .count) (hexited : d.pc ≠ .exited) :
    ∃ d', Messaging.step d .next = some d' := by
  show ∃ d', stepNext d = some d'
  unfold stepNext
  cases hpc : d.pc with
  | head => exact absurd hpc hhead
  | publish => exact absurd hpc hpublish
  | count => exact absurd hpc hcount
  | exited => exact absurd hpc hexited
  | clear w => exact ⟨_, rfl⟩
  | stop w b => exact ⟨_, rfl⟩
  | drain w b =>
    have hvalue := hi.value_of_drain hpc
    exact Option.isSome_iff_exists.1 (by simp [Timer.receive, hvalue])
  | reset w b => cases b <;> cases w <;> exact ⟨_, rfl⟩

/-- A batch is waited for by a timer that runs or has fired. -/
theorem exists_expire_or_fired (hi : Messaging.Inv d) (hhead : d.pc = .head)
    (hpending : d.dispatchPending = true) :
    (∃ d', Messaging.step d (.expire .sliding) = some d') ∨
      ∃ d', Messaging.step d (.fired .sliding) = some d' := by
  rcases (hi.armed_iff hhead .sliding).1 hpending with ht | ht
  · exact .inl (Option.isSome_iff_exists.1 (by simp [Messaging.step, ht, Timer.expire]))
  · exact .inr (Option.isSome_iff_exists.1 (by simp [Messaging.step, hhead, ht, Timer.receive]))

end

/-! ## The system -/

section

variable {μ : Type} [DecidableEq μ] {pr : Process μ} {s : System pr}

/-- The listener waits for the informer, the informer for `proxyUpdatePubSub`, and that for the
listener. -/
structure System.Clash (s : System pr) : Prop where
  listener : s.server.stage .listener = .registering
  informer : s.server.stage .informer = .subscribing
  sending : ∃ m rest,
    pr.proxyUpdatePubSub.sending s.broker.proxyUpdatePubSub = (.listener, m) :: rest

/-- The processor waits for `kubeEventPubSub`, that for `watchConfig`, and that for a ticker that is
not there. -/
structure System.Hung (s : System pr) : Prop where
  processor : ∃ item, s.broker.processor = .kube item
  sending : ∃ item rest,
    pr.kubeEventPubSub.sending s.broker.kubeEventPubSub = (.ticker, item) :: rest
  ticker : s.clients.ticker.Blocked

/-- The system can do something by itself. -/
def System.CanStep (s : System pr) : Prop := ∃ l s', l.own = true ∧ s.step l = some s'

theorem canStep_of_isSome {l : Label μ} (hl : l.own = true) (h : (s.step l).isSome = true) :
    s.CanStep := by
  obtain ⟨s', hs'⟩ := Option.isSome_iff_exists.1 h
  exact ⟨l, s', hl, hs'⟩

theorem canStep_server (a : ServerAction) (ha : a ≠ .retry)
    (h : (s.server.step pr.plane a).isSome = true) : s.CanStep := by
  refine canStep_of_isSome (l := .server a) ?_ (by rwa [System.step, Option.isSome_map])
  cases a <;> first | rfl | exact absurd rfl ha

theorem canStep_broker (a : BrokerAction μ) (h : (s.broker.step pr.message a).isSome = true) :
    s.CanStep :=
  canStep_of_isSome (l := .broker a) rfl (by rwa [System.step, Option.isSome_map])

theorem canStep_ticker (l : Ticker.Label) (hl : l = .next ∨ l = .starts ∨ l = .receives)
    (h : (pr.ticker.step s.clients.ticker l).isSome = true) : s.CanStep :=
  canStep_of_isSome (l := .ticker l) rfl (by rwa [System.step, if_pos hl, Option.isSome_map])

theorem canStep_dispatch (act : BrokerAction μ) {a : Action μ} {d : State μ}
    (hact : s.broker.step pr.message act = s.broker.dispatch a)
    (h : Messaging.step s.broker.dispatcher a = some d) : s.CanStep :=
  canStep_broker act (by rw [hact, Broker.dispatch, h]; rfl)

/-- A stage at which a goroutine goes on by itself. -/
theorem canStep_of_stage (hi : s.Inv) (hsize : 0 < s.server.workQueues.nWorkers) {p : Party}
    (h : s.server.stage p = .waiting ∨ s.server.stage p = .adding) : s.CanStep := by
  rcases h with h | h
  · obtain ⟨a, v, ha, hv⟩ := exists_step_of_waiting pr.plane hi.server hsize h
    exact canStep_server a ha (by rw [hv]; rfl)
  · obtain ⟨a, v, ha, hv⟩ := exists_step_of_adding pr.plane hi.server hsize h
    exact canStep_server a ha (by rw [hv]; rfl)

theorem canStep_of_registering (h : s.server.stage .listener = .registering)
    (hinformer : (s.server.stage .informer).subscribed = true) : s.CanStep :=
  canStep_server .registered (by simp) (by rw [Server.step, if_pos ⟨h, hinformer⟩]; rfl)

/-- An event that is being sent is received, or its receiver goes on. -/
theorem canStep_of_sending (hi : s.Inv) (hsize : 0 < s.server.workQueues.nWorkers)
    (hclash : ¬ s.Clash) {p : Party} {m : Option μ} {rest : List (Party × Option μ)}
    (h : pr.proxyUpdatePubSub.sending s.broker.proxyUpdatePubSub = (p, m) :: rest) :
    s.CanStep := by
  have hsub := hi.hub.sending (p, m) (h ▸ List.mem_cons_self)
  cases hstage : s.server.stage p with
  | absent => rw [hstage] at hsub; cases hsub
  | subscribing => rw [hstage] at hsub; cases hsub
  | waiting => exact canStep_of_stage hi hsize (.inl hstage)
  | adding => exact canStep_of_stage hi hsize (.inr hstage)
  | select =>
    have hrecv : ∃ v, s.server.receive p = some v := by
      cases p with
      | listener => exact ⟨_, if_pos hstage⟩
      | informer => exact ⟨_, if_pos hstage⟩
    obtain ⟨v, hv⟩ := hrecv
    obtain ⟨hub, hhub⟩ := pr.proxyUpdatePubSub.exists_send h
    refine canStep_of_isSome (l := .deliver p) rfl ?_
    rw [System.step, hhub, Option.bind_some, hv]
    rfl
  | registering =>
    cases p with
    | informer => exact absurd hstage hi.server.informer
    | listener =>
      refine canStep_of_registering hstage ?_
      have habsent := hi.server.registering hstage
      have hne : s.server.stage .informer ≠ .subscribing := fun he => hclash ⟨hstage, he, m, rest, h⟩
      generalize s.server.stage .informer = stage at habsent hne
      cases stage <;> simp_all [Stage.subscribed]

/-- With nobody to send to, who subscribes goes on. -/
theorem canStep_of_subscribing {p : Party}
    (hidle : pr.proxyUpdatePubSub.sending s.broker.proxyUpdatePubSub = [])
    (h : s.server.stage p = .subscribing) : s.CanStep := by
  have hsub : ∃ v, s.server.subscribe p = some v := by
    cases p with
    | listener => exact ⟨_, if_pos h⟩
    | informer => exact ⟨_, if_pos h⟩
  obtain ⟨v, hv⟩ := hsub
  obtain ⟨hub, hhub⟩ := pr.proxyUpdatePubSub.exists_sub hidle p (p.topics pr.uuid)
  refine canStep_of_isSome (l := .subscribe p) rfl ?_
  rw [System.step, hhub, Option.bind_some, hv]
  rfl

/-- The dispatcher goes on, or it is at its `select` without a batch. -/
theorem canStep_of_dispatcher (hi : s.Inv)
    (hidle : pr.proxyUpdatePubSub.sending s.broker.proxyUpdatePubSub = [])
    (h : s.broker.dispatcher.pc ≠ .head ∨ s.broker.dispatcher.dispatchPending = true) :
    s.CanStep := by
  obtain ⟨actions, hrun⟩ := hi.broker.dispatcher.run
  have hd := inv_of_reaches hrun
  by_cases hpublish : s.broker.dispatcher.pc = .publish
  · obtain ⟨order, hub, hpub⟩ := pr.proxyUpdatePubSub.exists_pub hidle s.broker.dispatcher.event
      (s.broker.dispatcher.topic pr.message)
    refine canStep_broker (.publish .dispatcher order) ?_
    rw [Broker.step, Broker.publish, hpub, Option.bind_some, Broker.dispatch, Messaging.step,
      if_pos ⟨hpublish, rfl⟩]
    rfl
  by_cases hcount : s.broker.dispatcher.pc = .count
  · refine canStep_broker .counted ?_
    rw [Broker.step, Broker.dispatch, Messaging.step, if_pos hcount]
    rfl
  by_cases hhead : s.broker.dispatcher.pc = .head
  · rcases exists_expire_or_fired hd hhead (h.resolve_left (not_not.2 hhead)) with ⟨d, he⟩ | ⟨d, he⟩
    · exact canStep_dispatch (.expire .sliding) rfl he
    · exact canStep_dispatch (.fired .sliding) rfl he
  · obtain ⟨d, hnext⟩ := exists_next hd hhead hpublish hcount hi.broker.dispatcher.running
    exact canStep_dispatch .next rfl hnext

/-- What `kubeEventPubSub` sends is received, or `watchConfig` goes on, or waits for no one. -/
theorem canStep_of_notifying (hi : s.Inv) {client : KubeClient} {item : μ}
    {rest : List (KubeClient × μ)}
    (h : pr.kubeEventPubSub.sending s.broker.kubeEventPubSub = (client, item) :: rest)
    (hblocked : client = .ticker → ¬ s.clients.ticker.Blocked) : s.CanStep := by
  have hnotify : ∀ {c : Clients},
      s.clients.receive pr.ticker (pr.message item) client = some c → s.CanStep := by
    intro c hc
    obtain ⟨hub, hhub⟩ := pr.kubeEventPubSub.exists_send h
    refine canStep_of_isSome (l := .notify client item) rfl ?_
    simp only [System.step, hhub, Option.bind_some, if_true, hc, Option.map_some, Option.isSome_some]
  cases client with
  | logLevel => exact hnotify rfl
  | ticker =>
    cases hw : s.clients.ticker.watch with
    | select => exact hnotify (if_pos hw)
    | testRunning | clearing | spawn =>
      exact canStep_ticker .next (.inl rfl) (by simp only [Ticker.ResyncTicker.step, hw]; rfl)
    | returned =>
      have hexiting := hi.watch
      rw [hw] at hexiting
      cases hexiting
    | sending after =>
      by_cases hstarting : 0 < s.clients.ticker.starting
      · refine canStep_ticker .starts (.inr (.inl rfl)) ?_
        rw [Ticker.ResyncTicker.step, if_pos hstarting]
        rfl
      by_cases hticking : 0 < s.clients.ticker.ticking
      · refine canStep_ticker .receives (.inr (.inr rfl)) ?_
        simp only [Ticker.ResyncTicker.step, hw, if_pos hticking]
        rfl
      · exact absurd ⟨⟨after, hw⟩, by omega, by omega⟩ (hblocked rfl)

/-- The processor goes on, when the dispatcher is at its `select`. -/
theorem canStep_of_processor (hi : s.Inv) (hhung : ¬ s.Hung)
    (hidle : pr.proxyUpdatePubSub.sending s.broker.proxyUpdatePubSub = [])
    (hhead : s.broker.dispatcher.pc = .head) (h : s.broker.processor ≠ .get) : s.CanStep := by
  cases hpc : s.broker.processor with
  | get => exact absurd hpc h
  | got | update | published =>
    exact canStep_broker .count (by rw [Broker.step, Broker.count, hpc]; rfl)
  | pub item topic =>
    obtain ⟨order, hub, hpub⟩ := pr.proxyUpdatePubSub.exists_pub hidle (some item) topic
    refine canStep_broker (.publish .processor order) ?_
    simp only [Broker.step, Broker.publish, hpc, hpub]
    rfl
  | send item =>
    refine canStep_broker (.send item) ?_
    rw [Broker.step, if_pos hpc, Broker.dispatch, Messaging.step, if_pos hhead]
    rfl
  | kube item =>
    cases hkube : pr.kubeEventPubSub.sending s.broker.kubeEventPubSub with
    | nil =>
      obtain ⟨order, hub, hpub⟩ := pr.kubeEventPubSub.exists_pub hkube item
        (pr.message item).kind.string
      refine canStep_broker (.kube order) ?_
      simp only [Broker.step, hpc, hpub]
      rfl
    | cons e rest =>
      refine canStep_of_notifying hi hkube fun he hb => hhung ⟨⟨item, hpc⟩, ⟨e.2, rest, ?_⟩, hb⟩
      rw [hkube, ← he]
  | done item => exact canStep_broker .done (by simp only [Broker.step, hpc]; rfl)

/-- Items that wait reach the processor. -/
theorem canStep_of_queue (hi : s.Inv) (hpc : s.broker.processor = .get)
    (h : pr.queue.delayed s.broker.queue ≠ ∅ ∨ pr.queue.dirty s.broker.queue ≠ ∅) :
    s.CanStep := by
  rcases h with h | h
  · obtain ⟨item, hitem⟩ := Finset.nonempty_iff_ne_empty.2 h
    obtain ⟨queue, hdue⟩ := pr.queue.exists_due hitem
    refine canStep_broker (.due item) ?_
    rw [Broker.step, hdue]
    rfl
  · have hprocessing := hi.broker.processing
    rw [hpc] at hprocessing
    obtain ⟨item, queue, hget⟩ := pr.queue.exists_get h hprocessing
    refine canStep_broker (.get item) ?_
    simp only [Broker.step, hpc, hget, Option.bind_some, if_true, Option.isSome_some]

theorem canStep_of_timer (hpc : s.server.stage .listener = .select)
    (h : s.server.timer.wakes = true) : s.CanStep := by
  unfold Timer.wakes at h
  rw [Bool.or_eq_true, decide_eq_true_iff] at h
  rcases h with h | h
  · refine canStep_server .expire (by simp) ?_
    rw [Server.step, Timer.expire, if_pos h]
    rfl
  · refine canStep_server .fire (by simp) ?_
    rw [Server.step, if_pos hpc, Timer.receive, if_pos h]
    rfl

/-- A system that is not at rest can do something, unless it is caught in the circle, or hangs. -/
theorem canStep_of_not_resting (hi : s.Inv) (hsize : 0 < s.server.workQueues.nWorkers)
    (hclash : ¬ s.Clash) (hhung : ¬ s.Hung) (hrest : ¬ s.Resting) : s.CanStep := by
  cases hsending : pr.proxyUpdatePubSub.sending s.broker.proxyUpdatePubSub with
  | cons e rest => exact canStep_of_sending hi hsize hclash hsending
  | nil =>
  by_cases hstage : ∃ p, s.server.stage p = .waiting ∨ s.server.stage p = .adding
  · obtain ⟨p, hp⟩ := hstage
    exact canStep_of_stage hi hsize hp
  by_cases hsub : ∃ p, s.server.stage p = .subscribing
  · obtain ⟨p, hp⟩ := hsub
    exact canStep_of_subscribing hsending hp
  by_cases hdispatcher : s.broker.dispatcher.pc ≠ .head ∨
      s.broker.dispatcher.dispatchPending = true
  · exact canStep_of_dispatcher hi hsending hdispatcher
  rw [not_or, not_not, Bool.not_eq_true] at hdispatcher
  obtain ⟨hhead, hpending⟩ := hdispatcher
  by_cases hpc : s.broker.processor = .get
  swap
  · exact canStep_of_processor hi hhung hsending hhead hpc
  by_cases hqueue : pr.queue.delayed s.broker.queue ≠ ∅ ∨ pr.queue.dirty s.broker.queue ≠ ∅
  · exact canStep_of_queue hi hpc hqueue
  rw [not_or, not_not, not_not] at hqueue
  have hinformer : s.server.stage .informer = .absent ∨ s.server.stage .informer = .select := by
    cases he : s.server.stage .informer with
    | absent => exact .inl rfl
    | select => exact .inr rfl
    | subscribing => exact absurd ⟨.informer, he⟩ hsub
    | registering => exact absurd he hi.server.informer
    | adding => exact absurd ⟨.informer, .inr he⟩ hstage
    | waiting => exact absurd ⟨.informer, .inl he⟩ hstage
  have hlistener : s.server.stage .listener = .registering ∨
      s.server.stage .listener = .select := by
    cases he : s.server.stage .listener with
    | absent => exact absurd he hi.server.listener
    | select => exact .inr rfl
    | subscribing => exact absurd ⟨.listener, he⟩ hsub
    | registering => exact .inl rfl
    | adding => exact absurd ⟨.listener, .inr he⟩ hstage
    | waiting => exact absurd ⟨.listener, .inl he⟩ hstage
  rcases hlistener with hlistener | hlistener
  · refine canStep_of_registering hlistener ?_
    rw [hinformer.resolve_left (hi.server.registering hlistener)]
    rfl
  · refine canStep_of_timer hlistener (eq_true_of_ne_false fun htimer => hrest ?_)
    exact ⟨hqueue.1, hqueue.2, hpc, hhead, hpending, hsending, hlistener, hinformer, htimer⟩

end

end Messaging
