import ErieCanalNet.Messaging.Proof.System

/-!
# No update is lost

An item that updates all proxies is under way from the handler that adds it to the queue until a job
begins: it is in the queue, at the processor, in the batch of the dispatcher, on its way to the
listener, in the time the listener waits, or the listener has a job that has not begun
(`Underway.step`). When nothing is under way any more, a job has begun, and finished, after the last
such item was added (`no_update_lost`).

`oneWorker` is a process on the queue and the hubs of the library, for runs that are evaluated.
-/

namespace Messaging

open Lib Workerpool

section

variable {μ : Type}

/-- The dispatcher has an event that it has not published. -/
def State.holds (d : State μ) : Bool := d.dispatchPending || d.pc.inReceived

/-- The timer has fired, or will. -/
def Timer.wakes (t : Timer) : Bool := t.running = some .window || t.value

theorem Timer.wakes_reset (t : Timer) : (t.reset .window).wakes = true := rfl

end

/-! ## The broker -/

section

variable {μ : Type} [DecidableEq μ] {pk : Packages μ} {message : μ → PubSubMessage}
  {b b' : Broker pk}

theorem holds_receive {actions : List (Action μ)} {d d' : State μ} {item : μ}
    (hrun : Messaging.Reaches actions d) (h : Messaging.step d (.receive item) = some d') :
    d'.holds = true := by
  have ht := (traced_of_reaches hrun).step h
  rw [State.holds, ht.pending, receivedSincePublish_concat]

theorem holds_publish {actions : List (Action μ)} {d d' : State μ} {e : Option μ}
    (hrun : Messaging.Reaches actions d) (h : Messaging.step d (.publish e) = some d') :
    d.holds = true ∧ d'.holds = false := by
  have ht := traced_of_reaches hrun
  rw [State.holds, ht.pending, State.holds, (ht.step h).pending, receivedSincePublish_concat]
  exact ⟨(publish_of_reaches (hrun.snoc h)).2, rfl⟩

theorem holds_step {actions : List (Action μ)} {d d' : State μ} {a : Action μ}
    (hrun : Messaging.Reaches actions d) (h : Messaging.step d a = some d')
    (hpublish : ∀ e, a ≠ .publish e) (hreceive : ∀ e, a ≠ .receive e) : d'.holds = d.holds := by
  have ht := traced_of_reaches hrun
  rw [State.holds, State.holds, ht.pending, (ht.step h).pending, receivedSincePublish_concat]
  cases a with
  | publish e => exact absurd rfl (hpublish e)
  | receive e => exact absurd rfl (hreceive e)
  | _ => rfl

/-- The processor has an update of all proxies that it has not sent. -/
def Processor.Carries {μ : Type} (message : μ → PubSubMessage) : Processor μ → Prop
  | .got item => Updates message item
  | .update _ topic => topic = Kind.proxyUpdate.string
  | .send _ => True
  | _ => False

/-- An update is in the broker. -/
inductive Broker.Underway (message : μ → PubSubMessage) (b : Broker pk) : Prop
  | delayed {item : μ} (hu : Updates message item) (h : item ∈ pk.queue.delayed b.queue)
  | queued {item : μ} (hu : Updates message item) (h : item ∈ pk.queue.dirty b.queue)
  | carried (h : b.processor.Carries message)
  | held (h : b.dispatcher.holds = true)
  | published {m : Option μ}
      (h : (.listener, m) ∈ pk.proxyUpdatePubSub.sending b.proxyUpdatePubSub)

omit [DecidableEq μ] in
theorem carries_processEvent {item : μ} (h : Updates message item) :
    (processEvent message item).Carries message := by
  unfold processEvent
  rw [h]
  rfl

theorem Broker.Underway.mono (hu : b.Underway message)
    (hdelayed : pk.queue.delayed b.queue ⊆ pk.queue.delayed b'.queue)
    (hdirty : pk.queue.dirty b.queue ⊆ pk.queue.dirty b'.queue)
    (hprocessor : b.processor.Carries message → b'.processor.Carries message)
    (hd : b.dispatcher.holds = true → b'.dispatcher.holds = true)
    (hsending : ∀ m, (.listener, m) ∈ pk.proxyUpdatePubSub.sending b.proxyUpdatePubSub →
      (.listener, m) ∈ pk.proxyUpdatePubSub.sending b'.proxyUpdatePubSub) :
    b'.Underway message := by
  cases hu with
  | delayed hu h => exact .delayed hu (hdelayed h)
  | queued hu h => exact .queued hu (hdirty h)
  | carried h => exact .carried (hprocessor h)
  | held h => exact .held (hd h)
  | published h => exact .published (hsending _ h)

/-- The processor goes on. -/
theorem Broker.Underway.process (hu : b.Underway message) (hqueue : b'.queue = b.queue)
    (hdispatcher : b'.dispatcher = b.dispatcher)
    (hhub : b'.proxyUpdatePubSub = b.proxyUpdatePubSub)
    (hprocessor : b.processor.Carries message → b'.processor.Carries message) :
    b'.Underway message := by
  refine hu.mono ?_ ?_ hprocessor ?_ ?_
  · rw [hqueue]
  · rw [hqueue]
  · rw [hdispatcher]
    exact id
  · rw [hhub]
    exact fun _ => id

/-- What the dispatcher publishes is for the server to see; all other steps keep the update in the
broker. -/
theorem Broker.Underway.step {a : BrokerAction μ} (hi : b.Inv message) (hu : b.Underway message)
    (h : b.Steps message a b') (ha : ∀ order, a ≠ .publish .dispatcher order) :
    b'.Underway message := by
  obtain ⟨actions, hrun⟩ := hi.dispatcher.run
  cases h with
  | @due item' queue hdue =>
    obtain ⟨-, hdelayed, hdirty, -⟩ := pk.queue.due_eq_some hdue
    cases hu with
    | @delayed item hu h =>
      by_cases he : item = item'
      · exact .queued hu (by simp [hdirty, he])
      · exact .delayed hu (by simp [hdelayed, he, h])
    | queued hu h => exact .queued hu (by simp [hdirty, h])
    | carried h => exact .carried h
    | held h => exact .held h
    | published h => exact .published h
  | @get item' queue hpc hget =>
    obtain ⟨-, hdelayed, hdirty, -⟩ := pk.queue.get_eq_some hget
    cases hu with
    | delayed hu h => exact .delayed hu (by simp [hdelayed, h])
    | @queued item hu h =>
      by_cases he : item = item'
      · subst he
        exact .carried hu
      · exact .queued hu (by simp [hdirty, he, h])
    | carried h => rw [hpc] at h; cases h
    | held h => exact .held h
    | published h => exact .published h
  | countEvent hpc =>
    refine hu.process rfl rfl rfl fun h => ?_
    rw [hpc] at h
    exact carries_processEvent h
  | countUpdate hpc =>
    refine hu.process rfl rfl rfl fun h => ?_
    rw [hpc] at h
    rw [show _ = Kind.proxyUpdate.string from h]
    exact trivial
  | countPublish hpc | kube hpc =>
    refine hu.process rfl rfl rfl fun h => ?_
    rw [hpc] at h
    cases h
  | pubProcessor hpc hpub =>
    refine hu.mono (Finset.Subset.refl _) (Finset.Subset.refl _) (fun h => ?_) id fun m hm => ?_
    · rw [hpc] at h
      cases h
    · rw [(PubSub.sending_of_pub hpub).1] at hm
      cases hm
  | pubDispatcher => exact absurd rfl (ha _)
  | send hpc hd => exact .held (holds_receive hrun hd)
  | done hpc =>
    refine hu.mono (by simp) (by simp) (fun h => ?_) id fun _ => id
    rw [hpc] at h
    cases h
  | expire hd | fired hd | next hd | counted hd =>
    refine hu.mono (Finset.Subset.refl _) (Finset.Subset.refl _) id (fun h => ?_) fun _ => id
    exact (holds_step hrun hd (by simp) (by simp)).trans h

end

/-! ## The server -/

/-- The server will begin a job. -/
inductive Server.Underway (s : Server) : Prop
  | timed (h : s.timer.wakes = true)
  | subscribing (h : s.stage .listener = .subscribing)
  | registering (h : s.stage .listener = .registering)
  | adding (h : s.stage .listener = .adding)
  | queued {p : Party} (h : p ∈ s.workQueues.jobs)
  | running {p : Party} (h : p ∈ s.workQueues.running) (hholder : s.holder ≠ some p)

/-- A job that is queued has not begun. -/
theorem Server.Inv.holder_ne {s : Server} {p : Party} (hi : s.Inv) (h : p ∈ s.workQueues.jobs) :
    s.holder ≠ some p := by
  intro he
  have hjobs := hi.jobs p
  have hq := List.count_pos_iff.2 h
  have hr := List.count_pos_iff.2 (hi.holder p he)
  unfold Server.jobsOf at hjobs
  split at hjobs <;> omega

theorem Server.Underway.mono {s s' : Server} (hu : s.Underway)
    (htimer : s.timer.wakes = true → s'.timer.wakes = true)
    (hstage : s.stage .listener ≠ .waiting → s'.stage .listener = s.stage .listener)
    (hjobs : ∀ p ∈ s.workQueues.jobs, p ∈ s'.workQueues.jobs)
    (hrunning : ∀ p ∈ s.workQueues.running, s.holder ≠ some p →
      p ∈ s'.workQueues.running ∧ s'.holder ≠ some p) : s'.Underway := by
  cases hu with
  | timed h => exact .timed (htimer h)
  | subscribing h => exact .subscribing ((hstage (by simp [h])).trans h)
  | registering h => exact .registering ((hstage (by simp [h])).trans h)
  | adding h => exact .adding ((hstage (by simp [h])).trans h)
  | queued h => exact .queued (hjobs _ h)
  | running h hholder => exact .running (hrunning _ h hholder).1 (hrunning _ h hholder).2

theorem Server.Underway.step {plane : Plane} {s s' : Server} {a : ServerAction} (hi : s.Inv)
    (hu : s.Underway) (h : s.Steps plane a s') (ha : ∀ p, a ≠ .begin p) : s'.Underway := by
  cases h with
  | expire =>
    exact hu.mono (fun _ => rfl) (fun _ => rfl) (fun _ => id) fun _ h hholder => ⟨h, hholder⟩
  | register => exact .registering (by simp)
  | fire => exact .adding (by simp)
  | registered => exact .adding (by simp)
  | addJob hpc hadd =>
    obtain ⟨hjobs, -⟩ := addJob_eq_some hadd
    exact .queued (hjobs ▸ List.mem_append_right _ (List.mem_singleton_self _))
  | take htake =>
    obtain ⟨hjobs, hrunning, -⟩ := take_eq_some htake
    exact .running (hrunning ▸ List.mem_cons_self) (hi.holder_ne (hjobs ▸ List.mem_cons_self))
  | begin => exact absurd rfl (ha _)
  | retry => exact .timed (Timer.wakes_reset _)
  | finish hholder hfinish =>
    obtain ⟨-, hjobs, hrunning, -⟩ := finish_eq_some hfinish
    refine hu.mono id (fun _ => rfl) (fun _ h => hjobs ▸ h) fun q h hq => ⟨?_, by simp⟩
    have hne : q ≠ _ := fun he => hq (he ▸ hholder)
    exact hrunning ▸ (List.mem_erase_of_ne hne).2 h
  | @resume p hpc hdone =>
    refine hu.mono (fun h => ?_) (fun hne => ?_) (fun _ => id) fun _ h hholder => ⟨h, hholder⟩
    · show (if p = .listener ∧ s.reconfirm = true then s.timer.reset .window
        else s.timer).wakes = true
      split
      · exact Timer.wakes_reset _
      · exact h
    · rw [Server.stage_resume, if_neg]
      exact fun he => hne (he ▸ hpc)

/-! ## The system -/

section

variable {μ : Type} [DecidableEq μ] {pr : Process μ} {s s' : System pr} {labels : List (Label μ)}

def System.Underway (s : System pr) : Prop := s.broker.Underway pr.message ∨ s.server.Underway

/-- A publish of the dispatcher reaches the listener. One that has not subscribed yet begins with a
timer. -/
theorem System.underway_of_publish (hi : s.Inv) {m : Option μ} {order : List Party}
    {b : Broker pr.toPackages}
    (hpub : pr.proxyUpdatePubSub.pub s.broker.proxyUpdatePubSub m Kind.proxyUpdate.string order =
      some b.proxyUpdatePubSub) : ({ s with broker := b } : System pr).Underway := by
  by_cases hsub : (s.server.stage .listener).subscribed = true
  · refine .inl (.published (m := m) ((PubSub.mem_sending_of_pub hpub).2 ⟨?_, rfl⟩))
    exact (hi.hub.subscribed ..).2 ⟨hsub, List.mem_singleton_self _⟩
  · refine .inr (.subscribing ?_)
    have hne := hi.server.listener
    show s.server.stage .listener = .subscribing
    generalize s.server.stage .listener = stage at hsub hne
    cases stage <;> simp_all [Stage.subscribed]

/-- An update that is not received stays in the broker. -/
theorem Broker.Underway.hubs {pk : Packages μ} {message : μ → PubSubMessage} {b : Broker pk}
    (hu : b.Underway message) {proxyUpdatePubSub : pk.proxyUpdatePubSub.State}
    {kubeEventPubSub : pk.kubeEventPubSub.State}
    (h : ∀ m, (.listener, m) ∈ pk.proxyUpdatePubSub.sending b.proxyUpdatePubSub →
      (.listener, m) ∈ pk.proxyUpdatePubSub.sending proxyUpdatePubSub) :
    ({ b with proxyUpdatePubSub, kubeEventPubSub } : Broker pk).Underway message :=
  hu.mono (Finset.Subset.refl _) (Finset.Subset.refl _) id id h

theorem System.Underway.step {l : Label μ} (hi : s.Inv) (hu : s.Underway) (h : s.Steps l s')
    (hl : ∀ p, l ≠ .server (.begin p)) : s'.Underway := by
  cases h with
  | announce =>
    refine hu.imp_left fun hb => hb.mono ?_ ?_ id id fun _ => id
    · simp [Broker.addRateLimited]
    · simp [Broker.addRateLimited]
  | @broker a b hb =>
    by_cases ha : ∃ order, a = .publish .dispatcher order
    · obtain ⟨order, rfl⟩ := ha
      cases hb with
      | pubDispatcher hpub hd =>
        rw [hi.broker.dispatcher.topic_eq hd] at hpub
        exact System.underway_of_publish hi hpub
    · exact hu.imp_left fun h => h.step hi.broker hb fun order he => ha ⟨order, he⟩
  | server hv => exact hu.imp_right fun h => h.step hi.server hv fun p he => hl p (he ▸ rfl)
  | listen => exact .inr (.timed rfl)
  | inform hsub hpc =>
    refine hu.imp ?_ ?_
    · intro hb
      refine hb.hubs fun m hm => ?_
      rw [PubSub.sending_of_sub hsub] at hm
      cases hm
    · intro hv
      exact hv.mono id (fun _ => by simp) (fun _ => id) fun _ h hh => ⟨h, hh⟩
  | hear => exact .inr (.timed rfl)
  | update hsend hpc =>
    refine hu.imp ?_ ?_
    · intro hb
      refine hb.hubs fun m hm => ?_
      rw [(pr.proxyUpdatePubSub.send_eq_some hsend).1] at hm
      exact (List.mem_cons.1 hm).resolve_left (by simp)
    · intro hv
      exact hv.mono id (fun _ => by simp) (fun _ => id) fun _ h hh => ⟨h, hh⟩
  | watch | notifyLogLevel | notifyTicker => exact hu.imp_left fun hb => hb.hubs fun _ => id
  | ticker => exact hu

/-! ## Rest -/

/-- Nothing is left to do for the proxies. -/
structure System.Resting (s : System pr) : Prop where
  delayed : pr.queue.delayed s.broker.queue = ∅
  dirty : pr.queue.dirty s.broker.queue = ∅
  processor : s.broker.processor = .get
  pc : s.broker.dispatcher.pc = .head
  pending : s.broker.dispatcher.dispatchPending = false
  sending : pr.proxyUpdatePubSub.sending s.broker.proxyUpdatePubSub = []
  listener : s.server.stage .listener = .select
  informer : s.server.stage .informer = .absent ∨ s.server.stage .informer = .select
  timer : s.server.timer.wakes = false

/-- Nobody waits for a job, so there is none. -/
theorem System.Resting.jobs (hi : s.Inv) (h : s.Resting) (p : Party) :
    p ∉ s.server.workQueues.jobs ∧ p ∉ s.server.workQueues.running := by
  apply hi.server.no_job
  cases p with
  | listener => simp [h.listener]
  | informer => rcases h.informer with he | he <;> simp [he]

theorem System.Resting.not_underway (hi : s.Inv) (h : s.Resting) : ¬ s.Underway := by
  intro hu
  cases hu with
  | inl hb =>
    cases hb with
    | delayed _ hw => simp [h.delayed] at hw
    | queued _ hq => simp [h.dirty] at hq
    | carried hp => rw [h.processor] at hp; cases hp
    | held hd => simp [State.holds, h.pc, h.pending, Pc.inReceived] at hd
    | published hs => rw [h.sending] at hs; cases hs
  | inr hv =>
    cases hv with
    | timed ht => rw [h.timer] at ht; cases ht
    | subscribing hl => rw [h.listener] at hl; cases hl
    | registering hl => rw [h.listener] at hl; cases hl
    | adding hl => rw [h.listener] at hl; cases hl
    | queued hp => exact (h.jobs hi _).1 hp
    | running hp => exact (h.jobs hi _).2 hp

/-- A job has begun since the last item was added that updates all proxies. -/
def Fresh {μ : Type} (message : μ → PubSubMessage) (labels : List (Label μ)) : Prop :=
  ∃ before p after, labels = before ++ .server (.begin p) :: after ∧
    ∀ item, .announce item ∈ after → ¬ Updates message item

theorem fresh_or_underway (h : pr.Reaches labels s) :
    s.Inv ∧ (Fresh pr.message labels ∨ s.Underway) := by
  refine Run.invariant_labels (fun labels (s : System pr) =>
    s.Inv ∧ (Fresh pr.message labels ∨ s.Underway)) h
    ⟨System.inv_start, .inr (.inr (.subscribing rfl))⟩ ?_
  intro labels s l s' hinv hstep
  obtain ⟨hi, hor⟩ := hinv
  have hsteps := System.steps_of_step hstep
  refine ⟨hi.step hstep, ?_⟩
  by_cases hbegin : ∃ p, l = .server (.begin p)
  · obtain ⟨p, rfl⟩ := hbegin
    exact .inl ⟨labels, p, [], rfl, by simp⟩
  have hl : ∀ p, l ≠ .server (.begin p) := fun p he => hbegin ⟨p, he⟩
  cases hor with
  | inr hu => exact .inr (hu.step hi hsteps hl)
  | inl hfresh =>
    by_cases hann : ∃ item, l = .announce item ∧ Updates pr.message item
    · obtain ⟨item, rfl, hitem⟩ := hann
      cases hsteps
      exact .inr (.inl (.delayed hitem (by simp [Broker.addRateLimited])))
    · obtain ⟨before, p, after, rfl, hafter⟩ := hfresh
      refine .inl ⟨before, p, after ++ [l], by simp, fun item hitem hupd => ?_⟩
      rcases List.mem_append.1 hitem with hitem | hitem
      · exact hafter item hitem hupd
      · exact hann ⟨item, (List.mem_singleton.1 hitem).symm, hupd⟩

/-- The lock is held until the job finishes. -/
theorem System.Steps.holder {l : Label μ} {p : Party} (h : s.Steps l s')
    (hp : s.server.holder = some p) :
    s'.server.holder = some p ∨ l = .server (.finish p) := by
  cases h with
  | server hv =>
    cases hv with
    | begin _ hnone => rw [hnone] at hp; cases hp
    | finish hholder =>
      rw [hholder] at hp
      obtain rfl := Option.some.inj hp
      exact .inr rfl
    | _ => exact .inl hp
  | _ => exact .inl hp

/-- A job that has begun and not finished holds the lock. -/
theorem finished_or_holder (h : pr.Reaches labels s) :
    ∀ before p after, labels = before ++ .server (.begin p) :: after →
      .server (.finish p) ∈ after ∨ s.server.holder = some p := by
  refine Run.invariant_labels (fun labels (s : System pr) => ∀ before p after,
    labels = before ++ .server (.begin p) :: after →
      .server (.finish p) ∈ after ∨ s.server.holder = some p) h (by simp) ?_
  intro labels s l s' ih hstep before p after hsplit
  have hsteps := System.steps_of_step hstep
  rcases List.eq_nil_or_concat after with rfl | ⟨rest, l', rfl⟩
  · obtain ⟨-, hl⟩ := List.append_inj' hsplit rfl
    obtain rfl : l = .server (.begin p) := by simpa using hl
    cases hsteps with
    | server hv =>
      cases hv
      exact .inr rfl
  · rw [List.concat_eq_append, ← List.cons_append, ← List.append_assoc] at hsplit
    obtain ⟨rfl, hl⟩ := List.append_inj' hsplit rfl
    obtain rfl : l = l' := by simpa using hl
    rw [List.concat_eq_append, List.mem_append, List.mem_singleton]
    rcases ih before p rest rfl with hfinish | hholder
    · exact .inl (.inl hfinish)
    · exact (hsteps.holder hholder).symm.imp_left fun he => .inr he.symm

/-- In a run that has come to rest, a job has begun and finished since the last update was added. -/
theorem exists_fresh_job (h : pr.Reaches labels s) (hrest : s.Resting) :
    ∃ before p rest, labels = before ++ .server (.begin p) :: rest ∧ .server (.finish p) ∈ rest ∧
      ∀ item, .announce item ∈ rest → ¬ Updates pr.message item := by
  obtain ⟨hi, hor⟩ := fresh_or_underway h
  obtain ⟨before, p, rest, rfl, hfresh⟩ := hor.resolve_right (hrest.not_underway hi)
  have hfinish : .server (.finish p) ∈ rest :=
    (finished_or_holder h before p rest rfl).resolve_right fun hholder =>
      (hrest.jobs hi p).2 (hi.server.holder p hholder)
  exact ⟨before, p, rest, rfl, hfinish, hfresh⟩

/-- **No update is lost**: in every run that has come to rest, a job has begun and finished after
the last item was added that updates all proxies. -/
theorem no_update_lost (h : pr.Reaches labels s) (hrest : s.Resting) :
    ∃ before p between after,
      labels = before ++ .server (.begin p) :: between ++ .server (.finish p) :: after ∧
        ∀ item, .announce item ∈ between ++ after → ¬ Updates pr.message item := by
  obtain ⟨before, p, rest, rfl, hfinish, hfresh⟩ := exists_fresh_job h hrest
  obtain ⟨between, after, rfl⟩ := List.append_of_mem hfinish
  refine ⟨before, p, between, after, by simp, fun item hitem => hfresh item ?_⟩
  rcases List.mem_append.1 hitem with hitem | hitem
  · exact List.mem_append_left _ hitem
  · exact List.mem_append_right _ (List.mem_cons_of_mem _ hitem)

end

/-- A process with one worker, on the queue and the hubs of the library. -/
def oneWorker {μ : Type} [DecidableEq μ] (message : μ → PubSubMessage) (plane : Plane) :
    Process μ where
  queue := .fifo μ
  proxyUpdatePubSub := .serial ..
  kubeEventPubSub := .serial ..
  message := message
  plane := plane
  uuid := ""
  nWorkers := 1
  goMaxProcs := 1
  ticker := .ofCatalog
  resyncInterval := 0

/-- The message of a ticker: all proxies are updated. -/
def proxyUpdate (_ : Unit) : PubSubMessage := { kind := .proxyUpdate, newObj := none, oldObj := none }

/-- A job of the listener, from the timer to the next `select`. -/
def listenerJob : List (Label Unit) :=
  [.server .expire, .server .fire, .server (.addJob .listener), .server (.take .listener),
    .server (.begin .listener), .server (.finish .listener), .server (.resume .listener)]

/-- One item, from the handler to the `Pub` of the dispatcher. -/
def oneBatch : List (Label Unit) :=
  [.announce (), .broker (.due ()), .broker (.get ()), .broker .count, .broker .count,
    .broker (.send ()), .broker (.kube []), .broker .done, .broker .next, .broker .next,
    .broker .next, .broker .next, .broker (.expire .sliding), .broker (.fired .sliding),
    .broker .next, .broker .next, .broker .next]

/-- One item, from the handler to the listener. -/
def oneUpdate : List (Label Unit) :=
  oneBatch ++ [.broker (.publish .dispatcher [.listener]), .broker .counted, .deliver .listener]

/-- One update of the data plane: the second job is that of `reconfirm`. -/
theorem no_update_lost_one :
    ∃ s, (oneWorker proxyUpdate .data).Reaches
        (.subscribe .listener :: oneUpdate ++ listenerJob ++ listenerJob) s ∧ s.Resting ∧
      ∃ before p between after,
        .subscribe .listener :: oneUpdate ++ listenerJob ++ listenerJob =
            before ++ .server (.begin p) :: between ++ .server (.finish p) :: after ∧
          ∀ item, .announce item ∈ between ++ after → ¬ Updates proxyUpdate item := by
  have hrun := run_of_foldlM (rfl :
    (.subscribe .listener :: oneUpdate ++ listenerJob ++ listenerJob).foldlM
      System.step (System.start (oneWorker proxyUpdate .data)) = some _)
  refine ⟨_, hrun, ?rest, no_update_lost hrun ?rest⟩
  exact ⟨rfl, rfl, rfl, rfl, rfl, rfl, rfl, .inl rfl, rfl⟩

end Messaging
