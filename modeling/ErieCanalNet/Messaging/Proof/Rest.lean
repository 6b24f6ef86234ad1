import ErieCanalNet.Messaging.Proof.Stuck

/-!
# The system comes to rest

What the system does by itself ends: `System.rank` goes down with each of its own steps
(`System.rank_lt`). The numbers are such that what a step removes pays for all that it sets off: a
send for the time the listener waits and for its second job, a `Pub` for the sends, an item for a
batch of its own. `comes_to_rest`: the end is rest, unless a control plane clashes while it registers
its proxy, or the process hangs.
-/

namespace Messaging

open Lib Workerpool

def Timer.rank (t : Timer) : Nat :=
  (if t.running = some .window then 2 else 0) + if t.value then 1 else 0

theorem Timer.rank_le (t : Timer) : t.rank ≤ 3 := by
  unfold Timer.rank
  split <;> split <;> omega

theorem Timer.rank_stop (t : Timer) : (⟨none, t.value⟩ : Timer).rank ≤ t.rank := by
  unfold Timer.rank
  simp only [reduceCtorEq, if_false]
  omega

theorem Timer.rank_reset (d : Timeout) (t : Timer) : (t.reset d).rank ≤ t.rank + 2 := by
  unfold Timer.rank Timer.reset
  split <;> split <;> omega

theorem Timer.rank_reset_noTimeout (t : Timer) : (t.reset .noTimeout).rank ≤ t.rank := by
  unfold Timer.rank Timer.reset
  simp only [Option.some.injEq, reduceCtorEq, if_false]
  omega

theorem Timer.rank_receive {t : Timer} (h : t.value = true) :
    (⟨t.running, false⟩ : Timer).rank + 1 = t.rank := by
  simp [Timer.rank, h]

theorem Timer.rank_expire {t : Timer} (h : t.running = some .window) :
    (⟨none, true⟩ : Timer).rank < t.rank := by
  simp [Timer.rank, h]
  omega

/-! ## The dispatcher -/

def Pc.rank : Pc → Nat
  | .head | .exited => 0
  | .count => 1
  | .publish => 202
  | .reset _ (.expired _) => 203
  | .drain _ (.expired _) => 204
  | .stop _ (.expired _) => 205
  | .clear _ => 206
  | .reset .sliding .received => 1000
  | .drain .sliding .received => 1001
  | .stop .sliding .received => 1002
  | .reset _ _ => 500
  | .drain _ _ => 501
  | .stop _ _ => 502

theorem Pc.rank_le (pc : Pc) : pc.rank ≤ 1002 := by
  unfold Pc.rank
  split <;> omega

def timersRank (ts : Which → Timer) : Nat := (ts .sliding).rank + (ts .max).rank

theorem timersRank_update (ts : Which → Timer) (w : Which) (t : Timer) :
    timersRank (Function.update ts w t) + (ts w).rank = timersRank ts + t.rank := by
  cases w <;> simp [timersRank, Function.update] <;> omega

section

variable {μ : Type}

def State.rank (d : State μ) : Nat := 220 * timersRank d.timers + d.pc.rank

theorem State.rank_le (d : State μ) : d.rank ≤ 2322 := by
  have h₁ := (d.timers .sliding).rank_le
  have h₂ := (d.timers .max).rank_le
  have h₃ := d.pc.rank_le
  unfold State.rank timersRank
  omega

/-- Every step of the dispatcher but a receive brings it nearer to its loop head. -/
theorem State.Steps.rank_lt {d d' : State μ} {a : Action μ} (h : d.Steps a d')
    (hreceive : ∀ e, a ≠ .receive e) (hexit : a ≠ .exit) : d'.rank < d.rank := by
  have hupdate := timersRank_update d.timers
  cases h with
  | receive => exact absurd rfl (hreceive _)
  | exit => exact absurd rfl hexit
  | @fired w hpc hvalue =>
    have hts := hupdate w ⟨(d.timers w).running, false⟩
    have heq := Timer.rank_receive hvalue
    simp only [State.rank, Pc.rank, hpc]
    omega
  | @expire w hrunning =>
    have hts := hupdate w ⟨none, true⟩
    have hlt := Timer.rank_expire hrunning
    simp only [State.rank]
    omega
  | @clear w hpc =>
    have hts := hupdate w ((d.timers w).reset .noTimeout)
    have hle := (d.timers w).rank_reset_noTimeout
    simp only [State.rank, Pc.rank, hpc]
    omega
  | @stopped w b hpc =>
    have hts := hupdate w ⟨none, (d.timers w).value⟩
    have hle := (d.timers w).rank_stop
    have hlt : (Pc.reset w b).rank < (Pc.stop w b).rank := by
      cases b <;> cases w <;> simp [Pc.rank]
    simp only [State.rank, hpc]
    omega
  | @late w b hpc =>
    have hts := hupdate w ⟨none, (d.timers w).value⟩
    have hle := (d.timers w).rank_stop
    have hlt : (Pc.drain w b).rank < (Pc.stop w b).rank := by
      cases b <;> cases w <;> simp [Pc.rank]
    simp only [State.rank, hpc]
    omega
  | @drain w b hpc hvalue =>
    have hts := hupdate w ⟨(d.timers w).running, false⟩
    have heq := Timer.rank_receive hvalue
    have hlt : (Pc.reset w b).rank < (Pc.drain w b).rank := by
      cases b <;> cases w <;> simp [Pc.rank]
    simp only [State.rank, hpc]
    omega
  | resetSliding hpc =>
    have hts := hupdate .sliding ((d.timers .sliding).reset .window)
    have hle := (d.timers .sliding).rank_reset .window
    simp only [State.rank, Pc.rank, hpc]
    omega
  | resetMax hpc =>
    have hts := hupdate .max ((d.timers .max).reset .window)
    have hle := (d.timers .max).rank_reset .window
    simp only [State.rank, Pc.rank, hpc]
    omega
  | @resetPending w hpc =>
    have hts := hupdate w ((d.timers w).reset .window)
    have hle := (d.timers w).rank_reset .window
    simp only [State.rank, Pc.rank, hpc]
    omega
  | @resetExpired w v hpc =>
    have hts := hupdate w ((d.timers w).reset .noTimeout)
    have hle := (d.timers w).rank_reset_noTimeout
    simp only [State.rank, Pc.rank, hpc]
    omega
  | publish hpc | count hpc =>
    simp only [State.rank, Pc.rank, hpc]
    omega

theorem rank_publish [DecidableEq μ] {d d' : State μ} {e : Option μ}
    (h : Messaging.step d (.publish e) = some d') : d'.rank + 201 = d.rank := by
  obtain ⟨⟨hpc, -⟩, hs⟩ := Option.ite_none_right_eq_some.1 h
  obtain rfl := Option.some.inj hs
  simp only [State.rank, Pc.rank, hpc]

end

/-! ## The server -/

/-- What a goroutine has before it, from where it is to its next `select`, without its job. -/
def Stage.rank (p : Party) : Stage → Nat
  | .absent | .select | .waiting => 0
  | .subscribing => if p = .listener then 100 else 1
  | .adding => 7
  | .registering => 8

def poolRank (wp : WorkerPool Party) : Nat := 5 * wp.jobs.length + 4 * wp.running.length

def holderRank : Option Party → Nat
  | none => 1
  | some _ => 0

def Server.rank (s : Server) : Nat :=
  20 * s.timer.rank + 50 * s.reconfirm.toNat + (s.stage .listener).rank .listener +
    (s.stage .informer).rank .informer + poolRank s.workQueues + holderRank s.holder +
    2 * s.done.length

theorem Server.rank_move (s : Server) (p : Party) (stage : Stage) :
    (s.move p stage).rank + (s.stage p).rank p = s.rank + stage.rank p := by
  cases p with
  | listener =>
    simp only [Server.rank, Server.move, Function.update_self,
      Function.update_of_ne (by decide : Party.informer ≠ .listener)]
    omega
  | informer =>
    simp only [Server.rank, Server.move, Function.update_self,
      Function.update_of_ne (by decide : Party.listener ≠ .informer)]
    omega

/-- The second job is paid for by `reconfirm`. -/
theorem Server.rank_resume {s : Server} {p : Party} (hpc : s.stage p = .waiting) :
    (s.resume p).rank ≤ s.rank := by
  have hm := s.rank_move p .select
  have hle := s.timer.rank_reset .window
  have hresume : (s.resume p).rank + 20 * s.timer.rank + 50 * s.reconfirm.toNat =
      (s.move p .select).rank + 20 * (s.resume p).timer.rank +
        50 * (s.resume p).reconfirm.toNat := by
    simp only [Server.rank, Server.resume, Server.move]
    omega
  simp only [hpc, Stage.rank] at hm
  cases p with
  | informer =>
    simp only [Server.resume, reduceCtorEq, false_and, if_false] at hresume ⊢
    omega
  | listener =>
    cases hre : s.reconfirm with
    | true =>
      simp only [Server.resume, hre, and_self, if_true, Bool.toNat_true, Bool.toNat_false]
        at hresume ⊢
      omega
    | false =>
      simp only [Server.resume, hre, Bool.false_eq_true, and_false, if_false, if_true,
        Bool.toNat_false] at hresume ⊢
      omega

theorem Server.Steps.rank_lt {plane : Plane} {s s' : Server} {a : ServerAction}
    (h : s.Steps plane a s') (ha : a ≠ .retry) : s'.rank < s.rank := by
  cases h with
  | expire hrunning =>
    have hlt := Timer.rank_expire hrunning
    simp only [Server.rank]
    omega
  | register hpc hvalue hplane habsent =>
    have heq := Timer.rank_receive hvalue
    have hm := Server.rank_move { s with timer := { s.timer with value := false } } .informer
      .subscribing
    have hm' := Server.rank_move (({ s with timer := { s.timer with value := false } } : Server).move
      .informer .subscribing) .listener .registering
    simp only [Server.stage_move, hpc, habsent, reduceCtorEq, if_false, Stage.rank] at hm hm'
    simp only [Server.rank] at hm hm' ⊢
    omega
  | fire hpc hvalue =>
    have heq := Timer.rank_receive hvalue
    have hm := Server.rank_move { s with timer := { s.timer with value := false } } .listener
      .adding
    simp only [hpc, Stage.rank] at hm
    simp only [Server.rank] at hm ⊢
    omega
  | registered hpc =>
    have hm := s.rank_move .listener .adding
    simp only [hpc, Stage.rank] at hm
    omega
  | @addJob p wp hpc hadd =>
    obtain ⟨hjobs, hrunning, -⟩ := addJob_eq_some hadd
    have hm := Server.rank_move { s with workQueues := wp } p .waiting
    simp only [hpc, Stage.rank] at hm
    simp only [Server.rank, poolRank, hjobs, hrunning, List.length_append, List.length_singleton]
      at hm ⊢
    omega
  | take htake =>
    obtain ⟨hjobs, hrunning, -⟩ := take_eq_some htake
    simp only [Server.rank, poolRank, hjobs, hrunning, List.length_cons]
    omega
  | begin hrunning hholder =>
    simp only [Server.rank, hholder, holderRank]
    omega
  | retry => exact absurd rfl ha
  | finish hholder hfinish =>
    obtain ⟨hmem, hjobs, hrunning, -⟩ := finish_eq_some hfinish
    have hpos := List.length_pos_of_mem hmem
    simp only [Server.rank, poolRank, hholder, hjobs, hrunning, List.length_erase_of_mem hmem,
      holderRank, List.length_cons]
    omega
  | @resume p hpc hdone =>
    have hpos := List.length_pos_of_mem hdone
    have hle := Server.rank_resume (s := { s with done := s.done.erase p }) hpc
    refine Nat.lt_of_le_of_lt hle ?_
    simp only [Server.rank, List.length_erase_of_mem hdone]
    omega

/-! ## The clients of `kubeEventPubSub` -/

def watchRank : Ticker.Watch → Nat
  | .select | .returned => 0
  | .spawn _ => 2
  | .clearing _ => 3
  | .sending _ => 4
  | .testRunning _ => 5

theorem watchRank_le (w : Ticker.Watch) : watchRank w ≤ 5 := by
  unfold watchRank
  split <;> omega

/-- The goroutines that were started have yet to run. -/
def tickerRank (s : Ticker.State) : Nat := watchRank s.watch + s.starting

def Clients.rank (c : Clients) : Nat :=
  (!c.subscribed .logLevel).toNat + (!c.subscribed .ticker).toNat + tickerRank c.ticker

theorem tickerRank_watchConfig (t : Ticker.ResyncTicker) (s : Ticker.State) (msg : PubSubMessage) :
    tickerRank (watchConfig t s msg) ≤ tickerRank s + 5 := by
  have hle := watchRank_le (watchConfig t s msg).watch
  have hstarting : (watchConfig t s msg).starting = s.starting := by
    unfold watchConfig
    split
    · unfold Ticker.ResyncTicker.onEvent
      dsimp only
      split <;> rfl
    · rfl
  unfold tickerRank
  omega

theorem tickerRank_lt {t : Ticker.ResyncTicker} {s s' : Ticker.State} {l : Ticker.Label}
    (hl : l = .next ∨ l = .starts ∨ l = .receives) (h : t.step s l = some s') :
    tickerRank s' < tickerRank s := by
  unfold tickerRank
  rcases hl with rfl | rfl | rfl
  · rcases Ticker.ResyncTicker.step_next_cases h with
      ⟨interval, hw, rfl⟩ | ⟨after, hw, rfl⟩ | ⟨interval, hw, rfl⟩
    · rw [hw]
      dsimp only
      split <;> simp [watchRank]
    · rw [hw]
      cases after <;> simp [watchRank, Ticker.After.watch]
    · rw [hw]
      simp only [watchRank]
      omega
  · obtain ⟨hpos, hs⟩ := Option.ite_none_right_eq_some.1 h
    obtain rfl := Option.some.inj hs
    dsimp only
    omega
  · obtain ⟨after, hw, -, rfl⟩ := Ticker.ResyncTicker.step_receives_cases h
    rw [hw]
    simp [watchRank]

theorem Clients.rank_subscribe (c : Clients) {client : KubeClient}
    (h : c.subscribed client = false) :
    ({ c with subscribed := Function.update c.subscribed client true } : Clients).rank + 1 =
      c.rank := by
  cases client with
  | logLevel =>
    simp only [Clients.rank, Function.update_self, h,
      Function.update_of_ne (by decide : KubeClient.ticker ≠ .logLevel), Bool.not_true,
      Bool.not_false, Bool.toNat_true, Bool.toNat_false]
    omega
  | ticker =>
    simp only [Clients.rank, Function.update_self, h,
      Function.update_of_ne (by decide : KubeClient.logLevel ≠ .ticker), Bool.not_true,
      Bool.not_false, Bool.toNat_true, Bool.toNat_false]
    omega

/-! ## The broker -/

section

variable {μ : Type}

/-- A send to the dispatcher pays for a batch, a `Pub` for the sends of its hub. -/
def Processor.rank : Processor μ → Nat
  | .get => 0
  | .done _ => 1
  | .kube _ => 30
  | .published _ => 31
  | .pub _ _ => 300
  | .send _ => 2500
  | .update _ _ => 2501
  | .got _ => 2502

theorem rank_processEvent (message : μ → PubSubMessage) (item : μ) :
    (processEvent message item).rank ≤ 2501 := by
  unfold processEvent
  split <;> simp [Processor.rank]

variable [DecidableEq μ] {pk : Packages μ} {message : μ → PubSubMessage} {b b' : Broker pk}

def Broker.rank (b : Broker pk) : Nat :=
  2700 * (pk.queue.delayed b.queue).card + 2600 * (pk.queue.dirty b.queue).card +
    b.processor.rank + b.dispatcher.rank +
    100 * (pk.proxyUpdatePubSub.sending b.proxyUpdatePubSub).length +
    10 * (pk.kubeEventPubSub.sending b.kubeEventPubSub).length

/-- A `Pub` sets off two sends at most. -/
theorem sends_of_pub {ι β : Type} [Fintype ι] {hub : PubSub ι String β} {h h' : hub.State} {m : β}
    {topic : String} {order : List ι} (hpub : hub.pub h m topic order = some h')
    (hcard : Fintype.card ι = 2) :
    (hub.sending h).length = 0 ∧ (hub.sending h').length ≤ 2 := by
  rw [(PubSub.sending_of_pub hpub).1]
  exact ⟨rfl, hcard ▸ PubSub.length_sending_of_pub hpub⟩

theorem Broker.Steps.rank_lt {a : BrokerAction μ} (h : b.Steps message a b') :
    b'.rank < b.rank := by
  cases h with
  | @due item queue hdue =>
    obtain ⟨hmem, hdelayed, hdirty, -⟩ := pk.queue.due_eq_some hdue
    have hcard := Finset.card_erase_of_mem hmem
    have hpos := Finset.card_pos.2 ⟨item, hmem⟩
    have hle := Finset.card_insert_le item (pk.queue.dirty b.queue)
    simp only [Broker.rank, hdelayed, hdirty]
    omega
  | @get item queue hpc hget =>
    obtain ⟨hmem, hdelayed, hdirty, -⟩ := pk.queue.get_eq_some hget
    have hcard := Finset.card_erase_of_mem hmem
    have hpos := Finset.card_pos.2 ⟨item, hmem⟩
    simp only [Broker.rank, hdelayed, hdirty, hpc, Processor.rank]
    omega
  | @countEvent item hpc =>
    have hle := rank_processEvent message item
    have hgot : (Processor.got item).rank = 2502 := rfl
    simp only [Broker.rank, hpc]
    omega
  | @countUpdate item topic hpc =>
    have hle : (if topic ≠ Kind.proxyUpdate.string then Processor.pub item topic
        else .send item).rank ≤ 2500 := by
      split <;> simp [Processor.rank]
    simp only [Broker.rank, hpc, Processor.rank] at hle ⊢
    omega
  | countPublish hpc =>
    simp only [Broker.rank, hpc, Processor.rank]
    omega
  | pubProcessor hpc hpub =>
    obtain ⟨hnone, hle⟩ := sends_of_pub hpub rfl
    simp only [Broker.rank, hpc, Processor.rank]
    omega
  | pubDispatcher hpub hd =>
    obtain ⟨hnone, hle⟩ := sends_of_pub hpub rfl
    have heq := rank_publish hd
    simp only [Broker.rank]
    omega
  | @send item d hpc hd =>
    have hle := d.rank_le
    simp only [Broker.rank, hpc, Processor.rank]
    omega
  | kube hpc hpub =>
    obtain ⟨hnone, hle⟩ := sends_of_pub hpub rfl
    simp only [Broker.rank, hpc, Processor.rank]
    omega
  | done hpc =>
    simp only [Broker.rank, hpc, Processor.rank, pk.queue.delayed_done, pk.queue.dirty_done]
    omega
  | expire hd | fired hd | next hd | counted hd =>
    have hlt := (State.steps_of_step hd).rank_lt (by simp) (by simp)
    simp only [Broker.rank]
    omega

theorem Broker.rank_proxyUpdatePubSub (b : Broker pk)
    (proxyUpdatePubSub : pk.proxyUpdatePubSub.State) :
    ({ b with proxyUpdatePubSub } : Broker pk).rank +
        100 * (pk.proxyUpdatePubSub.sending b.proxyUpdatePubSub).length =
      b.rank + 100 * (pk.proxyUpdatePubSub.sending proxyUpdatePubSub).length := by
  simp only [Broker.rank]
  omega

theorem Broker.rank_kubeEventPubSub (b : Broker pk) (kubeEventPubSub : pk.kubeEventPubSub.State) :
    ({ b with kubeEventPubSub } : Broker pk).rank +
        10 * (pk.kubeEventPubSub.sending b.kubeEventPubSub).length =
      b.rank + 10 * (pk.kubeEventPubSub.sending kubeEventPubSub).length := by
  simp only [Broker.rank]
  omega

end

/-! ## The system -/

section

variable {μ : Type} [DecidableEq μ] {pr : Process μ} {s s' : System pr} {labels : List (Label μ)}

def System.rank (s : System pr) : Nat := s.broker.rank + s.server.rank + s.clients.rank

/-- Each step of its own brings the system nearer to rest. -/
theorem System.rank_lt {l : Label μ} (h : s.step l = some s') (hl : l.own = true) :
    s'.rank < s.rank := by
  unfold System.rank
  cases System.steps_of_step h with
  | announce => cases hl
  | broker hb =>
    have hlt := hb.rank_lt
    dsimp only
    omega
  | server hv =>
    have hlt := hv.rank_lt fun he => by rw [he] at hl; cases hl
    dsimp only
    omega
  | @listen hub hsub hpc =>
    have hb := s.broker.rank_proxyUpdatePubSub hub
    have hm := Server.rank_move { s.server with timer := .newTimer .window } .listener .select
    have hle := (Timer.newTimer .window).rank_le
    rw [PubSub.sending_of_sub hsub, (pr.proxyUpdatePubSub.sub_eq_some hsub).1] at hb
    simp only [hpc, Stage.rank, if_true] at hm
    simp only [Server.rank] at hm ⊢
    omega
  | @inform hub hsub hpc =>
    have hb := s.broker.rank_proxyUpdatePubSub hub
    have hm := s.server.rank_move .informer .select
    rw [PubSub.sending_of_sub hsub, (pr.proxyUpdatePubSub.sub_eq_some hsub).1] at hb
    simp only [hpc, Stage.rank, reduceCtorEq, if_false] at hm
    dsimp only
    omega
  | @hear m hub hsend hpc =>
    have hb := s.broker.rank_proxyUpdatePubSub hub
    have hle := s.server.timer.rank_reset .window
    rw [(pr.proxyUpdatePubSub.send_eq_some hsend).1, List.length_cons] at hb
    simp only [Server.rank, Bool.toNat_true]
    omega
  | @update m hub hsend hpc =>
    have hb := s.broker.rank_proxyUpdatePubSub hub
    have hm := s.server.rank_move .informer .adding
    rw [(pr.proxyUpdatePubSub.send_eq_some hsend).1, List.length_cons] at hb
    simp only [hpc, Stage.rank] at hm
    dsimp only
    omega
  | @watch client hub hsub hnew =>
    have hb := s.broker.rank_kubeEventPubSub hub
    have hc := s.clients.rank_subscribe hnew
    rw [PubSub.sending_of_sub hsub, (pr.kubeEventPubSub.sub_eq_some hsub).1] at hb
    dsimp only
    omega
  | @notifyLogLevel item hub hsend =>
    have hb := s.broker.rank_kubeEventPubSub hub
    rw [(pr.kubeEventPubSub.send_eq_some hsend).1, List.length_cons] at hb
    dsimp only
    omega
  | @notifyTicker item hub hsend hpc =>
    have hb := s.broker.rank_kubeEventPubSub hub
    have hle := tickerRank_watchConfig pr.ticker s.clients.ticker (pr.message item)
    rw [(pr.kubeEventPubSub.send_eq_some hsend).1, List.length_cons] at hb
    simp only [Clients.rank]
    omega
  | ticker hticker ht =>
    have hlt := tickerRank_lt hticker ht
    simp only [Clients.rank]
    omega

theorem Server.Steps.nWorkers_eq {plane : Plane} {v v' : Server} {a : ServerAction}
    (h : v.Steps plane a v') : v'.workQueues.nWorkers = v.workQueues.nWorkers := by
  cases h with
  | addJob _ hadd => exact (addJob_eq_some hadd).2.2.2
  | take htake => exact (take_eq_some htake).2.2.2
  | finish _ hfinish => exact (finish_eq_some hfinish).2.2.2.2
  | _ => rfl

theorem nWorkers_of_reaches (h : pr.Reaches labels s) :
    s.server.workQueues.nWorkers = if pr.nWorkers = 0 then pr.goMaxProcs else pr.nWorkers := by
  refine Run.invariant_labels (fun _ (s : System pr) => s.server.workQueues.nWorkers =
    if pr.nWorkers = 0 then pr.goMaxProcs else pr.nWorkers) h rfl ?_
  intro _ s l s' hn hstep
  cases System.steps_of_step hstep with
  | server hv => exact hv.nWorkers_eq.trans hn
  | _ => exact hn

theorem length_add_rank_le {more : List (Label μ)} (h : s.Runs more s')
    (hown : ∀ l ∈ more, l.own = true) : more.length + s'.rank ≤ s.rank := by
  induction h with
  | nil => simp
  | snoc _ hstep ih =>
    rw [List.forall_mem_append, List.forall_mem_singleton] at hown
    have hle := ih hown.1
    have hlt := System.rank_lt hstep hown.2
    rw [List.length_append, List.length_singleton]
    omega

/-- **The system comes to rest**: when no more items are added and no job asks for another one, what
it does ends after so many steps. It ends at rest, or in a clash, which only a control plane has that
has not begun a job, or it hangs, which it does only when the resync interval is set to zero where no
ticker runs. -/
theorem comes_to_rest (hsize : 0 < if pr.nWorkers = 0 then pr.goMaxProcs else pr.nWorkers)
    (h : pr.Reaches labels s) {more : List (Label μ)} (hown : ∀ l ∈ more, l.own = true)
    (hrun : s.Runs more s') :
    more.length ≤ s.rank ∧ (s'.CanStep ∨ s'.Resting ∨
      s'.Clash ∧ pr.plane = .ctrl ∧ (∀ p, .server (.begin p) ∉ labels ++ more) ∨
      s'.Hung ∧ ¬ pr.ticker.Guarded (pr.ticker.minTickInterval ≤ pr.resyncInterval)
        ((labels ++ more).filterMap pr.resyncUpdate)) := by
  have hreach : pr.Reaches (labels ++ more) s' := Run.append h hrun
  have hlength := length_add_rank_le hrun hown
  refine ⟨by omega, ?_⟩
  by_cases hc : s'.Clash
  · exact .inr (.inr (.inl ⟨hc, hc.unbegun hreach⟩))
  by_cases hh : s'.Hung
  · exact .inr (.inr (.inr ⟨hh, hh.not_guarded hreach⟩))
  by_cases hrest : s'.Resting
  · exact .inr (.inl hrest)
  · refine .inl (canStep_of_not_resting (System.inv_of_reaches hreach) ?_ hc hh hrest)
    rw [nWorkers_of_reaches hreach]
    exact hsize

end

/-- The data plane with one item: it comes to rest within its rank. -/
theorem comes_to_rest_one :
    ∃ s s', (oneWorker proxyUpdate .data).Reaches [.subscribe .listener, .announce ()] s ∧
      s.Runs (oneUpdate.tail ++ listenerJob ++ listenerJob) s' ∧ s'.Resting ∧
      (oneUpdate.tail ++ listenerJob ++ listenerJob).length ≤ s.rank := by
  obtain ⟨s, hreach, s', hrun, hrest⟩ :
      ∃ s, (oneWorker proxyUpdate .data).Reaches [.subscribe .listener, .announce ()] s ∧
        ∃ s', s.Runs (oneUpdate.tail ++ listenerJob ++ listenerJob) s' ∧ s'.Resting :=
    ⟨_, run_of_foldlM rfl, _, run_of_foldlM rfl,
      ⟨rfl, rfl, rfl, rfl, rfl, rfl, rfl, .inl rfl, rfl⟩⟩
  have hown : ∀ l ∈ oneUpdate.tail ++ listenerJob ++ listenerJob, l.own = true := by decide
  exact ⟨s, s', hreach, hrun, hrest, (comes_to_rest (by decide) hreach hown hrun).1⟩

end Messaging
