import ErieCanalNet.Messaging.Proof.Progress

/-!
# What is stuck stays stuck

The circle of `Clash` is never left, and only a control plane that has begun no job gets into it: the
listener adds no job before the informer has subscribed (`Registers`). `clash_forever` puts the two
together.

A process that is `Hung` takes no item from its queue any more (`hung_forever`). The watcher of the
`EcnetConfig` in it is the one of `Ticker.Proof.Resync`, fed with the updates it is notified of
(`ticker_of_reaches`), so the process does not hang as long as they are guarded
(`Hung.not_guarded`).
-/

namespace Messaging

open Lib Workerpool

section

variable {μ : Type} [DecidableEq μ] {pr : Process μ} {s s' : System pr} {labels : List (Label μ)}

/-! ## Clashes -/

/-- In a clash nobody waits for a job, so there is none. -/
theorem System.Clash.step {l : Label μ} (hi : s.Inv) (hc : s.Clash) (h : s.Steps l s') :
    s'.Clash := by
  have hstage : ∀ p, s.server.stage p ≠ .waiting ∧ s.server.stage p ≠ .adding := by
    intro p
    cases p with
    | listener => simp [hc.listener]
    | informer => simp [hc.informer]
  have hjobs := fun p => hi.server.no_job (hstage p).1
  obtain ⟨m, rest, hsending⟩ := hc.sending
  have hbusy : pr.proxyUpdatePubSub.sending s.broker.proxyUpdatePubSub ≠ [] := by
    rw [hsending]
    exact List.cons_ne_nil _ _
  cases h with
  | broker hb =>
    rcases hb.hub_cases with heq | ⟨_, _, _, hpub⟩
    · exact ⟨hc.listener, hc.informer, m, rest, by rw [heq, hsending]⟩
    · exact absurd (PubSub.sending_of_pub hpub).1 hbusy
  | server hv =>
    cases hv with
    | register hpc | fire hpc => rw [hc.listener] at hpc; cases hpc
    | registered _ hinformer => rw [hc.informer] at hinformer; cases hinformer
    | addJob hpc => exact absurd hpc (hstage _).2
    | take htake =>
      obtain ⟨hj, -⟩ := take_eq_some htake
      exact absurd (hj ▸ List.mem_cons_self) (hjobs _).1
    | begin hrunning => exact absurd hrunning (hjobs _).2
    | finish hholder => exact absurd (hi.server.holder _ hholder) (hjobs _).2
    | resume hpc => exact absurd hpc (hstage _).1
    | expire | retry => exact ⟨hc.listener, hc.informer, hc.sending⟩
  | listen hsub | inform hsub => exact absurd (PubSub.sending_of_sub hsub) hbusy
  | hear _ hpc => rw [hc.listener] at hpc; cases hpc
  | update _ hpc => rw [hc.informer] at hpc; cases hpc
  | _ => exact ⟨hc.listener, hc.informer, hc.sending⟩

/-! ## Registration -/

/-- The data plane registers no proxy. In the control plane the listener adds no job before the
informer has subscribed. -/
structure Server.Registers (plane : Plane) (v : Server) : Prop where
  data : plane = .data → v.stage .informer = .absent
  subscribing : v.stage .informer = .subscribing → v.stage .listener = .registering
  ctrl : plane = .ctrl → v.stage .listener = .adding ∨ v.stage .listener = .waiting →
    (v.stage .informer).subscribed = true

/-- The informer goes on. -/
theorem Server.Registers.move_informer {v v' : Server} (hr : v.Registers plane)
    (hne : v.stage .informer ≠ .absent) (hsub : (v'.stage .informer).subscribed = true) :
    v'.Registers plane where
  data := fun hd => absurd (hr.data hd) hne
  subscribing := fun hs => by
    rw [hs] at hsub
    cases hsub
  ctrl := fun _ _ => hsub

/-- The listener goes on, but not to a job that it had not. -/
theorem Server.Registers.move_listener {v v' : Server} (hr : v.Registers plane)
    (hpc : v.stage .listener ≠ .registering) (hinformer : v'.stage .informer = v.stage .informer)
    (hctrl : plane = .ctrl → v'.stage .listener = .adding ∨ v'.stage .listener = .waiting →
      (v.stage .informer).subscribed = true) : v'.Registers plane where
  data := fun hd => hinformer ▸ hr.data hd
  subscribing := fun hs => absurd (hr.subscribing (hinformer ▸ hs)) hpc
  ctrl := fun hplane hl => hinformer ▸ hctrl hplane hl

theorem Server.Registers.step {v v' : Server} {a : ServerAction} (hr : v.Registers plane)
    (h : v.Steps plane a v') : v'.Registers plane := by
  cases h with
  | expire | take | begin | retry | finish => exact ⟨hr.data, hr.subscribing, hr.ctrl⟩
  | register hpc hvalue hplane habsent =>
    refine ⟨fun hd => ?_, fun _ => by simp, fun _ hl => by simp at hl⟩
    rw [hplane] at hd
    cases hd
  | fire hpc hvalue hregistered =>
    refine hr.move_listener (by simp [hpc]) (by simp) fun hplane _ => ?_
    have hne : v.stage .informer ≠ .subscribing := by
      intro he
      have hl := hr.subscribing he
      rw [hpc] at hl
      cases hl
    have habsent := hregistered hplane
    generalize v.stage .informer = stage at hne habsent
    cases stage <;> simp_all [Stage.subscribed]
  | registered hpc hinformer =>
    refine ⟨fun hd => by simpa using hr.data hd, fun hs => ?_, fun _ _ => by simpa using hinformer⟩
    have he : v.stage .informer = .subscribing := by simpa using hs
    rw [he] at hinformer
    cases hinformer
  | @addJob p wp hpc hadd =>
    cases p with
    | listener =>
      exact hr.move_listener (by simp [hpc]) (by simp) fun hplane _ => hr.ctrl hplane (.inl hpc)
    | informer => exact hr.move_informer (by simp [hpc]) (by simp [Stage.subscribed])
  | @resume p hpc hdone =>
    cases p with
    | listener =>
      exact hr.move_listener (by simp [hpc]) (by simp) fun hplane _ => hr.ctrl hplane (.inr hpc)
    | informer => exact hr.move_informer (by simp [hpc]) (by simp [Stage.subscribed])

theorem System.Steps.registers {l : Label μ} (h : s.Steps l s')
    (hr : s.server.Registers pr.plane) : s'.server.Registers pr.plane := by
  cases h with
  | server hv => exact hr.step hv
  | listen _ hpc => exact hr.move_listener (by simp [hpc]) (by simp) fun _ hl => by simp at hl
  | inform _ hpc => exact hr.move_informer (by simp [hpc]) (by simp [Stage.subscribed])
  | hear => exact ⟨hr.data, hr.subscribing, hr.ctrl⟩
  | update _ hpc => exact hr.move_informer (by simp [hpc]) (by simp [Stage.subscribed])
  | _ => exact hr

theorem System.Steps.subscribed {l : Label μ} {p : Party} (h : s.Steps l s')
    (hp : (s.server.stage p).subscribed = true) : (s'.server.stage p).subscribed = true := by
  cases h with
  | server hv => exact (hv.subscribed p).trans hp
  | listen | inform =>
    dsimp only
    rw [Server.stage_move]
    split
    · rfl
    · exact hp
  | update _ hpc => exact (subscribed_move (by rw [hpc]; rfl) p).trans hp
  | _ => exact hp

theorem registers_of_reaches (h : pr.Reaches labels s) : s.server.Registers pr.plane := by
  refine Run.invariant_labels (fun _ (s : System pr) => s.server.Registers pr.plane) h ?start
    fun hr hstep => (System.steps_of_step hstep).registers hr
  refine ⟨fun _ => rfl, fun hs => ?_, fun _ hl => ?_⟩
  · cases hs
  · rcases hl with hl | hl <;> cases hl

theorem subscribed_of_begun (hplane : pr.plane = .ctrl) (h : pr.Reaches labels s) {p : Party}
    (hp : .server (.begin p) ∈ labels) : (s.server.stage .informer).subscribed = true := by
  induction h with
  | nil => cases hp
  | @snoc labels l s₁ s₂ hrun hstep ih =>
    have hsteps := System.steps_of_step hstep
    rcases List.mem_append.1 hp with hp | hp
    · exact hsteps.subscribed (ih hp)
    · obtain rfl := List.mem_singleton.1 hp
      cases hsteps with
      | server hv =>
        cases hv with
        | begin hrunning hholder =>
          -- whose job it is waits for it, so the proxy was registered before
          have hwaiting : s₁.server.stage p = .waiting :=
            by_contra fun hne => ((System.inv_of_reaches hrun).server.no_job hne).2 hrunning
          cases p with
          | listener => exact (registers_of_reaches hrun).ctrl hplane (.inr hwaiting)
          | informer =>
            show (s₁.server.stage .informer).subscribed = true
            rw [hwaiting]
            rfl

/-- Only a control plane clashes, and only one in which no job has begun. -/
theorem System.Clash.unbegun (hc : s.Clash) (h : pr.Reaches labels s) :
    pr.plane = .ctrl ∧ ∀ p, .server (.begin p) ∉ labels := by
  cases hplane : pr.plane with
  | ctrl =>
    refine ⟨rfl, fun p hp => ?_⟩
    have hsub := subscribed_of_begun hplane h hp
    rw [hc.informer] at hsub
    cases hsub
  | data =>
    have habsent := (registers_of_reaches h).data hplane
    rw [hc.informer] at habsent
    cases habsent

/-- **A clash is the end**: whatever is added and however long it runs, a control plane that has
clashed begins no job, and it has begun none before. -/
theorem clash_forever (h : pr.Reaches labels s) (hc : s.Clash) {more : List (Label μ)}
    (hrun : s.Runs more s') : s'.Clash ∧ ∀ p, .server (.begin p) ∉ labels ++ more := by
  have hclash : s'.Inv ∧ s'.Clash :=
    Run.invariant_labels (fun _ (s : System pr) => s.Inv ∧ s.Clash) hrun
      ⟨System.inv_of_reaches h, hc⟩ fun hinv hstep =>
        ⟨hinv.1.step hstep, hinv.2.step hinv.1 (System.steps_of_step hstep)⟩
  exact ⟨hclash.2, (hclash.2.unbegun (Run.append h hrun)).2⟩

end

/-- A control plane whose first update is sent while the timer of the listener has expired, and which
takes the timer first. -/
def clashing : List (Label Unit) :=
  .subscribe .listener :: oneBatch ++
    [.server .expire, .broker (.publish .dispatcher [.listener]), .server .fire]

theorem clash_reached :
    ∃ s, (oneWorker proxyUpdate .ctrl).Reaches clashing s ∧ s.Clash ∧
      ∀ more s', s.Runs more s' → ∀ p, .server (.begin p) ∉ clashing ++ more := by
  have hreach := run_of_foldlM (rfl :
    clashing.foldlM System.step (System.start (oneWorker proxyUpdate .ctrl)) = some _)
  refine ⟨_, hreach, ?clash, fun more s' hrun => (clash_forever hreach ?clash hrun).2⟩
  exact ⟨rfl, rfl, _, _, rfl⟩

/-! ## Hangs -/

section

variable {μ : Type} [DecidableEq μ] {pr : Process μ} {s s' : System pr} {labels : List (Label μ)}

/-- A watcher that waits for no one waits for good. -/
theorem not_step_of_blocked {t : Ticker.ResyncTicker} {s s' : Ticker.State}
    {l : Ticker.Label} (hb : s.Blocked) (hl : l = .next ∨ l = .starts ∨ l = .receives) :
    t.step s l ≠ some s' := by
  obtain ⟨⟨after, hw⟩, hstarting, hticking⟩ := hb
  intro h
  rcases hl with rfl | rfl | rfl
  · simp [Ticker.ResyncTicker.step, hw] at h
  · simp [Ticker.ResyncTicker.step, hstarting] at h
  · simp [Ticker.ResyncTicker.step, hw, hticking] at h

theorem System.Hung.step {l : Label μ} (hh : s.Hung) (h : s.Steps l s') :
    s'.Hung ∧ ∀ item, l ≠ .broker (.get item) := by
  obtain ⟨⟨item, hpc⟩, ⟨item', rest, hsending⟩, hblocked⟩ := hh
  have hbusy : pr.kubeEventPubSub.sending s.broker.kubeEventPubSub ≠ [] := by
    rw [hsending]
    exact List.cons_ne_nil _ _
  have hkeep : ∀ {b : Broker pr.toPackages} {v : Server},
      b.processor = s.broker.processor → b.kubeEventPubSub = s.broker.kubeEventPubSub →
        ({ s with broker := b, server := v } : System pr).Hung := by
    intro b v hb hk
    exact ⟨⟨item, hb.trans hpc⟩, ⟨item', rest, by rw [hk, hsending]⟩, hblocked⟩
  cases h with
  | broker hb =>
    cases hb with
    -- the processor is at its `Pub`, and at no other statement
    | get h | countEvent h | countUpdate h | countPublish h | pubProcessor h | send h | done h =>
      rw [hpc] at h
      cases h
    | kube _ hpub => exact absurd (PubSub.sending_of_pub hpub).1 hbusy
    | _ => exact ⟨hkeep rfl rfl, by simp⟩
  | watch hsub => exact absurd (PubSub.sending_of_sub hsub) hbusy
  | notifyLogLevel hsend =>
    rw [(pr.kubeEventPubSub.send_eq_some hsend).1] at hsending
    cases hsending
  | notifyTicker hsend hselect =>
    obtain ⟨⟨after, hw⟩, -⟩ := hblocked
    rw [hselect] at hw
    cases hw
  | ticker hl ht => exact absurd ht (not_step_of_blocked hblocked hl)
  | _ => exact ⟨hkeep rfl rfl, by simp⟩

/-- **A hang is the end**: whatever is added and however long it runs, a process that hangs takes no
item from its queue. -/
theorem hung_forever (hh : s.Hung) {more : List (Label μ)} (hrun : s.Runs more s') :
    s'.Hung ∧ ∀ item, .broker (.get item) ∉ more := by
  refine Run.invariant_labels (fun more (s : System pr) =>
    s.Hung ∧ ∀ item, .broker (.get item) ∉ more) hrun ⟨hh, by simp⟩ ?_
  intro more s₁ l s₂ ih hstep
  obtain ⟨hh', hl⟩ := ih.1.step (System.steps_of_step hstep)
  refine ⟨hh', fun item hitem => ?_⟩
  rcases List.mem_append.1 hitem with hitem | hitem
  · exact ih.2 item hitem
  · exact hl item (List.mem_singleton.1 hitem).symm

/-- The update of the resync interval that a step brings to `watchConfig`. -/
def Process.resyncUpdate (pr : Process μ) : Label μ → Option Ticker.Event
  | .notify .ticker item => (pr.message item).resyncIntervals.map fun e => .update e.1 e.2
  | _ => none

/-- The watcher inside the system is one of its own, with the updates it is notified of. -/
theorem ticker_of_reaches (h : pr.Reaches labels s) :
    ∃ ticks, pr.ticker.Reaches pr.resyncInterval ticks s.clients.ticker ∧
      Ticker.events ticks = labels.filterMap pr.resyncUpdate := by
  refine Run.invariant_labels (fun labels (s : System pr) =>
    ∃ ticks, pr.ticker.Reaches pr.resyncInterval ticks s.clients.ticker ∧
      Ticker.events ticks = labels.filterMap pr.resyncUpdate) h ⟨[], .nil, rfl⟩ ?_
  intro labels s l s' ih hstep
  obtain ⟨ticks, hrun, hevents⟩ := ih
  rw [List.filterMap_append, ← hevents]
  cases System.steps_of_step hstep with
  | @notifyTicker item hub hsend hpc =>
    unfold watchConfig
    cases hre : (pr.message item).resyncIntervals with
    | none => exact ⟨ticks, hrun, by simp [Process.resyncUpdate, hre]⟩
    | some e =>
      have ht : pr.ticker.step s.clients.ticker (.event (.update e.1 e.2)) =
          some (pr.ticker.onEvent s.clients.ticker (.update e.1 e.2)) := if_pos hpc
      refine ⟨ticks ++ [.event (.update e.1 e.2)], hrun.snoc ht, ?_⟩
      rw [Ticker.events_append]
      simp [Process.resyncUpdate, hre, Ticker.events]
  | @ticker l t hl ht =>
    refine ⟨ticks ++ [l], hrun.snoc ht, ?_⟩
    rw [Ticker.events_append]
    rcases hl with rfl | rfl | rfl <;> rfl
  | _ => exact ⟨ticks, hrun, (List.append_nil _).symm⟩

/-- A process hangs only when an interval is set to zero, and no ticker was started before and not
stopped since. -/
theorem System.Hung.not_guarded (hh : s.Hung) (h : pr.Reaches labels s) :
    ¬ pr.ticker.Guarded (pr.ticker.minTickInterval ≤ pr.resyncInterval)
      (labels.filterMap pr.resyncUpdate) := by
  intro hg
  obtain ⟨ticks, hrun, hevents⟩ := ticker_of_reaches h
  exact Ticker.ResyncTicker.not_blocked_of_guarded hrun (hevents ▸ List.prefix_rfl) hg hh.ticker

end

/-- The `EcnetConfig`, with a resync interval. -/
def resyncConfig (interval : String) : Ctrl.EcnetConfig :=
  ⟨⟨"ecnet", "config", by decide, by decide⟩, { configResyncInterval := interval }⟩

/-- The interval is set to zero, or the `EcnetConfig` is told of once more. -/
def zeroInterval (again : Bool) : PubSubMessage :=
  Resource.ecnetConfig.eventTypes.message .ecnetConfig
    (.update (resyncConfig (if again then "0s" else "")) (resyncConfig "0s"))

/-- An item that updates no proxies, from the handler to `kubeEventPubSub`. -/
def toKube (item : Bool) : List (Label Bool) :=
  [.announce item, .broker (.due item), .broker (.get item), .broker .count]

/-- No ticker runs when the interval is set to zero; the next item is not received, and the one after
it not published. -/
def hanging : List (Label Bool) :=
  .watch .ticker :: toKube false ++
    [.broker (.kube [.ticker]), .broker .done, .notify .ticker false] ++ toKube true ++
    [.broker (.kube [.ticker]), .broker .done] ++ toKube true

theorem hung_reached :
    ∃ s, (oneWorker zeroInterval .ctrl).Reaches hanging s ∧ s.Hung ∧
      ∀ more s', s.Runs more s' → ∀ item, .broker (.get item) ∉ more := by
  have hreach := run_of_foldlM (rfl :
    hanging.foldlM System.step (System.start (oneWorker zeroInterval .ctrl)) = some _)
  refine ⟨_, hreach, ?hung, fun more s' hrun => (hung_forever ?hung hrun).2⟩
  refine ⟨⟨true, rfl⟩, ⟨true, [], rfl⟩, ⟨.select, ?_⟩, ?_, ?_⟩
  all_goals decide +kernel

end Messaging
