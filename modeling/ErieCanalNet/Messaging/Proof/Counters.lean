import ErieCanalNet.Messaging.Proof.Updates

/-!
# The counters of the broker

`totalQEventCount` counts the items that were taken from the queue, `totalQProxyEventCount` those
that update proxies, and `totalDispatchedProxyEventCount`, which two goroutines increase, the
publishes. A counter is increased after what it counts, and is behind in between. Every publish has
an event of its own: `counters`.
-/

namespace Messaging

open Lib

/-! ## What is counted -/

section

variable {μ : Type}

def Label.isGet : Label μ → Bool
  | .broker (.get _) => true
  | _ => false

def Label.isUpdate (message : μ → PubSubMessage) : Label μ → Bool
  | .broker (.get item) => (topicOf message item).isSome
  | _ => false

def Label.isPublish : Label μ → Bool
  | .broker (.publish _ _) => true
  | _ => false

theorem countP_concat (f : Label μ → Bool) (labels : List (Label μ)) (l : Label μ) :
    (labels ++ [l]).countP f = labels.countP f + (f l).toNat := by
  cases h : f l <;> simp [h]

/-! ## What is still to be counted -/

/-- What is due for the item of the processor. -/
structure Account where
  /-- The item is not counted. -/
  item : Nat := 0
  /-- It updates proxies, and is not counted as such. -/
  update : Nat := 0
  /-- The next counter is that of the updates. -/
  recording : Nat := 0
  /-- There is an event to publish or to send. -/
  event : Nat := 0
  /-- There is a publish that is not counted. -/
  publish : Nat := 0

def Processor.account (message : μ → PubSubMessage) : Processor μ → Account
  | .got item => { item := 1, update := (topicOf message item).isSome.toNat }
  | .update _ _ => { update := 1, recording := 1 }
  | .pub _ _ | .send _ => { event := 1 }
  | .published _ => { publish := 1 }
  | .get | .kube _ | .done _ => {}

theorem account_processEvent {message : μ → PubSubMessage} (item : μ) :
    (processEvent message item).account message =
      { update := (topicOf message item).isSome.toNat
        recording := (topicOf message item).isSome.toNat } := by
  unfold processEvent
  cases topicOf message item <;> rfl

/-- The publish of the dispatcher that is not counted. -/
def State.publishing (d : State μ) : Nat := if d.pc = .count then 1 else 0

def Action.publishes : Action μ → Nat
  | .publish _ => 1
  | _ => 0

def Action.counts : Action μ → Nat
  | .count => 1
  | _ => 0

theorem publishing_step [DecidableEq μ] {d d' : State μ} {a : Action μ}
    (h : Messaging.step d a = some d') :
    d.publishing + a.publishes = a.counts + d'.publishing := by
  cases State.steps_of_step h with
  | expire => simp [State.publishing, Action.publishes, Action.counts]
  | receive hpc | exit hpc | fired hpc | clear hpc | stopped hpc | late hpc | drain hpc
  | resetSliding hpc | resetMax hpc | resetPending hpc | resetExpired hpc | publish hpc
  | count hpc => simp [State.publishing, hpc, Action.publishes, Action.counts]

end

/-! ## The invariant -/

section

variable {μ : Type} [DecidableEq μ] {pk : Packages μ} {message : μ → PubSubMessage}
  {labels : List (Label μ)} {l : Label μ} {b b' : Broker pk} {q p d : Nat}

/-- The counters have counted `q` items, `p` updates and `d` publishes. A batch of the dispatcher is
one event that was not published. -/
structure Counted (message : μ → PubSubMessage) (labels : List (Label μ)) (b : Broker pk)
    (q p d : Nat) : Prop where
  items : b.totalQEventCount = UInt64.ofNat q
  updates : b.totalQProxyEventCount = UInt64.ofNat p
  dispatched : b.totalDispatchedProxyEventCount = UInt64.ofNat d
  gets : labels.countP (·.isGet) = q + (b.processor.account message).item
  taken : labels.countP (·.isUpdate message) = p + (b.processor.account message).update
  publishes : labels.countP (·.isPublish) =
    d + (b.processor.account message).publish + b.dispatcher.publishing
  published_le : labels.countP (·.isPublish) + (b.processor.account message).event +
    b.dispatcher.holds.toNat ≤ p
  updates_le : p + (b.processor.account message).recording ≤ q

/-- A step that increases the counters by `i`, `j` and `k`. -/
theorem Counted.concat (hc : Counted message labels b q p d) (i j k : Nat) {x y : Account}
    (hx : b.processor.account message = x) (hy : b'.processor.account message = y)
    (hi : b'.totalQEventCount = b.totalQEventCount + UInt64.ofNat i)
    (hj : b'.totalQProxyEventCount = b.totalQProxyEventCount + UInt64.ofNat j)
    (hk : b'.totalDispatchedProxyEventCount = b.totalDispatchedProxyEventCount + UInt64.ofNat k)
    (hitem : x.item + l.isGet.toNat = i + y.item)
    (hupdate : x.update + (l.isUpdate message).toNat = j + y.update)
    (hpublish : x.publish + b.dispatcher.publishing + l.isPublish.toNat =
      k + y.publish + b'.dispatcher.publishing)
    (hevent : y.event + b'.dispatcher.holds.toNat + l.isPublish.toNat ≤
      x.event + b.dispatcher.holds.toNat + j)
    (hrecording : y.recording + j ≤ x.recording + i) :
    Counted message (labels ++ [l]) b' (q + i) (p + j) (d + k) := by
  have hgets := hc.gets
  have htaken := hc.taken
  have hpublishes := hc.publishes
  have hpublished := hc.published_le
  have hupdates := hc.updates_le
  rw [hx] at hgets htaken hpublishes hpublished hupdates
  refine ⟨?_, ?_, ?_, ?_, ?_, ?_, ?_, ?_⟩
  · rw [hi, hc.items, UInt64.ofNat_add]
  · rw [hj, hc.updates, UInt64.ofNat_add]
  · rw [hk, hc.dispatched, UInt64.ofNat_add]
  all_goals simp only [hy, countP_concat]; omega

/-- A step of the processor alone. -/
theorem Counted.process (hc : Counted message labels b q p d) (i j k : Nat) {x y : Account}
    (hx : b.processor.account message = x) (hy : b'.processor.account message = y)
    (hi : b'.totalQEventCount = b.totalQEventCount + UInt64.ofNat i)
    (hj : b'.totalQProxyEventCount = b.totalQProxyEventCount + UInt64.ofNat j)
    (hk : b'.totalDispatchedProxyEventCount = b.totalDispatchedProxyEventCount + UInt64.ofNat k)
    (hd : b'.dispatcher = b.dispatcher) (hitem : x.item + l.isGet.toNat = i + y.item)
    (hupdate : x.update + (l.isUpdate message).toNat = j + y.update)
    (hpublish : x.publish + l.isPublish.toNat = k + y.publish)
    (hevent : y.event + l.isPublish.toNat ≤ x.event + j)
    (hrecording : y.recording + j ≤ x.recording + i) :
    Counted message (labels ++ [l]) b' (q + i) (p + j) (d + k) := by
  refine hc.concat i j k hx hy hi hj hk hitem hupdate ?_ ?_ hrecording
  · rw [hd]
    omega
  · rw [hd]
    omega

theorem add_ofNat_zero (n : UInt64) : n = n + UInt64.ofNat 0 := (UInt64.add_zero n).symm

/-- A step that takes no item and publishes nothing, with the processor where it was. -/
theorem Counted.keep (hc : Counted message labels b q p d) (hget : l.isGet = false)
    (hupdate : l.isUpdate message = false) (hpublish : l.isPublish = false)
    (hi : b'.totalQEventCount = b.totalQEventCount)
    (hj : b'.totalQProxyEventCount = b.totalQProxyEventCount)
    (hk : b'.totalDispatchedProxyEventCount = b.totalDispatchedProxyEventCount)
    (hprocessor : b'.processor = b.processor)
    (hholds : b'.dispatcher.holds = b.dispatcher.holds)
    (hpublishing : b'.dispatcher.publishing = b.dispatcher.publishing) :
    Counted message (labels ++ [l]) b' q p d := by
  refine hc.concat 0 0 0 rfl rfl ?_ ?_ ?_ ?_ ?_ ?_ ?_ ?_
  · rw [hi, ← add_ofNat_zero]
  · rw [hj, ← add_ofNat_zero]
  · rw [hk, ← add_ofNat_zero]
  · simp [hget, hprocessor]
  · simp [hupdate, hprocessor]
  · simp [hpublish, hprocessor, hpublishing]
  · simp [hpublish, hprocessor, hholds]
  · simp [hprocessor]

/-- A step of the dispatcher that publishes nothing. -/
theorem Counted.dispatch {a : BrokerAction μ} {act : Action μ} {dispatcher : State μ}
    (hc : Counted message labels b q p d) (hi : b.Inv message)
    (hget : (Label.broker a).isGet = false) (hupdate : (Label.broker a).isUpdate message = false)
    (hpublish : (Label.broker a).isPublish = false)
    (hd : Messaging.step b.dispatcher act = some dispatcher) (hpublishes : ∀ e, act ≠ .publish e)
    (hreceive : ∀ e, act ≠ .receive e) (hcount : act ≠ .count) :
    Counted message (labels ++ [.broker a]) ({ b with dispatcher } : Broker pk) q p d := by
  obtain ⟨actions, hrun⟩ := hi.dispatcher.run
  have hpublishing := publishing_step hd
  refine hc.keep hget hupdate hpublish rfl rfl rfl rfl (holds_step hrun hd hpublishes hreceive) ?_
  cases act with
  | publish e => exact absurd rfl (hpublishes e)
  | count => exact absurd rfl hcount
  | _ => simpa [Action.publishes, Action.counts] using hpublishing.symm

theorem Counted.broker {a : BrokerAction μ} (hc : Counted message labels b q p d)
    (hi : b.Inv message) (h : b.Steps message a b') :
    ∃ q' p' d', Counted message (labels ++ [.broker a]) b' q' p' d' := by
  obtain ⟨actions, hrun⟩ := hi.dispatcher.run
  have zero := add_ofNat_zero
  cases h with
  | due => exact ⟨q, p, d, hc.keep rfl rfl rfl rfl rfl rfl rfl rfl rfl⟩
  | get hpc hget =>
    refine ⟨_, _, _, hc.process 0 0 0 (congrArg _ hpc) rfl (zero _) (zero _) (zero _) rfl
      rfl ?_ rfl (Nat.zero_le _) (Nat.zero_le _)⟩
    simp [Processor.account, Label.isUpdate]
  | @countEvent item hpc =>
    refine ⟨_, _, _, hc.process 1 0 0 (congrArg _ hpc) (account_processEvent item) rfl (zero _)
      (zero _) rfl rfl ?_ rfl (Nat.le_refl _) ?_⟩
    · simp [Processor.account, Label.isUpdate]
    · simpa [Processor.account] using Bool.toNat_le _
  | @countUpdate item topic hpc =>
    have hy : (if topic ≠ Kind.proxyUpdate.string then Processor.pub item topic
        else .send item).account message = { event := 1 } := by
      split <;> rfl
    exact ⟨_, _, _, hc.process 0 1 0 (congrArg _ hpc) hy (zero _) rfl (zero _) rfl
      rfl rfl rfl (Nat.le_refl _) (Nat.le_refl _)⟩
  | countPublish hpc =>
    exact ⟨_, _, _, hc.process 0 0 1 (congrArg _ hpc) rfl (zero _) (zero _) rfl rfl
      rfl rfl rfl (Nat.le_refl _) (Nat.le_refl _)⟩
  | pubProcessor hpc hpub =>
    exact ⟨_, _, _, hc.process 0 0 0 (congrArg _ hpc) rfl (zero _) (zero _) (zero _) rfl
      rfl rfl rfl (Nat.le_refl _) (Nat.le_refl _)⟩
  | pubDispatcher hpub hd =>
    obtain ⟨hholds, hholds'⟩ := holds_publish hrun hd
    have hpublishing := publishing_step hd
    simp only [Action.publishes, Action.counts] at hpublishing
    refine ⟨_, _, _, hc.concat 0 0 0 rfl rfl (zero _) (zero _) (zero _)
      ?_ ?_ ?_ ?_ (Nat.le_refl _)⟩
    · simp [Label.isGet]
    · simp [Label.isUpdate]
    · simp only [Label.isPublish, Bool.toNat_true]
      omega
    · simp [hholds, hholds', Label.isPublish]
  | send hpc hd =>
    have hpublishing := publishing_step hd
    simp only [Action.publishes, Action.counts] at hpublishing
    refine ⟨_, _, _, hc.concat 0 0 0 (congrArg _ hpc) rfl (zero _) (zero _) (zero _)
      rfl rfl ?_ ?_ (Nat.le_refl _)⟩
    · simp only [Processor.account, Label.isPublish, Bool.toNat_false]
      omega
    · simp [Processor.account, holds_receive hrun hd, Label.isPublish]
  | kube hpc | done hpc =>
    exact ⟨_, _, _, hc.process 0 0 0 (congrArg _ hpc) rfl (zero _) (zero _) (zero _) rfl
      rfl rfl rfl (Nat.le_refl _) (Nat.le_refl _)⟩
  | expire hd | fired hd | next hd =>
    exact ⟨q, p, d, hc.dispatch hi rfl rfl rfl hd (by simp) (by simp) (by simp)⟩
  | counted hd =>
    have hpublishing := publishing_step hd
    simp only [Action.publishes, Action.counts] at hpublishing
    refine ⟨_, _, _, hc.concat 0 0 1 rfl rfl (zero _) (zero _) rfl ?_ ?_ ?_ ?_ (Nat.le_refl _)⟩
    · simp [Label.isGet]
    · simp [Label.isUpdate]
    · simp only [Label.isPublish, Bool.toNat_false]
      omega
    · simp [holds_step hrun hd, Label.isPublish]

end

section

variable {μ : Type} [DecidableEq μ] {pr : Process μ} {labels : List (Label μ)} {s : System pr}

theorem counted_of_reaches (h : pr.Reaches labels s) :
    ∃ q p d, Counted pr.message labels s.broker q p d := by
  refine (Run.invariant_labels (fun labels (s : System pr) =>
    s.Inv ∧ ∃ q p d, Counted pr.message labels s.broker q p d)
    h ⟨System.inv_start, 0, 0, 0, rfl, rfl, rfl, rfl, rfl, rfl, Nat.le_refl _, Nat.le_refl _⟩ ?_).2
  intro labels s l s' ih hstep
  obtain ⟨hi, q, p, d, hc⟩ := ih
  refine ⟨hi.step hstep, ?_⟩
  cases System.steps_of_step hstep with
  | broker hb => exact hc.broker hi.broker hb
  | _ => exact ⟨q, p, d, hc.keep rfl rfl rfl rfl rfl rfl rfl rfl rfl⟩

/-- **The counters** are the numbers of items, of updates and of publishes, until they wrap. That of
the publishes may be two behind, the others one, and at rest they are exact; no number is greater
than the one before. -/
theorem counters (h : pr.Reaches labels s) :
    ∃ q p d, s.broker.totalQEventCount = UInt64.ofNat q ∧
      s.broker.totalQProxyEventCount = UInt64.ofNat p ∧
      s.broker.totalDispatchedProxyEventCount = UInt64.ofNat d ∧
      (d ≤ labels.countP (·.isPublish) ∧ labels.countP (·.isPublish) ≤ p ∧ p ≤ q ∧
        q ≤ labels.countP (·.isGet) ∧ p ≤ labels.countP (·.isUpdate pr.message)) ∧
      (labels.countP (·.isGet) ≤ q + 1 ∧ labels.countP (·.isUpdate pr.message) ≤ p + 1 ∧
        labels.countP (·.isPublish) ≤ d + 2) ∧
      (s.Resting → q = labels.countP (·.isGet) ∧ p = labels.countP (·.isUpdate pr.message) ∧
        d = labels.countP (·.isPublish)) := by
  obtain ⟨q, p, d, hc⟩ := counted_of_reaches h
  have hgets := hc.gets
  have htaken := hc.taken
  have hpublishes := hc.publishes
  have hpublished := hc.published_le
  have hupdates := hc.updates_le
  have haccount : (s.broker.processor.account pr.message).item ≤ 1 ∧
      (s.broker.processor.account pr.message).update ≤ 1 ∧
      (s.broker.processor.account pr.message).publish ≤ 1 := by
    cases s.broker.processor <;> simp [Processor.account, Bool.toNat_le]
  have hpublishing : s.broker.dispatcher.publishing ≤ 1 := by
    unfold State.publishing
    split <;> omega
  refine ⟨q, p, d, hc.items, hc.updates, hc.dispatched, by omega, by omega, fun hrest => ?_⟩
  have hd : s.broker.dispatcher.publishing = 0 := by simp [State.publishing, hrest.pc]
  rw [hrest.processor] at hgets htaken hpublishes
  simp only [Processor.account, hd] at hgets htaken hpublishes
  omega

end

/-- One item, one update, one publish. -/
theorem counters_one :
    ∃ s, (oneWorker proxyUpdate .data).Reaches
        (.subscribe .listener :: oneUpdate ++ listenerJob ++ listenerJob) s ∧
      s.broker.totalQEventCount = 1 ∧ s.broker.totalQProxyEventCount = 1 ∧
      s.broker.totalDispatchedProxyEventCount = 1 := by
  have hrun := run_of_foldlM (rfl :
    (.subscribe .listener :: oneUpdate ++ listenerJob ++ listenerJob).foldlM
      System.step (System.start (oneWorker proxyUpdate .data)) = some _)
  obtain ⟨q, p, d, hq, hp, hd, -, -, hrest⟩ := counters hrun
  obtain ⟨rfl, rfl, rfl⟩ := hrest ⟨rfl, rfl, rfl, rfl, rfl, rfl, rfl, .inl rfl, rfl⟩
  exact ⟨_, hrun, hq, hp, hd⟩

end Messaging
