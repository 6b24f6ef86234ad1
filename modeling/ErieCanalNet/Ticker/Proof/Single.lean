import ErieCanalNet.Ticker.Proof.Resync

/-!
# One ticker at a time

`watchConfig` stops the ticker before it starts another only if `running` is set, and the goroutine
sets it some time after it was spawned. An update that comes in between adds a ticker.

* `Alternates`: no update starts a ticker while one is started and not stopped since by an update to
  zero, the one stop that does not look at `running`;
* `Single`: what holds in every run whose events alternate (`single_of_reaches`);
* `canDouble_of_not_alternates`: the schedule that holds every goroutine back as long as it can has
  two tickers on any other events;
* `single_ticker_iff`: the two together.
-/

namespace Ticker

open Lib

/-- The ticker goroutines that were not sent a stop. -/
def State.tickers (s : State) : Nat := s.starting + s.ticking

namespace ResyncTicker

variable (t : ResyncTicker)

/-- `started`: a ticker was started and not stopped since. A stop without a ticker waits for good,
and nothing is handled after it, nor after `quit`. -/
def Alternates : Bool → List Event → Prop
  | _, [] => True
  | _, .quit :: _ => True
  | started, .update old new :: es =>
    match t.change old new with
    | .start _ => started = false ∧ Alternates true es
    | .stop => started = true → Alternates false es
    | .keep | .invalid => Alternates started es

/-! ## Alternating events -/

/-- With so many tickers, and the events `rest` still to come. -/
def SingleAt (rest : List Event) (tickers : Nat) : Watch → Prop
  | .select => tickers ≤ 1 ∧ t.Alternates (0 < tickers) rest
  | .testRunning _ | .spawn _ | .sending (.start _) | .clearing (.start _) =>
    tickers = 0 ∧ t.Alternates true rest
  | .sending .select => tickers ≤ 1 ∧ (0 < tickers → t.Alternates false rest)
  | .clearing .select => tickers = 0 ∧ t.Alternates false rest
  | .sending .exit | .clearing .exit | .returned => tickers ≤ 1

def Single (rest : List Event) (s : State) : Prop := t.SingleAt rest s.tickers s.watch

variable {t}

theorem SingleAt.le_one {rest : List Event} {tickers : Nat} :
    ∀ {watch : Watch}, t.SingleAt rest tickers watch → tickers ≤ 1
  | .select, h => h.1
  | .testRunning _, h => by simp [h.1]
  | .spawn _, h => by simp [h.1]
  | .sending (.start _), h => by simp [h.1]
  | .sending .select, h => h.1
  | .sending .exit, h => h
  | .clearing (.start _), h => by simp [h.1]
  | .clearing .select, h => by simp [h.1]
  | .clearing .exit, h => h
  | .returned, h => h

theorem single_start {resyncInterval : Int} {es : List Event}
    (h : t.Alternates (t.minTickInterval ≤ resyncInterval) es) :
    t.Single es (t.start resyncInterval) := by
  by_cases hmin : t.minTickInterval ≤ resyncInterval
  · simpa [Single, SingleAt, State.tickers, start, hmin] using h
  · simpa [Single, SingleAt, State.tickers, start, hmin] using h

theorem Single.event {e : Event} {rest : List Event} {s : State} (hi : t.Single (e :: rest) s)
    (hw : s.watch = .select) : t.Single rest (t.onEvent s e) := by
  obtain ⟨running, watch, starting, ticking, counter⟩ := s
  obtain rfl : watch = .select := hw
  obtain ⟨hone, halt⟩ := hi
  cases e with
  | quit => exact hone
  | update old new =>
    simp only [Alternates] at halt
    simp only [onEvent]
    cases hc : t.change old new with
    | keep =>
      rw [hc] at halt
      exact ⟨hone, halt⟩
    | invalid =>
      rw [hc] at halt
      exact ⟨hone, halt⟩
    | start interval =>
      rw [hc] at halt
      exact ⟨Nat.eq_zero_of_not_pos (of_decide_eq_false halt.1), halt.2⟩
    | stop =>
      rw [hc] at halt
      exact ⟨hone, fun hpos => halt (decide_eq_true hpos)⟩

theorem Single.next {rest : List Event} {s s' : State} (hi : t.Single rest s)
    (h : t.step s .next = some s') : t.Single rest s' := by
  unfold Single at hi
  rcases step_next_cases h with ⟨interval, hw, rfl⟩ | ⟨after, hw, rfl⟩ | ⟨interval, hw, rfl⟩
  · rw [hw] at hi
    cases hrunning : s.running with
    | false => exact hi
    | true => exact hi
  · rw [hw] at hi
    cases after with
    | start interval => exact hi
    | select =>
      obtain ⟨hzero, halt⟩ := hi
      have hnone : decide (0 < s.starting + s.ticking) = false := decide_eq_false hzero.le.not_gt
      exact ⟨hzero.le.trans (Nat.zero_le 1), hnone.symm ▸ halt⟩
    | exit => exact hi
  · rw [hw] at hi
    obtain ⟨hzero, halt⟩ := hi
    have hone : s.starting + 1 + s.ticking = 1 := by
      simp only [State.tickers] at hzero
      omega
    have hsome : decide (0 < s.starting + 1 + s.ticking) = true := decide_eq_true hone.ge
    exact ⟨hone.le, hsome.symm ▸ halt⟩

/-- A goroutine that is spawned counts as before when it starts. -/
theorem Single.starts {rest : List Event} {s s' : State} (hi : t.Single rest s)
    (h : t.step s .starts = some s') : t.Single rest s' := by
  obtain ⟨hpos, h⟩ := Option.ite_none_right_eq_some.1 h
  obtain rfl := Option.some.inj h
  have hcount : s.starting - 1 + (s.ticking + 1) = s.starting + s.ticking := by omega
  unfold Single State.tickers
  rwa [hcount]

/-- The one ticker is stopped. -/
theorem Single.receives {rest : List Event} {s s' : State} (hi : t.Single rest s)
    (h : t.step s .receives = some s') : t.Single rest s' := by
  obtain ⟨after, hw, hpos, rfl⟩ := step_receives_cases h
  have hone : s.starting + s.ticking ≤ 1 := SingleAt.le_one hi
  have hzero : s.starting + (s.ticking - 1) = 0 := by omega
  unfold Single at hi
  rw [hw] at hi
  cases after with
  | start interval => exact ⟨hzero, hi.2⟩
  | select => exact ⟨hzero, hi.2 (Nat.add_pos_right _ hpos)⟩
  | exit => exact hzero.le.trans (Nat.zero_le 1)

theorem single_of_reaches {resyncInterval : Int} {labels : List Label} {s : State}
    {rest : List Event} (hr : t.Reaches resyncInterval labels s)
    (hg : t.Alternates (t.minTickInterval ≤ resyncInterval) (events labels ++ rest)) :
    t.Single rest s :=
  invariant_of_reaches t.Single hr (single_start hg) Single.event Single.next Single.starts
    Single.receives

/-! ## Other events -/

/-- Nothing in flight but a ticker that has yet to set `running`, or without it. -/
def heldBack (started : Bool) (counter : UInt64) : State :=
  ⟨false, .select, started.toNat, 0, counter⟩

variable (t) in
/-- Some schedule of the goroutines has two tickers after a part of the events, all handled. -/
def CanDouble (s : State) (es : List Event) : Prop :=
  ∃ labels s', labels.foldlM t.step s = some s' ∧ events labels <+: es ∧ s'.watch = .select ∧
    s'.tickers = 2

theorem CanDouble.event {e : Event} {es : List Event} {s s' : State} (h : t.CanDouble s' es)
    (labels : List Label) (he : events labels = [e]) (hl : labels.foldlM t.step s = some s') :
    t.CanDouble s (e :: es) := by
  obtain ⟨labels', s'', hl', hes, hb⟩ := h
  refine ⟨labels ++ labels', s'', ?_, ?_, hb⟩
  · rw [List.foldlM_append, hl]
    exact hl'
  · rw [events_append, he]
    exact (List.prefix_append_right_inj [e]).2 hes

/-- The schedule that holds every goroutine back until it is to be stopped has two tickers where the
events do not alternate. -/
theorem canDouble_of_not_alternates : ∀ {es : List Event} {started : Bool} (counter : UInt64),
    ¬t.Alternates started es → t.CanDouble (heldBack started counter) es
  | [], _, _, h => absurd trivial h
  | .quit :: _, _, _, h => absurd trivial h
  | .update old new :: es, started, counter, h => by
    simp only [Alternates] at h
    cases hc : t.change old new with
    | keep =>
      rw [hc] at h
      refine (canDouble_of_not_alternates counter h).event [.event (.update old new)] rfl ?_
      simp [step, heldBack, onEvent, hc]
    | invalid =>
      rw [hc] at h
      refine (canDouble_of_not_alternates (counter + 1) h).event [.event (.update old new)] rfl ?_
      simp [step, heldBack, onEvent, hc]
    | start interval =>
      rw [hc] at h
      cases started with
      | false =>
        refine (canDouble_of_not_alternates counter fun halt => h ⟨rfl, halt⟩).event
          [.event (.update old new), .next, .next] rfl ?_
        simp [step, heldBack, onEvent, hc]
      | true =>
        refine ⟨[.event (.update old new), .next, .next], ⟨false, .select, 2, 0, counter⟩, ?_, ?_,
          rfl, rfl⟩
        · simp [step, heldBack, onEvent, hc]
        · simp [events]
    | stop =>
      rw [hc] at h
      cases started with
      | false => exact absurd (fun hs => absurd hs Bool.false_ne_true) h
      | true =>
        refine (canDouble_of_not_alternates counter fun halt => h fun _ => halt).event
          [.event (.update old new), .starts, .receives, .next] rfl ?_
        simp [step, heldBack, onEvent, hc, After.watch]

/-! ## The result -/

/-- **There is never a second ticker**, whatever the interleaving, exactly when no update starts a
ticker while another was started, by `Start` or by an update, with no update to zero in between. -/
theorem single_ticker_iff (t : ResyncTicker) (resyncInterval : Int) (es : List Event) :
    (∀ labels s, t.Reaches resyncInterval labels s → events labels <+: es → s.tickers ≤ 1) ↔
      t.Alternates (t.minTickInterval ≤ resyncInterval) es := by
  constructor
  · intro h
    by_contra hg
    have hstart : t.start resyncInterval =
        heldBack (t.minTickInterval ≤ resyncInterval) 0 := by
      by_cases hmin : t.minTickInterval ≤ resyncInterval
      · simp [start, heldBack, hmin]
      · simp [start, heldBack, hmin]
    obtain ⟨labels, s, hl, hes, -, htwo⟩ := canDouble_of_not_alternates 0 hg
    have hone := h labels s (run_of_foldlM (hstart ▸ hl)) hes
    omega
  · intro hg labels s hr hes
    obtain ⟨rest, rfl⟩ := hes
    exact SingleAt.le_one (single_of_reaches hr hg)

/-- Two updates before the goroutine of the first has set `running`: both are handled, and both
tickers are there. -/
theorem two_tickers_on_two_updates :
    ∃ labels s, ofCatalog.Reaches 0 labels s ∧
      events labels = [.update "" "30s", .update "30s" "60s"] ∧ s.watch = .select ∧
        s.tickers = 2 := by
  have hfirst : ofCatalog.change "" "30s" = .start 30000000000 := by decide +kernel
  have hsecond : ofCatalog.change "30s" "60s" = .start 60000000000 := by decide +kernel
  have hmin : ¬ofCatalog.minTickInterval ≤ 0 := by decide
  refine ⟨[.event (.update "" "30s"), .next, .next, .event (.update "30s" "60s"), .next, .next],
    ⟨false, .select, 2, 0, 0⟩, run_of_foldlM ?_, rfl, rfl, rfl⟩
  simp [step, start, onEvent, hfirst, hsecond, hmin]

end ResyncTicker

end Ticker
