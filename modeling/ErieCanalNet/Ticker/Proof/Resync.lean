import ErieCanalNet.Ticker.Resync

/-!
# When `watchConfig` waits for no one

`stopTicker` is called without the test of `running` on a zero interval and on `quit`. It then
waits for good unless a ticker was started and not stopped since.

* `step_next_cases`, `step_receives_cases`: what a step does; `invariant_of_reaches`: the rule for
  invariants that speak of the events still to come;
* `Guarded`: the events are such that a started ticker comes before each of these calls;
* `Inv`: what holds in every run whose events are guarded (`inv_of_reaches`);
* `canBlock_of_not_guarded`: the schedule that runs every goroutine as far as it goes blocks on any
  other events;
* `never_blocked_iff`: the two together.
-/

namespace Ticker

open Lib

/-- The events of a run. -/
def events (labels : List Label) : List Event :=
  labels.filterMap fun | .event e => some e | _ => none

theorem events_append (labels labels' : List Label) :
    events (labels ++ labels') = events labels ++ events labels' := List.filterMap_append

/-- `watchConfig` receives no more events. -/
def Watch.exiting : Watch → Bool
  | .sending .exit | .clearing .exit | .returned => true
  | _ => false

/-- With so many ticker goroutines: one is there, or `watchConfig` is about to start one. -/
def Watch.Started (tickers : Nat) : Watch → Prop
  | .select => 0 < tickers
  | .testRunning _ | .spawn _ | .sending (.start _) | .clearing (.start _) => True
  | _ => False

namespace ResyncTicker

variable (t : ResyncTicker)

/-! ## Steps and runs -/

section Step

variable {t} {s s' : State}

theorem step_next_cases (h : t.step s .next = some s') :
    (∃ interval, s.watch = .testRunning interval ∧ s' = { s with
      watch := if s.running then .sending (.start interval) else .spawn interval }) ∨
    (∃ after, s.watch = .clearing after ∧ s' = { s with running := false, watch := after.watch }) ∨
    ∃ interval, s.watch = .spawn interval ∧
      s' = { s with starting := s.starting + 1, watch := .select } := by
  simp only [step] at h
  split at h
  · rename_i interval hw
    exact .inl ⟨interval, hw, (Option.some.inj h).symm⟩
  · rename_i after hw
    exact .inr (.inl ⟨after, hw, (Option.some.inj h).symm⟩)
  · rename_i interval hw
    exact .inr (.inr ⟨interval, hw, (Option.some.inj h).symm⟩)
  all_goals cases h

theorem step_receives_cases (h : t.step s .receives = some s') :
    ∃ after, s.watch = .sending after ∧ 0 < s.ticking ∧
      s' = { s with ticking := s.ticking - 1, watch := .clearing after } := by
  simp only [step] at h
  split at h
  · rename_i after hw
    obtain ⟨hpos, h⟩ := Option.ite_none_right_eq_some.1 h
    exact ⟨after, hw, hpos, (Option.some.inj h).symm⟩
  · cases h

/-- **The invariant rule**: `P rest` is what holds of a state when the events `rest` are still to
come. -/
theorem invariant_of_reaches (P : List Event → State → Prop) {resyncInterval : Int}
    {labels : List Label} {rest : List Event} (hr : t.Reaches resyncInterval labels s)
    (hstart : P (events labels ++ rest) (t.start resyncInterval))
    (hevent : ∀ {e rest s}, P (e :: rest) s → s.watch = .select → P rest (t.onEvent s e))
    (hnext : ∀ {rest s s'}, P rest s → t.step s .next = some s' → P rest s')
    (hstarts : ∀ {rest s s'}, P rest s → t.step s .starts = some s' → P rest s')
    (hreceives : ∀ {rest s s'}, P rest s → t.step s .receives = some s' → P rest s') :
    P rest s := by
  refine Run.invariant_labels
    (fun ls s => ∀ rest', events ls ++ rest' = events labels ++ rest → P rest' s)
    hr ?_ ?_ rest rfl
  · intro rest' he
    rw [← he] at hstart
    exact hstart
  · intro ls s₁ l s₂ ih hs rest' he
    have hP : P (events [l] ++ rest') s₁ := ih _ (by rw [← he, events_append, List.append_assoc])
    cases l with
    | event e =>
      obtain ⟨hw, hs⟩ := Option.ite_none_right_eq_some.1 hs
      obtain rfl := Option.some.inj hs
      exact hevent hP hw
    | next => exact hnext hP hs
    | starts => exact hstarts hP hs
    | receives => exact hreceives hP hs
    | tick =>
      obtain ⟨-, hs⟩ := Option.ite_none_right_eq_some.1 hs
      obtain rfl := Option.some.inj hs
      exact hP

end Step

/-- `started`: a ticker was started and not stopped since. Every stop, and the first `quit`,
comes after such a start. -/
def Guarded : Bool → List Event → Prop
  | _, [] => True
  | started, .quit :: _ => started = true
  | started, .update old new :: es =>
    match t.change old new with
    | .start _ => Guarded true es
    | .stop => started = true ∧ Guarded false es
    | .keep | .invalid => Guarded started es

/-! ## Guarded events -/

/-- `rest`: the events that are still to come. -/
structure Inv (rest : List Event) (s : State) : Prop where
  running : s.running = true → 0 < s.ticking ∨ ∃ after, s.watch = .clearing after
  sending : ∀ after, s.watch = .sending after → 0 < s.starting + s.ticking
  guarded : s.watch.exiting = false → ∃ started, t.Guarded started rest ∧
    (started = true → s.watch.Started (s.starting + s.ticking))

variable {t}

theorem inv_start {resyncInterval : Int} {es : List Event}
    (h : t.Guarded (t.minTickInterval ≤ resyncInterval) es) :
    t.Inv es (t.start resyncInterval) where
  running := nofun
  sending := nofun
  guarded := fun _ => ⟨_, h, fun hs => by
    simp only [decide_eq_true_eq] at hs
    simp [Watch.Started, start, hs]⟩

theorem Inv.event {e : Event} {rest : List Event} {s : State} (hi : t.Inv (e :: rest) s)
    (hw : s.watch = .select) : t.Inv rest (t.onEvent s e) := by
  obtain ⟨running, watch, starting, ticking, counter⟩ := s
  obtain rfl : watch = .select := hw
  obtain ⟨hrun, -, hg⟩ := hi
  obtain ⟨started, hguard, hstarted⟩ := hg rfl
  have hticking : running = true → 0 < ticking := fun h => (hrun h).resolve_right nofun
  cases e with
  | quit =>
    have htickers := hstarted hguard
    exact ⟨fun h => .inl (hticking h), fun _ _ => htickers, nofun⟩
  | update old new =>
    simp only [Guarded] at hguard
    simp only [onEvent]
    cases hc : t.change old new with
    | keep =>
      rw [hc] at hguard
      exact ⟨hrun, nofun, fun _ => ⟨started, hguard, hstarted⟩⟩
    | start interval =>
      rw [hc] at hguard
      exact ⟨fun h => .inl (hticking h), nofun, fun _ => ⟨true, hguard, fun _ => trivial⟩⟩
    | stop =>
      rw [hc] at hguard
      have htickers := hstarted hguard.1
      exact ⟨fun h => .inl (hticking h), fun _ _ => htickers, fun _ => ⟨false, hguard.2, nofun⟩⟩
    | invalid =>
      rw [hc] at hguard
      exact ⟨hrun, nofun, fun _ => ⟨started, hguard, hstarted⟩⟩

theorem Inv.next {rest : List Event} {s s' : State} (hi : t.Inv rest s)
    (h : t.step s .next = some s') : t.Inv rest s' := by
  obtain ⟨hrun, -, hg⟩ := hi
  rcases step_next_cases h with ⟨interval, hw, rfl⟩ | ⟨after, hw, rfl⟩ | ⟨interval, hw, rfl⟩
  · rw [hw] at hrun hg
    obtain ⟨started, hguard, -⟩ := hg rfl
    cases hrunning : s.running with
    | false => exact ⟨nofun, nofun, fun _ => ⟨started, hguard, fun _ => trivial⟩⟩
    | true =>
      -- the flag is set by a goroutine in its loop, and only `watchConfig` ends one
      have hticking : 0 < s.ticking := (hrun hrunning).resolve_right nofun
      exact ⟨fun _ => .inl hticking, fun _ _ => Nat.add_pos_right _ hticking,
        fun _ => ⟨started, hguard, fun _ => trivial⟩⟩
  · rw [hw] at hg
    cases after with
    | start interval =>
      obtain ⟨started, hguard, -⟩ := hg rfl
      exact ⟨nofun, nofun, fun _ => ⟨started, hguard, fun _ => trivial⟩⟩
    | select =>
      obtain ⟨started, hguard, hstarted⟩ := hg rfl
      exact ⟨nofun, nofun, fun _ => ⟨started, hguard, fun h => (hstarted h).elim⟩⟩
    | exit => exact ⟨nofun, nofun, nofun⟩
  · rw [hw] at hrun hg
    obtain ⟨started, hguard, -⟩ := hg rfl
    refine ⟨fun h => .inl ((hrun h).resolve_right nofun), nofun,
      fun _ => ⟨started, hguard, fun _ => ?_⟩⟩
    simp only [Watch.Started]
    omega

/-- A goroutine that is spawned counts as before when it starts. -/
theorem Inv.starts {rest : List Event} {s s' : State} (hi : t.Inv rest s)
    (h : t.step s .starts = some s') : t.Inv rest s' := by
  obtain ⟨running, watch, starting, ticking, counter⟩ := s
  obtain ⟨hpos, h⟩ := Option.ite_none_right_eq_some.1 h
  obtain rfl := Option.some.inj h
  simp only at hpos
  have hcount : starting - 1 + (ticking + 1) = starting + ticking := by omega
  refine ⟨fun _ => .inl (Nat.succ_pos _), ?_, ?_⟩
  · rw [hcount]
    exact hi.sending
  · rw [hcount]
    exact hi.guarded

theorem Inv.receives {rest : List Event} {s s' : State} (hi : t.Inv rest s)
    (h : t.step s .receives = some s') : t.Inv rest s' := by
  obtain ⟨after, hw, -, rfl⟩ := step_receives_cases h
  have hg := hi.guarded
  rw [hw] at hg
  refine ⟨fun _ => .inr ⟨after, rfl⟩, nofun, fun hx => ?_⟩
  cases after with
  | start interval => exact hg hx
  | select => exact hg hx
  | exit => cases hx

theorem inv_of_reaches {resyncInterval : Int} {labels : List Label} {s : State}
    {rest : List Event} (hr : t.Reaches resyncInterval labels s)
    (hg : t.Guarded (t.minTickInterval ≤ resyncInterval) (events labels ++ rest)) :
    t.Inv rest s :=
  invariant_of_reaches t.Inv hr (inv_start hg) Inv.event Inv.next Inv.starts Inv.receives

/-! ## Other events -/

/-- Nothing in flight, with a ticker or without. -/
def settled (started : Bool) (counter : UInt64) : State :=
  ⟨started, .select, 0, started.toNat, counter⟩

variable (t) in
/-- Some schedule of the goroutines ends blocked on a part of the events. -/
def CanBlock (s : State) (es : List Event) : Prop :=
  ∃ labels s', labels.foldlM t.step s = some s' ∧ events labels <+: es ∧ s'.Blocked

theorem CanBlock.event {e : Event} {es : List Event} {s s' : State} (h : t.CanBlock s' es)
    (labels : List Label) (he : events labels = [e]) (hl : labels.foldlM t.step s = some s') :
    t.CanBlock s (e :: es) := by
  obtain ⟨labels', s'', hl', hes, hb⟩ := h
  refine ⟨labels ++ labels', s'', ?_, ?_, hb⟩
  · rw [List.foldlM_append, hl]
    exact hl'
  · rw [events_append, he]
    exact (List.prefix_append_right_inj [e]).2 hes

/-- The schedule that runs every goroutine as far as it goes blocks where the guard fails. -/
theorem canBlock_of_not_guarded : ∀ {es : List Event} {started : Bool} (counter : UInt64),
    ¬t.Guarded started es → t.CanBlock (settled started counter) es
  | [], _, _, h => absurd trivial h
  | .quit :: es, started, counter, h => by
    obtain rfl : started = false := by simpa [Guarded] using h
    exact ⟨[.event .quit], _, rfl, by simp [events], ⟨_, rfl⟩, rfl, rfl⟩
  | .update old new :: es, started, counter, h => by
    simp only [Guarded] at h
    cases hc : t.change old new with
    | keep =>
      rw [hc] at h
      refine (canBlock_of_not_guarded counter h).event [.event (.update old new)] rfl ?_
      simp [step, settled, onEvent, hc]
    | invalid =>
      rw [hc] at h
      refine (canBlock_of_not_guarded (counter + 1) h).event [.event (.update old new)] rfl ?_
      simp [step, settled, onEvent, hc]
    | start interval =>
      rw [hc] at h
      cases started with
      | false =>
        refine (canBlock_of_not_guarded counter h).event
          [.event (.update old new), .next, .next, .starts] rfl ?_
        simp [step, settled, onEvent, hc]
      | true =>
        refine (canBlock_of_not_guarded counter h).event
          [.event (.update old new), .next, .receives, .next, .next, .starts] rfl ?_
        simp [step, settled, onEvent, hc, After.watch]
    | stop =>
      rw [hc] at h
      cases started with
      | false =>
        refine ⟨[.event (.update old new)], _, rfl, ?_, ?_⟩
        · simp [events]
        · simp [State.Blocked, settled, onEvent, hc]
      | true =>
        refine (canBlock_of_not_guarded counter fun hg => h ⟨rfl, hg⟩).event
          [.event (.update old new), .receives, .next] rfl ?_
        simp [step, settled, onEvent, hc, After.watch]

/-! ## The result -/

theorem not_blocked_of_guarded {resyncInterval : Int} {labels : List Label} {s : State}
    {es : List Event} (hr : t.Reaches resyncInterval labels s) (hes : events labels <+: es)
    (hg : t.Guarded (t.minTickInterval ≤ resyncInterval) es) : ¬s.Blocked := by
  rintro ⟨⟨after, hw⟩, hstarting, hticking⟩
  obtain ⟨rest, rfl⟩ := hes
  have hpos := (inv_of_reaches hr hg).sending after hw
  omega

/-- The start of a ticker whose first goroutine, if any, has run to its loop. -/
theorem exists_settled (resyncInterval : Int) :
    ∃ labels, events labels = [] ∧ labels.foldlM t.step (t.start resyncInterval) =
      some (settled (t.minTickInterval ≤ resyncInterval) 0) := by
  by_cases h : t.minTickInterval ≤ resyncInterval
  · exact ⟨[.starts], rfl, by simp [step, start, settled, h]⟩
  · exact ⟨[], rfl, by simp [start, settled, h]⟩

/-- **The watcher never waits for no one**, whatever the interleaving, exactly when every update
to a zero interval and the `quit` come after a start, by `Start` or by an update, with no
other update to zero in between. -/
theorem never_blocked_iff (t : ResyncTicker) (resyncInterval : Int) (es : List Event) :
    (∀ labels s, t.Reaches resyncInterval labels s → events labels <+: es → ¬s.Blocked) ↔
      t.Guarded (t.minTickInterval ≤ resyncInterval) es := by
  refine ⟨fun h => ?_, fun hg labels s hr hes => not_blocked_of_guarded hr hes hg⟩
  by_contra hg
  obtain ⟨labels, s, hl, hes, hb⟩ := canBlock_of_not_guarded 0 hg
  obtain ⟨before, hbefore, hstart⟩ := exists_settled (t := t) resyncInterval
  refine h (before ++ labels) s (run_of_foldlM ?_) ?_ hb
  · rw [List.foldlM_append, hstart]
    exact hl
  · rwa [events_append, hbefore]

/-- The ticker of the controller: thirty seconds at least. -/
def ofCatalog : ResyncTicker :=
  ⟨30000000000, by decide, fun f unit scale => f * unit / scale⟩

/-- No interval is configured at the start, and the interval is then set to zero. -/
theorem blocked_on_first_zero :
    ∃ labels s, ofCatalog.Reaches 0 labels s ∧
      events labels = [.update "" "0s"] ∧ s.Blocked := by
  have hc : ofCatalog.change "" "0s" = .stop := by decide +kernel
  have hmin : ¬ofCatalog.minTickInterval ≤ 0 := by decide
  refine ⟨[.event (.update "" "0s")], _, run_of_foldlM rfl, rfl, ?_⟩
  simp [State.Blocked, onEvent, hc, start, hmin]

end ResyncTicker

end Ticker
