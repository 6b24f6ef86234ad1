import ErieCanalNet.Messaging.Dispatcher

/-!
# Runs of the dispatcher

`State.Steps` lists what each statement does, and the step function does nothing else
(`State.steps_of_step`).

`Inv`: at each statement, what each of the two timers is in (`expected`) and which values of the
flag belong to the statement (`Legal`). A timer that expires stays in what is expected of it
(`Cond.Holds.expire`), so only the statements themselves need an argument, one for each
(`Inv.steps`). `Traced` ties the flag and the variable `event` to the actions of the run.

* `inv_of_reaches`, `traced_of_reaches`: both along every run;
* `dispatches`: the main result.
-/

namespace Messaging

open Lib

/-! ## Steps -/

theorem Timer.expire_eq_some {t t' : Timer} (h : t.expire = some t') :
    t.running = some .window ∧ t' = ⟨none, true⟩ := by
  unfold Timer.expire at h
  split at h
  · rename_i hr
    exact ⟨hr, (Option.some.inj h).symm⟩
  · cases h

theorem Timer.receive_eq_some {t t' : Timer} (h : t.receive = some t') :
    t.value = true ∧ t' = { t with value := false } := by
  unfold Timer.receive at h
  split at h
  · rename_i hv
    exact ⟨hv, (Option.some.inj h).symm⟩
  · cases h

section

variable {α : Type} {s s' : State α}

/-- What a step does, and when it can be taken. -/
inductive State.Steps (s : State α) : Action α → State α → Prop
  | receive {e : α} (hpc : s.pc = .head) :
      Steps s (.receive e) { s with
        event := some e
        pc := .stop .sliding (if s.dispatchPending then .receivedPending else .received) }
  | exit (hpc : s.pc = .head) : Steps s .exit { s with pc := .exited }
  | fired {w : Which} (hpc : s.pc = .head) (hvalue : (s.timers w).value = true) :
      Steps s (.fired w) { s with
        timers := Function.update s.timers w ⟨(s.timers w).running, false⟩
        pc := .clear w }
  | expire {w : Which} (hrunning : (s.timers w).running = some .window) :
      Steps s (.expire w) { s with timers := Function.update s.timers w ⟨none, true⟩ }
  | clear {w : Which} (hpc : s.pc = .clear w) :
      Steps s .next { s with
        timers := Function.update s.timers w ((s.timers w).reset .noTimeout)
        pc := .stop w.other (.expired w) }
  | stopped {w : Which} {b : Branch} (hpc : s.pc = .stop w b)
      (hrunning : (s.timers w).running.isSome = true) :
      Steps s .next { s with
        timers := Function.update s.timers w ⟨none, (s.timers w).value⟩
        pc := .reset w b }
  /-- the timer has fired before -/
  | late {w : Which} {b : Branch} (hpc : s.pc = .stop w b) (hrunning : (s.timers w).running = none) :
      Steps s .next { s with
        timers := Function.update s.timers w ⟨none, (s.timers w).value⟩
        pc := .drain w b }
  | drain {w : Which} {b : Branch} (hpc : s.pc = .drain w b)
      (hvalue : (s.timers w).value = true) :
      Steps s .next { s with
        timers := Function.update s.timers w ⟨(s.timers w).running, false⟩
        pc := .reset w b }
  | resetSliding (hpc : s.pc = .reset .sliding .received) :
      Steps s .next { s with
        timers := Function.update s.timers .sliding ((s.timers .sliding).reset .window)
        pc := .stop .max .received }
  | resetMax (hpc : s.pc = .reset .max .received) :
      Steps s .next { s with
        timers := Function.update s.timers .max ((s.timers .max).reset .window)
        dispatchPending := true
        batchCount := s.batchCount + 1
        pc := .head }
  | resetPending {w : Which} (hpc : s.pc = .reset w .receivedPending) :
      Steps s .next { s with
        timers := Function.update s.timers w ((s.timers w).reset .window)
        batchCount := s.batchCount + 1
        pc := .head }
  | resetExpired {w v : Which} (hpc : s.pc = .reset w (.expired v)) :
      Steps s .next { s with
        timers := Function.update s.timers w ((s.timers w).reset .noTimeout)
        pc := .publish }
  | publish (hpc : s.pc = .publish) :
      Steps s (.publish s.event) { s with dispatchPending := false, batchCount := 0, pc := .count }
  | count (hpc : s.pc = .count) : Steps s .count { s with pc := .head }

theorem State.steps_of_next (h : stepNext s = some s') : s.Steps .next s' := by
  obtain ⟨pc, ts, pending, n, event⟩ := s
  unfold stepNext at h
  cases pc with
  | head => cases h
  | publish => cases h
  | count => cases h
  | exited => cases h
  | clear w =>
    obtain rfl := Option.some.inj h
    exact .clear rfl
  | stop w b =>
    obtain rfl := Option.some.inj h
    dsimp only [Timer.stop]
    split
    · exact .stopped rfl (by assumption)
    · exact .late rfl (Option.not_isSome_iff_eq_none.1 (by assumption))
  | drain w b =>
    obtain ⟨t, ht, rfl⟩ := Option.map_eq_some_iff.1 h
    obtain ⟨hvalue, rfl⟩ := Timer.receive_eq_some ht
    exact .drain rfl hvalue
  | reset w b =>
    cases b with
    | received =>
      cases w with
      | sliding =>
        obtain rfl := Option.some.inj h
        exact .resetSliding rfl
      | max =>
        obtain rfl := Option.some.inj h
        exact .resetMax rfl
    | receivedPending =>
      obtain rfl := Option.some.inj h
      exact .resetPending rfl
    | expired v =>
      obtain rfl := Option.some.inj h
      exact .resetExpired rfl

theorem State.steps_of_step [DecidableEq α] {a : Action α} (h : step s a = some s') :
    s.Steps a s' := by
  cases a with
  | receive e =>
    obtain ⟨hpc, hs⟩ := Option.ite_none_right_eq_some.1 h
    obtain rfl := Option.some.inj hs
    exact .receive hpc
  | exit =>
    obtain ⟨hpc, hs⟩ := Option.ite_none_right_eq_some.1 h
    obtain rfl := Option.some.inj hs
    exact .exit hpc
  | fired w =>
    obtain ⟨hpc, hs⟩ := Option.ite_none_right_eq_some.1 h
    obtain ⟨t, ht, rfl⟩ := Option.map_eq_some_iff.1 hs
    obtain ⟨hvalue, rfl⟩ := Timer.receive_eq_some ht
    exact .fired hpc hvalue
  | expire w =>
    obtain ⟨t, ht, rfl⟩ := Option.map_eq_some_iff.1 h
    obtain ⟨hrunning, rfl⟩ := Timer.expire_eq_some ht
    exact .expire hrunning
  | next => exact steps_of_next h
  | publish e =>
    obtain ⟨⟨hpc, rfl⟩, hs⟩ := Option.ite_none_right_eq_some.1 h
    obtain rfl := Option.some.inj hs
    exact .publish hpc
  | count =>
    obtain ⟨hpc, hs⟩ := Option.ite_none_right_eq_some.1 h
    obtain rfl := Option.some.inj hs
    exact .count hpc

end

/-! ## What a timer is in -/

inductive Cond
  /-- set to no timeout -/
  | idle
  /-- in its window, or fired with the value still in the channel -/
  | armed
  /-- fired, with the value still in the channel -/
  | full
  /-- stopped or fired, with an empty channel -/
  | drained
  | anything

def Armed (t : Timer) : Prop := t = ⟨some .window, false⟩ ∨ t = ⟨none, true⟩

def Cond.Holds (t : Timer) : Cond → Prop
  | .idle => t = .newTimer .noTimeout
  | .armed => Armed t
  | .full => t = ⟨none, true⟩
  | .drained => t = ⟨none, false⟩
  | .anything => True

/-- A timer that expires stays in what it was in. -/
theorem Cond.Holds.expire {c : Cond} {t : Timer} (hc : c.Holds t)
    (hrunning : t.running = some .window) : c.Holds ⟨none, true⟩ := by
  cases c with
  | idle => cases hc; cases hrunning
  | armed => exact .inr rfl
  | full => rfl
  | drained => cases hc; cases hrunning
  | anything => trivial

/-! ## The invariant -/

/-- What a case expects of a timer that it is about to stop. -/
def Branch.before : Branch → Cond
  | .received => .idle
  | _ => .armed

/-- A timer that a case stops still runs, or has to be drained; the latter never before the first
event. -/
theorem Branch.value_of_before {b : Branch} {t : Timer} (h : b.before.Holds t) :
    t.value = !t.running.isSome ∧ (b = .received → t.running.isSome = true) := by
  have harmed : Armed t → t.value = !t.running.isSome := by
    rintro (rfl | rfl) <;> rfl
  cases b with
  | received =>
    cases h
    exact ⟨rfl, fun _ => rfl⟩
  | receivedPending => exact ⟨harmed h, nofun⟩
  | expired v => exact ⟨harmed h, nofun⟩

/-- What a case that works on `w` expects of the other timer. -/
def Branch.beside (w : Which) : Branch → Cond
  | .received => if w = .sliding then .idle else .armed
  | .receivedPending => .armed
  | .expired _ => .idle

def expected (pending : Bool) : Pc → Which → Cond
  | .head, _ => if pending then .armed else .idle
  | .clear w, v => if v = w then .drained else .armed
  | .stop w b, v => if v = w then b.before else b.beside w
  | .drain w b, v => if v = w then .full else b.beside w
  | .reset w b, v => if v = w then .drained else b.beside w
  | .publish, _ | .count, _ => .idle
  | .exited, _ => .anything

/-- The values of the flag in a case, and the timers it works on. -/
def Branch.Legal (w : Which) (pending : Bool) : Branch → Prop
  | .received => pending = false
  | .receivedPending => pending = true ∧ w = .sliding
  | .expired v => pending = true ∧ w = v.other

def Legal (pending : Bool) (batchCount : Nat) : Pc → Prop
  | .head => pending = true ↔ 1 ≤ batchCount
  | .clear _ | .publish => pending = true
  | .count => pending = false ∧ batchCount = 0
  | .stop w b | .reset w b => b.Legal w pending
  -- a timer without a timeout has not fired: nothing is drained before the first event
  | .drain w b => b.Legal w pending ∧ b ≠ .received
  | .exited => True

variable {α : Type}

structure Inv (s : State α) : Prop where
  timers : ∀ w, (expected s.dispatchPending s.pc w).Holds (s.timers w)
  legal : Legal s.dispatchPending s.batchCount s.pc

theorem inv_init : Inv (.init : State α) where
  timers := fun _ => rfl
  legal := by simp [Legal, State.init]

theorem Which.eq_other_of_ne {v w : Which} (h : v ≠ w) : v = w.other := by
  cases v <;> cases w <;> first | rfl | exact absurd rfl h

theorem Which.other_ne (w : Which) : w.other ≠ w := by cases w <;> decide

/-- What holds of the timers after one of them changed. -/
theorem timers_update {ts : Which → Timer} {w : Which} {t : Timer} {c : Which → Cond}
    (hw : (c w).Holds t) (ho : (c w.other).Holds (ts w.other)) :
    ∀ v, (c v).Holds (Function.update ts w t v) := by
  intro v
  by_cases hv : v = w
  · subst hv
    simpa using hw
  · rw [Function.update_of_ne hv, Which.eq_other_of_ne hv]
    exact ho

theorem Inv.armed_iff {s : State α} (hi : Inv s) (hpc : s.pc = .head) (w : Which) :
    s.dispatchPending = true ↔ Armed (s.timers w) := by
  have ht := hi.timers w
  rw [hpc] at ht
  cases hp : s.dispatchPending with
  | false =>
    rw [hp] at ht
    have hidle : s.timers w = .newTimer .noTimeout := ht
    simp [hidle, Armed, Timer.newTimer]
  | true =>
    rw [hp] at ht
    exact ⟨fun _ => ht, fun _ => rfl⟩

theorem Inv.value_of_drain {s : State α} (hi : Inv s) {w : Which} {b : Branch}
    (hpc : s.pc = .drain w b) : (s.timers w).value = true := by
  have ht := hi.timers w
  rw [hpc] at ht
  have hfull : s.timers w = ⟨none, true⟩ := by simpa [expected, Cond.Holds] using ht
  rw [hfull]

/-- What is known of the timer that a case does not work on. -/
theorem Inv.beside {s : State α} (hi : Inv s) {w : Which} {b : Branch}
    (hpc : s.pc = .stop w b ∨ s.pc = .drain w b ∨ s.pc = .reset w b) :
    (b.beside w).Holds (s.timers w.other) := by
  have ht := hi.timers w.other
  rcases hpc with hpc | hpc | hpc <;> simpa [hpc, expected, Which.other_ne] using ht

/-- A timer that is reset was drained before. -/
theorem Inv.drained {s : State α} (hi : Inv s) {w : Which} {b : Branch} (hpc : s.pc = .reset w b) :
    s.timers w = ⟨none, false⟩ := by
  have ht := hi.timers w
  rw [hpc] at ht
  simpa [expected, Cond.Holds] using ht

theorem Inv.steps {s s' : State α} {a : Action α} (hi : Inv s) (h : s.Steps a s') : Inv s' := by
  have ht := hi.timers
  have hl := hi.legal
  cases h with
  | receive hpc =>
    rw [hpc] at ht
    refine ⟨fun v => ?_, ?_⟩
    · have hv := ht v
      cases hp : s.dispatchPending <;>
        simpa [hp, expected, Branch.before, Branch.beside] using hv
    · cases s.dispatchPending <;> simp [Legal, Branch.Legal]
  | exit => exact ⟨fun _ => trivial, trivial⟩
  | @fired w hpc hvalue =>
    rw [hpc] at ht
    cases hp : s.dispatchPending with
    | false =>
      -- a timer without a timeout has nothing in its channel
      have hw : s.timers w = .newTimer .noTimeout := by simpa [hp, expected, Cond.Holds] using ht w
      simp [hw, Timer.newTimer] at hvalue
    | true =>
      have harmed : ∀ w, Armed (s.timers w) := by simpa [hp, expected, Cond.Holds] using ht
      have hw : s.timers w = ⟨none, true⟩ := by
        rcases harmed w with hw | hw
        · simp [hw] at hvalue
        · exact hw
      refine ⟨timers_update ?_ ?_, rfl⟩
      · simp [expected, hw, Cond.Holds]
      · simpa [expected, Which.other_ne, Cond.Holds] using harmed w.other
  | @expire w hrunning => exact ⟨timers_update ((ht w).expire hrunning) (ht w.other), hl⟩
  | @clear w hpc =>
    rw [hpc] at ht hl
    have hw : s.timers w = ⟨none, false⟩ := by simpa [expected, Cond.Holds] using ht w
    refine ⟨timers_update ?_ ?_, hl, rfl⟩
    · simp [expected, Branch.beside, (Which.other_ne w).symm, hw, Timer.reset, Cond.Holds,
        Timer.newTimer]
    · simpa [expected, Which.other_ne, Branch.before] using ht w.other
  | @stopped w b hpc hrunning =>
    have ho := hi.beside (.inl hpc)
    rw [hpc] at ht hl
    have hvalue := (Branch.value_of_before (b := b) (by simpa [expected] using ht w)).1
    refine ⟨timers_update ?_ ?_, hl⟩
    · simp [expected, Cond.Holds, hvalue, hrunning]
    · simpa [expected, Which.other_ne] using ho
  | @late w b hpc hrunning =>
    have ho := hi.beside (.inl hpc)
    rw [hpc] at ht hl
    obtain ⟨hvalue, hfirst⟩ := Branch.value_of_before (b := b) (by simpa [expected] using ht w)
    refine ⟨timers_update ?_ ?_, hl, fun hb => ?_⟩
    · simp [expected, Cond.Holds, hvalue, hrunning]
    · simpa [expected, Which.other_ne] using ho
    · simpa [hrunning] using hfirst hb
  | @drain w b hpc hvalue =>
    have ho := hi.beside (.inr (.inl hpc))
    rw [hpc] at ht hl
    have hw : s.timers w = ⟨none, true⟩ := by simpa [expected, Cond.Holds] using ht w
    refine ⟨timers_update ?_ ?_, hl.1⟩
    · simp [expected, hw, Cond.Holds]
    · simpa [expected, Which.other_ne] using ho
  | resetSliding hpc =>
    have hw := hi.drained hpc
    have ho := hi.beside (.inr (.inr hpc))
    rw [hpc] at hl
    refine ⟨timers_update ?_ ?_, hl⟩
    · simp [expected, Branch.beside, hw, Timer.reset, Cond.Holds, Armed]
    · simpa [expected, Branch.before, Branch.beside, Which.other] using ho
  | resetMax hpc =>
    have hw := hi.drained hpc
    have ho := hi.beside (.inr (.inr hpc))
    refine ⟨timers_update ?_ ?_, by simp [Legal]⟩
    · simp [expected, hw, Timer.reset, Cond.Holds, Armed]
    · simpa [expected, Branch.beside] using ho
  | @resetPending w hpc =>
    have hw := hi.drained hpc
    have ho := hi.beside (.inr (.inr hpc))
    rw [hpc] at hl
    obtain ⟨hp, rfl⟩ : s.dispatchPending = true ∧ w = .sliding := hl
    refine ⟨timers_update ?_ ?_, by simp [Legal, hp]⟩
    · simp [expected, hp, hw, Timer.reset, Cond.Holds, Armed]
    · simpa [expected, hp, Branch.beside] using ho
  | @resetExpired w v hpc =>
    have hw := hi.drained hpc
    have ho := hi.beside (.inr (.inr hpc))
    rw [hpc] at hl
    refine ⟨timers_update ?_ ?_, hl.1⟩
    · simp [expected, hw, Timer.reset, Cond.Holds, Timer.newTimer]
    · simpa [expected, Branch.beside] using ho
  | publish hpc =>
    rw [hpc] at ht
    exact ⟨ht, rfl, rfl⟩
  | count hpc =>
    rw [hpc] at ht hl
    obtain ⟨hp, hn⟩ : s.dispatchPending = false ∧ s.batchCount = 0 := hl
    refine ⟨fun v => ?_, by simp [Legal, hp, hn]⟩
    simpa [expected, hp] using ht v

/-! ## The actions of a run -/

/-- The most recently received event. -/
def lastReceived (actions : List (Action α)) : Option α :=
  actions.foldl (fun e a => match a with | .receive e' => some e' | _ => e) none

/-- Whether an event was received since the last publish. -/
def receivedSincePublish (actions : List (Action α)) : Bool :=
  actions.foldl (fun r a => match a with | .receive _ => true | .publish _ => false | _ => r) false

theorem lastReceived_concat (actions : List (Action α)) (a : Action α) :
    lastReceived (actions ++ [a]) =
      match a with | .receive e => some e | _ => lastReceived actions := by
  simp [lastReceived]

theorem receivedSincePublish_concat (actions : List (Action α)) (a : Action α) :
    receivedSincePublish (actions ++ [a]) =
      match a with
      | .receive _ => true
      | .publish _ => false
      | _ => receivedSincePublish actions := by
  simp [receivedSincePublish]

/-- A publish and no receive after it: nothing was received since. -/
theorem exists_receive_of_receivedSincePublish {before actions : List (Action α)} {e : Option α}
    (h : receivedSincePublish (before ++ .publish e :: actions) = true) :
    ∃ e', .receive e' ∈ actions := by
  induction actions using List.reverseRecOn with
  | nil =>
    rw [receivedSincePublish_concat] at h
    cases h
  | append_singleton actions a ih =>
    rw [← List.cons_append, ← List.append_assoc, receivedSincePublish_concat] at h
    cases a with
    | receive e' => exact ⟨e', by simp⟩
    | publish e' => cases h
    | exit => simpa using ih h
    | fired w => simpa using ih h
    | expire w => simpa using ih h
    | next => simpa using ih h
    | count => simpa using ih h

theorem lastReceived_isSome {actions : List (Action α)} (h : receivedSincePublish actions = true) :
    ∃ e, lastReceived actions = some e := by
  induction actions using List.reverseRecOn with
  | nil => cases h
  | append_singleton actions a ih =>
    rw [receivedSincePublish_concat] at h
    rw [lastReceived_concat]
    cases a with
    | receive e => exact ⟨e, rfl⟩
    | publish e => cases h
    | exit => exact ih h
    | fired w => exact ih h
    | expire w => exact ih h
    | next => exact ih h
    | count => exact ih h

/-- The case of an event received while nothing is pending: the flag is set at its end. -/
def Pc.inReceived : Pc → Bool
  | .stop _ b | .drain _ b | .reset _ b => b = .received
  | _ => false

structure Traced (actions : List (Action α)) (s : State α) : Prop where
  event : s.event = lastReceived actions
  pending : (s.dispatchPending || s.pc.inReceived) = receivedSincePublish actions

theorem Traced.steps {actions : List (Action α)} {s s' : State α} {a : Action α}
    (ht : Traced actions s) (h : s.Steps a s') : Traced (actions ++ [a]) s' := by
  obtain ⟨he, hp⟩ := ht
  refine ⟨?_, ?_⟩
  · rw [lastReceived_concat]
    cases h with
    | receive => rfl
    | _ => exact he
  · rw [receivedSincePublish_concat]
    cases h with
    | receive => cases s.dispatchPending <;> rfl
    | publish => rfl
    | resetMax hpc =>
      rw [← hp, hpc]
      simp [Pc.inReceived]
    | expire => exact hp
    | exit hpc | fired hpc | clear hpc | stopped hpc | late hpc | drain hpc | resetSliding hpc
    | resetPending hpc | resetExpired hpc | count hpc =>
      rw [← hp, hpc]
      rfl

variable [DecidableEq α]

theorem Inv.step {s s' : State α} {a : Action α} (hi : Inv s) (h : step s a = some s') : Inv s' :=
  hi.steps (State.steps_of_step h)

theorem Traced.step {actions : List (Action α)} {s s' : State α} {a : Action α}
    (ht : Traced actions s) (h : step s a = some s') : Traced (actions ++ [a]) s' :=
  ht.steps (State.steps_of_step h)

theorem inv_of_reaches {actions : List (Action α)} {s : State α} (h : Reaches actions s) : Inv s :=
  Run.invariant inv_init Inv.step h

theorem traced_of_reaches {actions : List (Action α)} {s : State α} (h : Reaches actions s) :
    Traced actions s :=
  Run.invariant_labels Traced h ⟨rfl, rfl⟩ Traced.step

/-! ## The publishes -/

/-- What a publish sees: the event it carries is the latest one, received since the publish
before. -/
theorem publish_of_reaches {before after : List (Action α)} {e : Option α} {s : State α}
    (h : Reaches (before ++ .publish e :: after) s) :
    e = lastReceived before ∧ receivedSincePublish before = true := by
  obtain ⟨s₁, s₂, hrun, hstep⟩ := h.exists_step
  obtain ⟨⟨hpc, rfl⟩, -⟩ := Option.ite_none_right_eq_some.1 hstep
  have hi : Inv s₁ := inv_of_reaches hrun
  have ht : Traced before s₁ := traced_of_reaches hrun
  have hpending : s₁.dispatchPending = true := by
    have hl := hi.legal
    rw [hpc] at hl
    exact hl
  exact ⟨ht.event, by rw [← ht.pending, hpending, Bool.true_or]⟩

/-- **The dispatcher** loses no event and never blocks itself. At the loop head an event is
pending exactly when one was received since the last publish, and exactly then the batch is not
empty and each timer is in its window or has its value in the channel; a drain finds a value;
a publish carries the latest event; two publishes have an event between them. -/
theorem dispatches {actions : List (Action α)} {s : State α} (h : Reaches actions s) :
    (s.pc = .head →
      (s.dispatchPending = true ↔ receivedSincePublish actions = true) ∧
      (s.dispatchPending = true ↔ 1 ≤ s.batchCount) ∧
      ∀ w, s.dispatchPending = true ↔ Armed (s.timers w)) ∧
    (∀ w b, s.pc = .drain w b → (s.timers w).value = true) ∧
    (∀ before e after, actions = before ++ .publish e :: after →
      ∃ e', e = some e' ∧ lastReceived before = some e') ∧
    (∀ before e between e' after,
      actions = before ++ .publish e :: between ++ .publish e' :: after →
        ∃ e'', .receive e'' ∈ between) := by
  have hi : Inv s := inv_of_reaches h
  have ht : Traced actions s := traced_of_reaches h
  refine ⟨fun hpc => ⟨?_, ?_, hi.armed_iff hpc⟩, fun w b => hi.value_of_drain, ?_, ?_⟩
  · rw [← ht.pending, hpc]
    simp [Pc.inReceived]
  · have hl := hi.legal
    rw [hpc] at hl
    exact hl
  · rintro before e after rfl
    obtain ⟨rfl, hsince⟩ := publish_of_reaches h
    obtain ⟨e', he'⟩ := lastReceived_isSome hsince
    exact ⟨e', he', he'⟩
  · rintro before e between e' after rfl
    exact exists_receive_of_receivedSincePublish (publish_of_reaches h).2

/-- Two events in one batch, both timers expired at once, then a third event: the second of the
timers is drained, and the flag is set again after the publish. -/
theorem dispatches_two_batches :
    ∃ s, Reaches [Action.receive 1, .next, .next, .next, .next, .receive 2, .next, .next,
        .expire .sliding, .expire .max, .fired .max, .next, .next, .next, .next,
        .publish (some 2), .count, .receive 3, .next, .next, .next, .next] s ∧
      s.pc = .head ∧ s.dispatchPending = true ∧ s.batchCount = 1 ∧
      ∀ w, (s.dispatchPending = true ↔ Armed (s.timers w)) := by
  have hrun := run_of_foldlM (rfl :
    [Action.receive 1, .next, .next, .next, .next, .receive 2, .next, .next,
        .expire .sliding, .expire .max, .fired .max, .next, .next, .next, .next,
        .publish (some 2), .count, .receive 3, .next, .next, .next, .next].foldlM step .init = some _)
  exact ⟨_, hrun, rfl, rfl, rfl, ((dispatches hrun).1 rfl).2.2⟩

end Messaging
