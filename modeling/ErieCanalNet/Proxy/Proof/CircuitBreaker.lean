import ErieCanalNet.Proxy.CircuitBreaker

/-!
# The circuit breaker over whole runs

A callback other than the timer counts (`Counts`): it leaves the seconds alone, keeps an open
breaker open and the amounts below `total`. Together with the timer this gives

* `Inv`: the amounts never exceed `total`, a closed breaker has no delay, and an open one at most
  `degradedTimeWindow`;
* `step_isSome`: no ratio is taken of no request;
* `open_run`: since the breaker opened, `delay` is the number of the calls of the timer, so it
  closes with the one after `degradedTimeWindow` of them.
-/

namespace Proxy

open Lib

variable {cb : CircuitBreaking} {st st' : State}

namespace CircuitBreaking

theorem minRequests_pos (cb : CircuitBreaking) : 0 < cb.minRequests := by
  unfold minRequests orDefault
  cases hm : cb.minRequestAmount with
  | none => decide
  | some m =>
    have hnonneg := cb.minRequestAmount_nonneg m hm
    by_cases h0 : m = 0
    · simp only [h0, if_true]
      decide
    · simpa [h0] using lt_of_le_of_ne hnonneg (Ne.symm h0)

/-! ## One check -/

/-- Enough requests for a ratio are more than none. -/
theorem checkDegraded_isSome (hasQuota : Bool) (consumed threshold : Rat) (amount : Nat)
    (st : State) : (cb.checkDegraded hasQuota consumed threshold amount st).isSome := by
  unfold checkDegraded
  split
  · rfl
  · split
    · rename_i h
      have hpos : (0 : Rat) < st.total := lt_of_lt_of_le cb.minRequests_pos h.2
      have hne : st.total ≠ 0 := by
        rintro h0
        rw [h0] at hpos
        exact lt_irrefl _ hpos
      simp [ratio, hne]
    · rfl

theorem checkDegraded_of_degraded {hasQuota : Bool} {consumed threshold : Rat} {amount : Nat}
    {degraded : Bool} (h : cb.checkDegraded hasQuota consumed threshold amount st = some degraded)
    (hst : st.degraded = true) : degraded = true := by
  unfold checkDegraded at h
  split at h
  · exact (Option.some.inj h).symm
  · split at h
    · obtain ⟨r, -, rfl⟩ := Option.map_eq_some_iff.1 h
      simp [hst]
    · exact (Option.some.inj h).symm.trans hst

theorem countUp_le {amount total : Nat} (h : amount ≤ total) : countUp amount total ≤ total := by
  unfold countUp
  split <;> omega

/-! ## What a call can do -/

/-- A call that counts: the seconds stay, an open breaker stays open, the amounts stay below
`total`. -/
structure Counts (st st' : State) : Prop where
  delay : st'.delay = st.delay
  degraded : st.degraded = true → st'.degraded = true
  slow : st.slowAmount ≤ st.total → st'.slowAmount ≤ st'.total
  error : st.errorAmount ≤ st.total → st'.errorAmount ≤ st'.total

theorem Counts.refl (st : State) : Counts st st := ⟨rfl, id, id, id⟩

theorem Counts.printOpen (h : Counts st st') : Counts st st'.printOpen := by
  unfold State.printOpen
  split
  · exact ⟨h.delay, h.degraded, h.slow, h.error⟩
  · exact h

theorem counts_checkSlow {seconds consumed : Rat} (h : cb.checkSlow seconds consumed st = some st') :
    Counts st st' := by
  unfold checkSlow at h
  split at h
  · obtain ⟨degraded, hd, rfl⟩ := Option.map_eq_some_iff.1 h
    exact Counts.printOpen ⟨rfl, checkDegraded_of_degraded hd, countUp_le, id⟩
  · obtain rfl := Option.some.inj h
    exact .refl st

theorem counts_checkError {statusCode : Nat} {consumed : Rat}
    (h : cb.checkError statusCode consumed st = some st') : Counts st st' := by
  unfold checkError at h
  split at h
  · obtain ⟨degraded, hd, rfl⟩ := Option.map_eq_some_iff.1 h
    exact Counts.printOpen ⟨rfl, checkDegraded_of_degraded hd, id, countUp_le⟩
  · obtain rfl := Option.some.inj h
    exact .refl st

theorem step_cases {call : Call} (h : cb.step st call = some st') :
    (call = .refreshTimer ∧ st' = cb.refreshTimer st) ∨ (call ≠ .refreshTimer ∧ Counts st st') := by
  cases call with
  | increase =>
    obtain rfl := Option.some.inj h
    exact .inr ⟨nofun, rfl, id, fun h => Nat.le_succ_of_le h, fun h => Nat.le_succ_of_le h⟩
  | checkSlow seconds consumed => exact .inr ⟨nofun, counts_checkSlow h⟩
  | checkError statusCode consumed => exact .inr ⟨nofun, counts_checkError h⟩
  | refreshTimer => exact .inl ⟨rfl, (Option.some.inj h).symm⟩

/-- **No ratio is taken of no request**, whatever the state. -/
theorem step_isSome (st : State) (call : Call) : (cb.step st call).isSome := by
  cases call with
  | increase => rfl
  | checkSlow seconds consumed =>
    rw [step, checkSlow]
    split
    · rw [Option.isSome_map]
      exact checkDegraded_isSome ..
    · rfl
  | checkError statusCode consumed =>
    rw [step, checkError]
    split
    · rw [Option.isSome_map]
      exact checkDegraded_isSome ..
    · rfl
  | refreshTimer => rfl

/-! ## The timer -/

/-- The second half of the timer leaves an open breaker and the delay alone, and keeps the amounts
below `total`. -/
theorem counts_refreshTick (st : State) : Counts st (cb.refreshTick st) := by
  unfold refreshTick
  split
  · exact .refl st
  · split
    · exact ⟨rfl, id, fun _ => Nat.le_refl 0, fun _ => Nat.le_refl 0⟩
    · exact ⟨rfl, id, id, id⟩

theorem refreshTick_degraded (st : State) : (cb.refreshTick st).degraded = st.degraded := by
  unfold refreshTick
  split
  · rfl
  · split <;> rfl

/-- What the timer leaves of a breaker it closes. -/
structure Reset (st : State) : Prop where
  degraded : st.degraded = false
  delay : st.delay = 0
  total : st.total = 0
  slow : st.slowAmount = 0
  error : st.errorAmount = 0

theorem reset_refreshTimer (hst : st.degraded = true) (hd : cb.degradedWindow < st.delay + 1) :
    Reset (cb.refreshTimer st) := by
  have hdelay : Reset (cb.refreshDelay st) := by
    rw [refreshDelay, if_pos hst, if_pos hd]
    exact ⟨rfl, rfl, rfl, rfl, rfl⟩
  rw [refreshTimer, refreshTick, if_neg (by simp [hdelay.degraded])]
  split
  · exact ⟨hdelay.degraded, hdelay.delay, rfl, rfl, rfl⟩
  · exact ⟨hdelay.degraded, hdelay.delay, hdelay.total, hdelay.slow, hdelay.error⟩

theorem refreshTimer_of_open (hst : st.degraded = true) (hd : st.delay < cb.degradedWindow) :
    cb.refreshTimer st = { st with delay := st.delay + 1 } := by
  rw [refreshTimer, refreshDelay, if_pos hst, if_neg (by omega), refreshTick, if_pos hst]

theorem refreshTimer_of_closed (hst : st.degraded = false) :
    cb.refreshTimer st = cb.refreshTick st := by
  rw [refreshTimer, refreshDelay, if_neg (by simp [hst])]

/-! ## The invariant -/

structure Inv (cb : CircuitBreaking) (st : State) : Prop where
  slow : st.slowAmount ≤ st.total
  error : st.errorAmount ≤ st.total
  closed : st.degraded = false → st.delay = 0
  delay : st.delay ≤ cb.degradedWindow

theorem inv_init (cb : CircuitBreaking) : Inv cb {} :=
  ⟨Nat.le_refl 0, Nat.le_refl 0, fun _ => rfl, Nat.zero_le _⟩

theorem Inv.counts (h : Inv cb st) (hc : Counts st st') : Inv cb st' where
  slow := hc.slow h.slow
  error := hc.error h.error
  closed := by
    intro hst'
    rw [hc.delay]
    apply h.closed
    by_contra hst
    rw [hc.degraded (by simpa using hst)] at hst'
    cases hst'
  delay := hc.delay ▸ h.delay

theorem Inv.refreshTimer (h : Inv cb st) : Inv cb (cb.refreshTimer st) := by
  cases hst : st.degraded with
  | false =>
    rw [refreshTimer_of_closed hst]
    exact h.counts (counts_refreshTick st)
  | true =>
    by_cases hd : st.delay < cb.degradedWindow
    · rw [refreshTimer_of_open hst hd]
      exact ⟨h.slow, h.error, fun hfalse => by simp [hst] at hfalse, hd⟩
    · have hr : Reset (cb.refreshTimer st) := reset_refreshTimer hst (by omega)
      exact ⟨by simp [hr.slow], by simp [hr.error], fun _ => hr.delay, by simp [hr.delay]⟩

theorem Inv.step {call : Call} (h : Inv cb st) (hs : cb.step st call = some st') : Inv cb st' := by
  obtain ⟨-, rfl⟩ | ⟨-, hc⟩ := step_cases hs
  · exact h.refreshTimer
  · exact h.counts hc

theorem inv_of_reaches {calls : List Call} (h : cb.Reaches calls st) : Inv cb st :=
  h.invariant (inv_init cb) Inv.step

/-! ## The open period -/

/-- A breaker that opens has its whole time before it. -/
theorem delay_of_opens {call : Call} (h : Inv cb st) (hst : st.degraded = false)
    (hs : cb.step st call = some st') (hst' : st'.degraded = true) : st'.delay = 0 := by
  obtain ⟨-, rfl⟩ | ⟨-, hc⟩ := step_cases hs
  · rw [refreshTimer_of_closed hst, refreshTick_degraded, hst] at hst'
    cases hst'
  · rw [hc.delay, h.closed hst]

/-- **While the timer was called no more than `degradedTimeWindow` times** since it opened, the
breaker is open and `delay` counts these calls. -/
theorem open_run {st₁ : State} {calls : List Call} (h₁ : st₁.degraded = true) (hd : st₁.delay = 0)
    (h : Run (fun st call st' => cb.step st call = some st') st₁ calls st) :
    calls.count .refreshTimer ≤ cb.degradedWindow →
      st.degraded = true ∧ st.delay = calls.count .refreshTimer := by
  refine h.invariant_labels (fun calls st => calls.count .refreshTimer ≤ cb.degradedWindow →
    st.degraded = true ∧ st.delay = calls.count .refreshTimer) (fun _ => ⟨h₁, by simpa using hd⟩) ?_
  intro calls st call st' ih hs hcount
  rw [List.count_append] at hcount ⊢
  obtain ⟨hst, hdelay⟩ := ih (by omega)
  obtain ⟨rfl, rfl⟩ | ⟨hne, hc⟩ := step_cases hs
  · rw [List.count_singleton_self] at hcount ⊢
    rw [refreshTimer_of_open hst (by omega)]
    exact ⟨hst, by simp [hdelay]⟩
  · rw [List.count_singleton, if_neg (by simpa using hne)]
    exact ⟨hc.degraded hst, hc.delay.trans hdelay⟩

/-! ## The result -/

/-- **The circuit breaker**: in every state the callbacks reach, the amounts do not exceed `total`,
a closed breaker has no delay and an open one at most the time window, and no callback takes a ratio
of no request; a breaker that opens stays open until the timer was called once more than the time
window says, and that call leaves the counters at zero. -/
theorem circuit_breaker {calls : List Call} (h : cb.Reaches calls st) :
    st.slowAmount ≤ st.total ∧ st.errorAmount ≤ st.total ∧ (st.degraded = false → st.delay = 0) ∧
      st.delay ≤ cb.degradedWindow ∧ (∀ call, (cb.step st call).isSome) ∧
      ∀ call st₁, st.degraded = false → cb.step st call = some st₁ → st₁.degraded = true →
        ∀ after st₂, Run (fun st call st' => cb.step st call = some st') st₁ after st₂ →
          after.count .refreshTimer ≤ cb.degradedWindow → st₂.degraded = true ∧
            (after.count .refreshTimer = cb.degradedWindow → Reset (cb.refreshTimer st₂)) := by
  have hinv := inv_of_reaches h
  refine ⟨hinv.slow, hinv.error, hinv.closed, hinv.delay, step_isSome st, ?_⟩
  intro call st₁ hst hs h₁ after st₂ hafter hcount
  obtain ⟨hopen, hdelay⟩ := open_run h₁ (delay_of_opens hinv hst hs h₁) hafter hcount
  exact ⟨hopen, fun hlast => reset_refreshTimer hopen (by omega)⟩

/-- A breaker that opens on the first failed response, for two seconds. -/
def oneError : CircuitBreaking where
  minRequestAmount := none
  statTimeWindow := none
  slowTimeThreshold := none
  slowAmountThreshold := none
  slowRatioThreshold := none
  errorAmountThreshold := some 1
  errorRatioThreshold := none
  degradedTimeWindow := some 2
  degradedStatusCode := none
  degradedResponseContent := none
  minRequestAmount_nonneg := nofun

/-- It is open after two calls of the timer, whatever came between them, and the third closes it. -/
theorem circuit_breaker_one_error :
    ∃ st st₁ st₂, oneError.Reaches [.increase] st ∧
      oneError.step st (.checkError 500 0) = some st₁ ∧
      Run (fun st call st' => oneError.step st call = some st') st₁
        [.refreshTimer, .checkError 503 0, .refreshTimer] st₂ ∧
      st₂.degraded = true ∧ Reset (oneError.refreshTimer st₂) := by
  have hreach : oneError.Reaches [.increase] { total := 1 } := run_of_foldlM (by decide +kernel)
  have hopen : oneError.step { total := 1 } (.checkError 500 0) =
      some { total := 1, errorAmount := 1, degraded := true, logs := [.opened 1 0 1] } := by
    decide +kernel
  have hafter : Run (fun st call st' => oneError.step st call = some st')
      { total := 1, errorAmount := 1, degraded := true, logs := [.opened 1 0 1] }
      [.refreshTimer, .checkError 503 0, .refreshTimer]
      { total := 1, errorAmount := 1, degraded := true, lastDegraded := true, delay := 2
        logs := [.opened 1 0 1] } := run_of_foldlM (by decide +kernel)
  obtain ⟨-, -, -, -, -, hperiod⟩ := circuit_breaker hreach
  obtain ⟨hst, hreset⟩ := hperiod _ _ rfl hopen rfl _ _ hafter (by decide)
  exact ⟨_, _, _, hreach, hopen, hafter, hst, hreset (by decide)⟩

end CircuitBreaking

end Proxy
