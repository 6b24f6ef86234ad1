import ErieCanalNet.Proxy.Outbound

/-!
# Retries

`retryLoop_spec`: the requests of a retry loop are one request, sent again while its response has a
status to retry on and retries are left. The backoff is cut off at ten times the interval
(`min_pow2Int32`), until the power of two leaves the 32-bit integers.
-/

namespace Proxy

open Go

/-! ## Backoff -/

theorem pow2Int32_of_gt {n : Nat} (h : 31 < n) : pow2Int32 n = 0 := by
  obtain ⟨k, rfl⟩ : ∃ k, n = 32 + k := ⟨n - 32, by omega⟩
  have hdvd : ((4294967296 : Nat) : Int) ∣ 2 ^ (32 + k) := by
    rw [Int.pow_add]
    exact Int.dvd_mul_right _ _
  exact Int.bmod_eq_zero_of_dvd hdvd

/-- The factor of the interval before a retry, the first being `0`. -/
def backoff (n : Nat) : Int :=
  if n < 4 then 2 ^ n else if n < 31 then 10 else if n = 31 then -2 ^ 31 else 0

theorem min_pow2Int32 (n : Nat) : min 10 (pow2Int32 n) = backoff n := by
  by_cases h : n < 32
  · revert n
    decide
  · rw [pow2Int32_of_gt (by omega), backoff, if_neg (by omega), if_neg (by omega),
      if_neg (by omega)]
    rfl

/-! ## The loop -/

section

variable {rt : Runtime} {config : BalancedCluster} {hasRoute : Bool} {target path : String}

/-- A response that is retried. -/
def retryable (config : BalancedCluster) (status : Option Nat) : Bool :=
  status.any fun code => (code : Int) ∈ config.retryStatusCodes

/-- The counters a loop increases last. -/
def lastCounter (config : BalancedCluster) (retryCount : Nat) (status : Option Nat) :
    List (String × RetryCounter) :=
  if retryable config status then [(config.name, .retryLimit)]
  else if 0 < retryCount then [(config.name, .retrySuccess)] else []

theorem shouldRetry_eq (status : Option Nat) (s : Session) :
    shouldRetry config status s =
      if retryable config status = true ∧ s.retryCount < config.numRetries then
        (true, { s with
          retryCount := s.retryCount + 1
          counted := s.counted ++ [(config.name, .retry), (config.name, .retryBackoff)] })
      else (false, { s with counted := s.counted ++ lastCounter config s.retryCount status }) := by
  unfold shouldRetry lastCounter
  rw [← retryable]
  by_cases hcode : retryable config status = true
  · by_cases hlt : s.retryCount < config.numRetries
    · simp [hcode, hlt, Session.increase]
    · simp [hcode, hlt, Session.increase]
  · by_cases hpos : 0 < s.retryCount
    · simp [hcode, hpos, Session.increase]
    · simp [hcode, hpos]

/-- The session after a request that is sent again. -/
def Session.again (config : BalancedCluster) (s : Session) (attempt : Attempt) : Session where
  retryCount := s.retryCount + 1
  failoverObject := s.failoverObject
  sent := s.sent ++ [attempt]
  counted := s.counted ++ [(config.name, .retry), (config.name, .retryBackoff)]
  delays := s.delays ++ [retryDelay config.retryBackoffBaseInterval (s.retryCount + 1)]

/-- The session after the last request. -/
def Session.last (config : BalancedCluster) (s : Session) (attempt : Attempt)
    (status : Option Nat) : Session :=
  { s with
    sent := s.sent ++ [attempt]
    counted := s.counted ++ lastCounter config s.retryCount status }

/-- One round of the loop. -/
theorem retryLoop_eq (s : Session) :
    retryLoop rt config hasRoute (some target) path s =
      if retryable config (rt.respond (s.sent ++ [⟨target, path⟩])) = true ∧
          s.retryCount < config.numRetries then
        retryLoop rt config hasRoute (some target) path (s.again config ⟨target, path⟩)
      else (rt.respond (s.sent ++ [⟨target, path⟩]),
        s.last config ⟨target, path⟩ (rt.respond (s.sent ++ [⟨target, path⟩]))) := by
  rw [retryLoop]
  simp only [upstream, shouldRetry_eq]
  by_cases h : retryable config (rt.respond (s.sent ++ [⟨target, path⟩])) = true ∧
      s.retryCount < config.numRetries
  · simp only [if_pos h, dite_true, Session.again]
  · simp only [if_neg h, Bool.false_eq_true, dite_false, Session.last]

/-- What a loop has done after `n` retries of a session. -/
structure Retried (rt : Runtime) (config : BalancedCluster) (target path : String) (s : Session)
    (n : Nat) (answer : Option Nat × Session) : Prop where
  sent : answer.2.sent = s.sent ++ List.replicate (n + 1) ⟨target, path⟩
  status : answer.1 = rt.respond answer.2.sent
  retryCount : answer.2.retryCount = s.retryCount + n
  retried : ∀ i < n,
    retryable config (rt.respond (s.sent ++ List.replicate (i + 1) ⟨target, path⟩)) = true
  ended : retryable config answer.1 = true → s.retryCount + n = config.numRetries
  counted : answer.2.counted = s.counted ++ (List.replicate n
    [(config.name, RetryCounter.retry), (config.name, .retryBackoff)]).flatten ++
      lastCounter config (s.retryCount + n) answer.1
  delays : answer.2.delays = s.delays ++ (List.range' s.retryCount n).map fun i =>
    config.retryBackoffBaseInterval.map (· * (backoff i : Rat))

theorem retried_last (s : Session) (h : retryable config (rt.respond (s.sent ++ [⟨target, path⟩])) =
    true → s.retryCount = config.numRetries) :
    Retried rt config target path s 0 (rt.respond (s.sent ++ [⟨target, path⟩]),
      s.last config ⟨target, path⟩ (rt.respond (s.sent ++ [⟨target, path⟩]))) where
  sent := rfl
  status := rfl
  retryCount := rfl
  retried := fun i hi => absurd hi (Nat.not_lt_zero i)
  ended := h
  counted := by simp [Session.last]
  delays := by simp [Session.last]

/-- One retry more, before the others. -/
theorem Retried.again {s : Session} {n : Nat} {answer : Option Nat × Session}
    (hcode : retryable config (rt.respond (s.sent ++ [⟨target, path⟩])) = true)
    (h : Retried rt config target path (s.again config ⟨target, path⟩) n answer) :
    Retried rt config target path s (n + 1) answer where
  sent := by
    rw [h.sent, Session.again, List.append_assoc]
    rfl
  status := h.status
  retryCount := by
    rw [h.retryCount]
    exact Nat.add_right_comm _ _ _
  retried := fun i hi => by
    cases i with
    | zero => exact hcode
    | succ i =>
      have hi := h.retried i (by omega)
      rw [Session.again, List.append_assoc] at hi
      exact hi
  ended := fun hstatus => by
    have := h.ended hstatus
    simp only [Session.again] at this
    omega
  counted := by
    have hcount : s.retryCount + 1 + n = s.retryCount + (n + 1) := Nat.add_right_comm _ _ _
    rw [h.counted, Session.again, hcount, List.replicate_succ, List.flatten_cons]
    simp only [List.append_assoc]
  delays := by
    rw [h.delays, Session.again, retryDelay, Nat.add_sub_cancel, min_pow2Int32, List.append_assoc]
    rfl

/-- **A retry loop** sends the same request again, no more often than `NumRetries` says. -/
theorem retryLoop_spec (rt : Runtime) (hasRoute : Bool) (target path : String) (s : Session)
    (hs : s.retryCount ≤ config.numRetries) :
    ∃ n, s.retryCount + n ≤ config.numRetries ∧
      Retried rt config target path s n (retryLoop rt config hasRoute (some target) path s) := by
  -- induction on the retries that are left
  induction hk : config.numRetries - s.retryCount generalizing s with
  | zero =>
    rw [retryLoop_eq, if_neg (by omega)]
    exact ⟨0, hs, retried_last s fun _ => by omega⟩
  | succ k ih =>
    rw [retryLoop_eq]
    by_cases hcode : retryable config (rt.respond (s.sent ++ [⟨target, path⟩])) = true
    · rw [if_pos ⟨hcode, by omega⟩]
      have hcount : (s.again config ⟨target, path⟩).retryCount = s.retryCount + 1 := rfl
      obtain ⟨n, hn, hrun⟩ := ih (s.again config ⟨target, path⟩) (by omega) (by omega)
      exact ⟨n + 1, by omega, hrun.again hcode⟩
    · rw [if_neg fun h => hcode h.1]
      exact ⟨0, hs, retried_last s fun h => absurd h hcode⟩

end

end Proxy
