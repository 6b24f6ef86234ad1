import Mathlib.Data.Rat.Defs
import Mathlib.Algebra.Order.Ring.Rat
import ErieCanalNet.Lib.Run

/-!
# The circuit breaker of the proxy

`pipy/repo/codebase/proxy/modules/outbound-circuit-breaker.js`: the breaker of a cluster counts the
requests, the slow and the failed responses of a time window; it opens (`degraded`) when a quota is
used up or a ratio is reached, and the timer of one second closes it after `degradedTimeWindow`.

The callbacks run one at a time, in any order: a response may come after the breaker opened or
closed. What `consume` of a quota returns is part of the call.
-/

namespace Proxy

/-- `x || d`: a missing field, or one of the value `falsy`, takes the default. -/
def orDefault {α : Type} [DecidableEq α] (falsy : α) (x : Option α) (d : α) : α :=
  match x with
  | some v => if v = falsy then d else v
  | none => d

/-- `ConnectionSettings.http.CircuitBreaking`: a missing field is `none`. The windows are in
seconds. -/
structure CircuitBreaking where
  minRequestAmount : Option Rat
  statTimeWindow : Option Nat
  slowTimeThreshold : Option Rat
  slowAmountThreshold : Option Rat
  slowRatioThreshold : Option Rat
  errorAmountThreshold : Option Rat
  errorRatioThreshold : Option Rat
  degradedTimeWindow : Option Nat
  degradedStatusCode : Option Nat
  degradedResponseContent : Option String
  minRequestAmount_nonneg : ∀ m ∈ minRequestAmount, 0 ≤ m

namespace CircuitBreaking

variable (cb : CircuitBreaking)

def minRequests : Rat := orDefault 0 cb.minRequestAmount 100
def statWindow : Nat := orDefault 0 cb.statTimeWindow 30
def slowTime : Rat := orDefault 0 cb.slowTimeThreshold 5
def slowAmountLimit : Rat := cb.slowAmountThreshold.getD 0
def slowRatio : Rat := cb.slowRatioThreshold.getD 0
def errorAmountLimit : Rat := cb.errorAmountThreshold.getD 0
def errorRatio : Rat := cb.errorRatioThreshold.getD 0
def degradedWindow : Nat := orDefault 0 cb.degradedTimeWindow 30

/-- There is a `slowQuota`. -/
def hasSlowQuota : Bool := 0 < cb.slowAmountLimit

/-- There is an `errorQuota`. -/
def hasErrorQuota : Bool := 0 < cb.errorAmountLimit

def slowEnabled : Bool := cb.hasSlowQuota || 0 < cb.slowRatio

def errorEnabled : Bool := cb.hasErrorQuota || 0 < cb.errorRatio

/-- `message`: the status and the content of the answer of an open breaker. -/
def message : Nat × String :=
  (orDefault 0 cb.degradedStatusCode 409, orDefault "" cb.degradedResponseContent "Coming soon ...")

end CircuitBreaking

/-- What the breaker prints, with `total`, `slowAmount` and `errorAmount`. -/
inductive Log
  | opened (total slowAmount errorAmount : Nat)
  | closed (total slowAmount errorAmount : Nat)
deriving DecidableEq, Repr

structure State where
  tick : Nat := 0
  delay : Nat := 0
  total : Nat := 0
  slowAmount : Nat := 0
  errorAmount : Nat := 0
  degraded : Bool := false
  lastDegraded : Bool := false
  logs : List Log := []
deriving DecidableEq, Repr

/-- The callbacks of a breaker. `consumed` is what the quota has left for the check. -/
inductive Call
  | increase
  | checkSlow (seconds consumed : Rat)
  | checkError (statusCode : Nat) (consumed : Rat)
  | refreshTimer
deriving DecidableEq, Repr

/-- `amount / total`; there is no ratio of nothing. -/
def ratio (amount total : Nat) : Option Rat :=
  if total = 0 then none else some ((amount : Rat) / (total : Rat))

/-- `(amount < total) && ++amount`. -/
def countUp (amount total : Nat) : Nat := if amount < total then amount + 1 else amount

/-- `!lastDegraded && degraded && open()`. -/
def State.printOpen (st : State) : State :=
  if !st.lastDegraded && st.degraded then
    { st with logs := st.logs ++ [.opened st.total st.slowAmount st.errorAmount] }
  else st

namespace CircuitBreaking

variable (cb : CircuitBreaking)

/-- The breaker after a check: the quota decides first, the ratio is taken only if the quota lets
the response pass. -/
def checkDegraded (hasQuota : Bool) (consumed threshold : Rat) (amount : Nat) (st : State) :
    Option Bool :=
  if hasQuota ∧ consumed ≠ 1 then some true
  else if 0 < threshold ∧ cb.minRequests ≤ st.total then
    (ratio amount st.total).map fun r => if threshold ≤ r then true else st.degraded
  else some st.degraded

def checkSlow (seconds consumed : Rat) (st : State) : Option State :=
  if cb.slowEnabled ∧ cb.slowTime ≤ seconds then
    let slowAmount := countUp st.slowAmount st.total
    (cb.checkDegraded cb.hasSlowQuota consumed cb.slowRatio slowAmount st).map fun degraded =>
      { st with lastDegraded := st.degraded, slowAmount, degraded }.printOpen
  else some st

def checkError (statusCode : Nat) (consumed : Rat) (st : State) : Option State :=
  if cb.errorEnabled ∧ 499 < statusCode then
    let errorAmount := countUp st.errorAmount st.total
    (cb.checkDegraded cb.hasErrorQuota consumed cb.errorRatio errorAmount st).map fun degraded =>
      { st with lastDegraded := st.degraded, errorAmount, degraded }.printOpen
  else some st

/-- The first half of `refreshTimer`: the seconds of an open breaker. -/
def refreshDelay (st : State) : State :=
  if st.degraded then
    if cb.degradedWindow < st.delay + 1 then
      { st with
        degraded := false, lastDegraded := false, delay := 0, tick := 0, total := 0
        slowAmount := 0, errorAmount := 0
        logs := st.logs ++ [.closed st.total st.slowAmount st.errorAmount] }
    else { st with delay := st.delay + 1 }
  else st

/-- The second half: the seconds of the window, counted while the breaker is closed. -/
def refreshTick (st : State) : State :=
  if st.degraded then st
  else if cb.statWindow < st.tick + 1 then
    { st with tick := 0, total := 0, slowAmount := 0, errorAmount := 0 }
  else { st with tick := st.tick + 1 }

def refreshTimer (st : State) : State := cb.refreshTick (cb.refreshDelay st)

/-- One callback; `none` is a ratio with no request to take it of. -/
def step (st : State) : Call → Option State
  | .increase => some { st with total := st.total + 1 }
  | .checkSlow seconds consumed => cb.checkSlow seconds consumed st
  | .checkError statusCode consumed => cb.checkError statusCode consumed st
  | .refreshTimer => some (cb.refreshTimer st)

/-- The breaker after the calls. -/
def Reaches (calls : List Call) (st : State) : Prop :=
  Lib.Run (fun st call st' => cb.step st call = some st') {} calls st

end CircuitBreaking

end Proxy
