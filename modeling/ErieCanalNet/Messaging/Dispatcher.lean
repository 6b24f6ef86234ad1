import Mathlib.Logic.Function.Basic
import ErieCanalNet.Lib.Run

/-!
# The proxy update dispatcher

`runProxyUpdateDispatcher` of `pkg/ecnet/messaging/broker.go`: events are held until a sliding
window or a maximal window expires, and the latest of them is then published.

`step` is the loop statement by statement. The body of a `select` case runs to the loop head by
`next` steps; a timer can expire between any two of them. The channel of a timer holds one value
at most. A receive from a channel without a value blocks: the step is not there. What only the
dispatcher sees of the end of a case is done with its `Pub`.
-/

namespace Messaging

/-! ## Timers -/

/-- What a timer was set to: the decade that stands for no timeout, or one of the two windows. -/
inductive Timeout
  | noTimeout
  | window
deriving DecidableEq, Repr

/-- `time.Timer`: what it was set to, while it runs, and whether its channel holds a value. -/
structure Timer where
  running : Option Timeout
  value : Bool
deriving DecidableEq, Repr

namespace Timer

def newTimer (d : Timeout) : Timer := ⟨some d, false⟩

/-- `Stop`: whether it stopped the timer. -/
def stop (t : Timer) : Bool × Timer := (t.running.isSome, { t with running := none })

def reset (d : Timeout) (t : Timer) : Timer := { t with running := some d }

/-- The timer fires; a decade does not pass. -/
def expire (t : Timer) : Option Timer :=
  if t.running = some .window then some ⟨none, true⟩ else none

/-- A receive from the channel. -/
def receive (t : Timer) : Option Timer := if t.value then some { t with value := false } else none

end Timer

/-- `slidingTimer` and `maxTimer`. -/
inductive Which
  | sliding
  | max
deriving DecidableEq, Repr

def Which.other : Which → Which
  | .sliding => .max
  | .max => .sliding

/-! ## The loop -/

/-- The case of the `select` that is being executed. -/
inductive Branch
  | received
  | receivedPending
  | expired (w : Which)
deriving DecidableEq, Repr

/-- What the case sets the timers to. -/
def Branch.timeout : Branch → Timeout
  | .expired _ => .noTimeout
  | _ => .window

/-- The next statement. -/
inductive Pc
  | head
  /-- `w.Reset(noTimeout)` of the timer whose value was read -/
  | clear (w : Which)
  /-- `if !w.Stop()` -/
  | stop (w : Which) (b : Branch)
  /-- `<-w.C` -/
  | drain (w : Which) (b : Branch)
  | reset (w : Which) (b : Branch)
  | publish
  /-- `atomic.AddUint64` of `totalDispatchedProxyEventCount`, a variable of the broker -/
  | count
  | exited
deriving DecidableEq, Repr

structure State (α : Type) where
  pc : Pc
  timers : Which → Timer
  dispatchPending : Bool
  /-- An `int` that counts the events of ten seconds at most, and does not wrap in them. -/
  batchCount : Nat
  /-- The variable `event`, `none` before the first one. -/
  event : Option α

def State.init {α : Type} : State α where
  pc := .head
  timers := fun _ => .newTimer .noTimeout
  dispatchPending := false
  batchCount := 0
  event := none

inductive Action (α : Type)
  /-- the `select` takes an event -/
  | receive (e : α)
  /-- the `select` sees the closed event channel, or the stop signal -/
  | exit
  /-- the `select` takes the value of a timer -/
  | fired (w : Which)
  /-- a timer expires -/
  | expire (w : Which)
  /-- the next statement of the case that is being executed -/
  | next
  /-- `Pub` -/
  | publish (e : Option α)
  /-- the publish is counted -/
  | count
deriving DecidableEq

variable {α : Type}

/-- A statement between the `select` and the loop head. -/
def stepNext (s : State α) : Option (State α) :=
  match s.pc with
  | .clear w => some { s with
      timers := Function.update s.timers w ((s.timers w).reset .noTimeout)
      pc := .stop w.other (.expired w) }
  | .stop w b =>
    let (active, t) := (s.timers w).stop
    some { s with
      timers := Function.update s.timers w t
      pc := if active then .reset w b else .drain w b }
  | .drain w b =>
    (s.timers w).receive.map fun t =>
      { s with timers := Function.update s.timers w t, pc := .reset w b }
  | .reset w b =>
    let s := { s with timers := Function.update s.timers w ((s.timers w).reset b.timeout) }
    match b, w with
    | .received, .sliding => some { s with pc := .stop .max .received }
    | .received, .max =>
      some { s with dispatchPending := true, batchCount := s.batchCount + 1, pc := .head }
    | .receivedPending, _ => some { s with batchCount := s.batchCount + 1, pc := .head }
    | .expired _, _ => some { s with pc := .publish }
  | .head | .publish | .count | .exited => none

def step [DecidableEq α] (s : State α) : Action α → Option (State α)
  | .receive e =>
    if s.pc = .head then
      some { s with
        event := some e
        pc := .stop .sliding (if s.dispatchPending then .receivedPending else .received) }
    else none
  | .exit => if s.pc = .head then some { s with pc := .exited } else none
  | .fired w =>
    if s.pc = .head then
      (s.timers w).receive.map fun t =>
        { s with timers := Function.update s.timers w t, pc := .clear w }
    else none
  | .expire w =>
    (s.timers w).expire.map fun t => { s with timers := Function.update s.timers w t }
  | .next => stepNext s
  | .publish e =>
    if s.pc = .publish ∧ e = s.event then
      some { s with dispatchPending := false, batchCount := 0, pc := .count }
    else none
  | .count => if s.pc = .count then some { s with pc := .head } else none

/-- A run of the dispatcher. -/
def Reaches [DecidableEq α] (actions : List (Action α)) (s : State α) : Prop :=
  Lib.Run (fun s a s' => step s a = some s') .init actions s

end Messaging
