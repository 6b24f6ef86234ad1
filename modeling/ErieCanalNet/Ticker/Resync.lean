import ErieCanalNet.Go.Time
import ErieCanalNet.Lib.Run

/-!
# The resync ticker

`pkg/ecnet/ticker/ticker.go`: `watchConfig` starts and stops ticker goroutines on updates of the
resync interval. Its statements and those of the goroutines interleave: a goroutine that was
spawned has yet to set `running`, and the send of `stopTicker` waits until a goroutine in its
`select` receives.

A message that is not an update of two `EcnetConfig`s changes nothing and is left out.
-/

namespace Ticker

/-- `ResyncTicker`. `time.NewTicker` takes positive intervals only. -/
structure ResyncTicker where
  minTickInterval : Int
  pos : 0 < minTickInterval
  /-- The `float64` product of `time.ParseDuration`. -/
  fraction : Nat → Nat → Nat → Nat

/-- What `watchConfig` does after `stopTicker`. -/
inductive After
  | start (interval : Int)
  | select
  | exit
deriving DecidableEq, Repr

/-- The next statement of `watchConfig`. -/
inductive Watch
  | select
  /-- `if r.running` -/
  | testRunning (interval : Int)
  /-- `r.stopTickerCh <- struct{}{}` -/
  | sending (after : After)
  /-- `r.running = false` -/
  | clearing (after : After)
  /-- `go r.startTicker(interval)` -/
  | spawn (interval : Int)
  | returned
deriving DecidableEq, Repr

def After.watch : After → Watch
  | .start interval => .spawn interval
  | .select => .select
  | .exit => .returned

structure State where
  running : Bool
  watch : Watch
  /-- The ticker goroutines that have yet to execute `r.running = true`. -/
  starting : Nat
  /-- The ticker goroutines in their loop. -/
  ticking : Nat
  invalidIntervalCounter : UInt64
deriving DecidableEq, Repr

/-- What reaches `watchConfig` from outside. -/
inductive Event
  /-- an update of the `EcnetConfig`: the two values of `ConfigResyncInterval` -/
  | update (old new : String)
  | quit
deriving DecidableEq, Repr

inductive Label
  | event (e : Event)
  /-- the next statement of `watchConfig` -/
  | next
  /-- a ticker goroutine executes `r.running = true` -/
  | starts
  /-- a ticker goroutine receives from `stopTickerCh`, and returns -/
  | receives
  /-- a ticker goroutine ticks -/
  | tick
deriving DecidableEq, Repr

namespace ResyncTicker

variable (t : ResyncTicker)

/-- The state after `Start`. -/
def start (resyncInterval : Int) : State where
  running := false
  watch := .select
  starting := if t.minTickInterval ≤ resyncInterval then 1 else 0
  ticking := 0
  invalidIntervalCounter := 0

/-- What an update asks for. -/
inductive Change
  | keep
  | start (interval : Int)
  | stop
  | invalid
deriving DecidableEq, Repr

def change (old new : String) : Change :=
  if old = new then .keep
  else if new = "" then .keep
  else
    match Go.parseDuration t.fraction new with
    | none => .keep
    | some interval =>
      if t.minTickInterval ≤ interval then .start interval
      else if interval = 0 then .stop
      else .invalid

/-- A case of the `select`, up to its first statement that another goroutine can see. -/
def onEvent (s : State) : Event → State
  | .update old new =>
    match t.change old new with
    | .keep => s
    | .start interval => { s with watch := .testRunning interval }
    | .stop => { s with watch := .sending .select }
    | .invalid => { s with invalidIntervalCounter := s.invalidIntervalCounter + 1 }
  | .quit => { s with watch := .sending .exit }

def step (s : State) : Label → Option State
  | .event e => if s.watch = .select then some (t.onEvent s e) else none
  | .next =>
    match s.watch with
    | .testRunning interval =>
      some { s with watch := if s.running then .sending (.start interval) else .spawn interval }
    | .clearing after => some { s with running := false, watch := after.watch }
    | .spawn _ => some { s with starting := s.starting + 1, watch := .select }
    | .select | .sending _ | .returned => none
  | .starts =>
    if 0 < s.starting then
      some { s with
        starting := s.starting - 1
        ticking := s.ticking + 1
        running := true }
    else none
  | .receives =>
    match s.watch with
    | .sending after =>
      if 0 < s.ticking then
        some { s with ticking := s.ticking - 1, watch := .clearing after }
      else none
    | _ => none
  | .tick => if 0 < s.ticking then some s else none

/-- A run from `Start(quit, resyncInterval)`. -/
def Reaches (resyncInterval : Int) (labels : List Label) (s : State) : Prop :=
  Lib.Run (fun s l s' => t.step s l = some s') (t.start resyncInterval) labels s

end ResyncTicker

/-- `watchConfig` waits in `stopTicker`, and no ticker goroutine is there to receive. -/
def State.Blocked (s : State) : Prop :=
  (∃ after, s.watch = .sending after) ∧ s.starting = 0 ∧ s.ticking = 0

end Ticker
