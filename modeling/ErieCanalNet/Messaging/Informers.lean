import ErieCanalNet.Messaging.Proof.Events
import ErieCanalNet.Messaging.System

/-!
# Informers

The caches that jobs read, and the system that their informers feed. An informer changes its cache
first and calls its handlers later, from a goroutine of its own.

Informers come from another package and are a parameter: `Informers` has what is relied on, which are
the caches, the calls that are still to come, and what a step does to the two. `Informers.free` are
informers that do all that this allows.

`shouldObserve` is true of every object, since all namespaces are monitored, and false of the
`DeletedFinalStateUnknown` that stands for an object whose deletion an informer has missed: its
handler makes no message. The handlers of an `EcnetConfig` have no filter.

An announcement need not be that of a call: there are also those of tickers and resyncs, and of
objects that no job reads.
-/

namespace Messaging

def Change.deletes : Change → Bool
  | .service (.delete _) | .endpoints (.delete _) | .serviceImport (.delete _)
  | .globalTrafficPolicy (.delete _) | .ecnetConfig (.delete _) => true
  | _ => false

/-- What a handler is called with. -/
inductive Notification
  | observed (ch : Change)
  /-- a `DeletedFinalStateUnknown` -/
  | tombstone (ch : Change)

/-- The message that a handler makes of a call. -/
def Notification.message : Notification → Option PubSubMessage
  | .observed ch => some ch.message
  | .tombstone (.ecnetConfig _) =>
    some { kind := Resource.ecnetConfig.eventTypes.delete, newObj := none, oldObj := some .other }
  | .tombstone _ => none

inductive InformerAction
  /-- an informer changes its cache, and will call its handlers -/
  | change (ch : Change)
  /-- an informer finds out about a deletion it has missed -/
  | missed (ch : Change)
  | call (n : Notification)

structure Informers where
  State : Type
  caches : State → ClusterState
  /-- The calls that are still to come. -/
  pending : State → List Notification
  Step : State → InformerAction → State → Prop
  change : ∀ {i ch i'}, Step i (.change ch) i' →
    Takes (caches i) ch (caches i') ∧ pending i' = pending i ++ [.observed ch]
  missed : ∀ {i ch i'}, Step i (.missed ch) i' → ch.deletes = true ∧
    Takes (caches i) ch (caches i') ∧ pending i' = pending i ++ [.tombstone ch]
  call : ∀ {i n i'}, Step i (.call n) i' → caches i' = caches i ∧
    ∃ before after, pending i = before ++ n :: after ∧ pending i' = before ++ after

structure Informers.Free where
  caches : ClusterState
  pending : List Notification

inductive Informers.Free.Step (i : Free) : InformerAction → Free → Prop
  | change {ch : Change} {caches : ClusterState} (h : Takes i.caches ch caches) :
      Step i (.change ch) ⟨caches, i.pending ++ [.observed ch]⟩
  | missed {ch : Change} {caches : ClusterState} (hd : ch.deletes = true)
      (h : Takes i.caches ch caches) : Step i (.missed ch) ⟨caches, i.pending ++ [.tombstone ch]⟩
  | call {n : Notification} {before after : List Notification}
      (h : i.pending = before ++ n :: after) : Step i (.call n) ⟨i.caches, before ++ after⟩

def Informers.free : Informers where
  State := Free
  caches := (·.caches)
  pending := (·.pending)
  Step := Free.Step
  change := fun h => by
    cases h with
    | change h => exact ⟨h, rfl⟩
  missed := fun h => by
    cases h with
    | missed hd h => exact ⟨hd, h, rfl⟩
  call := fun h => by
    cases h with
    | call h => exact ⟨rfl, _, _, h, rfl⟩

section

variable {μ : Type} [DecidableEq μ]

structure Watch (inf : Informers) (pr : Process μ) where
  informers : inf.State
  system : System pr

inductive WatchLabel (μ : Type)
  | change (ch : Change) (old new : ClusterState)
  | missed (ch : Change) (old new : ClusterState)
  /-- a handler is called, and adds an item to the queue -/
  | handle (n : Notification) (item : μ)
  /-- a handler is called, and makes no message -/
  | drop (n : Notification)
  | system (l : Label μ)

variable {inf : Informers} {pr : Process μ}

inductive Watch.Step (w : Watch inf pr) : WatchLabel μ → Watch inf pr → Prop
  | change {ch : Change} {informers : inf.State} (h : inf.Step w.informers (.change ch) informers) :
      Step w (.change ch (inf.caches w.informers) (inf.caches informers)) { w with informers }
  | missed {ch : Change} {informers : inf.State} (h : inf.Step w.informers (.missed ch) informers) :
      Step w (.missed ch (inf.caches w.informers) (inf.caches informers)) { w with informers }
  | handle {n : Notification} {item : μ} {informers : inf.State} {system : System pr}
      (h : inf.Step w.informers (.call n) informers) (hm : n.message = some (pr.message item))
      (hs : w.system.step (.announce item) = some system) :
      Step w (.handle n item) ⟨informers, system⟩
  | drop {n : Notification} {informers : inf.State} (h : inf.Step w.informers (.call n) informers)
      (hm : n.message = none) : Step w (.drop n) { w with informers }
  | system {l : Label μ} {system : System pr} (h : w.system.step l = some system) :
      Step w (.system l) { w with system }

/-- A run, from informers in any state. -/
def Watch.Reaches (inf : Informers) (pr : Process μ) (informers : inf.State)
    (labels : List (WatchLabel μ)) (w : Watch inf pr) : Prop :=
  Lib.Run Watch.Step ⟨informers, .start pr⟩ labels w

end

end Messaging
