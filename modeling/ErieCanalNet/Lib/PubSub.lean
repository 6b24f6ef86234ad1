import Mathlib.Data.Fintype.Card
import Mathlib.Data.List.Nodup

/-!
# Publishing to subscribers

What a user of a hub without buffers may rely on. One goroutine takes the commands to subscribe and to
publish, and sends each message to the subscribers of its topic, one after the other. A send waits for
the subscriber to receive, and while the hub is sending it takes no command: its user waits.

The states of a hub and its operations are parameters. The laws say who is subscribed, and what is
left to be sent. `PubSub.serial` is a hub that meets them.
-/

namespace Lib

universe u v w

structure PubSub (ι : Type u) (τ : Type v) (β : Type w) where
  State : Type (max u v w)
  new : State
  /-- The hub takes a command to subscribe to topics; until then the caller waits. -/
  sub : State → ι → List τ → Option State
  /-- The hub takes a message, and will send it in this order; until then the caller waits. -/
  pub : State → β → τ → List ι → Option State
  /-- A subscriber receives the message that is sent to it. -/
  send : State → ι → Option (β × State)
  subscribed : State → ι → τ → Prop
  sending : State → List (ι × β)
  not_subscribed_new : ∀ i t, ¬ subscribed new i t
  sending_new : sending new = []
  sub_isSome : ∀ s i ts, (sub s i ts).isSome ↔ sending s = []
  sub_eq_some : ∀ {s i ts s'}, sub s i ts = some s' → sending s' = [] ∧
    ∀ j t, subscribed s' j t ↔ subscribed s j t ∨ j = i ∧ t ∈ ts
  pub_isSome : ∀ s m t order, (pub s m t order).isSome ↔
    sending s = [] ∧ order.Nodup ∧ ∀ i, i ∈ order ↔ subscribed s i t
  pub_eq_some : ∀ {s m t order s'}, pub s m t order = some s' →
    sending s' = order.map (·, m) ∧ ∀ j t, subscribed s' j t ↔ subscribed s j t
  exists_send : ∀ {s i m rest}, sending s = (i, m) :: rest → ∃ s', send s i = some (m, s')
  send_eq_some : ∀ {s i m s'}, send s i = some (m, s') → sending s = (i, m) :: sending s' ∧
    ∀ j t, subscribed s' j t ↔ subscribed s j t

namespace PubSub

section

variable {ι : Type u} {τ : Type v} {β : Type w} (h : PubSub ι τ β) {s s' : h.State}

theorem exists_sub (hs : h.sending s = []) (i : ι) (ts : List τ) : ∃ s', h.sub s i ts = some s' :=
  Option.isSome_iff_exists.1 ((h.sub_isSome s i ts).2 hs)

/-- The subscribers of a topic can be sent to in some order. -/
theorem exists_pub [Fintype ι] (hs : h.sending s = []) (m : β) (t : τ) :
    ∃ order s', h.pub s m t order = some s' := by
  classical
  refine ⟨(Finset.univ.filter fun i => h.subscribed s i t).toList, ?_⟩
  apply Option.isSome_iff_exists.1
  rw [h.pub_isSome]
  exact ⟨hs, Finset.nodup_toList _, fun i => by simp⟩

variable {h}

theorem sending_of_sub {i : ι} {ts : List τ} (hs : h.sub s i ts = some s') : h.sending s = [] :=
  (h.sub_isSome s i ts).1 (by rw [hs]; rfl)

theorem sending_of_pub {m : β} {t : τ} {order : List ι} (hs : h.pub s m t order = some s') :
    h.sending s = [] ∧ order.Nodup ∧ ∀ i, i ∈ order ↔ h.subscribed s i t :=
  (h.pub_isSome s m t order).1 (by rw [hs]; rfl)

/-- What a message is sent to. -/
theorem mem_sending_of_pub {m m' : β} {t : τ} {order : List ι} {i : ι}
    (hs : h.pub s m t order = some s') :
    (i, m') ∈ h.sending s' ↔ h.subscribed s i t ∧ m' = m := by
  rw [(h.pub_eq_some hs).1, ← (sending_of_pub hs).2.2 i]
  simp [eq_comm (a := m')]

/-- No more is sent than there are users. -/
theorem length_sending_of_pub [Fintype ι] {m : β} {t : τ} {order : List ι}
    (hs : h.pub s m t order = some s') : (h.sending s').length ≤ Fintype.card ι := by
  rw [(h.pub_eq_some hs).1, List.length_map]
  exact List.Nodup.length_le_card (sending_of_pub hs).2.1

end

/-! ## A hub -/

/-- The registry, and what is left to be sent. -/
structure Serial (ι : Type u) (τ : Type v) (β : Type w) where
  topics : List (ι × τ)
  sending : List (ι × β)

namespace Serial

variable {ι : Type u} {τ : Type v} {β : Type w} (s : Serial ι τ β)

def sub (i : ι) (ts : List τ) : Option (Serial ι τ β) :=
  if s.sending.isEmpty then some { s with topics := ts.map (i, ·) ++ s.topics } else none

def pub [DecidableEq ι] [DecidableEq τ] (m : β) (t : τ) (order : List ι) :
    Option (Serial ι τ β) :=
  if s.sending.isEmpty ∧ order.Nodup ∧ (∀ i ∈ order, (i, t) ∈ s.topics) ∧
      ∀ e ∈ s.topics, e.2 = t → e.1 ∈ order then
    some { s with sending := order.map (·, m) }
  else none

def send [DecidableEq ι] (i : ι) : Option (β × Serial ι τ β) :=
  match s.sending with
  | [] => none
  | (j, m) :: rest => if j = i then some (m, { s with sending := rest }) else none

variable {s}

theorem mem_topics_of_sub {s' : Serial ι τ β} {i : ι} {ts : List τ} (h : s.sub i ts = some s') :
    s'.sending = [] ∧ ∀ j t, (j, t) ∈ s'.topics ↔ (j, t) ∈ s.topics ∨ j = i ∧ t ∈ ts := by
  obtain ⟨hs, h⟩ := Option.ite_none_right_eq_some.1 h
  obtain rfl := Option.some.inj h
  refine ⟨List.isEmpty_iff.1 hs, fun j t => ?_⟩
  rw [List.mem_append, List.mem_map]
  constructor
  · rintro (⟨t', ht', he⟩ | hmem)
    · obtain ⟨rfl, rfl⟩ := Prod.mk.inj he
      exact .inr ⟨rfl, ht'⟩
    · exact .inl hmem
  · rintro (hmem | ⟨rfl, ht⟩)
    · exact .inr hmem
    · exact .inl ⟨t, ht, rfl⟩

variable [DecidableEq ι]

theorem pub_isSome [DecidableEq τ] {m : β} {t : τ} {order : List ι} : (s.pub m t order).isSome ↔
    s.sending = [] ∧ order.Nodup ∧ ∀ i, i ∈ order ↔ (i, t) ∈ s.topics := by
  unfold pub
  rw [Option.isSome_ite, List.isEmpty_iff]
  refine and_congr_right fun _ => and_congr_right fun _ => ?_
  constructor
  · rintro ⟨hall, hback⟩ i
    exact ⟨hall i, fun hi => hback (i, t) hi rfl⟩
  · intro hiff
    refine ⟨fun i => (hiff i).1, ?_⟩
    rintro ⟨i, t'⟩ he rfl
    exact (hiff i).2 he

theorem pub_eq_some [DecidableEq τ] {s' : Serial ι τ β} {m : β} {t : τ} {order : List ι}
    (h : s.pub m t order = some s') :
    s'.sending = order.map (·, m) ∧ ∀ j t, (j, t) ∈ s'.topics ↔ (j, t) ∈ s.topics := by
  obtain ⟨-, hs⟩ := Option.ite_none_right_eq_some.1 h
  obtain rfl := Option.some.inj hs
  exact ⟨rfl, fun _ _ => Iff.rfl⟩

theorem exists_send {i : ι} {m : β} {rest : List (ι × β)} (h : s.sending = (i, m) :: rest) :
    ∃ s', s.send i = some (m, s') := by
  refine ⟨{ s with sending := rest }, ?_⟩
  unfold send
  rw [h]
  exact if_pos rfl

theorem send_eq_some {s' : Serial ι τ β} {i : ι} {m : β} (h : s.send i = some (m, s')) :
    s.sending = (i, m) :: s'.sending ∧ ∀ j t, (j, t) ∈ s'.topics ↔ (j, t) ∈ s.topics := by
  unfold send at h
  split at h
  · cases h
  · rename_i hs
    obtain ⟨rfl, hrest⟩ := Option.ite_none_right_eq_some.1 h
    obtain ⟨rfl, rfl⟩ := Prod.mk.inj (Option.some.inj hrest)
    exact ⟨hs, fun _ _ => Iff.rfl⟩

end Serial

/-- The hub with a registry meets the laws. -/
def serial (ι : Type u) (τ : Type v) (β : Type w) [DecidableEq ι] [DecidableEq τ] :
    PubSub ι τ β where
  State := Serial ι τ β
  new := ⟨[], []⟩
  sub := fun s => s.sub
  pub := fun s => s.pub
  send := fun s => s.send
  subscribed := fun s i t => (i, t) ∈ s.topics
  sending := fun s => s.sending
  not_subscribed_new := fun _ _ => List.not_mem_nil
  sending_new := rfl
  sub_isSome := fun s i ts => by rw [Serial.sub, Option.isSome_ite, List.isEmpty_iff]
  sub_eq_some := Serial.mem_topics_of_sub
  pub_isSome := fun _ _ _ _ => Serial.pub_isSome
  pub_eq_some := Serial.pub_eq_some
  exists_send := Serial.exists_send
  send_eq_some := Serial.send_eq_some

end PubSub

end Lib
