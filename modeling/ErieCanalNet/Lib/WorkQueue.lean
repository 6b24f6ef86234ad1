import Mathlib.Data.Finset.Basic
import Mathlib.Data.List.Nodup

/-!
# Work queues

What a user of a rate-limited work queue may rely on. An item that is added is held back for a while
(`delayed`) and is then to be processed (`dirty`). One that is added again before it was taken is
processed once, one that is added while it is processed is taken again when it is done.

The states of a queue and its operations are parameters; the laws say what an operation does to the
three sets of items. `WorkQueue.fifo` is a queue that meets them.
-/

namespace Lib

universe u

structure WorkQueue (α : Type u) [DecidableEq α] where
  State : Type u
  new : State
  addRateLimited : State → α → State
  /-- The delay of an item has passed. -/
  due : State → α → Option State
  /-- Take an item; without one the caller waits. -/
  get : State → Option (α × State)
  done : State → α → State
  delayed : State → Finset α
  dirty : State → Finset α
  processing : State → Finset α
  delayed_new : delayed new = ∅
  dirty_new : dirty new = ∅
  processing_new : processing new = ∅
  delayed_addRateLimited : ∀ q x, delayed (addRateLimited q x) = insert x (delayed q)
  dirty_addRateLimited : ∀ q x, dirty (addRateLimited q x) = dirty q
  processing_addRateLimited : ∀ q x, processing (addRateLimited q x) = processing q
  exists_due : ∀ {q x}, x ∈ delayed q → ∃ q', due q x = some q'
  due_eq_some : ∀ {q x q'}, due q x = some q' → x ∈ delayed q ∧
    delayed q' = (delayed q).erase x ∧ dirty q' = insert x (dirty q) ∧
      processing q' = processing q
  exists_get : ∀ {q}, dirty q ≠ ∅ → processing q = ∅ → ∃ x q', get q = some (x, q')
  get_eq_some : ∀ {q x q'}, get q = some (x, q') → x ∈ dirty q ∧ delayed q' = delayed q ∧
    dirty q' = (dirty q).erase x ∧ processing q' = insert x (processing q)
  delayed_done : ∀ q x, delayed (done q x) = delayed q
  dirty_done : ∀ q x, dirty (done q x) = dirty q
  processing_done : ∀ q x, processing (done q x) = (processing q).erase x

namespace WorkQueue

attribute [simp] delayed_new dirty_new processing_new delayed_addRateLimited dirty_addRateLimited
  processing_addRateLimited delayed_done dirty_done processing_done

/-! ## A queue in order of arrival -/

/-- The items that are at hand are in a list, in the order they are taken in. -/
structure Fifo (α : Type u) [DecidableEq α] where
  delayed : Finset α
  queue : List α
  dirty : Finset α
  processing : Finset α
  nodup : queue.Nodup
  dirty_of_mem : ∀ x ∈ queue, x ∈ dirty
  notMem_processing : ∀ x ∈ queue, x ∉ processing
  mem_of_dirty : ∀ x ∈ dirty, x ∈ queue ∨ x ∈ processing

namespace Fifo

variable {α : Type u} [DecidableEq α] (q : Fifo α) (x : α)

def new : Fifo α where
  delayed := ∅
  queue := []
  dirty := ∅
  processing := ∅
  nodup := List.nodup_nil
  dirty_of_mem := by simp
  notMem_processing := by simp
  mem_of_dirty := by simp

def addRateLimited : Fifo α := { q with delayed := insert x q.delayed }

def add : Fifo α :=
  if hd : x ∈ q.dirty then q
  else if hp : x ∈ q.processing then
    { q with
      dirty := insert x q.dirty
      dirty_of_mem := fun y hy => Finset.mem_insert_of_mem (q.dirty_of_mem y hy)
      mem_of_dirty := fun y hy => by
        rcases Finset.mem_insert.1 hy with rfl | hy
        · exact .inr hp
        · exact q.mem_of_dirty y hy }
  else
    { q with
      queue := q.queue ++ [x]
      dirty := insert x q.dirty
      nodup := by
        refine List.nodup_append.2 ⟨q.nodup, List.nodup_singleton x, fun y hy z hz => ?_⟩
        obtain rfl := List.mem_singleton.1 hz
        exact fun h => hd (q.dirty_of_mem _ (h ▸ hy))
      dirty_of_mem := by
        intro y hy
        rcases List.mem_append.1 hy with hy | hy
        · exact Finset.mem_insert_of_mem (q.dirty_of_mem y hy)
        · exact Finset.mem_insert.2 (.inl (List.mem_singleton.1 hy))
      notMem_processing := by
        intro y hy
        rcases List.mem_append.1 hy with hy | hy
        · exact q.notMem_processing y hy
        · exact List.mem_singleton.1 hy ▸ hp
      mem_of_dirty := by
        intro y hy
        rcases Finset.mem_insert.1 hy with rfl | hy
        · exact .inl (List.mem_append_right _ (List.mem_singleton_self y))
        · exact (q.mem_of_dirty y hy).imp_left (List.mem_append_left _) }

def due : Option (Fifo α) :=
  if x ∈ q.delayed then some { q.add x with delayed := q.delayed.erase x } else none

def get : Option (α × Fifo α) :=
  match hq : q.queue with
  | [] => none
  | x :: rest => some (x,
    { delayed := q.delayed
      queue := rest
      dirty := q.dirty.erase x
      processing := insert x q.processing
      nodup := (List.nodup_cons.1 (hq ▸ q.nodup)).2
      dirty_of_mem := fun y hy => by
        have hne : y ≠ x := fun h => (List.nodup_cons.1 (hq ▸ q.nodup)).1 (h ▸ hy)
        exact Finset.mem_erase.2 ⟨hne, q.dirty_of_mem y (hq ▸ List.mem_cons_of_mem x hy)⟩
      notMem_processing := fun y hy => by
        have hne : y ≠ x := fun h => (List.nodup_cons.1 (hq ▸ q.nodup)).1 (h ▸ hy)
        have hp := q.notMem_processing y (hq ▸ List.mem_cons_of_mem x hy)
        exact fun h => (Finset.mem_insert.1 h).elim hne hp
      mem_of_dirty := fun y hy => by
        obtain ⟨hne, hy⟩ := Finset.mem_erase.1 hy
        rcases q.mem_of_dirty y hy with h | h
        · exact .inl ((List.mem_cons.1 (hq ▸ h)).resolve_left hne)
        · exact .inr (Finset.mem_insert_of_mem h) })

/-- The item was processed. One that is queued was not taken since. -/
def done : Fifo α :=
  if h : x ∈ q.dirty ∧ x ∉ q.queue then
    { q with
      queue := q.queue ++ [x]
      processing := q.processing.erase x
      nodup := by
        refine List.nodup_append.2 ⟨q.nodup, List.nodup_singleton x, fun y hy z hz => ?_⟩
        obtain rfl := List.mem_singleton.1 hz
        exact fun hyz => h.2 (hyz ▸ hy)
      dirty_of_mem := by
        intro y hy
        rcases List.mem_append.1 hy with hy | hy
        · exact q.dirty_of_mem y hy
        · exact List.mem_singleton.1 hy ▸ h.1
      notMem_processing := by
        intro y hy
        rcases List.mem_append.1 hy with hy | hy
        · exact fun hp => q.notMem_processing y hy (Finset.mem_of_mem_erase hp)
        · rw [List.mem_singleton.1 hy]
          exact Finset.notMem_erase x _
      mem_of_dirty := by
        intro y hy
        by_cases hne : y = x
        · exact .inl (List.mem_append_right _ (List.mem_singleton.2 hne))
        · exact (q.mem_of_dirty y hy).imp (List.mem_append_left _)
            fun hp => Finset.mem_erase.2 ⟨hne, hp⟩ }
  else
    { q with
      processing := q.processing.erase x
      notMem_processing := fun y hy hp => q.notMem_processing y hy (Finset.mem_of_mem_erase hp)
      mem_of_dirty := by
        intro y hy
        by_cases hne : y = x
        · subst hne
          exact .inl (by_contra fun hq => h ⟨hy, hq⟩)
        · exact (q.mem_of_dirty y hy).imp_right fun hp => Finset.mem_erase.2 ⟨hne, hp⟩ }

variable {q x}

theorem add_sets : (q.add x).dirty = insert x q.dirty ∧ (q.add x).processing = q.processing := by
  unfold add
  split
  · exact ⟨(Finset.insert_eq_of_mem (by assumption)).symm, rfl⟩
  · split <;> exact ⟨rfl, rfl⟩

theorem done_sets : (q.done x).delayed = q.delayed ∧ (q.done x).dirty = q.dirty ∧
    (q.done x).processing = q.processing.erase x := by
  unfold done
  split <;> exact ⟨rfl, rfl, rfl⟩

theorem sets_of_due {q' : Fifo α} (h : q.due x = some q') : x ∈ q.delayed ∧
    q'.delayed = q.delayed.erase x ∧ q'.dirty = insert x q.dirty ∧
      q'.processing = q.processing := by
  obtain ⟨hx, hq⟩ := Option.ite_none_right_eq_some.1 h
  obtain rfl := Option.some.inj hq
  exact ⟨hx, rfl, add_sets.1, add_sets.2⟩

theorem sets_of_get {q' : Fifo α} (h : q.get = some (x, q')) : x ∈ q.dirty ∧
    q'.delayed = q.delayed ∧ q'.dirty = q.dirty.erase x ∧
      q'.processing = insert x q.processing := by
  unfold get at h
  split at h
  · cases h
  · rename_i y rest hq
    simp only [Option.some.injEq, Prod.mk.injEq] at h
    obtain ⟨rfl, rfl⟩ := h
    exact ⟨q.dirty_of_mem _ (hq ▸ List.mem_cons_self), rfl, rfl, rfl⟩

/-- An item is at hand when some are dirty and none is processed. -/
theorem get_of_dirty (h : q.dirty ≠ ∅) (hp : q.processing = ∅) :
    ∃ x q', q.get = some (x, q') := by
  obtain ⟨y, hy⟩ := Finset.nonempty_iff_ne_empty.2 h
  have hmem : y ∈ q.queue := (q.mem_of_dirty y hy).resolve_right (by simp [hp])
  unfold get
  split
  · rename_i hq
    rw [hq] at hmem
    cases hmem
  · exact ⟨_, _, rfl⟩

end Fifo

/-- The queue in order of arrival meets the laws. -/
def fifo (α : Type u) [DecidableEq α] : WorkQueue α where
  State := Fifo α
  new := .new
  addRateLimited := Fifo.addRateLimited
  due := Fifo.due
  get := Fifo.get
  done := Fifo.done
  delayed := Fifo.delayed
  dirty := Fifo.dirty
  processing := Fifo.processing
  delayed_new := rfl
  dirty_new := rfl
  processing_new := rfl
  delayed_addRateLimited := fun _ _ => rfl
  dirty_addRateLimited := fun _ _ => rfl
  processing_addRateLimited := fun _ _ => rfl
  exists_due := fun h => ⟨_, if_pos h⟩
  due_eq_some := Fifo.sets_of_due
  exists_get := Fifo.get_of_dirty
  get_eq_some := Fifo.sets_of_get
  delayed_done := fun _ _ => Fifo.done_sets.1
  dirty_done := fun _ _ => Fifo.done_sets.2.1
  processing_done := fun _ _ => Fifo.done_sets.2.2

end WorkQueue

end Lib
