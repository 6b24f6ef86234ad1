import Mathlib.Data.List.Perm.Basic
import ErieCanalNet.Workerpool.Pool

/-!
# Runs of the worker pool

`jobs_run`: the workers take the jobs in the order in which they were added, each once, and run at
most as many at a time as there are workers. When `Stop` has returned none is run any more; the jobs
that are left in the channel then stay there.
-/

namespace Workerpool

open Lib

variable {J : Type}

/-! ## Operations -/

section

variable {wp wp' : WorkerPool J} {job : J}

theorem addJob_eq_some (h : wp.addJob job = some wp') :
    wp'.jobs = wp.jobs ++ [job] ∧ wp'.running = wp.running ∧ wp'.idle = wp.idle ∧
      wp'.nWorkers = wp.nWorkers := by
  unfold WorkerPool.addJob at h
  split at h
  · obtain rfl := Option.some.inj h
    exact ⟨rfl, rfl, rfl, rfl⟩
  · cases h

theorem take_eq_some (h : wp.take = some (job, wp')) :
    wp.jobs = job :: wp'.jobs ∧ wp'.running = job :: wp.running ∧ wp.idle = wp'.idle + 1 ∧
      wp'.nWorkers = wp.nWorkers := by
  unfold WorkerPool.take at h
  split at h
  · cases h
  · rename_i q rest hj
    split at h
    · rename_i hidle
      simp only [Option.some.injEq, Prod.mk.injEq] at h
      obtain ⟨rfl, rfl⟩ := h
      exact ⟨hj, rfl, (Nat.sub_add_cancel hidle).symm, rfl⟩
    · cases h

theorem finish_eq_some [DecidableEq J] (h : wp.finish job = some wp') :
    job ∈ wp.running ∧ wp'.jobs = wp.jobs ∧ wp'.running = wp.running.erase job ∧
      wp'.idle = wp.idle + 1 ∧ wp'.nWorkers = wp.nWorkers := by
  unfold WorkerPool.finish at h
  split at h
  · rename_i hp
    obtain rfl := Option.some.inj h
    exact ⟨hp, rfl, rfl, rfl, rfl⟩
  · cases h

theorem stop_eq_some (h : wp.stop = some wp') :
    wp.stopped = false ∧ wp'.jobs = wp.jobs ∧ wp'.running = wp.running ∧ wp'.idle = wp.idle ∧
      wp'.nWorkers = wp.nWorkers := by
  unfold WorkerPool.stop at h
  split at h
  · cases h
  · obtain rfl := Option.some.inj h
    exact ⟨by simp_all, rfl, rfl, rfl, rfl⟩

theorem exit_eq_some (h : wp.exit = some wp') :
    0 < wp.idle ∧ wp'.jobs = wp.jobs ∧ wp'.running = wp.running ∧ wp'.nWorkers = wp.nWorkers := by
  unfold WorkerPool.exit at h
  split at h
  · rename_i hidle
    obtain rfl := Option.some.inj h
    exact ⟨hidle.2, rfl, rfl, rfl⟩
  · cases h

theorem exists_addJob (job : J) (h : wp.jobs.length < wp.nWorkers) :
    ∃ wp', wp.addJob job = some wp' :=
  ⟨_, dif_pos h⟩

theorem exists_take (h : wp.jobs ≠ []) (hidle : 0 < wp.idle) :
    ∃ job wp', wp.take = some (job, wp') := by
  unfold WorkerPool.take
  split
  · contradiction
  · exact ⟨_, _, dif_pos hidle⟩

theorem exists_finish [DecidableEq J] (h : job ∈ wp.running) : ∃ wp', wp.finish job = some wp' :=
  ⟨_, dif_pos h⟩

end

/-! ## Runs -/

def Action.adds : Action J → List J
  | .addJob job => [job]
  | _ => []

def Action.takes : Action J → List J
  | .take job => [job]
  | _ => []

def Action.finishes : Action J → List J
  | .finish job => [job]
  | _ => []

/-- The jobs that were added, in this order. -/
def added (actions : List (Action J)) : List J := actions.flatMap (·.adds)

/-- The jobs that a worker has taken. -/
def taken (actions : List (Action J)) : List J := actions.flatMap (·.takes)

/-- The jobs that have been run to their end. -/
def finished (actions : List (Action J)) : List J := actions.flatMap (·.finishes)

theorem added_concat (actions : List (Action J)) (a : Action J) :
    added (actions ++ [a]) = added actions ++ a.adds := by
  simp [added]

theorem taken_concat (actions : List (Action J)) (a : Action J) :
    taken (actions ++ [a]) = taken actions ++ a.takes := by
  simp [taken]

theorem finished_concat (actions : List (Action J)) (a : Action J) :
    finished (actions ++ [a]) = finished actions ++ a.finishes := by
  simp [finished]

variable [DecidableEq J]

/-- Where the jobs of a run are. -/
structure Accounted (actions : List (Action J)) (wp : WorkerPool J) : Prop where
  added : added actions = taken actions ++ wp.jobs
  taken : (taken actions).Perm (finished actions ++ wp.running)

theorem step_take {wp wp' : WorkerPool J} {job : J} (h : step wp (.take job) = some wp') :
    wp.take = some (job, wp') := by
  obtain ⟨⟨job', wp₁⟩, hwp, hs⟩ := Option.bind_eq_some_iff.1 h
  obtain ⟨rfl, hs'⟩ := Option.ite_none_right_eq_some.1 hs
  obtain rfl := Option.some.inj hs'
  exact hwp

theorem Accounted.step {actions : List (Action J)} {wp wp' : WorkerPool J} {a : Action J}
    (ha : Accounted actions wp) (h : step wp a = some wp') : Accounted (actions ++ [a]) wp' := by
  have hadded := ha.added
  have htaken := ha.taken
  constructor <;> simp only [added_concat, taken_concat, finished_concat]
  · cases a with
    | addJob job => simp [Action.adds, Action.takes, hadded, (addJob_eq_some h).1]
    | take job => simp [Action.adds, Action.takes, hadded, (take_eq_some (step_take h)).1]
    | finish job => simp [Action.adds, Action.takes, hadded, (finish_eq_some h).2.1]
    | stop => simp [Action.adds, Action.takes, hadded, (stop_eq_some h).2.1]
    | exit => simp [Action.adds, Action.takes, hadded, (exit_eq_some h).2.1]
  · cases a with
    | addJob job => simpa [Action.takes, Action.finishes, (addJob_eq_some h).2.1] using htaken
    | take job =>
      rw [(take_eq_some (step_take h)).2.1]
      simp only [Action.takes, Action.finishes, List.append_nil]
      exact (htaken.append_right [job]).trans
        (by rw [List.append_assoc]; exact (List.perm_append_singleton ..).append_left _)
    | finish job =>
      obtain ⟨hmem, -, hrunning, -⟩ := finish_eq_some h
      rw [hrunning]
      simp only [Action.takes, Action.finishes, List.append_nil, List.append_assoc]
      exact htaken.trans ((List.perm_cons_erase hmem).append_left _)
    | stop => simpa [Action.takes, Action.finishes, (stop_eq_some h).2.2.1] using htaken
    | exit => simpa [Action.takes, Action.finishes, (exit_eq_some h).2.2.1] using htaken

theorem nWorkers_step {wp wp' : WorkerPool J} {a : Action J} (h : step wp a = some wp') :
    wp'.nWorkers = wp.nWorkers := by
  cases a with
  | addJob job => exact (addJob_eq_some h).2.2.2
  | take job => exact (take_eq_some (step_take h)).2.2.2
  | finish job => exact (finish_eq_some h).2.2.2.2
  | stop => exact (stop_eq_some h).2.2.2.2
  | exit => exact (exit_eq_some h).2.2.2

/-- Once all workers have exited a job can be added to the channel, and nothing else happens. -/
theorem exited_step {wp wp' : WorkerPool J} {a : Action J} (he : wp.Exited)
    (h : step wp a = some wp') : wp'.Exited ∧ a.takes = [] ∧ a.finishes = [] := by
  obtain ⟨hstopped, hidle, hrunning⟩ := he
  cases a with
  | addJob job =>
    simp only [step, WorkerPool.addJob] at h
    split at h
    · obtain rfl := Option.some.inj h
      exact ⟨⟨hstopped, hidle, hrunning⟩, rfl, rfl⟩
    · cases h
  | take job =>
    have := (take_eq_some (step_take h)).2.2.1
    omega
  | finish job =>
    have hmem := (finish_eq_some h).1
    rw [hrunning] at hmem
    cases hmem
  | stop =>
    have := (stop_eq_some h).1
    rw [hstopped] at this
    cases this
  | exit =>
    have := (exit_eq_some h).1
    omega

/-- **The jobs of a pool** are taken in the order in which they were added, each once, at most as
many at a time as there are workers; and when `Stop` has returned none is taken or finished. -/
theorem jobs_run {nWorkers goMaxProcs : Nat} {actions : List (Action J)} {wp : WorkerPool J}
    (h : Reaches nWorkers goMaxProcs actions wp) :
    added actions = taken actions ++ wp.jobs ∧
      (taken actions).Perm (finished actions ++ wp.running) ∧
      wp.running.length ≤ (if nWorkers = 0 then goMaxProcs else nWorkers) ∧
      (wp.Exited → ∀ more wp', Run (fun wp a wp' => step wp a = some wp') wp more wp' →
        taken more = [] ∧ finished more = []) := by
  have ha : Accounted actions wp :=
    Run.invariant_labels Accounted h ⟨rfl, .nil⟩ Accounted.step
  have hn : wp.nWorkers = if nWorkers = 0 then goMaxProcs else nWorkers :=
    Run.invariant_labels
      (fun _ wp => wp.nWorkers = if nWorkers = 0 then goMaxProcs else nWorkers) h rfl
      fun hn hs => (nWorkers_step hs).trans hn
  have hle := wp.workers
  refine ⟨ha.added, ha.taken, by omega, fun he more wp' hrun => ?_⟩
  have hinv := Run.invariant_labels
    (fun more wp' => wp'.Exited ∧ taken more = [] ∧ finished more = []) hrun ⟨he, rfl, rfl⟩ ?_
  · exact hinv.2
  · intro more wp₁ a wp₂ ih hs
    obtain ⟨he', htakes, hfinishes⟩ := exited_step ih.1 hs
    exact ⟨he', by rw [taken_concat, ih.2.1, htakes]; rfl,
      by rw [finished_concat, ih.2.2, hfinishes]; rfl⟩

/-- A job that is in the channel when the only worker exits is never run. -/
theorem jobs_run_stopped :
    ∃ wp : WorkerPool Nat, Reaches 1 1 [.addJob 1, .take 1, .addJob 2, .stop, .finish 1, .exit] wp ∧
      wp.jobs = [2] ∧ wp.Exited ∧
      ∀ more wp', Run (fun wp a wp' => step wp a = some wp') wp more wp' → taken more = [] := by
  have hrun := run_of_foldlM (rfl :
    [.addJob 1, .take 1, .addJob 2, .stop, .finish 1, .exit].foldlM step
      (WorkerPool.new 1 1 : WorkerPool Nat) = some _)
  refine ⟨_, hrun, rfl, ?exited, fun more wp' h => ((jobs_run hrun).2.2.2 ?exited more wp' h).1⟩
  exact ⟨rfl, rfl, rfl⟩

end Workerpool
