import ErieCanalNet.Lib.Run

/-!
# The worker pool

`pkg/ecnet/workerpool`: a channel of jobs, as long as there are workers, and the workers that take
jobs from it until the pool is stopped. A worker at its `select` that sees both a job and the closed
channel `stop` may take either.

An operation that blocks, and the second `close` of `stop`, which panics, is `none`.
-/

namespace Workerpool

structure WorkerPool (J : Type) where
  nWorkers : Nat
  /-- The channel. -/
  jobs : List J
  /-- The workers at their `select`. -/
  idle : Nat
  /-- The jobs in `Run`, one for each worker that has taken one. -/
  running : List J
  stopped : Bool
  jobs_length : jobs.length ≤ nWorkers
  workers : idle + running.length ≤ nWorkers

variable {J : Type}

namespace WorkerPool

/-- `NewWorkerPool`. -/
def new (nWorkers goMaxProcs : Nat) : WorkerPool J :=
  let nWorkers := if nWorkers = 0 then goMaxProcs else nWorkers
  { nWorkers
    jobs := []
    idle := nWorkers
    running := []
    stopped := false
    jobs_length := Nat.zero_le _
    workers := Nat.le_refl _ }

variable (wp : WorkerPool J)

/-- `AddJob`, up to the job's own channel. -/
def addJob (job : J) : Option (WorkerPool J) :=
  if h : wp.jobs.length < wp.nWorkers then
    some { wp with
      jobs := wp.jobs ++ [job]
      jobs_length := by rw [List.length_append]; exact h }
  else none

/-- `case j := <-wp.jobs` of a worker. -/
def take : Option (J × WorkerPool J) :=
  match hj : wp.jobs with
  | [] => none
  | job :: rest =>
    if h : 0 < wp.idle then
      some (job, { wp with
        jobs := rest
        idle := wp.idle - 1
        running := job :: wp.running
        jobs_length := by
          have := wp.jobs_length
          rw [hj, List.length_cons] at this
          omega
        workers := by
          have := wp.workers
          rw [List.length_cons]
          omega })
    else none

/-- `Run` returns. -/
def finish [DecidableEq J] (job : J) : Option (WorkerPool J) :=
  if h : job ∈ wp.running then
    some { wp with
      idle := wp.idle + 1
      running := wp.running.erase job
      workers := by
        have := wp.workers
        have := List.length_pos_of_mem h
        rw [List.length_erase_of_mem h]
        omega }
  else none

/-- `close(wp.stop)` of `Stop`. -/
def stop : Option (WorkerPool J) := if wp.stopped then none else some { wp with stopped := true }

/-- `case <-wp.stop` of a worker. -/
def exit : Option (WorkerPool J) :=
  if wp.stopped ∧ 0 < wp.idle then
    some { wp with
      idle := wp.idle - 1
      workers := Nat.le_trans (Nat.add_le_add_right (Nat.sub_le _ _) _) wp.workers }
  else none

/-- `wp.wg.Wait()` of `Stop` returns. -/
def Exited : Prop := wp.stopped = true ∧ wp.idle = 0 ∧ wp.running = []

end WorkerPool

inductive Action (J : Type)
  | addJob (job : J)
  | take (job : J)
  | finish (job : J)
  | stop
  | exit
deriving DecidableEq

def step [DecidableEq J] (wp : WorkerPool J) : Action J → Option (WorkerPool J)
  | .addJob job => wp.addJob job
  | .take job => wp.take.bind fun (job', wp') => if job' = job then some wp' else none
  | .finish job => wp.finish job
  | .stop => wp.stop
  | .exit => wp.exit

/-- A run of a new pool. -/
def Reaches [DecidableEq J] (nWorkers goMaxProcs : Nat) (actions : List (Action J))
    (wp : WorkerPool J) : Prop :=
  Lib.Run (fun wp a wp' => step wp a = some wp') (.new nWorkers goMaxProcs) actions wp

end Workerpool
