import Mathlib.Logic.Basic

/-!
# Programs that call an environment

`Prog Req Resp α`: a program that returns a value, crashes, or makes a request and goes on with
the response. An environment answers requests from a state of its own (`Prog.run`), so a law
about every environment is a law about every sequence of responses.

`run_send_bind`, `run_bind_of_some` execute a program step by step, `run_bind_eq_some` takes a
finished execution apart, and `run_keeps` is the rule for what every request leaves alone.

`Exec p log r`: asked and answered as in `log`, the program ends with `r`. `exec_bind` cuts the log
of a sequence where its first part ends, and a `Safe` part does not crash. `converse` runs a program
against a list of responses and keeps the log, which is one of its executions (`exec_converse`).
-/

namespace Lib

inductive Prog (Req Resp α : Type) where
  | ret (a : α)
  | crash
  | call (req : Req) (k : Resp → Prog Req Resp α)

namespace Prog

variable {Req Resp α β σ : Type}

def bind (p : Prog Req Resp α) (f : α → Prog Req Resp β) : Prog Req Resp β :=
  match p with
  | ret a => f a
  | crash => crash
  | call req k => call req fun resp => (k resp).bind f

instance : Monad (Prog Req Resp) where
  pure := ret
  bind := bind

/-- Make a request and return its response. -/
def send (req : Req) : Prog Req Resp Resp := call req ret

/-- Execution against an environment; `none` is a crash. -/
def run (env : σ → Req → Resp × σ) : Prog Req Resp α → σ → Option α × σ
  | ret a, s => (some a, s)
  | crash, s => (none, s)
  | call req k, s => run env (k (env s req).1) (env s req).2

variable {env : σ → Req → Resp × σ}

@[simp] theorem run_pure (a : α) (s : σ) : run env (pure a) s = (some a, s) := rfl

@[simp] theorem run_crash (s : σ) : run env (crash : Prog Req Resp α) s = (none, s) := rfl

@[simp] theorem run_send (req : Req) (s : σ) :
    run env (send req) s = (some (env s req).1, (env s req).2) := rfl

theorem run_bind (p : Prog Req Resp α) (f : α → Prog Req Resp β) (s : σ) :
    run env (p >>= f) s =
      match run env p s with
      | (some a, s') => run env (f a) s'
      | (none, s') => (none, s') := by
  induction p generalizing s with
  | ret a => rfl
  | crash => rfl
  | call req k ih => exact ih (env s req).1 (env s req).2

/-- A program goes on after a part of it that returned. -/
theorem run_bind_of_some {p : Prog Req Resp α} {f : α → Prog Req Resp β} {s s' : σ} {a : α}
    (h : run env p s = (some a, s')) : run env (p >>= f) s = run env (f a) s' := by
  rw [run_bind, h]

/-- A program that returned did so through its parts. -/
theorem run_bind_eq_some {p : Prog Req Resp α} {f : α → Prog Req Resp β} {s s' : σ} {b : β} :
    run env (p >>= f) s = (some b, s') ↔
      ∃ a s₁, run env p s = (some a, s₁) ∧ run env (f a) s₁ = (some b, s') := by
  rw [run_bind]
  rcases run env p s with ⟨_ | a, s₁⟩
  · simp
  · exact ⟨fun h => ⟨a, s₁, rfl, h⟩, fun ⟨a', s₂, he, h⟩ => by cases he; exact h⟩

/-- A request and what follows it. -/
@[simp] theorem run_send_bind (req : Req) (f : Resp → Prog Req Resp β) (s : σ) :
    run env (send req >>= f) s = run env (f (env s req).1) (env s req).2 := rfl

/-- What every answer of the environment keeps, a program keeps. -/
theorem run_keeps {R : σ → σ → Prop} (hrefl : ∀ s, R s s)
    (htrans : ∀ {a b c}, R a b → R b c → R a c) (henv : ∀ s req, R s (env s req).2)
    (p : Prog Req Resp α) (s : σ) : R s (run env p s).2 := by
  induction p generalizing s with
  | ret a => exact hrefl s
  | crash => exact hrefl s
  | call req k ih => exact htrans (henv s req) (ih _ _)

/-! ## Conversations -/

/-- The program ends with `r` if it is asked and answered as in the log; `none` is a crash. -/
inductive Exec : Prog Req Resp α → List (Req × Resp) → Option α → Prop
  | ret (a : α) : Exec (ret a) [] (some a)
  | crash : Exec crash [] none
  | call {req : Req} {k : Resp → Prog Req Resp α} {resp : Resp} {log : List (Req × Resp)}
      {r : Option α} (h : Exec (k resp) log r) : Exec (call req k) ((req, resp) :: log) r

variable {log : List (Req × Resp)}

theorem exec_pure {a : α} {r : Option α} :
    Exec (pure a : Prog Req Resp α) log r ↔ log = [] ∧ r = some a := by
  constructor
  · rintro ⟨⟩
    exact ⟨rfl, rfl⟩
  · rintro ⟨rfl, rfl⟩
    exact .ret a

theorem exec_send_bind {req : Req} {f : Resp → Prog Req Resp α} {r : Option α} :
    Exec (send req >>= f) log r ↔ ∃ resp rest, log = (req, resp) :: rest ∧ Exec (f resp) rest r := by
  constructor
  · rintro ⟨⟩
    rename_i h
    exact ⟨_, _, rfl, h⟩
  · rintro ⟨resp, rest, rfl, h⟩
    exact .call h

/-- A sequence runs its first part, then what follows; unless the first part crashes. -/
theorem exec_bind {p : Prog Req Resp α} {f : α → Prog Req Resp β} {r : Option β} :
    Exec (p >>= f) log r ↔
      (∃ a l₁ l₂, log = l₁ ++ l₂ ∧ Exec p l₁ (some a) ∧ Exec (f a) l₂ r) ∨
        (r = none ∧ Exec p log none) := by
  induction p generalizing log with
  | ret a =>
    constructor
    · exact fun h => .inl ⟨a, [], log, rfl, .ret a, h⟩
    · rintro (⟨a', l₁, l₂, rfl, h₁, h₂⟩ | ⟨-, h⟩)
      · cases h₁
        exact h₂
      · cases h
  | crash =>
    constructor
    · rintro ⟨⟩
      exact .inr ⟨rfl, .crash⟩
    · rintro (⟨a', l₁, l₂, rfl, h₁, h₂⟩ | ⟨rfl, h⟩)
      · cases h₁
      · cases h
        exact .crash
  | call req k ih =>
    constructor
    · rintro ⟨⟩
      rename_i resp rest h
      rcases (ih resp).1 h with ⟨a, l₁, l₂, rfl, h₁, h₂⟩ | ⟨rfl, hcrash⟩
      · exact .inl ⟨a, (req, resp) :: l₁, l₂, rfl, .call h₁, h₂⟩
      · exact .inr ⟨rfl, .call hcrash⟩
    · rintro (⟨a, l₁, l₂, rfl, h₁, h₂⟩ | ⟨rfl, h⟩)
      · cases h₁ with
        | call h₁ => exact .call ((ih _).2 (.inl ⟨a, _, l₂, rfl, h₁, h₂⟩))
      · cases h with
        | call h => exact .call ((ih _).2 (.inr ⟨rfl, h⟩))

/-- A program that never crashes. -/
def Safe (p : Prog Req Resp α) : Prop := ∀ log, ¬ Exec p log none

theorem Safe.exec_bind {p : Prog Req Resp α} {f : α → Prog Req Resp β} {r : Option β}
    (hp : Safe p) : Exec (p >>= f) log r ↔
      ∃ a l₁ l₂, log = l₁ ++ l₂ ∧ Exec p l₁ (some a) ∧ Exec (f a) l₂ r :=
  Prog.exec_bind.trans (or_iff_left fun h => hp log h.2)

/-- The execution of a program that is given the responses one after the other, and its log. -/
def converse (resps : Nat → Resp) (p : Prog Req Resp α) : Option α × List (Req × Resp) :=
  run (fun log req => (resps log.length, log ++ [(req, resps log.length)])) p []

theorem exec_converse (resps : Nat → Resp) (p : Prog Req Resp α) :
    Exec p (converse resps p).2 (converse resps p).1 := by
  let env := fun (log : List (Req × Resp)) (req : Req) =>
    (resps log.length, log ++ [(req, resps log.length)])
  suffices h : ∀ log₀, ∃ log, (run env p log₀).2 = log₀ ++ log ∧ Exec p log (run env p log₀).1 by
    obtain ⟨log, hlog, hexec⟩ := h []
    rw [converse, hlog]
    exact hexec
  induction p with
  | ret a => exact fun log₀ => ⟨[], (List.append_nil _).symm, .ret a⟩
  | crash => exact fun log₀ => ⟨[], (List.append_nil _).symm, .crash⟩
  | call req k ih =>
    intro log₀
    obtain ⟨log, hlog, hexec⟩ := ih (resps log₀.length) (log₀ ++ [(req, resps log₀.length)])
    refine ⟨(req, resps log₀.length) :: log, ?_, .call hexec⟩
    rw [List.append_assoc] at hlog
    exact hlog

end Prog

end Lib
