import Mathlib.Data.List.Chain

/-!
# Runs of a transition system

`Run step s ls s'`: the system goes from `s` to `s'` by steps labelled `ls`; `Run.invariant` is
the induction every safety result uses, `Run.invariant_labels` its form for invariants that speak of
the labels, `Run.invariant_forall` and `Run.invariant_pairwise` those for runs whose labels are
restricted. `Run.append` puts runs together, `Run.exists_of_append` takes one apart, `Run.exists_step`
at a label, and `run_of_foldlM` makes one by evaluation.

`Since Sets Ends ls`: one of the labels sets something that none of the later ones ends; what a
label sets may depend on the labels before it. `Run.iff_since` reads a property of the state off
the labels of a run, `Run.of_since` is the half of it for what steps need not set.

`AlwaysAfter step P s is`: a system that is fed the inputs `is` one by one takes every step, and
after each step `P` relates the input and the state. `alwaysAfter_iff_isChain` turns such a
property into one of neighbouring inputs, when the state reached from an input under `P` decides
the same about the next input as the input itself.

`foldl_iff_forall`: what each input of a fold alone keeps or gives up. `foldlM_rel`: two folds whose
steps may fail, in step with each other. `foldlM_isOk_iff`: a fold whose steps may fail succeeds
when every step would succeed from the start, if no step changes that for the steps that follow it.
-/

namespace Lib

universe u v

variable {σ : Type u} {ι : Type v}

inductive Run (step : σ → ι → σ → Prop) (s : σ) : List ι → σ → Prop
  | nil : Run step s [] s
  | snoc {ls : List ι} {l : ι} {s₁ s₂ : σ} :
      Run step s ls s₁ → step s₁ l s₂ → Run step s (ls ++ [l]) s₂

theorem Run.append {step : σ → ι → σ → Prop} {s s₁ s₂ : σ} {ls ls' : List ι}
    (h : Run step s ls s₁) (h' : Run step s₁ ls' s₂) : Run step s (ls ++ ls') s₂ := by
  induction h' with
  | nil => rwa [List.append_nil]
  | snoc _ hs ih =>
    rw [← List.append_assoc]
    exact ih.snoc hs

/-- **The invariant rule**: what holds at the start and is kept by every step holds along
every run. -/
theorem Run.invariant {step : σ → ι → σ → Prop} {Inv : σ → Prop} {s s' : σ} {ls : List ι}
    (h0 : Inv s) (hstep : ∀ {s₁ l s₂}, Inv s₁ → step s₁ l s₂ → Inv s₂) (h : Run step s ls s') :
    Inv s' := by
  induction h with
  | nil => exact h0
  | snoc _ hs ih => exact hstep ih hs

/-- The rule for runs whose labels all meet a condition. -/
theorem Run.invariant_forall {step : σ → ι → σ → Prop} {s s' : σ} {ls : List ι} {P : ι → Prop}
    (Inv : σ → Prop) (h : Run step s ls s') (hls : ∀ l ∈ ls, P l) (h0 : Inv s)
    (hstep : ∀ {s₁ l s₂}, Inv s₁ → P l → step s₁ l s₂ → Inv s₂) : Inv s' := by
  induction h with
  | nil => exact h0
  | snoc _ hs ih =>
    rw [List.forall_mem_append, List.forall_mem_singleton] at hls
    exact hstep (ih hls.1) hls.2 hs

/-- The rule with an invariant that speaks of the labels so far. -/
theorem Run.invariant_labels {step : σ → ι → σ → Prop} {s s' : σ} {ls : List ι}
    (Inv : List ι → σ → Prop) (h : Run step s ls s') (h0 : Inv [] s)
    (hstep : ∀ {ls s₁ l s₂}, Inv ls s₁ → step s₁ l s₂ → Inv (ls ++ [l]) s₂) : Inv ls s' := by
  induction h with
  | nil => exact h0
  | snoc _ hs ih => exact hstep ih hs

/-- The rule for runs whose labels are pairwise in a relation, with an invariant that speaks of
the labels so far. -/
theorem Run.invariant_pairwise {step : σ → ι → σ → Prop} {s s' : σ} {ls : List ι}
    {R : ι → ι → Prop} (Inv : List ι → σ → Prop) (h : Run step s ls s') (hls : ls.Pairwise R)
    (h0 : Inv [] s)
    (hstep : ∀ {ls s₁ l s₂}, Inv ls s₁ → (∀ l' ∈ ls, R l' l) → step s₁ l s₂ → Inv (ls ++ [l]) s₂) :
    Inv ls s' := by
  induction h with
  | nil => exact h0
  | snoc _ hs ih =>
    obtain ⟨hinit, -, hlast⟩ := List.pairwise_append.1 hls
    exact hstep (ih hinit) (fun l' h => hlast l' h _ (List.mem_singleton_self _)) hs

/-- Every label of a run is one of its steps, from a state that the labels before it reach. -/
theorem Run.exists_step {step : σ → ι → σ → Prop} {s s' : σ} {before after : List ι} {l : ι}
    (h : Run step s (before ++ l :: after) s') :
    ∃ s₁ s₂, Run step s before s₁ ∧ step s₁ l s₂ := by
  generalize hls : before ++ l :: after = ls at h
  induction h generalizing after with
  | nil => simp at hls
  | @snoc ls l' s₁ s₂ hrun hstep ih =>
    rcases List.eq_nil_or_concat after with rfl | ⟨xs, x, rfl⟩
    · obtain ⟨rfl, rfl⟩ : before = ls ∧ l = l' := by simpa using List.append_inj' hls rfl
      exact ⟨s₁, s₂, hrun, hstep⟩
    · rw [List.concat_eq_append, ← List.cons_append, ← List.append_assoc] at hls
      exact ih (List.append_inj' hls rfl).1

/-- Folding a step function is a run. -/
theorem run_of_foldlM {step : σ → ι → Option σ} {s s' : σ} {ls : List ι}
    (h : ls.foldlM step s = some s') : Run (fun s l s' => step s l = some s') s ls s' := by
  induction ls using List.reverseRecOn generalizing s' with
  | nil =>
    obtain rfl := Option.some.inj h
    exact .nil
  | append_singleton ls l ih =>
    rw [List.foldlM_append] at h
    obtain ⟨s₁, h₁, hl⟩ := Option.bind_eq_some_iff.1 h
    rw [List.foldlM_cons] at hl
    obtain ⟨s₂, h₂, hnil⟩ := Option.bind_eq_some_iff.1 hl
    obtain rfl := Option.some.inj hnil
    exact (ih h₁).snoc h₂

/-! ## What a run leaves -/

def Since (Sets : List ι → ι → Prop) (Ends : ι → Prop) (ls : List ι) : Prop :=
  ∃ before l after, ls = before ++ l :: after ∧ Sets before l ∧ ∀ l' ∈ after, ¬ Ends l'

section

variable {Sets : List ι → ι → Prop} {Ends : ι → Prop}

theorem not_since_nil : ¬ Since Sets Ends [] := by
  rintro ⟨before, l, after, hls, -⟩
  simp at hls

theorem since_concat {ls : List ι} {l : ι} :
    Since Sets Ends (ls ++ [l]) ↔ Sets ls l ∨ Since Sets Ends ls ∧ ¬ Ends l := by
  constructor
  · rintro ⟨before, l', after, hls, hsets, hafter⟩
    rcases List.eq_nil_or_concat after with rfl | ⟨rest, last, rfl⟩
    · obtain ⟨rfl, rfl⟩ : ls = before ∧ l = l' := by simpa using List.append_inj' hls rfl
      exact .inl hsets
    · rw [List.concat_eq_append, ← List.cons_append, ← List.append_assoc] at hls
      obtain ⟨rfl, hlast⟩ := List.append_inj' hls rfl
      obtain rfl : l = last := by simpa using hlast
      rw [List.concat_eq_append, List.forall_mem_append, List.forall_mem_singleton] at hafter
      exact .inr ⟨⟨before, l', rest, rfl, hsets, hafter.1⟩, hafter.2⟩
  · rintro (hsets | ⟨⟨before, l', after, rfl, hsets, hafter⟩, hl⟩)
    · exact ⟨ls, l, [], rfl, hsets, List.forall_mem_nil _⟩
    · refine ⟨before, l', after ++ [l], by simp, hsets, ?_⟩
      rw [List.forall_mem_append, List.forall_mem_singleton]
      exact ⟨hafter, hl⟩

/-- **The rule for what a run leaves**: a property that each step sets, keeps or ends. -/
theorem Run.iff_since {step : σ → ι → σ → Prop} {s s' : σ} {ls : List ι} (P : σ → Prop)
    (h : Run step s ls s') (h0 : ¬ P s)
    (hstep : ∀ {ls s₁ l s₂}, Run step s ls s₁ → step s₁ l s₂ →
      (P s₂ ↔ Sets ls l ∨ P s₁ ∧ ¬ Ends l)) : P s' ↔ Since Sets Ends ls := by
  induction h with
  | nil => exact iff_of_false h0 not_since_nil
  | snoc hrun hs ih => rw [hstep hrun hs, ih, since_concat]

/-- What one step sets holds until a step ends it. -/
theorem Run.of_since {step : σ → ι → σ → Prop} {s s' : σ} {ls : List ι} (P : σ → Prop)
    (h : Run step s ls s') (hset : ∀ {ls s₁ l s₂}, Sets ls l → step s₁ l s₂ → P s₂)
    (hkeep : ∀ {s₁ l s₂}, P s₁ → ¬ Ends l → step s₁ l s₂ → P s₂)
    (hsince : Since Sets Ends ls) : P s' := by
  induction h with
  | nil => exact absurd hsince not_since_nil
  | snoc hrun hs ih =>
    rcases since_concat.1 hsince with hsets | ⟨hsince, hends⟩
    · exact hset hsets hs
    · exact hkeep (ih hsince) hends hs

end

def AlwaysAfter (step : σ → ι → Option σ) (P : ι → σ → Prop) : σ → List ι → Prop
  | _, [] => True
  | s, i :: is => ∃ s', step s i = some s' ∧ P i s' ∧ AlwaysAfter step P s' is

theorem alwaysAfter_of_invariant {step : σ → ι → Option σ} {Inv : σ → Prop}
    (hstep : ∀ {s} i, Inv s → ∃ s', step s i = some s' ∧ Inv s') {s : σ} {is : List ι} (hs : Inv s) :
    AlwaysAfter step (fun _ => Inv) s is := by
  induction is generalizing s with
  | nil => exact trivial
  | cons i is ih =>
    obtain ⟨s', hs', hinv⟩ := hstep i hs
    exact ⟨s', hs', hinv, ih hinv⟩

/-- `Ok s i`: the step on `i` from `s` ends in `P`. If after `P i` this means `R i` of the next
input, the property holds after every step iff the inputs are a chain of `R`. -/
theorem alwaysAfter_iff_isChain {step : σ → ι → Option σ} {P : ι → σ → Prop} (Inv : σ → Prop)
    (Ok : σ → ι → Prop) (R : ι → ι → Prop)
    (hstep : ∀ {s} i, Inv s → ∃ s', step s i = some s' ∧ Inv s' ∧ (P i s' ↔ Ok s i))
    (hnext : ∀ {s i} j, Inv s → P i s → (Ok s j ↔ R i j)) {s : σ} {i : ι} {is : List ι}
    (hs : Inv s) : AlwaysAfter step P s (i :: is) ↔ Ok s i ∧ (i :: is).IsChain R := by
  induction is generalizing s i with
  | nil =>
    obtain ⟨s', hs', -, hP⟩ := hstep i hs
    simp [AlwaysAfter, hs', hP]
  | cons j js ih =>
    obtain ⟨s', hs', hinv, hP⟩ := hstep i hs
    rw [AlwaysAfter, hs']
    simp only [Option.some.injEq, exists_eq_left', hP]
    refine and_congr_right fun hok => ?_
    rw [ih hinv, List.isChain_cons_cons, hnext j hinv (hP.2 hok)]

/-! ## Folds -/

theorem foldl_iff_forall {f : σ → ι → σ} {P : σ → Prop} {R : ι → Prop}
    (h : ∀ s i, P (f s i) ↔ P s ∧ R i) {is : List ι} {s : σ} :
    P (is.foldl f s) ↔ P s ∧ ∀ i ∈ is, R i := by
  induction is generalizing s with
  | nil => simp
  | cons i is ih => rw [List.foldl_cons, ih, h, List.forall_mem_cons, and_assoc]

theorem exists_of_rel_some_left {α β : Type*} {R : α → β → Prop} {a : α} {o : Option β}
    (h : Option.Rel R (some a) o) : ∃ b, o = some b ∧ R a b := by
  cases h with
  | some h => exact ⟨_, rfl, h⟩

theorem exists_of_rel_some_right {α β : Type*} {R : α → β → Prop} {o : Option α} {b : β}
    (h : Option.Rel R o (some b)) : ∃ a, o = some a ∧ R a b := by
  cases h with
  | some h => exact ⟨_, rfl, h⟩

/-- Two folds in step: from related states both end in related states, or both in none. -/
theorem foldlM_rel {τ : Type u} {f : σ → ι → Option σ} {g : τ → ι → Option τ} {R : σ → τ → Prop}
    (h : ∀ {s t} i, R s t → Option.Rel R (f s i) (g t i)) (is : List ι) {s : σ} {t : τ}
    (hst : R s t) : Option.Rel R (is.foldlM f s) (is.foldlM g t) := by
  induction is generalizing s t with
  | nil => exact .some hst
  | cons i is ih =>
    rw [List.foldlM_cons, List.foldlM_cons]
    have hrel := h i hst
    generalize f s i = o, g t i = o' at hrel ⊢
    cases hrel with
    | none => exact .none
    | some h₁ => exact ih h₁

theorem bind_eq_ok {ε α β : Type} {x : Except ε α} {f : α → Except ε β} {b : β} :
    (x >>= f) = .ok b ↔ ∃ a, x = .ok a ∧ f a = .ok b := by
  cases x <;> simp [bind, Except.bind]

theorem foldlM_isOk_iff {ε σ ι : Type} {f : σ → ι → Except ε σ} {Ok : σ → ι → Prop}
    {R : ι → ι → Prop} (hok : ∀ s i, (∃ s', f s i = .ok s') ↔ Ok s i)
    (hkeep : ∀ {s i s' j}, f s i = .ok s' → R i j → (Ok s' j ↔ Ok s j)) {is : List ι}
    (his : is.Pairwise R) {s : σ} : (∃ s', is.foldlM f s = .ok s') ↔ ∀ i ∈ is, Ok s i := by
  induction is generalizing s with
  | nil => exact iff_of_true ⟨s, rfl⟩ fun _ hi => by cases hi
  | cons i is ih =>
    obtain ⟨hi, his⟩ := List.pairwise_cons.1 his
    have hrest : ∀ {s₁}, f s i = .ok s₁ → ((∀ j ∈ is, Ok s₁ j) ↔ ∀ j ∈ is, Ok s j) :=
      fun h => forall₂_congr fun j hj => hkeep h (hi j hj)
    simp only [List.foldlM_cons, bind_eq_ok, List.forall_mem_cons]
    constructor
    · rintro ⟨s', s₁, h₁, h⟩
      exact ⟨(hok s i).1 ⟨s₁, h₁⟩, (hrest h₁).1 ((ih his).1 ⟨s', h⟩)⟩
    · rintro ⟨h, hs⟩
      obtain ⟨s₁, h₁⟩ := (hok s i).2 h
      obtain ⟨s', h'⟩ := (ih his).2 ((hrest h₁).2 hs)
      exact ⟨s', s₁, h₁, h'⟩

end Lib
