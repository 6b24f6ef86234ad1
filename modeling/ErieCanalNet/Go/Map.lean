import Mathlib.Data.List.AList

/-!
# Go maps

A Go map is a finite map (`AList`: one entry per key). `range` visits the entries in an order
the language leaves open: a `RangeOrder` is one such choice, and what a loop computes is stated
for every choice.
-/

namespace Go

abbrev Map (K V : Type) := AList fun _ : K => V

/-- A map from texts that is written, read and encoded, never visited: maps with the same entries
are equal. -/
abbrev Dict (V : Type) := Std.ExtTreeMap String V

/-- The order in which `range` visits the entries of a map: some permutation of them. -/
structure RangeOrder where
  visit : {α : Type} → List α → List α
  perm : ∀ {α : Type} (l : List α), (visit l).Perm l

/-- The order of the entries themselves. -/
def RangeOrder.asIs : RangeOrder := ⟨id, fun _ => .refl _⟩

/-- A map built by one write per item has exactly the written keys. -/
theorem mem_foldl_insert {α K V : Type} [DecidableEq K] (key : α → K) (val : α → V)
    (l : List α) (m : Map K V) (k : K) :
    k ∈ l.foldl (fun m x => m.insert (key x) (val x)) m ↔ k ∈ m ∨ ∃ x ∈ l, key x = k := by
  induction l generalizing m with
  | nil => simp
  | cons x l ih =>
    rw [List.foldl_cons, ih, AList.mem_insert]
    simp only [List.mem_cons, exists_eq_or_imp, eq_comm (a := k)]
    tauto

/-- A map built by writing one value under every key. -/
theorem lookup_foldl_insert {K V : Type} [DecidableEq K] (v : V) (l : List K) (m : Map K V)
    (k : K) :
    (l.foldl (fun m x => m.insert x v) m).lookup k = if k ∈ l then some v else m.lookup k := by
  induction l generalizing m with
  | nil => simp
  | cons x l ih =>
    rw [List.foldl_cons, ih]
    by_cases hx : k = x
    · subst hx; simp
    · simp [hx, AList.lookup_insert_ne hx]

theorem mem_entries_foldl_insert {K V : Type} [DecidableEq K] (v : V) (l : List K)
    (e : (_ : K) × V) :
    e ∈ (l.foldl (fun m x => m.insert x v) (∅ : Map K V)).entries ↔ e.1 ∈ l ∧ e.2 = v := by
  rw [← AList.mem_lookup_iff, lookup_foldl_insert]
  by_cases h : e.1 ∈ l <;> simp [h, eq_comm]

theorem RangeOrder.mem_visit {α : Type} (order : RangeOrder) {l : List α} {x : α} :
    x ∈ order.visit l ↔ x ∈ l := (order.perm l).mem_iff

theorem RangeOrder.visit_singleton {α : Type} (order : RangeOrder) (x : α) :
    order.visit [x] = [x] := List.perm_singleton.1 (order.perm [x])

theorem RangeOrder.visit_nil {α : Type} (order : RangeOrder) : order.visit ([] : List α) = [] :=
  (order.perm []).eq_nil

/-- A loop over a map visits every key once. -/
theorem RangeOrder.pairwise_visit {K V : Type} (order : RangeOrder) (m : Map K V) :
    (order.visit m.entries).Pairwise fun e e' => e.1 ≠ e'.1 :=
  ((order.perm m.entries).pairwise_iff Ne.symm).2 (List.nodupKeys_iff_pairwise.1 m.nodupKeys)

end Go
