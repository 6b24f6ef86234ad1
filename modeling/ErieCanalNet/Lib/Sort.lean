import Mathlib.Data.List.Pairwise
import Mathlib.Data.List.Perm.Basic

/-!
# Sorting by a comparator

A sort that only swaps permutes its items, whatever the comparator says; it is bound to sort them
when the comparator is a strict weak order of them (`Sorts`). `insertionSort` is such a sort
(`sorts_insertionSort`), and a simple one: it swaps neighbours only, and these only when the later
one is less, so that two items the later of which is not less stay in their order
(`pair_insertionSort`).
-/

namespace Lib

universe u

variable {α : Type u} {less : α → α → Bool}

/-- The comparator is a strict weak order of the items. -/
structure StrictWeakOn (less : α → α → Bool) (l : List α) : Prop where
  asymm : ∀ x ∈ l, ∀ y ∈ l, less x y = true → less y x = false
  negTrans : ∀ x ∈ l, ∀ y ∈ l, ∀ z ∈ l, less x y = false → less y z = false → less x z = false

theorem StrictWeakOn.mono {l l' : List α} (h : StrictWeakOn less l') (hsub : ∀ x ∈ l, x ∈ l') :
    StrictWeakOn less l where
  asymm x hx y hy := h.asymm x (hsub x hx) y (hsub y hy)
  negTrans x hx y hy z hz := h.negTrans x (hsub x hx) y (hsub y hy) z (hsub z hz)

/-- A sort that swaps items, and sorts those its comparator is a strict weak order of. -/
structure Sorts (less : α → α → Bool) (sort : List α → List α) : Prop where
  perm : ∀ l, (sort l).Perm l
  sorted : ∀ l, StrictWeakOn less l → (sort l).Pairwise fun x y => less y x = false

/-- A sort may rearrange its items before. -/
theorem Sorts.comp {sort arrange : List α → List α} (h : Sorts less sort)
    (harrange : ∀ l, (arrange l).Perm l) : Sorts less (sort ∘ arrange) where
  perm l := (h.perm _).trans (harrange l)
  sorted l hl := h.sorted _ (hl.mono fun _ hx => (harrange l).mem_iff.1 hx)

/-! ## Insertion sort -/

/-- The inner loop: an item moves forward past the items it is less than. The sorted part is given
from its end. -/
def insertBack (less : α → α → Bool) (x : α) : List α → List α
  | [] => [x]
  | y :: ys => if less x y then y :: insertBack less x ys else x :: y :: ys

/-- The outer loop: the items are inserted one after the other. -/
def insertionSort (less : α → α → Bool) (l : List α) : List α :=
  (l.foldl (fun sorted x => insertBack less x sorted) []).reverse

theorem perm_insertBack (x : α) : ∀ ys : List α, (insertBack less x ys).Perm (x :: ys)
  | [] => .refl _
  | y :: ys => by
    rw [insertBack]
    split
    · exact ((perm_insertBack x ys).cons y).trans (.swap x y ys)
    · exact .refl _

theorem mem_insertBack {x z : α} {ys : List α} : z ∈ insertBack less x ys ↔ z = x ∨ z ∈ ys :=
  (perm_insertBack x ys).mem_iff.trans List.mem_cons

/-- Items from the end of a sorted list: none is less than a later one. -/
theorem pairwise_insertBack {x : α} : ∀ {ys : List α}, StrictWeakOn less (x :: ys) →
    ys.Pairwise (fun x y => less x y = false) →
      (insertBack less x ys).Pairwise fun x y => less x y = false
  | [], _, _ => List.pairwise_singleton _ _
  | y :: ys, hord, hys => by
    obtain ⟨hy, hys⟩ := List.pairwise_cons.1 hys
    have hx : x ∈ x :: y :: ys := .head _
    have hmem : ∀ z ∈ y :: ys, z ∈ x :: y :: ys := fun z hz => .tail _ hz
    rw [insertBack]
    split
    · rename_i hless
      have hsub : StrictWeakOn less (x :: ys) := hord.mono fun z hz => by
        rcases List.mem_cons.1 hz with rfl | hz
        · exact hx
        · exact hmem z (.tail _ hz)
      refine List.pairwise_cons.2 ⟨fun z hz => ?_, pairwise_insertBack hsub hys⟩
      rcases mem_insertBack.1 hz with rfl | hz
      · exact hord.asymm _ hx y (hmem y (.head _)) hless
      · exact hy z hz
    · rename_i hless
      have hxy : less x y = false := by simpa using hless
      refine List.pairwise_cons.2 ⟨fun z hz => ?_, List.pairwise_cons.2 ⟨hy, hys⟩⟩
      rcases List.mem_cons.1 hz with rfl | hz
      · exact hxy
      · exact hord.negTrans x hx y (hmem y (.head _)) z (hmem z (.tail _ hz)) hxy (hy z hz)

theorem sublist_insertBack (x : α) : ∀ ys : List α, ys.Sublist (insertBack less x ys)
  | [] => List.nil_sublist _
  | y :: ys => by
    rw [insertBack]
    split
    · exact (sublist_insertBack x ys).cons_cons y
    · exact List.sublist_cons_self _ _

/-- An item does not move past one that it is not less than. -/
theorem pair_insertBack {x z : α} (hless : less x z = false) : ∀ {ys : List α}, z ∈ ys →
    [x, z].Sublist (insertBack less x ys)
  | y :: ys, hz => by
    rw [insertBack]
    split
    · rename_i hxy
      rcases List.mem_cons.1 hz with rfl | hz
      · rw [hless] at hxy
        cases hxy
      · exact (pair_insertBack hless hz).cons y
    · exact (List.singleton_sublist.2 hz).cons_cons x

theorem perm_foldl_insertBack (less : α → α → Bool) (l acc : List α) :
    (l.foldl (fun sorted x => insertBack less x sorted) acc).Perm (l ++ acc) := by
  induction l generalizing acc with
  | nil => exact .refl _
  | cons x l ih => exact (ih _).trans (((perm_insertBack x acc).append_left l).trans List.perm_middle)

theorem pairwise_foldl_insertBack {l acc : List α} (hord : StrictWeakOn less (l ++ acc))
    (hacc : acc.Pairwise fun x y => less x y = false) :
    (l.foldl (fun sorted x => insertBack less x sorted) acc).Pairwise
      fun x y => less x y = false := by
  induction l generalizing acc with
  | nil => exact hacc
  | cons x l ih =>
    refine ih (hord.mono fun z hz => ?_) (pairwise_insertBack (hord.mono fun z hz => ?_) hacc)
    · simpa [mem_insertBack, or_left_comm, or_assoc] using hz
    · simp only [List.mem_cons] at hz
      simp only [List.cons_append, List.mem_cons, List.mem_append]
      tauto

/-- **Insertion sort sorts.** -/
theorem sorts_insertionSort (less : α → α → Bool) : Sorts less (insertionSort less) where
  perm l := by
    have h := perm_foldl_insertBack less l []
    rw [List.append_nil] at h
    exact (List.reverse_perm _).trans h
  sorted l hord := by
    rw [insertionSort, List.pairwise_reverse]
    exact pairwise_foldl_insertBack (by simpa using hord) List.Pairwise.nil

theorem sublist_foldl_insertBack (l acc : List α) :
    acc.Sublist (l.foldl (fun sorted x => insertBack less x sorted) acc) := by
  induction l generalizing acc with
  | nil => exact .refl _
  | cons x l ih => exact (sublist_insertBack x acc).trans (ih _)

/-- **Items the later of which is not less** stay in their order. -/
theorem pair_insertionSort {x y : α} {l l₁ l₂ : List α} (hl : l = l₁ ++ l₂) (hx : x ∈ l₁)
    (hy : y ∈ l₂) (hless : less y x = false) : [x, y].Sublist (insertionSort less l) := by
  obtain ⟨s, t, rfl⟩ := List.append_of_mem hy
  rw [insertionSort, hl, ← List.reverse_sublist, List.reverse_reverse, List.foldl_append,
    List.foldl_append, List.foldl_cons]
  refine (pair_insertBack hless ?_).trans (sublist_foldl_insertBack t _)
  have hmem := (perm_foldl_insertBack less l₁ []).mem_iff.2 (List.mem_append_left _ hx)
  exact (sublist_foldl_insertBack s _).subset hmem

end Lib
