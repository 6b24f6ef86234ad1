import Mathlib.Data.List.AList
import ErieCanalNet.Lib.Table

/-!
# Items behind two indexes

Items are allocated one after the other and held by position: one index finds them by name, another
lists those of every group. `Indexes` says that both are indexes of one table of names and items,
and how they follow its writes: a new name allocates an item and enters it in both
(`Indexes.upsert_new`), and a write under a known name changes the item in its place, as long as
it leaves the group alone (`Indexes.upsert_set`).

Then every item is listed once, by its own group (`Indexes.count_grouped`), and the lists read as
the items of the groups (`Indexes.filterMap_grouped`).
-/

namespace Lib

universe u v w

variable {N : Type u} {G : Type v} {α : Type w} [DecidableEq N] [DecidableEq G]

/-- The positions of a value among the labels of a list hold the items with that label. -/
theorem filterMap_idxsOf (group : α → G) (items : List α) (g : G) :
    ((items.map group).idxsOf g).filterMap (items[·]?) = items.filter fun x => group x = g := by
  induction items using List.reverseRecOn with
  | nil => rfl
  | append_singleton items x ih =>
    -- the positions in `items` hold what they held before
    have hold : ((items.map group).idxsOf g).filterMap ((items ++ [x])[·]?) =
        ((items.map group).idxsOf g).filterMap (items[·]?) := by
      refine List.filterMap_congr fun i hi => List.getElem?_append_left ?_
      simpa using List.lt_add_of_mem_idxsOf i hi
    rw [List.map_append, List.idxsOf_append, List.filterMap_append, hold, ih, List.filter_append]
    by_cases hg : group x = g
    · simp [hg]
    · simp [hg]

theorem getElem?_concat_iff {β : Type*} {l : List β} {i : Nat} {x y : β} :
    (l ++ [x])[i]? = some y ↔ l[i]? = some y ∨ i = l.length ∧ x = y := by
  rcases Nat.lt_trichotomy i l.length with hi | rfl | hi
  · rw [List.getElem?_append_left hi]
    simp [Nat.ne_of_lt hi]
  · simp
  · rw [List.getElem?_eq_none (by simpa using Nat.succ_le_of_lt hi),
      List.getElem?_eq_none (Nat.le_of_lt hi)]
    simp [Nat.ne_of_gt hi]

theorem modify_concat_length {β : Type*} (l : List β) (x : β) (f : β → β) :
    (l ++ [x]).modify l.length f = l ++ [f x] := by
  induction l with
  | nil => rfl
  | cons y l ih => rw [List.cons_append, List.length_cons, List.modify_succ_cons, ih,
      List.cons_append]

structure Indexes (group : α → G) (table : List (N × α)) (items : List α)
    (named : AList fun _ : N => Nat) (grouped : AList fun _ : G => List Nat) : Prop where
  items_eq : items = table.map Prod.snd
  lookup_named : ∀ n i, named.lookup n = some i ↔ ∃ x, table[i]? = some (n, x)
  lookup_grouped : ∀ g, (grouped.lookup g).getD [] = (items.map group).idxsOf g

namespace Indexes

variable {group : α → G} {table : List (N × α)} {items : List α}
  {named : AList fun _ : N => Nat} {grouped : AList fun _ : G => List Nat} {n : N} {i : Nat} {x : α}

/-! ## Reading -/

theorem empty (group : α → G) : Indexes group ([] : List (N × α)) [] ∅ ∅ where
  items_eq := rfl
  lookup_named n i := by simp
  lookup_grouped g := by simp

/-- A position has one name. -/
theorem nodup (h : Indexes group table items named grouped) : (table.map Prod.fst).Nodup := by
  rw [List.nodup_iff_getElem?_ne_getElem?]
  intro i j hij hj heq
  obtain ⟨x, hx⟩ : ∃ x, table[j]? = some x := ⟨_, List.getElem?_eq_getElem (by simpa using hj)⟩
  rw [List.getElem?_map, List.getElem?_map, hx, Option.map_some, Option.map_eq_some_iff] at heq
  obtain ⟨y, hy, hname⟩ := heq
  have hi := (h.lookup_named x.1 i).2 ⟨y.2, by rw [hy, ← hname]⟩
  have hj := (h.lookup_named x.1 j).2 ⟨x.2, hx⟩
  rw [hi] at hj
  exact absurd (Option.some.inj hj) (Nat.ne_of_lt hij)

theorem getElem?_items (h : Indexes group table items named grouped) (i : Nat) :
    items[i]? = table[i]?.map Prod.snd := by
  rw [h.items_eq, List.getElem?_map]

theorem length_items (h : Indexes group table items named grouped) :
    items.length = table.length := by
  rw [h.items_eq, List.length_map]

/-- What is held under a name. -/
theorem getElem?_table (h : Indexes group table items named grouped)
    (hn : named.lookup n = some i) : ∃ x, items[i]? = some x ∧ table[i]? = some (n, x) := by
  obtain ⟨x, hx⟩ := (h.lookup_named n i).1 hn
  exact ⟨x, by rw [h.getElem?_items, hx, Option.map_some], hx⟩

theorem exists_name (h : Indexes group table items named grouped) (hx : items[i]? = some x) :
    ∃ n, (n, x) ∈ table ∧ named.lookup n = some i := by
  rw [h.getElem?_items, Option.map_eq_some_iff] at hx
  obtain ⟨⟨n, y⟩, hy, rfl⟩ := hx
  exact ⟨n, List.mem_of_getElem? hy, (h.lookup_named n i).2 ⟨y, hy⟩⟩

theorem notMem_keys (h : Indexes group table items named grouped)
    (hn : named.lookup n = none) : n ∉ table.map Prod.fst := by
  intro hmem
  obtain ⟨e, he, rfl⟩ := List.mem_map.1 hmem
  obtain ⟨i, hi⟩ := List.mem_iff_getElem?.1 he
  have hsome := (h.lookup_named e.1 i).2 ⟨e.2, hi⟩
  rw [hn] at hsome
  cases hsome

/-- The table by name, through the index. -/
theorem lookup_table (h : Indexes group table items named grouped) (n : N) :
    table.lookup n = (named.lookup n).bind (items[·]?) := by
  cases hn : named.lookup n with
  | none =>
    rw [Option.bind_none, List.lookup_eq_none_iff]
    intro e he
    rw [bne_iff_ne]
    intro heq
    subst heq
    exact h.notMem_keys hn (List.mem_map_of_mem he)
  | some i =>
    obtain ⟨x, hx, ht⟩ := h.getElem?_table hn
    rw [Option.bind_some, hx]
    exact lookup_of_getElem? h.nodup ht

/-! ## The groups -/

theorem mem_grouped (h : Indexes group table items named grouped) {g : G} :
    i ∈ (grouped.lookup g).getD [] ↔ ∃ x, items[i]? = some x ∧ group x = g := by
  rw [h.lookup_grouped, List.mem_idxsOf_iff_exists_getElem_pos]
  constructor
  · rintro ⟨hi, hg⟩
    rw [List.length_map] at hi
    exact ⟨items[i], List.getElem?_eq_getElem hi, by simpa using hg⟩
  · rintro ⟨x, hx, hg⟩
    obtain ⟨hi, rfl⟩ := List.getElem?_eq_some_iff.1 hx
    exact ⟨by rwa [List.length_map], by simpa using hg⟩

/-- **Every item is listed once**, by its own group. -/
theorem count_grouped (h : Indexes group table items named grouped) (hx : items[i]? = some x)
    (g : G) : ((grouped.lookup g).getD []).count i = if g = group x then 1 else 0 := by
  have hnodup : ((grouped.lookup g).getD []).Nodup := by
    rw [h.lookup_grouped]
    exact List.nodup_idxsOf
  have hmem : i ∈ (grouped.lookup g).getD [] ↔ g = group x := by
    rw [h.mem_grouped, hx]
    simp only [Option.some.injEq, exists_eq_left', eq_comm]
  rw [hnodup.count]
  simp only [hmem]

/-- The lists read as the items of the groups. -/
theorem filterMap_grouped (h : Indexes group table items named grouped) (g : G) :
    ((grouped.lookup g).getD []).filterMap (items[·]?) =
      (table.map Prod.snd).filter fun x => group x = g := by
  rw [h.lookup_grouped, filterMap_idxsOf, h.items_eq]

/-! ## Writing -/

/-- A new name: the item is allocated behind the others and entered in both indexes. -/
theorem upsert_new (h : Indexes group table items named grouped) (hn : named.lookup n = none)
    (x : α) : Indexes group (upsert n (fun _ => x) table) (items ++ [x])
      (named.insert n items.length)
      (grouped.insert (group x) ((grouped.lookup (group x)).getD [] ++ [items.length])) := by
  have hnew := h.notMem_keys hn
  rw [upsert_eq_concat _ hnew]
  refine ⟨?_, ?_, ?_⟩
  · rw [List.map_append, ← h.items_eq, List.map_singleton]
  · intro n' i
    simp only [getElem?_concat_iff, ← h.length_items, Prod.mk.injEq]
    by_cases hname : n' = n
    · subst hname
      have hnone : ∀ y, table[i]? ≠ some (n', y) := fun y hy => hnew (mem_keys_of_getElem? hy)
      rw [AList.lookup_insert, Option.some.injEq]
      simp [hnone, eq_comm]
    · rw [AList.lookup_insert_ne hname, h.lookup_named]
      simp [Ne.symm hname]
  · intro g
    rw [List.map_append, List.idxsOf_append, ← h.lookup_grouped, List.map_singleton]
    by_cases hg : g = group x
    · subst hg
      simp
    · rw [AList.lookup_insert_ne hg]
      simp [Ne.symm hg]

/-- A known name: the item is changed in its place. -/
theorem upsert_set (h : Indexes group table items named grouped) (hn : named.lookup n = some i)
    (hx : items[i]? = some x) {y : α} (hy : group y = group x) :
    Indexes group (upsert n (fun _ => y) table) (items.set i y) named grouped := by
  obtain ⟨x', hx', ht⟩ := h.getElem?_table hn
  rw [upsert_eq_set _ h.nodup ht]
  refine ⟨?_, ?_, ?_⟩
  · rw [List.map_set, ← h.items_eq]
  · intro n' j
    rw [h.lookup_named, List.getElem?_set]
    by_cases hij : i = j
    · subst hij
      obtain ⟨hi, -⟩ := List.getElem?_eq_some_iff.1 ht
      rw [if_pos rfl, if_pos hi, ht]
      simp
    · rw [if_neg hij]
  · intro g
    obtain ⟨hi, rfl⟩ := List.getElem?_eq_some_iff.1 hx
    have hself : (items.map group).set i (group items[i]) = items.map group := by
      rw [← List.map_set, List.set_getElem_self]
    rw [h.lookup_grouped, List.map_set, hy, hself]

end Indexes

end Lib
