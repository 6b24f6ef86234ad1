import Mathlib.Data.List.Induction
import Mathlib.Data.List.Nodup

/-!
# Tables written item by item

A table is a list of keys with values, in the order of the first writes; `upsert` changes the
value of a key, or appends it. A program that goes through a list of items and writes each of
them to the entry of its key leaves

* the keys in the order of their first items (`keys_foldl_upsert`), and
* under every key what the items of that key make of it (`lookup_foldl_upsert`);

together these are the whole table (`foldl_upsert_eq`).

The same for maps whose order is not kept (`getElem?_foldl_insert`). If a write forgets what was
there, the last item of a key decides (`groupFold_last`).
-/

namespace Lib

universe u v w

variable {α : Type u} {K : Type v} {V : Type w}

/-- What the items make of a value, one after the other. -/
def groupFold (g : α → Option V → V) (o : Option V) (items : List α) : Option V :=
  items.foldl (fun o x => some (g x o)) o

@[simp]
theorem groupFold_nil (g : α → Option V → V) (o : Option V) : groupFold g o [] = o := rfl

@[simp]
theorem groupFold_cons (g : α → Option V → V) (o : Option V) (x : α) (items : List α) :
    groupFold g o (x :: items) = groupFold g (some (g x o)) items := rfl

theorem groupFold_append (g : α → Option V → V) (o : Option V) (l l' : List α) :
    groupFold g o (l ++ l') = groupFold g (groupFold g o l) l' := List.foldl_append

/-- Items that start from what the first of them brings. -/
theorem groupFold_getD (f : α → V → V) (init : α → V) (x : α) (items : List α) :
    groupFold (fun x o => f x (o.getD (init x))) none (x :: items) =
      some ((x :: items).foldl (fun v x => f x v) (init x)) := by
  have h : ∀ v, groupFold (fun x o => f x (o.getD (init x))) (some v) items =
      some (items.foldl (fun v x => f x v) v) := by
    induction items with
    | nil => exact fun v => rfl
    | cons y items ih => exact fun v => ih _
  exact h _

theorem groupFold_isSome (g : α → Option V → V) (o : Option V) (items : List α) :
    (groupFold g o items).isSome ↔ o.isSome ∨ items ≠ [] := by
  induction items generalizing o with
  | nil => simp
  | cons x items ih => simp [ih]

/-- **The last write decides** where a write forgets what was there. -/
theorem groupFold_last (val : α → V) (items : List α) :
    groupFold (fun x _ => val x) none items = items.getLast?.map val := by
  induction items using List.reverseRecOn with
  | nil => rfl
  | append_singleton items x ih => simp [groupFold_append]

/-- The items of a key that collects them. -/
theorem groupFold_concat (val : α → V) (items : List α) :
    groupFold (fun x o => o.getD [] ++ [val x]) none items =
      if items = [] then none else some (items.map val) := by
  induction items using List.reverseRecOn with
  | nil => rfl
  | append_singleton items x ih =>
    rw [groupFold_append, ih]
    by_cases h : items = []
    · simp [h]
    · simp [h]

theorem eq_of_map_eq {f : α → V} {l l' : List α} (h : ∀ x ∈ l, ∀ y ∈ l', f x = f y → x = y)
    (he : l.map f = l'.map f) : l = l' := by
  induction l generalizing l' with
  | nil => exact (List.map_eq_nil_iff.1 he.symm).symm
  | cons x l ih =>
    cases l' with
    | nil => cases he
    | cons y l' =>
      obtain ⟨hxy, he⟩ := List.cons.inj he
      rw [h x List.mem_cons_self y List.mem_cons_self hxy, ih (fun x hx y hy =>
        h x (List.mem_cons_of_mem _ hx) y (List.mem_cons_of_mem _ hy)) he]

theorem map_getLast?_eq {f : α → V} {v : V} {l : List α} (hne : l ≠ []) (h : ∀ x ∈ l, f x = v) :
    l.getLast?.map f = some v := by
  rw [List.getLast?_eq_some_getLast hne, Option.map_some, h _ (List.getLast_mem hne)]

theorem flatMap_filter (q : α → Bool) (f : α → List V) (l : List α) :
    (l.filter q).flatMap f = l.flatMap fun x => if q x then f x else [] := by
  induction l with
  | nil => rfl
  | cons x l ih =>
    by_cases hx : q x = true
    · simp [hx, ih]
    · simp [hx, ih]

/-- What some items are made into, item by item. -/
theorem filterMap_map_eq_iff {o : α → Option K} {f g : α → K → V} {l : List α} :
    (l.filterMap fun x => (o x).map (f x)) = (l.filterMap fun x => (o x).map (g x)) ↔
      ∀ x ∈ l, ∀ v ∈ o x, f x v = g x v := by
  induction l with
  | nil => simp
  | cons x l ih =>
    cases hx : o x with
    | none => simp [hx, ih]
    | some v => simp [hx, ih]

/-- The items of one label, where each brings items of its own label. -/
theorem filter_flatMap_label [DecidableEq K] {f : α → List V} {lab : α → K} {lab' : V → K}
    {l : List α} (h : ∀ x ∈ l, ∀ y ∈ f x, lab' y = lab x) (k : K) :
    (l.flatMap f).filter (fun y => lab' y = k) = (l.filter fun x => lab x = k).flatMap f := by
  rw [List.filter_flatMap, flatMap_filter]
  refine List.flatMap_congr fun x hx => ?_
  split
  · rename_i hk
    exact List.filter_eq_self.2 fun y hy => by simpa [h x hx y hy] using hk
  · rename_i hk
    exact List.filter_eq_nil_iff.2 fun y hy => by simpa [h x hx y hy] using hk

theorem length_flatMap_const {f : α → List V} {n : Nat} {l : List α}
    (h : ∀ x ∈ l, (f x).length = n) : (l.flatMap f).length = n * l.length := by
  induction l with
  | nil => rfl
  | cons x l ih =>
    rw [List.flatMap_cons, List.length_append, h x List.mem_cons_self,
      ih fun y hy => h y (List.mem_cons_of_mem x hy), List.length_cons, Nat.mul_succ, Nat.add_comm]

/-- The last of a list of blocks, each of one value. -/
theorem getLast?_flatMap_const {T : List K} (hT : T ≠ []) (f : α → V) (l : List α) :
    (l.flatMap fun x => T.map fun _ => f x).getLast? = l.getLast?.map f := by
  induction l using List.reverseRecOn with
  | nil => rfl
  | append_singleton l x ih =>
    have hlast : (T.map fun _ => f x).getLast? = some (f x) := by
      rw [List.getLast?_map]
      exact map_getLast?_eq hT fun _ _ => rfl
    rw [List.flatMap_append, List.flatMap_singleton, List.getLast?_append, hlast,
      List.getLast?_concat]
    rfl

/-- The items of a key; those of the others are left alone. -/
theorem groupFold_filter_cons [DecidableEq K] (key : α → K) (g : α → Option V → V) (o : Option V)
    (k : K) (x : α) (items : List α) :
    groupFold g o ((x :: items).filter fun y => key y = k) =
      groupFold g (if key x = k then some (g x o) else o) (items.filter fun y => key y = k) := by
  by_cases hx : key x = k
  · simp [hx]
  · simp [hx]

/-- Doing again what changes nothing the second time. -/
theorem foldl_replicate_succ {f : V → α → V} {x : α} (h : ∀ s, f (f s x) x = f s x) (n : Nat)
    (s : V) : (List.replicate (n + 1) x).foldl f s = f s x := by
  induction n generalizing s with
  | zero => rfl
  | succ n ih => rw [List.replicate_succ, List.foldl_cons, ih, h]

/-! ## Tables in the order of the first writes -/

section Upsert

variable [DecidableEq K]

def upsert (k : K) (f : Option V → V) : List (K × V) → List (K × V)
  | [] => [(k, f none)]
  | (k', v) :: t => if k' = k then (k', f (some v)) :: t else (k', v) :: upsert k f t

theorem keys_upsert (k : K) (f : Option V → V) (t : List (K × V)) :
    (upsert k f t).map Prod.fst =
      t.map Prod.fst ++ if k ∈ t.map Prod.fst then [] else [k] := by
  induction t with
  | nil => simp [upsert]
  | cons e t ih =>
    obtain ⟨k', v⟩ := e
    by_cases hk : k' = k
    · simp [upsert, hk]
    · simp only [upsert, if_neg hk, List.map_cons, ih, List.mem_cons, Ne.symm hk, false_or,
        List.cons_append]

theorem nodup_keys_upsert (k : K) (f : Option V → V) {t : List (K × V)}
    (h : (t.map Prod.fst).Nodup) : ((upsert k f t).map Prod.fst).Nodup := by
  rw [keys_upsert]
  split
  · rwa [List.append_nil]
  · rename_i hk
    rw [← List.concat_eq_append]
    exact h.concat hk

theorem lookup_cons_eq (k k' : K) (v : V) (t : List (K × V)) :
    ((k, v) :: t).lookup k' = if k = k' then some v else t.lookup k' := by
  rw [List.lookup_cons]
  by_cases hk : k = k'
  · simp [hk]
  · simp [hk, beq_false_of_ne (Ne.symm hk)]

theorem lookup_upsert (k k' : K) (f : Option V → V) (t : List (K × V)) :
    (upsert k f t).lookup k' = if k = k' then some (f (t.lookup k)) else t.lookup k' := by
  induction t with
  | nil => simp [upsert, lookup_cons_eq]
  | cons e t ih =>
    obtain ⟨k₀, v⟩ := e
    by_cases h₀ : k₀ = k
    · subst h₀
      by_cases hk : k₀ = k'
      · simp [upsert, hk]
      · simp [upsert, lookup_cons_eq, hk]
    · by_cases hk : k₀ = k'
      · subst hk
        simp [upsert, h₀, Ne.symm h₀]
      · simp [upsert, lookup_cons_eq, h₀, hk, ih]

/-- A write sees the value that is there. -/
theorem upsert_lookup (k : K) (f : Option V → V) (t : List (K × V)) :
    upsert k (fun _ => f (t.lookup k)) t = upsert k f t := by
  induction t with
  | nil => rfl
  | cons e t ih =>
    obtain ⟨k', v⟩ := e
    by_cases hk : k' = k
    · simp [upsert, hk]
    · simp [upsert, hk, lookup_cons_eq, ih]

theorem upsert_upsert (k : K) (f g : Option V → V) (t : List (K × V)) :
    upsert k f (upsert k g t) = upsert k (fun o => f (some (g o))) t := by
  induction t with
  | nil => simp [upsert]
  | cons e t ih =>
    obtain ⟨k', v⟩ := e
    by_cases hk : k' = k
    · simp [upsert, hk]
    · simp [upsert, hk, ih]

theorem mem_of_mem_upsert {k : K} {f : Option V → V} {t : List (K × V)} {e : K × V}
    (h : e ∈ upsert k f t) : e ∈ t ∨ e = (k, f (t.lookup k)) := by
  induction t with
  | nil => exact .inr (List.mem_singleton.1 h)
  | cons e₀ t ih =>
    rw [upsert] at h
    by_cases hk : e₀.1 = k
    · rw [if_pos hk] at h
      rcases List.mem_cons.1 h with rfl | h
      · rw [lookup_cons_eq, if_pos hk, hk]
        exact .inr rfl
      · exact .inl (.tail _ h)
    · rw [if_neg hk] at h
      rw [lookup_cons_eq, if_neg hk]
      rcases List.mem_cons.1 h with rfl | h
      · exact .inl (.head _)
      · exact (ih h).imp_left (.tail _)

theorem mem_of_lookup {k : K} {v : V} {t : List (K × V)} (h : t.lookup k = some v) :
    (k, v) ∈ t := by
  obtain ⟨before, after, rfl, -⟩ := List.lookup_eq_some_iff.1 h
  exact List.mem_append_right _ (.head _)

omit [DecidableEq K] in
theorem mem_keys_of_getElem? {k : K} {v : V} {t : List (K × V)} {i : Nat}
    (h : t[i]? = some (k, v)) : k ∈ t.map Prod.fst :=
  List.mem_map_of_mem (f := Prod.fst) (List.mem_of_getElem? h)

theorem lookup_of_getElem? {k : K} {v : V} {t : List (K × V)} {i : Nat}
    (ht : (t.map Prod.fst).Nodup) (h : t[i]? = some (k, v)) : t.lookup k = some v := by
  induction t generalizing i with
  | nil => cases h
  | cons e t ih =>
    rw [List.map_cons, List.nodup_cons] at ht
    cases i with
    | zero =>
      obtain rfl := Option.some.inj h
      rw [lookup_cons_eq, if_pos rfl]
    | succ i =>
      rw [List.getElem?_cons_succ] at h
      have hne : e.1 ≠ k := (ne_of_mem_of_not_mem (mem_keys_of_getElem? h) ht.1).symm
      rw [lookup_cons_eq, if_neg hne, ih ht.2 h]

/-- A write under a new key is at the end. -/
theorem upsert_eq_concat {k : K} (f : Option V → V) {t : List (K × V)} (hk : k ∉ t.map Prod.fst) :
    upsert k f t = t ++ [(k, f none)] := by
  induction t with
  | nil => rfl
  | cons e t ih =>
    rw [List.map_cons, List.mem_cons, not_or] at hk
    rw [upsert, if_neg (Ne.symm hk.1), ih hk.2, List.cons_append]

/-- A write under a key that is there changes its entry. -/
theorem upsert_eq_set {k : K} {v : V} (f : Option V → V) {t : List (K × V)} {i : Nat}
    (ht : (t.map Prod.fst).Nodup) (h : t[i]? = some (k, v)) :
    upsert k f t = t.set i (k, f (some v)) := by
  induction t generalizing i with
  | nil => cases h
  | cons e t ih =>
    rw [List.map_cons, List.nodup_cons] at ht
    cases i with
    | zero =>
      obtain rfl := Option.some.inj h
      rw [upsert, if_pos rfl, List.set_cons_zero]
    | succ i =>
      rw [List.getElem?_cons_succ] at h
      have hne : e.1 ≠ k := (ne_of_mem_of_not_mem (mem_keys_of_getElem? h) ht.1).symm
      rw [upsert, if_neg hne, ih ht.2 h, List.set_cons_succ]

theorem eraseDups_concat (l : List K) (k : K) :
    (l ++ [k]).eraseDups = l.eraseDups ++ if k ∈ l then [] else [k] := by
  rw [List.eraseDups_append]
  by_cases hk : k ∈ l
  · simp [List.removeAll, hk]
  · simp [List.removeAll, hk, List.eraseDups_cons]

theorem nodup_eraseDups (l : List K) : l.eraseDups.Nodup := by
  induction l using List.reverseRecOn with
  | nil => simp
  | append_singleton l k ih =>
    rw [eraseDups_concat]
    by_cases hk : k ∈ l
    · simpa [hk] using ih
    · simpa [hk, List.nodup_append] using ⟨ih, fun a ha he => hk (he ▸ ha)⟩

/-- The keys of some of the items, in the order of all of them. -/
theorem filter_eraseDups_map {f : α → K} {q : K → Bool} {p : α → Bool} {l : List α}
    (h : ∀ x ∈ l, q (f x) = p x) : (l.map f).eraseDups.filter q = ((l.filter p).map f).eraseDups := by
  induction l using List.reverseRecOn with
  | nil => rfl
  | append_singleton l x ih =>
    have hl := fun y hy => h y (List.mem_append_left [x] hy)
    have hx := h x (List.mem_append_right l (List.mem_singleton_self x))
    rw [List.map_append, List.map_singleton, eraseDups_concat, List.filter_append, List.filter_append,
      ih hl]
    cases hp : p x with
    | false =>
      rw [hp] at hx
      split <;> simp [hx, hp]
    | true =>
      have hmem : f x ∈ l.map f ↔ f x ∈ (l.filter p).map f := by
        simp only [List.mem_map, List.mem_filter]
        refine exists_congr fun y => ⟨fun ⟨hy, he⟩ => ⟨⟨hy, ?_⟩, he⟩, fun ⟨hy, he⟩ => ⟨hy.1, he⟩⟩
        rw [← hl y hy, he, hx, hp]
      rw [hp] at hx
      simp only [List.filter_cons, List.filter_nil, hp, if_true, List.map_append, List.map_cons,
        List.map_nil, eraseDups_concat, ← hmem]
      split <;> simp [hx]

/-- Keys that tell the same items apart occur in the same order. -/
theorem map_eraseDups_congr {L : Type*} [DecidableEq L] {f : α → K} {g : α → L} {F : K → V}
    {G : L → V} {l : List α} (hinj : ∀ x ∈ l, ∀ y ∈ l, f x = f y ↔ g x = g y)
    (hval : ∀ x ∈ l, F (f x) = G (g x)) :
    (l.map f).eraseDups.map F = (l.map g).eraseDups.map G := by
  induction l using List.reverseRecOn with
  | nil => rfl
  | append_singleton l x ih =>
    have hx : x ∈ l ++ [x] := List.mem_append_right l (List.mem_singleton_self x)
    have hl : ∀ y ∈ l, y ∈ l ++ [x] := fun y hy => List.mem_append_left [x] hy
    have hmem : f x ∈ l.map f ↔ g x ∈ l.map g := by
      simp only [List.mem_map]
      exact exists_congr fun y => and_congr_right fun hy => hinj y (hl y hy) x hx
    rw [List.map_append, List.map_append, List.map_singleton, List.map_singleton, eraseDups_concat,
      eraseDups_concat, List.map_append, List.map_append,
      ih (fun y hy z hz => hinj y (hl y hy) z (hl z hz)) fun y hy => hval y (hl y hy)]
    simp only [hmem]
    split <;> simp [hval x hx]

/-- **Two lists** with the same labels are equal when they are so label by label. -/
theorem map_eq_map_iff_label {β L : Type*} [DecidableEq L] {f : α → V} {f' : β → V} {lab : α → L}
    {lab' : β → L} {l : List α} {l' : List β}
    (h : ∀ x ∈ l, ∀ y ∈ l', f x = f' y → lab x = lab' y) :
    l.map f = l'.map f' ↔ l.map lab = l'.map lab' ∧
      ∀ t, (l.filter fun x => lab x = t).map f = (l'.filter fun y => lab' y = t).map f' := by
  induction l generalizing l' with
  | nil =>
    cases l' with
    | nil => simp
    | cons y l' => simp
  | cons x l ih =>
    cases l' with
    | nil => simp
    | cons y l' =>
      have ih := @ih l' fun a ha b hb =>
        h a (List.mem_cons_of_mem x ha) b (List.mem_cons_of_mem y hb)
      have hxy := h x List.mem_cons_self y List.mem_cons_self
      simp only [List.map_cons, List.cons.injEq, ih]
      constructor
      · rintro ⟨hf, hlab, hall⟩
        refine ⟨⟨hxy hf, hlab⟩, fun t => ?_⟩
        rw [List.filter_cons, List.filter_cons, hxy hf]
        split
        · rw [List.map_cons, List.map_cons, hf, hall]
        · exact hall t
      · rintro ⟨⟨hlab, hlabs⟩, hall⟩
        have hhead := hall (lab x)
        rw [List.filter_cons_of_pos (by simp), List.filter_cons_of_pos (by simp [hlab]),
          List.map_cons, List.map_cons, List.cons.injEq] at hhead
        refine ⟨hhead.1, hlabs, fun t => ?_⟩
        by_cases ht : lab x = t
        · exact ht ▸ hhead.2
        · have hrest := hall t
          rwa [List.filter_cons_of_neg (by simpa using ht),
            List.filter_cons_of_neg (by simpa [← hlab] using ht)] at hrest

variable (key : α → K) (g : α → Option V → V)

/-- **The keys of a table** are those of the items, in the order of their first items. -/
theorem keys_foldl_upsert (items : List α) :
    (items.foldl (fun t x => upsert (key x) (g x) t) []).map Prod.fst =
      (items.map key).eraseDups := by
  induction items using List.reverseRecOn with
  | nil => simp
  | append_singleton items x ih =>
    rw [List.foldl_append, List.foldl_cons, List.foldl_nil, keys_upsert, ih, List.map_append,
      List.map_singleton, eraseDups_concat]
    simp only [List.mem_eraseDups]

/-- **The value of a key** is what the items of the key make of it. -/
theorem lookup_foldl_upsert (items : List α) (t : List (K × V)) (k : K) :
    (items.foldl (fun t x => upsert (key x) (g x) t) t).lookup k =
      groupFold g (t.lookup k) (items.filter fun x => key x = k) := by
  induction items generalizing t with
  | nil => simp
  | cons x items ih =>
    rw [List.foldl_cons, ih, groupFold_filter_cons, lookup_upsert]
    by_cases hx : key x = k
    · simp [hx]
    · simp [hx]

/-- A table with one entry for each key is its keys, each with its value. -/
theorem eq_map_of_lookup (val : K → V) : ∀ {t : List (K × V)}, (t.map Prod.fst).Nodup →
    (∀ k ∈ t.map Prod.fst, t.lookup k = some (val k)) → t = (t.map Prod.fst).map fun k => (k, val k)
  | [], _, _ => rfl
  | (k, v) :: t, hnd, hval => by
    simp only [List.map_cons, List.nodup_cons, List.mem_cons, forall_eq_or_imp] at hnd hval ⊢
    obtain ⟨hk, hnd⟩ := hnd
    have hv : v = val k := by
      have h := hval.1
      rw [lookup_cons_eq, if_pos rfl] at h
      exact Option.some.inj h
    have ht := eq_map_of_lookup val hnd fun k' hk' => by
      have hne : k ≠ k' := fun he => hk (he ▸ hk')
      have h := hval.2 k' hk'
      rwa [lookup_cons_eq, if_neg hne] at h
    rw [hv, ← ht]

/-- **The table of a list of items**: the keys in the order of their first items, each with what
its items make of it. -/
theorem foldl_upsert_eq (items : List α) {val : K → V}
    (h : ∀ x ∈ items, groupFold g none (items.filter fun y => key y = key x) = some (val (key x))) :
    items.foldl (fun t x => upsert (key x) (g x) t) [] =
      (items.map key).eraseDups.map fun k => (k, val k) := by
  have hkeys := keys_foldl_upsert key g items
  rw [← hkeys]
  refine eq_map_of_lookup val (hkeys ▸ nodup_eraseDups _) fun k hk => ?_
  rw [hkeys, List.mem_eraseDups, List.mem_map] at hk
  obtain ⟨x, hx, rfl⟩ := hk
  rw [lookup_foldl_upsert, List.lookup_nil, h x hx]

end Upsert

/-! ## Maps -/

section Map

variable {cmp : K → K → Ordering} [Std.TransCmp cmp] [Std.LawfulEqCmp cmp] [DecidableEq K]

theorem getElem?_insert_eq (m : Std.ExtTreeMap K V cmp) (k k' : K) (v : V) :
    (m.insert k v)[k']? = if k = k' then some v else m[k']? := by
  rw [Std.ExtTreeMap.getElem?_insert]
  simp only [Std.LawfulEqCmp.compare_eq_iff_eq]

theorem insert_insert_self (m : Std.ExtTreeMap K V cmp) (k : K) (v v' : V) :
    (m.insert k v).insert k v' = m.insert k v' := by
  refine Std.ExtTreeMap.ext_getElem? fun k' => ?_
  simp only [getElem?_insert_eq]
  split <;> rfl

theorem getElem?_foldl_insert_const (v : V) (keys : List K) (m : Std.ExtTreeMap K V cmp) (k : K) :
    (keys.foldl (fun m k' => m.insert k' v) m)[k]? = if k ∈ keys then some v else m[k]? := by
  induction keys generalizing m with
  | nil => simp
  | cons k' keys ih =>
    rw [List.foldl_cons, ih, getElem?_insert_eq]
    by_cases hk : k = k'
    · simp [hk]
    · simp [hk, Ne.symm hk]

/-- **The value of a key** in a map whose entries the items update. -/
theorem getElem?_foldl_insert (key : α → K) (g : α → Option V → V) (items : List α)
    (m : Std.ExtTreeMap K V cmp) (k : K) :
    (items.foldl (fun m x => m.insert (key x) (g x m[key x]?)) m)[k]? =
      groupFold g m[k]? (items.filter fun x => key x = k) := by
  induction items generalizing m with
  | nil => simp
  | cons x items ih =>
    rw [List.foldl_cons, ih, groupFold_filter_cons, getElem?_insert_eq]
    by_cases hx : key x = k
    · simp [hx]
    · simp [hx]

/-- A map with one write for each of its keys. -/
theorem getElem?_foldl_insert_nodup (g : K → Option V → V) {keys : List K} (h : keys.Nodup) (k : K) :
    (keys.foldl (fun m k' => m.insert k' (g k' m[k']?)) (∅ : Std.ExtTreeMap K V cmp))[k]? =
      if k ∈ keys then some (g k none) else none := by
  rw [getElem?_foldl_insert (fun k => k) g, List.filter_eq]
  by_cases hk : k ∈ keys
  · simp [hk, List.count_eq_one_of_mem h hk]
  · simp [hk, List.count_eq_zero_of_not_mem hk]

/-- The entry of an item whose key no other item has. -/
theorem getElem?_foldl_insert_pairwise (key : α → K) (val : α → V) {items : List α}
    (h : items.Pairwise fun x y => key x ≠ key y) {x : α} (hx : x ∈ items) :
    (items.foldl (fun m x => m.insert (key x) (val x)) (∅ : Std.ExtTreeMap K V cmp))[key x]? =
      some (val x) := by
  have hone : items.filter (fun y => key y = key x) = [x] := by
    induction items with
    | nil => cases hx
    | cons y items ih =>
      obtain ⟨hy, hitems⟩ := List.pairwise_cons.1 h
      rcases List.mem_cons.1 hx with rfl | hx
      · rw [List.filter_cons_of_pos (by simp), List.filter_eq_nil_iff.2 fun z hz => ?_]
        simpa using Ne.symm (hy z hz)
      · rw [List.filter_cons_of_neg (by simpa using hy x hx), ih hitems hx]
  rw [getElem?_foldl_insert key (fun x _ => val x), hone]
  rfl

/-- Items of different keys: one entry for each. -/
theorem size_foldl_insert_pairwise (key : α → K) (val : α → V) {items : List α}
    (h : items.Pairwise fun x y => key x ≠ key y) :
    (items.foldl (fun m x => m.insert (key x) (val x)) (∅ : Std.ExtTreeMap K V cmp)).size =
      items.length := by
  induction items using List.reverseRecOn with
  | nil => rfl
  | append_singleton items x ih =>
    obtain ⟨hitems, -, hx⟩ := List.pairwise_append.1 h
    have hnot : (items.foldl (fun m x => m.insert (key x) (val x))
        (∅ : Std.ExtTreeMap K V cmp)).contains (key x) = false := by
      rw [Bool.eq_false_iff, Ne, Std.ExtTreeMap.contains_iff_mem,
        Std.ExtTreeMap.mem_iff_isSome_getElem?, getElem?_foldl_insert key (fun x _ => val x),
        groupFold_isSome]
      simpa [List.filter_eq_nil_iff] using hx
    rw [List.foldl_append, List.foldl_cons, List.foldl_nil, Std.ExtTreeMap.size_insert, hnot,
      ih hitems, List.length_append]
    rfl

end Map

end Lib
