import ErieCanalNet.Go.Map
import ErieCanalNet.Go.Strings

/-!
# Kubernetes objects

The parts of the core API the controllers read, and the informer caches they read them from.
An object's metadata carries the validity of its names, which the API server checks on
admission: a namespace is an RFC 1123 label, an object's name an RFC 1123 subdomain. A cache
holds one object per key (`<namespace>/<name>`), and a key finds its object
(`getByKey_eq_some`).
-/

namespace K8s

open Go

/-! ## Names -/

def isLowerAlnum (c : Char) : Bool := c.isLower || c.isDigit

/-- The text of an RFC 1123 label: letters, digits and inner dashes. -/
def isLabelText (cs : List Char) : Bool :=
  cs.all (fun c => isLowerAlnum c || c == '-') && cs.head?.any isLowerAlnum &&
    cs.getLast?.any isLowerAlnum

def isDNS1123Label (s : String) : Bool := s.toList.length ≤ 63 && isLabelText s.toList

def isDNS1123Subdomain (s : String) : Bool :=
  s.toList.length ≤ 253 && (s.toList.splitOn '.').all isLabelText

/-- A character of a valid name is a letter, a digit or a dash. -/
def isNameChar (c : Char) : Bool := isLowerAlnum c || c == '-'

theorem isLabelText_char {cs : List Char} (h : isLabelText cs = true) :
    ∀ c ∈ cs, isNameChar c = true := by
  simp only [isLabelText, Bool.and_eq_true, List.all_eq_true] at h
  exact h.1.1

/-- The characters of a split text: separators, or characters of a piece. -/
theorem mem_piece_of_mem {sep c : Char} : ∀ {l : List Char}, c ∈ l → c ≠ sep →
    ∃ w ∈ l.splitOn sep, c ∈ w
  | [], h, _ => by simp at h
  | x :: l, h, hne => by
    rw [List.splitOn_eq_splitOnP, List.splitOnP_cons_eq_if_modifyHead]
    have ih := fun hm => mem_piece_of_mem (l := l) hm hne
    rw [List.splitOn_eq_splitOnP] at ih
    split
    · rename_i hx
      rcases List.mem_cons.1 h with rfl | h
      · exact absurd (by simpa using hx) hne
      · obtain ⟨w, hw, hc⟩ := ih h
        exact ⟨w, .tail _ hw, hc⟩
    · cases hl : l.splitOnP (· == sep) with
      | nil => exact absurd hl (List.splitOnP_ne_nil _ _)
      | cons w ws =>
        rw [hl] at ih
        rw [List.modifyHead_cons]
        rcases List.mem_cons.1 h with rfl | h
        · exact ⟨_, .head _, .head _⟩
        · obtain ⟨v, hv, hc⟩ := ih h
          rcases List.mem_cons.1 hv with rfl | hv
          · exact ⟨_, .head _, .tail _ hc⟩
          · exact ⟨v, .tail _ hv, hc⟩

theorem label_char {s : String} (h : isDNS1123Label s = true) :
    ∀ c ∈ s.toList, isNameChar c = true := by
  simp only [isDNS1123Label, Bool.and_eq_true] at h
  exact isLabelText_char h.2

theorem label_ne_empty {s : String} (h : isDNS1123Label s = true) : s ≠ "" := by
  rintro rfl; revert h; decide

theorem label_noDot {s : String} (h : isDNS1123Label s = true) : '.' ∉ s.toList := fun hm => by
  have hc := label_char h _ hm
  revert hc
  decide

theorem subdomain_char {s : String} (h : isDNS1123Subdomain s = true) :
    ∀ c ∈ s.toList, c = '.' ∨ isNameChar c = true := by
  simp only [isDNS1123Subdomain, Bool.and_eq_true, List.all_eq_true] at h
  intro c hc
  by_cases hd : c = '.'
  · exact .inl hd
  · obtain ⟨w, hw, hcw⟩ := mem_piece_of_mem hc hd
    exact .inr (isLabelText_char (h.2 w hw) c hcw)

theorem subdomain_ne_empty {s : String} (h : isDNS1123Subdomain s = true) : s ≠ "" := by
  rintro rfl; revert h; decide

/-! ## Metadata and caches -/

/-- An object's namespace and name, as the API server admits them. -/
structure ObjectMeta where
  ns : String
  name : String
  nsValid : isDNS1123Label ns = true
  nameValid : isDNS1123Subdomain name = true
deriving DecidableEq

/-- The key of an object in its informer's cache. -/
def ObjectMeta.key (m : ObjectMeta) : String := m.ns ++ "/" ++ m.name

theorem ObjectMeta.slash_notMem_ns (m : ObjectMeta) : '/' ∉ m.ns.toList := fun h => by
  have := label_char m.nsValid _ h
  revert this; decide

theorem ObjectMeta.slash_notMem_name (m : ObjectMeta) : '/' ∉ m.name.toList := fun h => by
  have := subdomain_char m.nameValid _ h
  revert this; decide

/-- An informer's cache: the objects it lists, one per key. -/
structure Store (α : Type) (md : α → ObjectMeta) where
  items : List α
  nodup : (items.map fun x => (md x).key).Nodup

def Store.getByKey {α : Type} {md : α → ObjectMeta} (s : Store α md) (k : String) : Option α :=
  s.items.find? fun x => (md x).key == k

theorem Store.getByKey_eq_some {α : Type} {md : α → ObjectMeta} {s : Store α md} {k : String}
    {x : α} : s.getByKey k = some x ↔ x ∈ s.items ∧ (md x).key = k := by
  constructor
  · intro h
    exact ⟨List.mem_of_find?_eq_some h, by simpa using List.find?_some h⟩
  · rintro ⟨hx, rfl⟩
    obtain ⟨items, hnd⟩ := s
    induction items with
    | nil => simp at hx
    | cons y l ih =>
      simp only [List.map_cons, List.nodup_cons] at hnd
      simp only [Store.getByKey, List.find?_cons]
      by_cases hy : (md y).key = (md x).key
      · rcases List.mem_cons.1 hx with rfl | hxl
        · simp
        · exact absurd (List.mem_map_of_mem (f := fun x => (md x).key) hxl) (hy ▸ hnd.1)
      · have hxl : x ∈ l := by
          rcases List.mem_cons.1 hx with rfl | h
          · exact absurd rfl hy
          · exact h
        simp only [beq_eq_false_iff_ne.2 hy]
        exact ih hnd.2 hxl

/-- A cache with every object replaced by another one of its key. -/
def Store.map {α : Type} {md : α → ObjectMeta} (s : Store α md) (f : α → α)
    (hf : ∀ x, md (f x) = md x) : Store α md where
  items := s.items.map f
  nodup := by simpa only [List.map_map, Function.comp_def, hf] using s.nodup

/-- What only one object of a cache has something to do with. -/
theorem Store.flatMap_eq {α β : Type} {md : α → ObjectMeta} (s : Store α md) {x : α}
    (hx : x ∈ s.items) {f : α → List β}
    (h : ∀ y ∈ s.items, (md y).key ≠ (md x).key → f y = []) : s.items.flatMap f = f x := by
  obtain ⟨items, hnd⟩ := s
  induction items with
  | nil => cases hx
  | cons y l ih =>
    rw [List.map_cons, List.nodup_cons] at hnd
    have hne : ∀ z ∈ l, (md z).key ≠ (md y).key := fun z hz he =>
      hnd.1 (he ▸ List.mem_map_of_mem hz)
    rw [List.flatMap_cons]
    rcases List.mem_cons.1 hx with rfl | hx
    · have hrest : l.flatMap f = [] := List.flatMap_eq_nil_iff.2 fun z hz =>
        h z (List.mem_cons_of_mem _ hz) (hne z hz)
      rw [hrest, List.append_nil]
    · rw [h y List.mem_cons_self (hne x hx).symm, List.nil_append]
      exact ih hnd.2 hx fun z hz => h z (List.mem_cons_of_mem _ hz)

section

variable {α β : Type} {md : α → ObjectMeta} {s s' : Store α md}

/-- A key finds the same object in whatever order a cache lists its objects. -/
theorem Store.getByKey_perm (h : s.items.Perm s'.items) (k : String) :
    s.getByKey k = s'.getByKey k := by
  refine Option.ext fun x => ?_
  rw [getByKey_eq_some, getByKey_eq_some, h.mem_iff]

/-- What only the object of one key has something to do with does not depend on the order. -/
theorem Store.flatMap_perm (h : s.items.Perm s'.items) {f : α → List β}
    (hf : ∀ x ∈ s.items, ∀ y ∈ s.items, f x ≠ [] → f y ≠ [] → (md x).key = (md y).key) :
    s.items.flatMap f = s'.items.flatMap f := by
  by_cases hex : ∃ x ∈ s.items, f x ≠ []
  · obtain ⟨x, hx, hne⟩ := hex
    have hone : ∀ y ∈ s.items, (md y).key ≠ (md x).key → f y = [] := fun y hy hk =>
      by_contra fun hy' => hk (hf y hy x hx hy' hne)
    rw [s.flatMap_eq hx hone, s'.flatMap_eq (h.mem_iff.1 hx) fun y hy => hone y (h.mem_iff.2 hy)]
  · have hnil : ∀ x ∈ s.items, f x = [] := fun x hx => by_contra fun hne => hex ⟨x, hx, hne⟩
    rw [List.flatMap_eq_nil_iff.2 hnil,
      List.flatMap_eq_nil_iff.2 fun x hx => hnil x (h.mem_iff.2 hx)]

end

/-- One object of a cache is added, updated or deleted; the others stay where they are. -/
def Store.Replaced {α : Type} {md : α → ObjectMeta} (s s' : Store α md) (old new : Option α) :
    Prop :=
  ∃ l₁ l₂, s.items = l₁ ++ old.toList ++ l₂ ∧ s'.items = l₁ ++ new.toList ++ l₂ ∧
    ∀ x ∈ old, ∀ y ∈ new, (md x).key = (md y).key

section

variable {α : Type} {md : α → ObjectMeta} {s s' : Store α md} {old new : Option α}

theorem Store.Replaced.symm (h : s.Replaced s' old new) : s'.Replaced s new old := by
  obtain ⟨l₁, l₂, h₁, h₂, hkey⟩ := h
  exact ⟨l₁, l₂, h₂, h₁, fun y hy x hx => (hkey x hx y hy).symm⟩

/-- The other keys find what they found. -/
theorem Store.Replaced.getByKey_ne (h : s.Replaced s' old new) {k : String}
    (hold : ∀ x ∈ old, (md x).key ≠ k) (hnew : ∀ y ∈ new, (md y).key ≠ k) :
    s'.getByKey k = s.getByKey k := by
  obtain ⟨l₁, l₂, h₁, h₂, -⟩ := h
  have hnone : ∀ o : Option α, (∀ x ∈ o, (md x).key ≠ k) →
      o.toList.find? (fun x => (md x).key == k) = none := fun o ho =>
    List.find?_eq_none.2 fun x hx => by simpa using ho x (Option.mem_toList.1 hx)
  rw [Store.getByKey, Store.getByKey, h₁, h₂, List.find?_append, List.find?_append,
    List.find?_append, List.find?_append, hnone old hold, hnone new hnew]

/-- Before the change, the key of the object finds the old one. -/
theorem Store.Replaced.getByKey_old (h : s.Replaced s' old new) {k : String}
    (hold : ∀ x ∈ old, (md x).key = k) (hnew : ∀ y ∈ new, (md y).key = k)
    (hsome : old.isSome ∨ new.isSome) : s.getByKey k = old := by
  obtain ⟨l₁, l₂, h₁, h₂, -⟩ := h
  cases old with
  | some x => exact getByKey_eq_some.2 ⟨by simp [h₁], hold x rfl⟩
  | none =>
    obtain ⟨y, rfl⟩ := Option.isSome_iff_exists.1 (hsome.resolve_left (by simp))
    have hnd := s'.nodup
    rw [h₂, Option.toList_some, List.append_assoc, List.singleton_append, List.map_append,
      List.map_cons, List.nodup_middle, List.nodup_cons, hnew y rfl, ← List.map_append] at hnd
    refine Option.eq_none_iff_forall_not_mem.2 fun x hx => hnd.1 ?_
    obtain ⟨hx, hk⟩ := getByKey_eq_some.1 hx
    rw [h₁, Option.toList_none, List.append_nil] at hx
    exact List.mem_map.2 ⟨x, hx, hk⟩

end

/-! ## Endpoints and services -/

structure EndpointAddress where
  ip : String
  hostname : String
deriving DecidableEq, Repr

/-- `port` is an `int32`. -/
structure EndpointPort where
  name : String
  protocol : String
  appProtocol : Option String
  port : Int
deriving DecidableEq, Repr

structure EndpointSubset where
  addresses : List EndpointAddress
  ports : List EndpointPort
deriving DecidableEq, Repr

/-- `corev1.Endpoints`: the addresses served under a service's name. -/
structure Endpoints where
  md : ObjectMeta
  annotations : Map String String
  subsets : List EndpointSubset

/-- `port` and `targetPort` are `int32`s. -/
structure ServicePort where
  name : String
  protocol : String
  appProtocol : Option String
  port : Int
  targetPort : Int
deriving DecidableEq, Repr

/-- `corev1.Service`. -/
structure Service where
  md : ObjectMeta
  uid : String
  clusterIP : String
  clusterIPs : List String
  ports : List ServicePort
deriving DecidableEq

end K8s
