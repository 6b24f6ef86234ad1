import ErieCanalNet.Proxy.Config

/-!
# The first pass of the merge

The matches in the order of the visits, each with the port it is listed under, decide what becomes
of each of them: its host is the first one whose identity includes its own (`hostOf`). After the
visits the table of the unique matches has the hosts, each with the tables of the matches it is host
of (`Visited.run_visits`).

The identity of a match without destination ranges, `{}`, is the empty text, which is part of every
identity. The first match of all is the host of these matches. If it is itself without ranges, its
key counts as none: nothing is added to it, and each later match without ranges takes its place
(`Kept`).
-/

namespace Proxy

open Ctrl Go Lib

/-! ## Lists by port -/

/-- The values in their order, each with its port. -/
def flat {α : Type} (lists : PortLists α) : List (String × α) :=
  lists.flatMap fun entry => entry.2.map fun x => (entry.1, x)

section

variable {α β : Type} {m : Type → Type} [Monad m] [LawfulMonad m]

theorem mapM_on_port (f : α → m β) (port : String) (list : List α) :
    (list.map fun x => (port, x)).mapM (fun x => do return (x.1, ← f x.2)) =
      (fun ys => ys.map fun y => (port, y)) <$> list.mapM f := by
  induction list with
  | nil => simp
  | cons x list ih =>
    rw [List.map_cons, List.mapM_cons, List.mapM_cons, ih]
    simp

/-- The visits of a pass, one after the other. -/
theorem flat_mapLists (f : α → m β) (lists : PortLists α) :
    flat <$> mapLists f lists = (flat lists).mapM fun x => do return (x.1, ← f x.2) := by
  unfold mapLists
  induction lists with
  | nil => simp [flat]
  | cons entry lists ih =>
    have hflat : flat (entry :: lists) = (entry.2.map fun x => (entry.1, x)) ++ flat lists := by
      simp [flat]
    rw [hflat, List.mapM_append, mapM_on_port, ← ih]
    simp [flat]

end

theorem flat_filterMap {α : Type} (lists : PortLists (Option α)) :
    flat (lists.map fun entry => (entry.1, entry.2.filterMap id)) =
      (flat lists).filterMap fun x => x.2.map fun y => (x.1, y) := by
  induction lists with
  | nil => rfl
  | cons entry lists ih =>
    have hhead : ∀ l : List (Option α), (l.filterMap id).map (fun y => (entry.1, y)) =
        (l.map fun x => (entry.1, x)).filterMap fun x => x.2.map fun y => (x.1, y) := fun l => by
      induction l with
      | nil => rfl
      | cons o l ih =>
        cases o with
        | none => simpa using ih
        | some y => simpa using ih
    simp only [flat, List.map_cons, List.flatMap_cons, List.filterMap_append] at ih ⊢
    rw [ih, hhead]

/-! ## Hosts -/

theorem includes_refl (id : String) : includes id id = true := decide_eq_true (List.infix_refl _)

theorem includes_trans {a b c : String} (hab : includes a b = true) (hbc : includes b c = true) :
    includes a c = true :=
  decide_eq_true ((of_decide_eq_true hbc).trans (of_decide_eq_true hab))

theorem ne_empty_of_includes {k id : String} (h : includes k id = true) (hne : id ≠ "") :
    k ≠ "" := by
  intro hk
  subst hk
  have hnil := List.infix_nil.1 (of_decide_eq_true h)
  exact hne (String.toList_inj.1 hnil)

/-- A match with the port it is listed under. -/
abbrev OnPort := String × TrafficMatch

/-- The host of an identity: the first match whose own includes it. -/
def hostOf (l : List OnPort) (id : String) : Option OnPort :=
  l.find? fun y => includes y.2.ownIdentity id

/-- The last match without ranges. -/
def lastNoRanges (l : List OnPort) : Option OnPort :=
  (l.filter fun y => y.2.ownIdentity = "").getLast?

section

variable {l l' : List OnPort} {x y c : OnPort} {id : String}

theorem lastNoRanges_concat : lastNoRanges (l ++ [x]) =
    if x.2.ownIdentity = "" then some x else lastNoRanges l := by
  unfold lastNoRanges
  by_cases hx : x.2.ownIdentity = ""
  · simp [hx]
  · simp [hx]

theorem hostOf_append : hostOf (l ++ l') id = (hostOf l id).or (hostOf l' id) := List.find?_append

theorem includes_of_hostOf (h : hostOf l id = some c) : includes c.2.ownIdentity id = true :=
  List.find?_some (p := fun y : OnPort => includes y.2.ownIdentity id) h

/-- **A host is its own host.** -/
theorem hostOf_hostOf (h : hostOf l id = some c) : hostOf l c.2.ownIdentity = some c := by
  obtain ⟨hinc, before, after, rfl, hbefore⟩ := List.find?_eq_some_iff_append.1 h
  refine List.find?_eq_some_iff_append.2 ⟨includes_refl _, before, after, rfl, fun y hy => ?_⟩
  have hno := hbefore y hy
  rw [Bool.not_eq_true'] at hno ⊢
  by_contra hyes
  rw [includes_trans (Bool.eq_true_of_not_eq_false hyes) hinc] at hno
  cases hno

theorem exists_hostOf (hx : x ∈ l) : ∃ c, hostOf l x.2.ownIdentity = some c :=
  Option.isSome_iff_exists.1 (List.find?_isSome.2 ⟨x, hx, includes_refl _⟩)

/-- Later matches change no host. -/
theorem hostOf_append_of_mem (hx : x ∈ l) : hostOf (l ++ l') x.2.ownIdentity =
    hostOf l x.2.ownIdentity := by
  obtain ⟨c, hc⟩ := exists_hostOf hx
  rw [hostOf_append, hc]
  rfl

theorem hostOf_append_left (h : hostOf l id = some c) : hostOf (l ++ l') id = some c := by
  rw [hostOf_append, h]
  rfl

/-- A match without a host among the earlier ones is its own. -/
theorem hostOf_concat (h : hostOf l x.2.ownIdentity = none) :
    hostOf (l ++ [x]) x.2.ownIdentity = some x := by
  rw [hostOf_append, h]
  simp [hostOf, includes_refl]

/-- The matches of a host, with one match more. -/
theorem exists_hostOf_concat {P : OnPort → Prop} :
    (∃ y ∈ l ++ [x], hostOf (l ++ [x]) y.2.ownIdentity = some c ∧ P y) ↔
      (∃ y ∈ l, hostOf l y.2.ownIdentity = some c ∧ P y) ∨
        (hostOf (l ++ [x]) x.2.ownIdentity = some c ∧ P x) := by
  constructor
  · intro h
    obtain ⟨y, hy, hhost, hP⟩ := h
    rcases List.mem_append.1 hy with hy | hy
    · exact .inl ⟨y, hy, (hostOf_append_of_mem hy).symm.trans hhost, hP⟩
    · rw [List.mem_singleton.1 hy] at hhost hP
      exact .inr ⟨hhost, hP⟩
  · intro h
    rcases h with ⟨y, hy, hhost, hP⟩ | ⟨hhost, hP⟩
    · exact ⟨y, List.mem_append_left _ hy, (hostOf_append_of_mem hy).trans hhost, hP⟩
    · exact ⟨x, List.mem_append_right _ (.head _), hhost, hP⟩

end

/-! ## Tables -/

/-- The tables of a match that are merged. -/
inductive Table
  | hosts
  | services
  | plugins

def TrafficMatch.keysOf (o : TrafficMatch) : Table → Option (List String)
  | .hosts => o.httpHostPort2Service.map (·.keys)
  | .services => o.httpServiceRouteRules.map (·.keys)
  | .plugins => o.plugins.map (·.keys)

def TrafficMatch.HasTable (o : TrafficMatch) (t : Table) : Prop := (o.keysOf t).isSome = true

def TrafficMatch.HasKey (o : TrafficMatch) (t : Table) (k : String) : Prop :=
  ∃ ks ∈ o.keysOf t, k ∈ ks

theorem TrafficMatch.HasKey.hasTable {o : TrafficMatch} {t : Table} {k : String}
    (h : o.HasKey t k) : o.HasTable t := by
  obtain ⟨ks, hks, -⟩ := h
  exact Option.isSome_iff_exists.2 ⟨ks, hks⟩

theorem mem_foldl_insert_dict {α : Type} (entries : List (String × α)) (d : Dict α) (k : String) :
    k ∈ entries.foldl (fun d e => d.insert e.1 e.2) d ↔ k ∈ d ∨ k ∈ entries.map Prod.fst := by
  induction entries generalizing d with
  | nil => simp
  | cons e entries ih =>
    have hkey : compare e.1 k = .eq ↔ k = e.1 := Std.LawfulEqCmp.compare_eq_iff_eq.trans eq_comm
    rw [List.foldl_cons, ih, Std.ExtTreeMap.mem_insert, hkey, List.map_cons, List.mem_cons]
    tauto

/-- A table that is assigned to is there before and after, and has the keys of both. -/
theorem assign_eq_some {α : Type} {strict : Bool} {target source merged : Option (Dict α)}
    (h : assign strict target source = some merged) :
    ((merged.map (·.keys)).isSome = true ↔ (target.map (·.keys)).isSome = true) ∧
      ∀ k, (∃ ks ∈ merged.map (·.keys), k ∈ ks) ↔ (target.map (·.keys)).isSome = true ∧
        ((∃ ks ∈ target.map (·.keys), k ∈ ks) ∨ ∃ ks ∈ source.map (·.keys), k ∈ ks) := by
  unfold assign at h
  cases target with
  | none =>
    cases strict with
    | true => cases h
    | false =>
      obtain rfl := Option.some.inj h
      simp
  | some d =>
    obtain rfl := Option.some.inj h
    refine ⟨by simp, fun k => ?_⟩
    cases source with
    | none => simp [mem_foldl_insert_dict]
    | some s => simp [mem_foldl_insert_dict, Std.ExtTreeMap.map_fst_toList_eq_keys]

theorem assign_isSome {α : Type} {strict : Bool} {target source : Option (Dict α)} :
    (assign strict target source).isSome = true ↔
      (strict = true → (target.map (·.keys)).isSome = true) := by
  unfold assign
  cases target with
  | none => cases strict <;> simp
  | some d => simp

section

variable {strict : Bool} {stub merged : IdentifiedMatch} {o : TrafficMatch}

theorem mergeTables_isSome_iff : (stub.mergeTables strict o).isSome = true ↔
    (assign strict stub.httpHostPort2Service o.httpHostPort2Service).isSome = true ∧
      (assign strict stub.httpServiceRouteRules o.httpServiceRouteRules).isSome = true ∧
        (assign strict stub.plugins o.plugins).isSome = true := by
  unfold IdentifiedMatch.mergeTables
  generalize assign strict stub.httpHostPort2Service o.httpHostPort2Service = hosts
  generalize assign strict stub.httpServiceRouteRules o.httpServiceRouteRules = services
  generalize assign strict stub.plugins o.plugins = plugins
  cases hosts with
  | none => simp
  | some _ =>
    cases services with
    | none => simp
    | some _ => cases plugins <;> simp

/-- A merge is refused for want of a table. -/
theorem mergeTables_isSome : (stub.mergeTables strict o).isSome = true ↔
    (strict = true → ∀ t, stub.HasTable t) := by
  rw [mergeTables_isSome_iff, assign_isSome, assign_isSome, assign_isSome]
  constructor
  · intro h hstrict t
    cases t with
    | hosts => exact h.1 hstrict
    | services => exact h.2.1 hstrict
    | plugins => exact h.2.2 hstrict
  · intro h
    exact ⟨fun hs => h hs .hosts, fun hs => h hs .services, fun hs => h hs .plugins⟩

/-- What a merge makes of a stub. -/
theorem mergeTables_eq_some (h : stub.mergeTables strict o = some merged) :
    (merged.identity = stub.identity ∧ merged.port = stub.port ∧ merged.protocol = stub.protocol ∧
      merged.destinationIPRanges = stub.destinationIPRanges ∧
        merged.tcpServiceRouteRules = stub.tcpServiceRouteRules) ∧
    ∀ t, (merged.HasTable t ↔ stub.HasTable t) ∧
      ∀ k, merged.HasKey t k ↔ stub.HasTable t ∧ (stub.HasKey t k ∨ o.HasKey t k) := by
  unfold IdentifiedMatch.mergeTables at h
  simp only [Option.bind_eq_bind, Option.bind_eq_some_iff] at h
  obtain ⟨hosts, hhosts, services, hservices, plugins, hplugins, h⟩ := h
  obtain rfl := Option.some.inj h
  refine ⟨⟨rfl, rfl, rfl, rfl, rfl⟩, fun t => ?_⟩
  cases t with
  | hosts => exact assign_eq_some hhosts
  | services => exact assign_eq_some hservices
  | plugins => exact assign_eq_some hplugins

end

/-! ## The first pass -/

/-- What a host has become: its own, with the tables of the matches it is host of. -/
structure Made (l : List OnPort) (c : OnPort) (obj : IdentifiedMatch) : Prop where
  identity : obj.identity = c.2.ownIdentity
  port : obj.port = c.2.port
  protocol : obj.protocol = c.2.protocol
  ranges : obj.destinationIPRanges = c.2.destinationIPRanges
  targets : obj.tcpServiceRouteRules = c.2.tcpServiceRouteRules
  hasTable : ∀ t, obj.HasTable t ↔ c.2.HasTable t
  hasKey : ∀ t k, obj.HasKey t k ↔ c.2.HasTable t ∧
    ∃ y ∈ l, hostOf l y.2.ownIdentity = some c ∧ y.2.HasKey t k

/-- What is kept of a host: what it has become, or, without ranges, the last match that took its
place. -/
inductive Kept (l : List OnPort) (c : OnPort) (obj : IdentifiedMatch) : Prop
  | made (hne : c.2.ownIdentity ≠ "") (h : Made l c obj)
  | last (he : c.2.ownIdentity = "") (e : OnPort) (hlast : lastNoRanges l = some e)
      (hobj : obj = { e.2 with identity := e.2.ownIdentity })

/-- The table of the unique matches, after some visits: it finds the hosts, and has what is kept of
them. -/
structure Visited (l : List OnPort) (unique : UniqueTrafficMatches) : Prop where
  find : ∀ id, (unique.map Prod.fst).find? (fun k => includes k id) =
    (hostOf l id).map fun c => c.2.ownIdentity
  kept : ∀ k obj, unique.lookup k = some obj →
    ∃ c, hostOf l k = some c ∧ c.2.ownIdentity = k ∧ Kept l c obj

theorem visited_nil : Visited [] [] where
  find _ := rfl
  kept _ _ h := by cases h

section

variable {l : List OnPort} {unique : UniqueTrafficMatches} {x c : OnPort} {strict : Bool}

theorem Visited.mem_keys (h : Visited l unique) {id : String} (hc : hostOf l id = some c) :
    c.2.ownIdentity ∈ unique.map Prod.fst := by
  have hfind := h.find id
  rw [hc] at hfind
  exact List.mem_of_find?_eq_some hfind

/-- A match that has no host becomes one. -/
theorem Made.self (hnone : hostOf l x.2.ownIdentity = none) :
    Made (l ++ [x]) x { x.2 with identity := x.2.ownIdentity } where
  identity := rfl
  port := rfl
  protocol := rfl
  ranges := rfl
  targets := rfl
  hasTable _ := Iff.rfl
  hasKey t k := by
    rw [exists_hostOf_concat]
    constructor
    · intro hk
      exact ⟨hk.hasTable, .inr ⟨hostOf_concat hnone, hk⟩⟩
    · intro hk
      rcases hk.2 with ⟨y, -, hhost, -⟩ | ⟨-, hk⟩
      · rw [hostOf_hostOf hhost] at hnone
        cases hnone
      · exact hk

/-- The visit of a match of another host. -/
theorem Made.of_other {obj : IdentifiedMatch} (h : Made l c obj)
    (hother : hostOf (l ++ [x]) x.2.ownIdentity ≠ some c) : Made (l ++ [x]) c obj := by
  refine { h with hasKey := fun t k => ?_ }
  rw [h.hasKey, exists_hostOf_concat]
  simp only [hother, false_and, or_false]

/-- The visit of a match that is added to its host. -/
theorem Made.merge {stub merged : IdentifiedMatch} (h : Made l c stub)
    (hhost : hostOf l x.2.ownIdentity = some c)
    (hmerge : stub.mergeTables strict x.2 = some merged) : Made (l ++ [x]) c merged := by
  obtain ⟨⟨hidentity, hport, hprotocol, hranges, htargets⟩, htables⟩ := mergeTables_eq_some hmerge
  refine ⟨hidentity.trans h.identity, hport.trans h.port, hprotocol.trans h.protocol,
    hranges.trans h.ranges, htargets.trans h.targets,
    fun t => (htables t).1.trans (h.hasTable t), fun t k => ?_⟩
  rw [(htables t).2, h.hasTable, h.hasKey, exists_hostOf_concat]
  refine and_congr_right fun htable => ?_
  simp only [htable, true_and, hostOf_append_left hhost]

/-! ### A visit -/

theorem exists_lookup_of_mem {k : String} (h : k ∈ unique.map Prod.fst) :
    ∃ obj, unique.lookup k = some obj := by
  cases hk : unique.lookup k with
  | some obj => exact ⟨obj, rfl⟩
  | none =>
    obtain ⟨e, he, rfl⟩ := List.mem_map.1 h
    have hne := List.lookup_eq_none_iff.1 hk e he
    simp at hne

/-- No host, or one whose key counts as none. -/
theorem Visited.findIdentity_eq_none (h : Visited l unique) {id : String}
    (hnone : ∀ c, hostOf l id = some c → c.2.ownIdentity = "") : findIdentity unique id = none := by
  rw [findIdentity, h.find id]
  cases hc : hostOf l id with
  | none => rfl
  | some c => exact if_pos (hnone c hc)

theorem Visited.findIdentity_eq_some (h : Visited l unique) {id : String}
    (hc : hostOf l id = some c) (hne : c.2.ownIdentity ≠ "") :
    ∃ stub, findIdentity unique id = some stub ∧ Made l c stub := by
  obtain ⟨stub, hstub⟩ := exists_lookup_of_mem (h.mem_keys hc)
  refine ⟨stub, ?_, ?_⟩
  · rw [findIdentity, h.find id, hc]
    exact (if_neg hne).trans hstub
  · obtain ⟨c', hc', -, hkept⟩ := h.kept _ _ hstub
    obtain rfl := Option.some.inj ((hostOf_hostOf hc).symm.trans hc')
    cases hkept with
    | made _ hmade => exact hmade
    | last he => exact absurd he hne

/-- The visit of a match of another host. -/
theorem Kept.of_other {obj : IdentifiedMatch} (h : Kept l c obj)
    (hother : hostOf (l ++ [x]) x.2.ownIdentity ≠ some c)
    (hrange : c.2.ownIdentity = "" → x.2.ownIdentity ≠ "") : Kept (l ++ [x]) c obj := by
  cases h with
  | made hne hmade => exact .made hne (hmade.of_other hother)
  | last he e hlast hobj =>
    refine .last he e ?_ hobj
    rw [lastNoRanges_concat, if_neg (hrange he), hlast]

/-- What is kept of the other hosts. -/
theorem Visited.kept_other (h : Visited l unique) {k : String} {obj : IdentifiedMatch}
    (hk : unique.lookup k = some obj)
    (hother : ∀ y, hostOf (l ++ [x]) x.2.ownIdentity = some y → y.2.ownIdentity ≠ k) :
    ∃ c, hostOf (l ++ [x]) k = some c ∧ c.2.ownIdentity = k ∧ Kept (l ++ [x]) c obj := by
  obtain ⟨c, hc, hid, hkept⟩ := h.kept k obj hk
  have hne : hostOf (l ++ [x]) x.2.ownIdentity ≠ some c := fun he => hother c he hid
  refine ⟨c, hostOf_append_left hc, hid, hkept.of_other hne fun he hx => hne ?_⟩
  rw [hx, ← he, hid]
  exact hostOf_append_left hc

/-- A match without a host among the earlier ones. -/
theorem Visited.visit_new (h : Visited l unique) (hnone : hostOf l x.2.ownIdentity = none) :
    ∃ unique', mergeMatch strict x.2 unique = some (x.2.ownIdentity, unique') ∧
      Visited (l ++ [x]) unique' := by
  have hx := hostOf_concat hnone
  have hfind : findIdentity unique x.2.ownIdentity = none :=
    h.findIdentity_eq_none fun c hc => by rw [hnone] at hc; cases hc
  have hfresh : x.2.ownIdentity ∉ unique.map Prod.fst := fun hmem => by
    have hall := h.find x.2.ownIdentity
    rw [hnone] at hall
    exact List.find?_eq_none.1 hall _ hmem (includes_refl _)
  refine ⟨_, by rw [mergeMatch, hfind]; rfl, fun id => ?_, fun k obj hk => ?_⟩
  · rw [keys_upsert, if_neg hfresh, List.find?_append, h.find id, hostOf_append, Option.map_or]
    congr 1
    cases hinc : includes x.2.ownIdentity id <;> simp [hostOf, hinc]
  · rw [lookup_upsert] at hk
    split at hk
    · rename_i he
      obtain rfl := Option.some.inj hk
      refine ⟨x, he ▸ hx, he, ?_⟩
      by_cases hempty : x.2.ownIdentity = ""
      · exact .last hempty x (by rw [lastNoRanges_concat, if_pos hempty]) rfl
      · exact .made hempty (Made.self hnone)
    · rename_i he
      refine h.kept_other hk fun y hy => ?_
      obtain rfl := Option.some.inj (hx.symm.trans hy)
      exact he

/-- A match without a host of its own leaves the hosts of all identities. -/
theorem hostOf_concat_of_some (hc : hostOf l x.2.ownIdentity = some c) (id : String) :
    hostOf (l ++ [x]) id = hostOf l id := by
  rw [hostOf_append]
  cases hl : hostOf l id with
  | some _ => rfl
  | none =>
    cases hinc : includes x.2.ownIdentity id with
    | false => simp [hostOf, hinc]
    | true =>
      -- the host of the match includes what the match includes
      have hno := List.find?_eq_none.1 hl c (List.mem_of_find?_eq_some hc)
      exact absurd (includes_trans (includes_of_hostOf hc) hinc) hno

/-- A match that takes the place of its host. -/
theorem Visited.visit_replace (h : Visited l unique) (hc : hostOf l x.2.ownIdentity = some c)
    (he : c.2.ownIdentity = "") :
    ∃ unique', mergeMatch strict x.2 unique = some (c.2.ownIdentity, unique') ∧
      Visited (l ++ [x]) unique' := by
  have hx : x.2.ownIdentity = "" := by
    have hinc := includes_of_hostOf hc
    rw [he] at hinc
    exact by_contra fun hne => ne_empty_of_includes hinc hne rfl
  have hfind : findIdentity unique x.2.ownIdentity = none :=
    h.findIdentity_eq_none fun c' hc' => by
      obtain rfl := Option.some.inj (hc.symm.trans hc')
      exact he
  have hmem : x.2.ownIdentity ∈ unique.map Prod.fst := by
    rw [hx, ← he]
    exact h.mem_keys hc
  refine ⟨_, by rw [mergeMatch, hfind, he, ← hx]; rfl, fun id => ?_, fun k obj hk => ?_⟩
  · rw [keys_upsert, if_pos hmem, List.append_nil, h.find id, hostOf_concat_of_some hc]
  · rw [lookup_upsert] at hk
    split at hk
    · rename_i hkey
      obtain rfl := Option.some.inj hk
      refine ⟨c, hkey ▸ hostOf_append_left hc, he.trans (hx.symm.trans hkey), ?_⟩
      exact .last he x (by rw [lastNoRanges_concat, if_pos hx]) rfl
    · rename_i hkey
      refine h.kept_other hk fun y hy => ?_
      rw [hostOf_concat_of_some hc, hc] at hy
      obtain rfl := Option.some.inj hy
      exact fun hyk => hkey (hx.trans (he.symm.trans hyk))

theorem Visited.visit_merge (h : Visited l unique) (hc : hostOf l x.2.ownIdentity = some c)
    (hne : c.2.ownIdentity ≠ "") (htables : strict = true → ∀ t, c.2.HasTable t) :
    ∃ unique', mergeMatch strict x.2 unique = some (c.2.ownIdentity, unique') ∧
      Visited (l ++ [x]) unique' := by
  obtain ⟨stub, hfind, hmade⟩ := h.findIdentity_eq_some hc hne
  obtain ⟨merged, hmerge⟩ := Option.isSome_iff_exists.1
    ((mergeTables_isSome (o := x.2)).2 fun hs t => (hmade.hasTable t).2 (htables hs t))
  have hx : hostOf (l ++ [x]) x.2.ownIdentity = some c := hostOf_append_left hc
  refine ⟨upsert c.2.ownIdentity (fun _ => merged) unique, ?_, fun id => ?_, fun k obj hk => ?_⟩
  · rw [mergeMatch, hfind]
    dsimp only
    rw [hmerge, hmade.identity]
    rfl
  · rw [keys_upsert, if_pos (h.mem_keys hc), List.append_nil, h.find id, hostOf_concat_of_some hc]
  · rw [lookup_upsert] at hk
    split at hk
    · rename_i he
      obtain rfl := Option.some.inj hk
      exact ⟨c, he ▸ hostOf_append_left (hostOf_hostOf hc), he, .made hne (hmade.merge hc hmerge)⟩
    · rename_i he
      refine h.kept_other hk fun y hy => ?_
      obtain rfl := Option.some.inj (hx.symm.trans hy)
      exact he

theorem Visited.visit_refused (h : Visited l unique) (hc : hostOf l x.2.ownIdentity = some c)
    (hne : c.2.ownIdentity ≠ "") (htables : ¬(strict = true → ∀ t, c.2.HasTable t)) :
    mergeMatch strict x.2 unique = none := by
  obtain ⟨stub, hfind, hmade⟩ := h.findIdentity_eq_some hc hne
  have hnone : stub.mergeTables strict x.2 = none := by
    rw [← Option.not_isSome_iff_eq_none, mergeTables_isSome]
    exact fun hall => htables fun hs t => (hmade.hasTable t).1 (hall hs t)
  rw [mergeMatch, hfind]
  dsimp only
  rw [hnone]
  rfl

end

/-! ### All visits -/

/-- The host that a match is added to has what it is added to. Nothing is added to a host without
ranges. -/
def Mergeable (strict : Bool) (l : List OnPort) (x : OnPort) : Prop :=
  ∀ c, hostOf l x.2.ownIdentity = some c → c.2.ownIdentity ≠ "" → strict = true →
    ∀ t, c.2.HasTable t

/-- The matches `rest` can be merged after the matches `l`. -/
def LoadsAfter (strict : Bool) (l rest : List OnPort) : Prop :=
  ∀ before x after, rest = before ++ x :: after → Mergeable strict (l ++ before) x

/-- The identity a match is listed under. -/
def hostIdentity (l : List OnPort) (x : OnPort) : String :=
  ((hostOf l x.2.ownIdentity).map fun c => c.2.ownIdentity).getD ""

/-- The visit of a match on a port. -/
def visit (strict : Bool) (x : OnPort) : StateT UniqueTrafficMatches Option (String × String) := do
  return (x.1, ← mergeMatch strict x.2)

section

variable {l rest : List OnPort} {unique : UniqueTrafficMatches} {x : OnPort} {strict : Bool}

theorem loadsAfter_cons : LoadsAfter strict l (x :: rest) ↔
    Mergeable strict l x ∧ LoadsAfter strict (l ++ [x]) rest := by
  constructor
  · intro h
    refine ⟨?_, fun before y after hrest => ?_⟩
    · have hx := h [] x rest rfl
      rwa [List.append_nil] at hx
    · have hy := h (x :: before) y after (by rw [hrest]; rfl)
      rwa [List.append_assoc]
  · intro h before y after hrest
    cases before with
    | nil =>
      obtain ⟨rfl, rfl⟩ := List.cons.inj hrest
      rw [List.append_nil]
      exact h.1
    | cons z before =>
      obtain ⟨rfl, rfl⟩ := List.cons.inj hrest
      have hy := h.2 before y after rfl
      rwa [List.append_assoc] at hy

theorem loadsAfter_nil : LoadsAfter strict l [] := fun before x after h => by
  simp at h

theorem run_visit_cons : ((x :: rest).mapM (visit strict)).run unique =
    (mergeMatch strict x.2 unique).bind fun r =>
      ((rest.mapM (visit strict)).run r.2).map fun rs => ((x.1, r.1) :: rs.1, rs.2) := by
  rw [List.mapM_cons, StateT.run_bind]
  have hvisit : (visit strict x).run unique =
      (mergeMatch strict x.2 unique).map fun r => ((x.1, r.1), r.2) := by
    rw [visit, StateT.run_bind]
    change (mergeMatch strict x.2 unique).bind _ = _
    cases mergeMatch strict x.2 unique <;> rfl
  rw [hvisit]
  cases mergeMatch strict x.2 unique with
  | none => rfl
  | some r =>
    simp only [Option.map_some, Option.bind_some]
    change ((rest.mapM (visit strict)).run r.2).bind _ = _
    cases (rest.mapM (visit strict)).run r.2 <;> rfl

theorem hostIdentity_append (h : x ∈ l) (l' : List OnPort) :
    hostIdentity (l ++ l') x = hostIdentity l x := by
  rw [hostIdentity, hostIdentity, hostOf_append_of_mem h]

/-- A visit gives the match the identity of its host. -/
theorem Visited.visit_iff (strict : Bool) (h : Visited l unique) :
    (¬Mergeable strict l x → mergeMatch strict x.2 unique = none) ∧
      (Mergeable strict l x → ∃ unique', mergeMatch strict x.2 unique =
        some (hostIdentity (l ++ [x]) x, unique') ∧ Visited (l ++ [x]) unique') := by
  cases hc : hostOf l x.2.ownIdentity with
  | none =>
    have hid : hostIdentity (l ++ [x]) x = x.2.ownIdentity := by
      rw [hostIdentity, hostOf_concat hc]
      rfl
    refine ⟨fun hno => absurd (fun c he => ?_) hno, fun _ => ?_⟩
    · rw [hc] at he
      cases he
    · rw [hid]
      exact h.visit_new hc
  | some c =>
    have hid : hostIdentity (l ++ [x]) x = c.2.ownIdentity := by
      rw [hostIdentity, hostOf_append_left hc]
      rfl
    rw [hid]
    by_cases hempty : c.2.ownIdentity = ""
    · refine ⟨fun hno => absurd (fun c' hc' hne => ?_) hno, fun _ => h.visit_replace hc hempty⟩
      obtain rfl := Option.some.inj (hc.symm.trans hc')
      exact absurd hempty hne
    · refine ⟨fun hno => h.visit_refused hc hempty fun htables => hno fun c' he _ => ?_,
        fun hok => h.visit_merge hc hempty (hok c hc hempty)⟩
      obtain rfl := Option.some.inj (hc.symm.trans he)
      exact htables

/-- **The first pass** is refused for want of a table, or gives every match the identity of its
host. -/
theorem Visited.run_visits (strict : Bool) (h : Visited l unique) (rest : List OnPort) :
    (¬LoadsAfter strict l rest → (rest.mapM (visit strict)).run unique = none) ∧
      (LoadsAfter strict l rest → ∃ unique', (rest.mapM (visit strict)).run unique =
        some (rest.map fun x => (x.1, hostIdentity (l ++ rest) x), unique') ∧
          Visited (l ++ rest) unique') := by
  -- the matches visited so far grow by one with each visit
  induction rest generalizing l unique with
  | nil =>
    refine ⟨fun hno => absurd loadsAfter_nil hno, fun _ => ⟨unique, rfl, ?_⟩⟩
    rwa [List.append_nil]
  | cons x rest ih =>
    obtain ⟨hrefuse, hvisit⟩ := h.visit_iff (x := x) strict
    rw [loadsAfter_cons, run_visit_cons]
    by_cases hx : Mergeable strict l x
    · obtain ⟨unique', hrun, hvisited⟩ := hvisit hx
      obtain ⟨hno, hyes⟩ := ih hvisited
      rw [hrun, Option.bind_some]
      refine ⟨fun hnot => ?_, fun hloads => ?_⟩
      · rw [hno fun hrest => hnot ⟨hx, hrest⟩]
        rfl
      · obtain ⟨unique'', hrest, hall⟩ := hyes hloads.2
        have hmem : x ∈ l ++ [x] := List.mem_append_right _ (.head _)
        rw [List.append_assoc] at hall
        refine ⟨unique'', ?_, hall⟩
        rw [hrest, Option.map_some, ← hostIdentity_append hmem rest, List.append_assoc]
        rfl
    · rw [hrefuse hx]
      exact ⟨fun _ => rfl, fun hloads => absurd hloads.1 hx⟩

end

end Proxy
