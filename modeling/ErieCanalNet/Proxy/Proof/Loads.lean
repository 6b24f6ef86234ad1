import ErieCanalNet.Proxy.Proof.Config

/-!
# When a configuration loads

Matches of different identities are listed as they are (`mergeTrafficMatches_distinct`). A match
whose identity was met before is added to that one's tables, and no published match has the table
`Plugins`: in a strict runtime such a configuration does not load (`mergeTrafficMatches_isSome_iff`).
-/

namespace Proxy

open Ctrl Go Lib

/-! ## Passes without surprises -/

/-- The matches of all ports. -/
def values {α : Type} (lists : PortLists α) : List α := lists.flatMap Prod.snd

section

variable {α β σ : Type} {m : Type → Type} [Monad m] [LawfulMonad m] (f : α → StateT σ m β)
  (g : α → β) (acc : σ → α → σ) (Inv : σ → List α → Prop)
  (hstep : ∀ s x rest, Inv s (x :: rest) → (f x).run s = pure (g x, acc s x) ∧ Inv (acc s x) rest)
include hstep

theorem run_mapM_of_inv {s : σ} {l rest : List α} (h : Inv s (l ++ rest)) :
    (l.mapM f).run s = pure (l.map g, l.foldl acc s) ∧ Inv (l.foldl acc s) rest := by
  induction l generalizing s with
  | nil => exact ⟨by simp, h⟩
  | cons x l ih =>
    obtain ⟨hx, hinv⟩ := hstep s x (l ++ rest) h
    obtain ⟨hl, hrest⟩ := ih hinv
    exact ⟨by simp [hx, hl], hrest⟩

/-- A pass whose every visit gives what is expected, as long as an invariant of the state and of
the values to come holds. -/
theorem run_mapLists_of_inv (s : σ) (lists : PortLists α) (h : Inv s (values lists)) :
    (mapLists f lists).run s =
      pure (lists.map fun entry => (entry.1, entry.2.map g), (values lists).foldl acc s) := by
  unfold mapLists
  induction lists generalizing s with
  | nil => simp [values]
  | cons entry lists ih =>
    rw [values, List.flatMap_cons] at h
    obtain ⟨hentry, hinv⟩ := run_mapM_of_inv f g acc Inv hstep h
    have hlists := ih _ hinv
    simp only [bind_pure_comp] at hlists
    simp [hentry, hlists, values]

end

/-! ## Different identities -/

/-- A match that no other was added to. -/
def identified (o : TrafficMatch) : IdentifiedMatch := { o with identity := o.ownIdentity }

/-- No identity includes a later one. -/
def Distinct (l : List TrafficMatch) : Prop :=
  l.Pairwise fun o o' => includes o.ownIdentity o'.ownIdentity = false

theorem mergeMatch_new {strict : Bool} {o : TrafficMatch} {unique : UniqueTrafficMatches}
    (h : ∀ k ∈ unique.map Prod.fst, includes k o.ownIdentity = false) :
    mergeMatch strict o unique =
      some (o.ownIdentity, unique ++ [(o.ownIdentity, identified o)]) := by
  have hfind : findIdentity unique o.ownIdentity = none := by
    unfold findIdentity
    rw [List.find?_eq_none.2 fun k hk => by rw [h k hk]; exact Bool.false_ne_true]
  have hnew : o.ownIdentity ∉ unique.map Prod.fst := fun hk => by
    have := h _ hk
    rw [includes_refl] at this
    cases this
  unfold mergeMatch
  rw [hfind]
  show some (o.ownIdentity, upsert o.ownIdentity (fun _ => identified o) unique) = _
  rw [upsert_eq_concat _ hnew]

/-- The table of the unique matches grows by one with each visit. -/
theorem run_outTrafficMatches {strict : Bool} {lists : PortLists TrafficMatch}
    (h : Distinct (values lists)) :
    (outTrafficMatches strict lists).run [] =
      some (lists.map fun entry => (entry.1, entry.2.map TrafficMatch.ownIdentity),
        (values lists).map fun o => (o.ownIdentity, identified o)) := by
  have hfold : ∀ (l : List TrafficMatch) (unique : UniqueTrafficMatches),
      l.foldl (fun unique o => unique ++ [(o.ownIdentity, identified o)]) unique =
        unique ++ l.map fun o => (o.ownIdentity, identified o) := by
    intro l
    induction l with
    | nil => simp
    | cons o l ih => simp [ih]
  have hrun := run_mapLists_of_inv (mergeMatch strict) TrafficMatch.ownIdentity
    (fun unique o => unique ++ [(o.ownIdentity, identified o)])
    (fun unique rest => Distinct rest ∧
      ∀ k ∈ unique.map Prod.fst, ∀ o ∈ rest, includes k o.ownIdentity = false)
    (fun unique o rest hinv => ?_) [] lists ⟨h, by simp⟩
  · rw [hfold] at hrun
    exact hrun
  · obtain ⟨hd, hk⟩ := hinv
    obtain ⟨ho, hrest⟩ := List.pairwise_cons.1 hd
    refine ⟨mergeMatch_new fun k hmem => hk k hmem o (.head _), hrest, fun k hmem o' ho' => ?_⟩
    rw [List.map_append, List.mem_append] at hmem
    cases hmem with
    | inl hmem => exact hk k hmem o' (.tail _ ho')
    | inr hmem =>
      rw [List.mem_singleton.1 hmem]
      exact ho o' ho'

/-- Every unique match is listed where it was. -/
theorem run_outMergeTrafficMatches (unique : UniqueTrafficMatches) {lists : PortLists String}
    (h : (values lists).Nodup) :
    ((outMergeTrafficMatches unique lists).run []).1 =
      lists.map fun entry => (entry.1, entry.2.filterMap fun id => unique.lookup id) := by
  have hrun := run_mapLists_of_inv (listMatch unique) (fun id => unique.lookup id)
    (fun seen id => id :: seen) (fun seen rest => rest.Nodup ∧ ∀ id ∈ rest, id ∉ seen)
    (fun seen id rest hinv => ?_) [] lists ⟨h, by simp⟩
  · show ((mapLists (listMatch unique) lists).run []).1.map
      (fun entry => (entry.1, entry.2.filterMap id)) = _
    rw [hrun]
    show (lists.map _).map _ = _
    rw [List.map_map]
    refine List.map_congr_left fun entry _ => ?_
    show (entry.1, (entry.2.map _).filterMap _) = _
    rw [List.filterMap_map]
    rfl
  · obtain ⟨hd, hseen⟩ := hinv
    obtain ⟨hid, hrest⟩ := List.nodup_cons.1 hd
    refine ⟨if_neg (hseen id (.head _)), hrest, fun id' hid' hmem => ?_⟩
    cases hmem with
    | head => exact hid hid'
    | tail _ hmem => exact hseen id' (.tail _ hid') hmem

theorem values_map {α β : Type} (f : α → β) (lists : PortLists α) :
    values (lists.map fun entry => (entry.1, entry.2.map f)) = (values lists).map f := by
  simp [values, List.flatMap_map, List.map_flatMap]

theorem Distinct.nodup {l : List TrafficMatch} (h : Distinct l) :
    (l.map TrafficMatch.ownIdentity).Nodup := by
  refine List.pairwise_map.2 (h.imp fun {o o'} hno heq => ?_)
  rw [heq, includes_refl] at hno
  cases hno

/-- **Matches of different identities** are listed as they are. -/
theorem mergeTrafficMatches_distinct (strict : Bool) {lists : PortLists TrafficMatch}
    (h : Distinct (values lists)) :
    mergeTrafficMatches strict lists =
      some (lists.map fun entry => (entry.1, entry.2.map identified)) := by
  have hkeys : ((values lists).map fun o => (o.ownIdentity, identified o)).map Prod.fst =
      (values lists).map TrafficMatch.ownIdentity := by
    rw [List.map_map]
    rfl
  have hlookup : ∀ o ∈ values lists,
      ((values lists).map fun o => (o.ownIdentity, identified o)).lookup o.ownIdentity =
        some (identified o) := fun o ho => by
    obtain ⟨i, hi⟩ := List.getElem?_of_mem (List.mem_map_of_mem
      (f := fun o => (o.ownIdentity, identified o)) ho)
    exact lookup_of_getElem? (hkeys ▸ h.nodup) hi
  unfold mergeTrafficMatches
  rw [run_outTrafficMatches h]
  show some ((outMergeTrafficMatches _ _).run []).1 = _
  rw [run_outMergeTrafficMatches _ (by rw [values_map]; exact h.nodup), List.map_map]
  refine congrArg some (List.map_congr_left fun entry hentry => ?_)
  show (entry.1, (entry.2.map _).filterMap _) = _
  have hentry : (entry.2.map TrafficMatch.ownIdentity).filterMap (fun id =>
      ((values lists).map fun o => (o.ownIdentity, identified o)).lookup id) =
        entry.2.filterMap (some ∘ identified) := by
    rw [List.filterMap_map]
    exact List.filterMap_congr fun o ho => hlookup o (List.mem_flatMap.2 ⟨entry, hentry, ho⟩)
  rw [hentry, List.filterMap_eq_map]

/-! ## Shared identities -/

theorem map_snd_flat {α : Type} (lists : PortLists α) :
    (flat lists).map Prod.snd = values lists := by
  simp [flat, values, List.map_flatMap, Function.comp_def]

/-- Without plugins nothing can be added to a match. -/
theorem hostOf_eq_none_of_mergeable {l : List OnPort} {x : OnPort}
    (hne : ∀ y ∈ l, y.2.ownIdentity ≠ "") (hplugins : ∀ y ∈ l, y.2.plugins = none)
    (h : Mergeable true l x) : hostOf l x.2.ownIdentity = none := by
  cases hc : hostOf l x.2.ownIdentity with
  | none => rfl
  | some c =>
    have hmem := List.mem_of_find?_eq_some hc
    have htable := h c hc (hne c hmem) rfl .plugins
    rw [TrafficMatch.HasTable, TrafficMatch.keysOf, hplugins c hmem] at htable
    cases htable

theorem distinct_of_loadsAfter {l rest : List OnPort}
    (hne : ∀ y ∈ l ++ rest, y.2.ownIdentity ≠ "")
    (hplugins : ∀ y ∈ l ++ rest, y.2.plugins = none) (h : LoadsAfter true l rest) :
    (∀ y ∈ l, ∀ x ∈ rest, includes y.2.ownIdentity x.2.ownIdentity = false) ∧
      Distinct (rest.map Prod.snd) := by
  induction rest generalizing l with
  | nil => exact ⟨fun _ _ _ hx => absurd hx List.not_mem_nil, .nil⟩
  | cons x rest ih =>
    obtain ⟨hx, hrest⟩ := loadsAfter_cons.1 h
    have hhost := hostOf_eq_none_of_mergeable (fun y hy => hne y (List.mem_append_left _ hy))
      (fun y hy => hplugins y (List.mem_append_left _ hy)) hx
    have hno : ∀ y ∈ l, includes y.2.ownIdentity x.2.ownIdentity = false := fun y hy => by
      simpa using List.find?_eq_none.1 hhost y hy
    obtain ⟨hearlier, hlater⟩ := ih (fun y hy => hne y (by simpa using hy))
      (fun y hy => hplugins y (by simpa using hy)) hrest
    refine ⟨fun y hy x' hx' => ?_, List.pairwise_cons.2 ⟨fun o ho => ?_, hlater⟩⟩
    · cases hx' with
      | head => exact hno y hy
      | tail _ hx' => exact hearlier y (List.mem_append_left _ hy) x' hx'
    · obtain ⟨x', hx', rfl⟩ := List.mem_map.1 ho
      exact hearlier x (List.mem_append_right _ (.head _)) x' hx'

/-- **Without plugins** a configuration loads in a strict runtime if and only if its matches have
different identities. -/
theorem mergeTrafficMatches_isSome_iff {lists : PortLists TrafficMatch}
    (hne : ∀ o ∈ values lists, o.ownIdentity ≠ "")
    (hplugins : ∀ o ∈ values lists, o.plugins = none) :
    (mergeTrafficMatches true lists).isSome = true ↔ Distinct (values lists) := by
  have hflat : ∀ {P : TrafficMatch → Prop}, (∀ o ∈ values lists, P o) → ∀ x ∈ flat lists, P x.2 :=
    fun hall x hx => hall x.2 (by rw [← map_snd_flat]; exact List.mem_map_of_mem hx)
  constructor
  · intro h
    by_cases hloads : LoadsAfter true [] (flat lists)
    · rw [← map_snd_flat]
      exact (distinct_of_loadsAfter (hflat hne) (hflat hplugins) hloads).2
    · rw [(mergeTrafficMatches_cases true lists).1 hloads] at h
      cases h
  · intro h
    rw [mergeTrafficMatches_distinct true h]
    rfl

end Proxy
