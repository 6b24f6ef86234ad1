import ErieCanalNet.Proxy.Proof.Visits

/-!
# What the merge keeps

The second pass lists the hosts where they were (`mem_listed_iff`). They have the tables of all
their matches, but their own target clusters only, so the merge loses those of the other matches,
and all of a match whose host is on another port. Of matches without destination ranges that come
first, only the last is left (`merge_lossless_iff`).
-/

namespace Proxy

open Ctrl Go Lib

/-! ## The second pass -/

/-- The first occurrence of each identity. -/
def firsts : List String → List (String × String) → List (String × String)
  | _, [] => []
  | seen, x :: l => if x.2 ∈ seen then firsts seen l else x :: firsts (x.2 :: seen) l

theorem mem_firsts {seen : List String} {l : List (String × String)} {x : String × String} :
    x ∈ firsts seen l ↔ x.2 ∉ seen ∧ l.find? (fun y => y.2 = x.2) = some x := by
  induction l generalizing seen with
  | nil => simp [firsts]
  | cons y l ih =>
    rw [firsts, List.find?_cons]
    split
    · rename_i hseen
      rw [ih]
      by_cases hy : y.2 = x.2
      · simp [← hy, hseen]
      · simp [hy]
    · rename_i hseen
      rw [List.mem_cons, ih]
      by_cases hy : y.2 = x.2
      · simp only [hy, List.mem_cons, true_or, not_true_eq_false, false_and, or_false, decide_true,
          Option.some.injEq, eq_comm, iff_and_self]
        intro _
        rwa [← hy]
      · have hne : x ≠ y := fun he => hy (he ▸ rfl)
        simp [hy, hne, Ne.symm hy]

theorem pairwise_firsts (seen : List String) (l : List (String × String)) :
    (firsts seen l).Pairwise fun x y => x.2 ≠ y.2 := by
  induction l generalizing seen with
  | nil => exact .nil
  | cons x l ih =>
    rw [firsts]
    split
    · exact ih seen
    · refine List.pairwise_cons.2 ⟨fun y hy he => ?_, ih _⟩
      exact (mem_firsts.1 hy).1 (he ▸ List.mem_cons_self)

/-- The listing of an identity on a port. -/
def listVisit (unique : UniqueTrafficMatches) (x : String × String) :
    StateM (List String) (String × Option IdentifiedMatch) := do
  return (x.1, ← listMatch unique x.2)

theorem run_listVisit_cons (unique : UniqueTrafficMatches) (seen : List String)
    (x : String × String) (l : List (String × String)) :
    (((x :: l).mapM (listVisit unique)).run seen).1 =
      (x.1, (listMatch unique x.2 seen).1) ::
        ((l.mapM (listVisit unique)).run (listMatch unique x.2 seen).2).1 := by
  rw [List.mapM_cons]
  rfl

theorem run_listVisits (unique : UniqueTrafficMatches) (seen : List String)
    (l : List (String × String)) :
    (((l.mapM (listVisit unique)).run seen).1.filterMap fun x => x.2.map fun y => (x.1, y)) =
      (firsts seen l).filterMap fun x => (unique.lookup x.2).map fun obj => (x.1, obj) := by
  induction l generalizing seen with
  | nil => rfl
  | cons x l ih =>
    rw [run_listVisit_cons, firsts, listMatch]
    split
    · exact ih seen
    · rw [List.filterMap_cons, List.filterMap_cons, ih]

/-- **The second pass**: each unique match, where its identity occurs first. -/
theorem flat_outMergeTrafficMatches (unique : UniqueTrafficMatches) (lists : PortLists String) :
    flat ((outMergeTrafficMatches unique lists).run []).1 =
      (firsts [] (flat lists)).filterMap fun x =>
        (unique.lookup x.2).map fun obj => (x.1, obj) := by
  have hpass : ((outMergeTrafficMatches unique lists).run []).1 =
      ((mapLists (listMatch unique) lists).run []).1.map fun entry =>
        (entry.1, entry.2.filterMap id) := rfl
  have hflat : flat ((mapLists (listMatch unique) lists).run []).1 =
      (((flat lists).mapM (listVisit unique)).run []).1 :=
    congrArg (fun p : StateM (List String) _ => (p.run []).1)
      (flat_mapLists (listMatch unique) lists)
  rw [hpass, flat_filterMap, hflat, run_listVisits]

/-! ## What is listed -/

/-- The first match listed under the identity of a host is the host. -/
theorem find?_hostIdentity {l : List OnPort} {c : OnPort}
    (h : hostOf l c.2.ownIdentity = some c) :
    l.find? (fun x => hostIdentity l x = c.2.ownIdentity) = some c := by
  obtain ⟨-, before, after, rfl, hbefore⟩ := List.find?_eq_some_iff_append.1 h
  refine List.find?_eq_some_iff_append.2 ⟨?_, before, after, rfl, fun y hy => ?_⟩
  · rw [hostIdentity, h]
    exact decide_eq_true rfl
  · rw [Bool.not_eq_true', decide_eq_false_iff_not]
    intro hid
    obtain ⟨c', hc'⟩ := exists_hostOf hy
    rw [hostIdentity_append hy, hostIdentity, hc'] at hid
    -- the host of an earlier match is an earlier match
    have hno := hbefore c' (List.mem_of_find?_eq_some hc')
    have hid' : c'.2.ownIdentity = c.2.ownIdentity := hid
    rw [hid', includes_refl] at hno
    cases hno

theorem find?_listed {l : List OnPort} {c : OnPort} (h : hostOf l c.2.ownIdentity = some c) :
    (l.map fun x => (x.1, hostIdentity l x)).find? (fun y => y.2 = c.2.ownIdentity) =
      some (c.1, c.2.ownIdentity) := by
  have hself : hostIdentity l c = c.2.ownIdentity := by
    rw [hostIdentity, h]
    rfl
  rw [List.find?_map]
  change (l.find? fun x => hostIdentity l x = c.2.ownIdentity).map _ = _
  rw [find?_hostIdentity h, Option.map_some, hself]

section

variable {input : PortLists TrafficMatch} {output : PortLists IdentifiedMatch}

theorem foldl_append_ne_empty (f : String → String) (ks : List String) {id : String} (h : id ≠ "") :
    ks.foldl (fun id k => id ++ f k) id ≠ "" := by
  induction ks generalizing id with
  | nil => exact h
  | cons k ks ih => exact ih fun he => h (String.append_eq_empty_iff.1 he).1

/-- Only a match without ranges has the empty identity. -/
theorem ownIdentity_ne_empty {o : TrafficMatch} (h : o.destinationIPRanges ≠ some ∅) :
    o.ownIdentity ≠ "" := by
  have hkeys : o.ranges.keys ≠ [] := by
    rw [TrafficMatch.ranges]
    cases hr : o.destinationIPRanges with
    | none => decide
    | some d =>
      intro hnil
      rw [hr] at h
      exact h (congrArg some (Std.ExtTreeMap.keys_eq_nil_iff.1 hnil))
  obtain ⟨k, ks, hks⟩ := List.exists_cons_of_ne_nil hkeys
  rw [TrafficMatch.ownIdentity, uniqueIdentity, hks, List.foldl_cons]
  exact foldl_append_ne_empty _ ks (by simp)

theorem ownIdentity_eq_empty {o : TrafficMatch} :
    o.ownIdentity = "" ↔ o.destinationIPRanges = some ∅ := by
  refine ⟨fun h => by_contra fun hne => ownIdentity_ne_empty hne h, fun h => ?_⟩
  rw [TrafficMatch.ownIdentity, TrafficMatch.ranges, h]
  rfl

/-- **The merge**: it is refused, or lists what is kept of the hosts. -/
theorem mergeTrafficMatches_cases (strict : Bool) (input : PortLists TrafficMatch) :
    (¬LoadsAfter strict [] (flat input) → mergeTrafficMatches strict input = none) ∧
      (LoadsAfter strict [] (flat input) → ∃ unique output,
        mergeTrafficMatches strict input = some output ∧ Visited (flat input) unique ∧
          flat output = (firsts [] ((flat input).map fun x =>
            (x.1, hostIdentity (flat input) x))).filterMap fun x =>
              (unique.lookup x.2).map fun obj => (x.1, obj)) := by
  have hrun : ((outTrafficMatches strict input).run []).map (fun r => (flat r.1, r.2)) =
      ((flat input).mapM (visit strict)).run [] := by
    have hflat := congrArg (fun p : StateT UniqueTrafficMatches Option _ => p.run [])
      (flat_mapLists (mergeMatch strict) input)
    rw [StateT.run_map] at hflat
    exact hflat
  obtain ⟨hno, hyes⟩ := visited_nil.run_visits strict (flat input)
  refine ⟨fun hnot => ?_, fun hloads => ?_⟩
  · rw [hno hnot, Option.map_eq_none_iff] at hrun
    rw [mergeTrafficMatches, hrun]
    rfl
  · obtain ⟨unique, hall, hvisited⟩ := hyes hloads
    rw [hall, Option.map_eq_some_iff] at hrun
    obtain ⟨⟨lists, unique'⟩, hpass, heq⟩ := hrun
    obtain ⟨hlists, rfl⟩ := Prod.mk.inj heq
    refine ⟨unique', ((outMergeTrafficMatches unique' lists).run []).1, ?_, hvisited, ?_⟩
    · rw [mergeTrafficMatches, hpass]
      rfl
    · rw [flat_outMergeTrafficMatches, hlists]
      rfl

/-- **What is listed**: on its port, what is kept of each host. -/
theorem mem_listed_iff {unique : UniqueTrafficMatches} {port : String} {obj : IdentifiedMatch}
    (h : Visited (flat input) unique) :
    (port, obj) ∈ ((firsts [] ((flat input).map fun x =>
        (x.1, hostIdentity (flat input) x))).filterMap fun x =>
          (unique.lookup x.2).map fun obj => (x.1, obj)) ↔
      ∃ c, hostOf (flat input) c.ownIdentity = some (port, c) ∧
        unique.lookup c.ownIdentity = some obj := by
  rw [List.mem_filterMap]
  constructor
  · intro hmem
    obtain ⟨⟨port', k⟩, hfirst, hobj⟩ := hmem
    obtain ⟨obj', hlookup, heq⟩ := Option.map_eq_some_iff.1 hobj
    obtain ⟨rfl, rfl⟩ := Prod.mk.inj heq
    obtain ⟨⟨q, c⟩, hhost, rfl, -⟩ := h.kept k _ hlookup
    have hfind := (mem_firsts.1 hfirst).2
    rw [find?_listed (c := (q, c)) hhost] at hfind
    obtain rfl := congrArg Prod.fst (Option.some.inj hfind)
    exact ⟨c, hhost, hlookup⟩
  · intro hmem
    obtain ⟨c, hhost, hlookup⟩ := hmem
    have hfind := find?_listed (c := (port, c)) hhost
    refine ⟨(port, c.ownIdentity), mem_firsts.2 ⟨List.not_mem_nil, hfind⟩, ?_⟩
    rw [hlookup]
    rfl

/-! ## Losses -/

/-- A target cluster of a match. -/
def TrafficMatch.HasTarget (o : TrafficMatch) (cluster : String) : Prop :=
  ∃ targets ∈ o.tcpServiceRouteRules, cluster ∈ targets

/-- One match has what another has, for requests of the same port and protocol. -/
structure Covers (o m : TrafficMatch) : Prop where
  port : o.port = m.port
  protocol : o.protocol = m.protocol
  hosts : ∀ k, m.HasKey .hosts k → o.HasKey .hosts k
  services : ∀ k, m.HasKey .services k → o.HasKey .services k
  targets : ∀ cluster, m.HasTarget cluster → o.HasTarget cluster

/-- **No routing information is lost**: the matches after the merge have different identities, and
what a match has on its port is there after the merge. -/
structure Lossless (input : PortLists TrafficMatch) (output : PortLists IdentifiedMatch) :
    Prop where
  distinct : (flat output).Pairwise fun a b => a.2.ownIdentity ≠ b.2.ownIdentity
  covered : ∀ port m, (port, m) ∈ flat input →
    ∃ o, (port, o) ∈ flat output ∧ Covers o.toTrafficMatch m

/-- A key that a host has, or gets from a match it is host of. -/
def Gets (l : List OnPort) (c : OnPort) (t : Table) (k : String) : Prop :=
  c.2.HasTable t ∧ ∃ y ∈ l, hostOf l y.2.ownIdentity = some c ∧ y.2.HasKey t k

/-- A host with the port, the protocol and the target clusters of a match, that gets its keys. -/
structure HostCovers (l : List OnPort) (c : OnPort) (m : TrafficMatch) : Prop where
  ranges : c.2.destinationIPRanges ≠ some ∅
  port : c.2.port = m.port
  protocol : c.2.protocol = m.protocol
  hosts : ∀ k, m.HasKey .hosts k → Gets l c .hosts k
  services : ∀ k, m.HasKey .services k → Gets l c .services k
  targets : ∀ cluster, m.HasTarget cluster → c.2.HasTarget cluster

/-- Matches without ranges come first, and the last of them covers a match. -/
def LastCovers (l : List OnPort) (c : OnPort) (m : TrafficMatch) : Prop :=
  c.2.destinationIPRanges = some ∅ ∧ ∃ e, lastNoRanges l = some e ∧ Covers e.2 m

/-- Among the hosts of the port of a match there is one that covers it, or whose place is taken by
one that does. -/
def HasCover (l : List OnPort) (x : OnPort) : Prop :=
  ∃ c, hostOf l c.ownIdentity = some (x.1, c) ∧
    (HostCovers l (x.1, c) x.2 ∨ LastCovers l (x.1, c) x.2)

/-- The host of a match itself gets its keys. -/
theorem HasCover.of_host {l : List OnPort} {x : OnPort} {c : TrafficMatch} (hx : x ∈ l)
    (hhost : hostOf l x.2.ownIdentity = some (x.1, c)) (hranges : c.destinationIPRanges ≠ some ∅)
    (hport : c.port = x.2.port) (hprotocol : c.protocol = x.2.protocol)
    (htables : ∀ t, c.HasTable t)
    (htargets : ∀ cluster, x.2.HasTarget cluster → c.HasTarget cluster) : HasCover l x := by
  have hself : hostOf l c.ownIdentity = some (x.1, c) := hostOf_hostOf (c := (x.1, c)) hhost
  have hgets : ∀ t k, x.2.HasKey t k → Gets l (x.1, c) t k := fun t _ hk =>
    ⟨htables t, x, hx, hhost, hk⟩
  exact ⟨c, hself, .inl ⟨hranges, hport, hprotocol, hgets .hosts, hgets .services, htargets⟩⟩

theorem Made.covers_iff {l : List OnPort} {c : OnPort} {obj : IdentifiedMatch} (h : Made l c obj)
    (hne : c.2.destinationIPRanges ≠ some ∅) (m : TrafficMatch) :
    Covers obj.toTrafficMatch m ↔ HostCovers l c m := by
  have hkeys : ∀ t k, obj.HasKey t k ↔ Gets l c t k := h.hasKey
  have htargets : ∀ cluster, obj.HasTarget cluster ↔ c.2.HasTarget cluster := fun cluster => by
    rw [TrafficMatch.HasTarget, h.targets]
    rfl
  constructor
  · intro hc
    exact ⟨hne, h.port ▸ hc.port, h.protocol ▸ hc.protocol,
      fun k hk => (hkeys _ k).1 (hc.hosts k hk), fun k hk => (hkeys _ k).1 (hc.services k hk),
      fun t ht => (htargets t).1 (hc.targets t ht)⟩
  · intro hc
    exact ⟨h.port.trans hc.port, h.protocol.trans hc.protocol,
      fun k hk => (hkeys _ k).2 (hc.hosts k hk), fun k hk => (hkeys _ k).2 (hc.services k hk),
      fun t ht => (htargets t).2 (hc.targets t ht)⟩

/-- What is kept of a host covers what the host does, or the last match in its place. -/
theorem Kept.covers_iff {l : List OnPort} {c : OnPort} {obj : IdentifiedMatch} (h : Kept l c obj)
    (m : TrafficMatch) :
    Covers obj.toTrafficMatch m ↔ HostCovers l c m ∨ LastCovers l c m := by
  cases h with
  | made hne hmade =>
    have hranges : c.2.destinationIPRanges ≠ some ∅ := mt ownIdentity_eq_empty.2 hne
    rw [hmade.covers_iff hranges]
    exact (or_iff_left fun hlast => hranges hlast.1).symm
  | last he e hlast hobj =>
    have hranges : c.2.destinationIPRanges = some ∅ := ownIdentity_eq_empty.1 he
    rw [or_iff_right fun hhost => hhost.ranges hranges, LastCovers, hlast, hobj]
    simp [hranges]

theorem Kept.ownIdentity_eq {l : List OnPort} {c : OnPort} {obj : IdentifiedMatch}
    (h : Kept l c obj) : obj.ownIdentity = c.2.ownIdentity := by
  cases h with
  | made hne hmade =>
    rw [TrafficMatch.ownIdentity, TrafficMatch.ownIdentity, TrafficMatch.ranges,
      TrafficMatch.ranges, hmade.port, hmade.protocol, hmade.ranges]
  | last he e hlast hobj =>
    rw [hobj, he]
    exact of_decide_eq_true (List.mem_filter.1 (List.mem_of_getLast? hlast)).2

/-- The matches after the merge, and what hosts they come from. -/
theorem mem_output_iff {unique : UniqueTrafficMatches} (h : Visited (flat input) unique)
    (hout : flat output = (firsts [] ((flat input).map fun x =>
      (x.1, hostIdentity (flat input) x))).filterMap fun x =>
        (unique.lookup x.2).map fun obj => (x.1, obj)) (port : String) (P : IdentifiedMatch → Prop)
    (Q : TrafficMatch → Prop) (hPQ : ∀ c obj, Kept (flat input) (port, c) obj → (P obj ↔ Q c)) :
    (∃ obj, (port, obj) ∈ flat output ∧ P obj) ↔
      ∃ c, hostOf (flat input) c.ownIdentity = some (port, c) ∧ Q c := by
  have hkept : ∀ {c obj}, hostOf (flat input) c.ownIdentity = some (port, c) →
      unique.lookup c.ownIdentity = some obj → Kept (flat input) (port, c) obj := by
    intro c obj hhost hlookup
    obtain ⟨c', hc', -, hkept⟩ := h.kept _ _ hlookup
    obtain rfl := Option.some.inj (hhost.symm.trans hc')
    exact hkept
  rw [hout]
  constructor
  · intro hex
    obtain ⟨obj, hmem, hP⟩ := hex
    obtain ⟨c, hhost, hlookup⟩ := (mem_listed_iff h).1 hmem
    exact ⟨c, hhost, (hPQ c obj (hkept hhost hlookup)).1 hP⟩
  · intro hex
    obtain ⟨c, hhost, hQ⟩ := hex
    obtain ⟨obj, hlookup⟩ := exists_lookup_of_mem (h.mem_keys hhost)
    exact ⟨obj, (mem_listed_iff h).2 ⟨c, hhost, hlookup⟩, (hPQ c obj (hkept hhost hlookup)).2 hQ⟩

/-- The matches after the merge have different identities. -/
theorem pairwise_output {unique : UniqueTrafficMatches} (h : Visited (flat input) unique)
    (l : List (String × String)) :
    ((firsts [] l).filterMap fun x => (unique.lookup x.2).map fun obj => (x.1, obj)).Pairwise
      fun a b => a.2.ownIdentity ≠ b.2.ownIdentity := by
  have hid : ∀ {x : String × String} {a : String × IdentifiedMatch},
      (unique.lookup x.2).map (fun obj => (x.1, obj)) = some a → a.2.ownIdentity = x.2 := by
    intro x a ha
    obtain ⟨obj, hlookup, rfl⟩ := Option.map_eq_some_iff.1 ha
    obtain ⟨c, -, hid, hkept⟩ := h.kept _ _ hlookup
    exact hkept.ownIdentity_eq.trans hid
  refine List.pairwise_filterMap.2 ((pairwise_firsts [] l).imp fun hne a ha b hb => ?_)
  rw [hid ha, hid hb]
  exact hne

/-- **The merge loses nothing** if and only if every match is added to a host with the tables for
it, and has, among the hosts on its port, one of its port and protocol that gets its keys and has
its target clusters already. If the first match of all is without ranges, it stands for the last
match without ranges. -/
theorem merge_lossless_iff (strict : Bool) (input : PortLists TrafficMatch) :
    (∃ output, mergeTrafficMatches strict input = some output ∧ Lossless input output) ↔
      LoadsAfter strict [] (flat input) ∧ ∀ x ∈ flat input, HasCover (flat input) x := by
  obtain ⟨hno, hyes⟩ := mergeTrafficMatches_cases strict input
  by_cases hloads : LoadsAfter strict [] (flat input)
  · obtain ⟨unique, output, hmerge, hvisited, hout⟩ := hyes hloads
    have hcover : ∀ port m, (∃ o, (port, o) ∈ flat output ∧ Covers o.toTrafficMatch m) ↔
        HasCover (flat input) (port, m) := fun port m =>
      mem_output_iff hvisited hout port _ _ fun c obj hkept => hkept.covers_iff m
    constructor
    · intro hex
      obtain ⟨output', hmerge', hlossless⟩ := hex
      obtain rfl := Option.some.inj (hmerge.symm.trans hmerge')
      exact ⟨hloads, fun x hx => (hcover x.1 x.2).1 (hlossless.covered x.1 x.2 hx)⟩
    · intro hcond
      refine ⟨output, hmerge, ?_, fun port m hm => (hcover port m).2 (hcond.2 (port, m) hm)⟩
      rw [hout]
      exact pairwise_output hvisited _
  · rw [hno hloads]
    constructor
    · intro hex
      obtain ⟨output, hmerge, -⟩ := hex
      cases hmerge
    · intro hcond
      exact absurd hcond.1 hloads

end

def httpMatch (host service : String) : TrafficMatch where
  port := 80
  protocol := "http"
  httpHostPort2Service := some ((∅ : Dict String).insert host service)
  httpServiceRouteRules := some ((∅ : Dict OutboundHTTPRouteRules).insert service [])
  plugins := some ∅

def twoHttpMatches : PortLists TrafficMatch :=
  [("80", [httpMatch "a.default:80" "a.default", httpMatch "b.default:80" "b.default"])]

/-- Two HTTP services of one port. -/
theorem merge_lossless_two_http : ∃ output,
    mergeTrafficMatches true twoHttpMatches = some output ∧ Lossless twoHttpMatches output := by
  have htables : ∀ host service t, (httpMatch host service).HasTable t := by
    intro host service t
    cases t <;> rfl
  have hflat : flat twoHttpMatches = [("80", httpMatch "a.default:80" "a.default"),
      ("80", httpMatch "b.default:80" "b.default")] := rfl
  have hranges : ∀ host service, (httpMatch host service).destinationIPRanges ≠ some ∅ := by
    intro host service h
    cases h
  refine (merge_lossless_iff true twoHttpMatches).2 ⟨?_, fun x hx => ?_⟩
  · rw [hflat]
    refine loadsAfter_cons.2 ⟨fun c hc => ?_, loadsAfter_cons.2 ⟨fun c hc _ _ => ?_, loadsAfter_nil⟩⟩
    · cases hc
    · obtain rfl := List.mem_singleton.1 (List.mem_of_find?_eq_some hc)
      exact htables _ _
  · have hx' := hx
    rw [hflat] at hx'
    have hhost : hostOf (flat twoHttpMatches) x.2.ownIdentity =
        some (x.1, httpMatch "a.default:80" "a.default") := by
      revert x
      decide +kernel
    rcases List.mem_cons.1 hx' with rfl | hx'
    · exact .of_host hx hhost (hranges _ _) rfl rfl (htables _ _) fun _ h => h
    · obtain rfl := List.mem_singleton.1 hx'
      exact .of_host hx hhost (hranges _ _) rfl rfl (htables _ _) fun _ h => h

-- of matches without ranges, the last is left, on the port of the first
example : (mergeTrafficMatches true
    [("80", [{ httpMatch "a.default:80" "a.default" with destinationIPRanges := some ∅ }]),
      ("81", [{ httpMatch "b.default:80" "b.default" with destinationIPRanges := some ∅ }])]).map
        (fun output => (flat output).map fun x => (x.1, x.2.httpHostPort2Service.map (·.keys))) =
      some [("80", some ["b.default:80"])] := by decide +kernel

def tcpMatch (cluster : String) : TrafficMatch where
  port := 3306
  protocol := "tcp"
  httpHostPort2Service := some ∅
  httpServiceRouteRules := some ∅
  tcpServiceRouteRules := some ((∅ : WeightedClusters).insert cluster 100)
  plugins := some ∅

def twoTcpMatches : PortLists TrafficMatch :=
  [("3306", [tcpMatch "default/a|3306", tcpMatch "default/b|3306"])]

/-- Two TCP services of one port: the cluster of the second is lost. -/
theorem not_merge_lossless :
    ((mergeTrafficMatches true twoTcpMatches).map fun output => (flat output).map fun x =>
        (x.1, x.2.tcpServiceRouteRules.map (·.keys))) =
      some [("3306", some ["default/a|3306"])] ∧
    mergeTrafficMatches false twoTcpMatches = mergeTrafficMatches true twoTcpMatches ∧
    ¬∃ output, mergeTrafficMatches true twoTcpMatches = some output ∧
      Lossless twoTcpMatches output := by
  have hmerge : ((mergeTrafficMatches true twoTcpMatches).map fun output =>
      (flat output).map fun x => (x.1, x.2.tcpServiceRouteRules.map (·.keys))) =
        some [("3306", some ["default/a|3306"])] := by decide +kernel
  refine ⟨hmerge, by decide +kernel, fun hex => ?_⟩
  obtain ⟨output, hsome, hlossless⟩ := hex
  rw [hsome, Option.map_some, Option.some.injEq] at hmerge
  obtain ⟨o, ho, hcovers⟩ := hlossless.covered "3306" (tcpMatch "default/b|3306")
    (by decide +kernel)
  obtain ⟨targets, htargets, hmem⟩ := hcovers.targets "default/b|3306"
    ⟨_, rfl, Std.ExtTreeMap.mem_insert_self⟩
  have hkeys := List.mem_map_of_mem (f := fun x : String × IdentifiedMatch =>
    (x.1, x.2.tcpServiceRouteRules.map (·.keys))) ho
  rw [hmerge, List.mem_singleton, htargets, Prod.mk.injEq, Option.map_some, Option.some.injEq]
    at hkeys
  rw [← Std.ExtTreeMap.mem_keys, hkeys.2] at hmem
  revert hmem
  decide

end Proxy
