import ErieCanalNet.Bridge.Proof.Resolves

/-!
# What the shadow map of the resolver says about the kernel

`syncDNSResolves` notes a name in the shadow map before it writes the two records of the name, and
the errors of the writes are only logged. `syncTraced` is the run with a log of the records that were
written and of the names that were removed: the log changes nothing (`state_syncTraced`), and the
table is what it tells (`resdb_syncTraced`). A name of the shadow map has both of its records after
every run exactly when no write of a new name ever fails (`alwaysInstalled_iff`); a name whose write
failed is not tried again.
-/

namespace Bridge

open Go Lib

/-! ## Runs with a log -/

/-- What a run did to the kernel map, with the kernel side of the run. -/
inductive ResolveEvent
  | wrote (env : ResolveEnv) (hostname : String) (qType : BitVec 16)
  | removed (env : ResolveEnv) (hostname : String)

def ResolveEvent.apply : ResolveEvent → ResolveTable → ResolveTable
  | .wrote env hostname qType, table =>
    match env.pack (bytesOf hostname ++ [46]) with
    | none => table
    | some packed => Function.update table (queryKey qType packed)
        (some { addr := bswap32 env.bridgeIPInt, ttl := 60 })
  | .removed env hostname, table =>
    deleteDNSResolveEntry env.pack (env.deleteOk hostname) (bytesOf hostname) table

/-- The table after the events of a log, which has the latest event first. -/
def tableAfter (resdb : ResolveTable) (log : List ResolveEvent) : ResolveTable :=
  log.foldr ResolveEvent.apply resdb

/-- The record of the name was written, and the name was not removed after that. -/
def WrittenSince (hostname : String) (qType : BitVec 16) : List ResolveEvent → Prop
  | [] => False
  | .wrote _ h q :: log => (h = hostname ∧ q = qType) ∨ WrittenSince hostname qType log
  | .removed _ h :: log => h ≠ hostname ∧ WrittenSince hostname qType log

/-- The types for which `UpdateDNSResolveEntry` writes a record. -/
def ResolveEnv.written (env : ResolveEnv) (hostname : String) : List (BitVec 16) :=
  [typeA, typeAAAA].filter fun qType =>
    (env.pack (bytesOf hostname ++ [46])).isSome && env.updateOk hostname qType

structure TracedState where
  state : ResolveState
  log : List ResolveEvent

def addTraced (env : ResolveEnv) (st : TracedState) (hostname : String) : TracedState where
  state := addResolve env st.state hostname
  log :=
    if hostname ∈ st.state.dnsResolves then st.log
    else ((env.written hostname).map (.wrote env hostname)).reverse ++ st.log

def dropTraced (env : ResolveEnv) (latest : Map String UInt8) (st : TracedState)
    (hostname : String) : TracedState where
  state := dropResolve env latest st.state hostname
  log := if hostname ∈ latest then st.log else .removed env hostname :: st.log

/-- `syncDNSResolves` with the log. -/
def syncTraced (env : ResolveEnv) (order : RangeOrder) (policy : OutboundMeshTrafficPolicy)
    (st : TracedState) : TracedState :=
  if policy.httpRouteConfigsPerPort.entries.isEmpty then st
  else
    let latest : Map String UInt8 :=
      (resolvableNames order policy).foldl (fun latest hostname => latest.insert hostname 0) ∅
    let st := (order.visit latest.keys).foldl (addTraced env) st
    (order.visit st.state.dnsResolves.keys).foldl (dropTraced env latest) st

theorem state_foldl_addTraced (env : ResolveEnv) (l : List String) (st : TracedState) :
    (l.foldl (addTraced env) st).state = l.foldl (addResolve env) st.state :=
  (List.foldl_hom TracedState.state fun _ _ => rfl).symm

theorem state_foldl_dropTraced (env : ResolveEnv) (latest : Map String UInt8) (l : List String)
    (st : TracedState) :
    (l.foldl (dropTraced env latest) st).state = l.foldl (dropResolve env latest) st.state :=
  (List.foldl_hom TracedState.state fun _ _ => rfl).symm

/-- The log changes nothing. -/
theorem state_syncTraced (env : ResolveEnv) (order : RangeOrder)
    (policy : OutboundMeshTrafficPolicy) (st : TracedState) :
    (syncTraced env order policy st).state = syncDNSResolves env order policy st.state := by
  unfold syncTraced syncDNSResolves
  split
  · rfl
  · rw [state_foldl_dropTraced, state_foldl_addTraced]

/-! ## What the log tells -/

/-- The update of a name is the writes of its log. -/
theorem updateDNSResolveEntry_eq_tableAfter (env : ResolveEnv) (hostname : String)
    (table : ResolveTable) :
    updateDNSResolveEntry env.pack (env.updateOk hostname) env.bridgeIPInt (bytesOf hostname) 60
        table = tableAfter table ((env.written hostname).map (.wrote env hostname)).reverse := by
  rw [tableAfter, List.foldr_reverse, List.foldl_map, updateDNSResolveEntry, ResolveEnv.written,
    List.foldl_filter]
  congr 1
  funext table qType
  rw [ResolveEvent.apply]
  cases env.pack (bytesOf hostname ++ [46]) with
  | none => simp
  | some packed => simp

/-- The log tells the table. -/
def Tells (resdb : ResolveTable) (st : TracedState) : Prop :=
  st.state.resdb = tableAfter resdb st.log

theorem Tells.addTraced {resdb : ResolveTable} {st : TracedState} (h : Tells resdb st)
    (env : ResolveEnv) (hostname : String) : Tells resdb (addTraced env st hostname) := by
  unfold Tells Bridge.addTraced addResolve
  dsimp only
  split
  · exact h
  · rw [updateDNSResolveEntry_eq_tableAfter, h, tableAfter, tableAfter, tableAfter,
      List.foldr_append]

theorem Tells.dropTraced {resdb : ResolveTable} {st : TracedState} (h : Tells resdb st)
    (env : ResolveEnv) (latest : Map String UInt8) (hostname : String) :
    Tells resdb (dropTraced env latest st hostname) := by
  unfold Tells Bridge.dropTraced dropResolve
  dsimp only
  split
  · exact h
  · rw [h, tableAfter, tableAfter, List.foldr_cons, ResolveEvent.apply]

/-- **The table is what the log tells.** -/
theorem resdb_syncTraced {resdb : ResolveTable} {st : TracedState} (h : Tells resdb st)
    (env : ResolveEnv) (order : RangeOrder) (policy : OutboundMeshTrafficPolicy) :
    Tells resdb (syncTraced env order policy st) := by
  unfold syncTraced
  split
  · exact h
  · refine List.foldlRecOn (motive := Tells resdb) _ _ ?_ fun st hst hostname _ =>
      hst.dropTraced env _ hostname
    exact List.foldlRecOn (motive := Tells resdb) _ _ h fun st hst hostname _ =>
      hst.addTraced env hostname

/-! ## What a run writes -/

section

variable {env : ResolveEnv} {hostname : String} {qType : BitVec 16}

theorem writtenSince_wrote {h : String} {types : List (BitVec 16)} {log : List ResolveEvent} :
    WrittenSince hostname qType (types.map (.wrote env h) ++ log) ↔
      (hostname = h ∧ qType ∈ types) ∨ WrittenSince hostname qType log := by
  induction types with
  | nil => simp
  | cons t types ih =>
    rw [List.map_cons, List.cons_append, WrittenSince, ih, List.mem_cons, eq_comm (a := h),
      eq_comm (a := t)]
    grind

theorem writtenSince_foldl_addTraced : ∀ {l : List String} {st : TracedState},
    WrittenSince hostname qType (l.foldl (addTraced env) st).log ↔
      WrittenSince hostname qType st.log ∨
        (hostname ∈ l ∧ hostname ∉ st.state.dnsResolves ∧ qType ∈ env.written hostname)
  | [], st => by simp
  | h :: l, st => by
    have hlog : WrittenSince hostname qType (addTraced env st h).log ↔
        WrittenSince hostname qType st.log ∨
          (hostname = h ∧ hostname ∉ st.state.dnsResolves ∧ qType ∈ env.written hostname) := by
      unfold addTraced
      dsimp only
      split
      · rename_i hmem
        exact ⟨.inl, fun hor => hor.elim id fun hnew => absurd (hnew.1 ▸ hmem) hnew.2.1⟩
      · rename_i hmem
        rw [← List.map_reverse, writtenSince_wrote, List.mem_reverse]
        constructor
        · rintro (⟨rfl, hq⟩ | hlog)
          · exact .inr ⟨rfl, hmem, hq⟩
          · exact .inl hlog
        · rintro (hlog | ⟨rfl, -, hq⟩)
          · exact .inr hlog
          · exact .inl ⟨rfl, hq⟩
    have hshadow : hostname ∈ (addTraced env st h).state.dnsResolves ↔
        hostname ∈ st.state.dnsResolves ∨ hostname = h := by
      have hmem : hostname ∈ ([h].foldl (addResolve env) st.state).dnsResolves ↔ _ :=
        mem_foldl_addResolve
      rwa [List.mem_singleton] at hmem
    rw [List.foldl_cons, writtenSince_foldl_addTraced, hlog, hshadow, List.mem_cons]
    grind

theorem writtenSince_foldl_dropTraced {latest : Map String UInt8} {l : List String}
    {st : TracedState} :
    WrittenSince hostname qType (l.foldl (dropTraced env latest) st).log ↔
      WrittenSince hostname qType st.log ∧ (hostname ∈ l → hostname ∈ latest) := by
  have hdrop : ∀ (st : TracedState) (h : String),
      WrittenSince hostname qType (dropTraced env latest st h).log ↔
        WrittenSince hostname qType st.log ∧ (hostname = h → hostname ∈ latest) := by
    intro st h
    unfold dropTraced
    dsimp only
    split
    · rename_i hmem
      exact ⟨fun hs => ⟨hs, fun he => he ▸ hmem⟩, And.left⟩
    · rename_i hmem
      rw [WrittenSince, and_comm]
      exact and_congr_right fun _ =>
        ⟨fun hne he => absurd he.symm hne, fun him he => hmem (he ▸ him he.symm)⟩
  refine (foldl_iff_forall
    (P := fun st : TracedState => WrittenSince hostname qType st.log) hdrop).trans ?_
  exact and_congr_right fun _ => ⟨fun h hm => h _ hm rfl, fun h _ hi he => h (he ▸ hi)⟩

/-- **What is written after a run**: what was, and the new names; less what the run removed. -/
theorem writtenSince_syncTraced {order : RangeOrder} {policy : OutboundMeshTrafficPolicy}
    {st : TracedState} (h : ¬ NoRoutes policy) :
    WrittenSince hostname qType (syncTraced env order policy st).log ↔
      (WrittenSince hostname qType st.log ∨ (Resolvable policy hostname ∧
        hostname ∉ st.state.dnsResolves ∧ qType ∈ env.written hostname)) ∧
      (hostname ∈ st.state.dnsResolves → Resolvable policy hostname) := by
  rw [syncTraced, if_neg (by simpa [NoRoutes] using h)]
  rw [writtenSince_foldl_dropTraced, writtenSince_foldl_addTraced, order.mem_visit,
    ← AList.mem_keys, order.mem_visit, ← AList.mem_keys, state_foldl_addTraced,
    mem_foldl_addResolve, order.mem_visit, ← AList.mem_keys, mem_latest]
  grind

end

/-! ## Sequences of runs -/

def ResolveRun.syncTraced (st : TracedState) (r : ResolveRun) : Option TracedState :=
  some (Bridge.syncTraced r.env r.order r.policy st)

/-- **Every name of the shadow map has both of its records.** -/
def Installed (st : TracedState) : Prop :=
  ∀ hostname ∈ st.state.dnsResolves, ∀ qType ∈ [typeA, typeAAAA],
    WrittenSince hostname qType st.log

/-- The names the shadow map has after a run, from those it had. -/
def heldAfter (held : String → Prop) (r : ResolveRun) (hostname : String) : Prop :=
  Resolvable r.policy hostname ∨ (NoRoutes r.policy ∧ held hostname)

/-- Every run writes both records of each of its names that was not held before. -/
def WritesNew (held : String → Prop) : List ResolveRun → Prop
  | [] => True
  | r :: rs =>
    (∀ hostname, Resolvable r.policy hostname → ¬ held hostname →
      ∀ qType ∈ [typeA, typeAAAA], qType ∈ r.env.written hostname) ∧
    WritesNew (heldAfter held r) rs

/-- The shadow map has the names `held`, and the log has no others. -/
structure Tracks (held : String → Prop) (st : TracedState) : Prop where
  shadow : ∀ hostname, hostname ∈ st.state.dnsResolves ↔ held hostname
  log : ∀ hostname qType, WrittenSince hostname qType st.log → held hostname

variable {held : String → Prop} {st : TracedState}

theorem Resolvable.hasRoutes {policy : OutboundMeshTrafficPolicy} {hostname : String}
    (h : Resolvable policy hostname) : ¬ NoRoutes policy := by
  obtain ⟨entry, hentry, -⟩ := h
  intro hno
  rw [hno] at hentry
  cases hentry

theorem syncTraced_noRoutes {r : ResolveRun} (h : NoRoutes r.policy) :
    syncTraced r.env r.order r.policy st = st := by
  rw [syncTraced, if_pos (by rw [h]; rfl)]

theorem Tracks.sync (h : Tracks held st) (r : ResolveRun) :
    Tracks (heldAfter held r) (syncTraced r.env r.order r.policy st) := by
  by_cases hno : NoRoutes r.policy
  · rw [syncTraced_noRoutes hno]
    have hheld : ∀ hostname, held hostname ↔ heldAfter held r hostname := fun hostname =>
      ⟨fun hh => .inr ⟨hno, hh⟩, fun hh => hh.elim (fun hr => absurd hno hr.hasRoutes) And.right⟩
    exact ⟨fun hostname => (h.shadow hostname).trans (hheld hostname),
      fun hostname qType hw => (hheld hostname).1 (h.log hostname qType hw)⟩
  · have hheld : ∀ hostname, heldAfter held r hostname ↔ Resolvable r.policy hostname :=
      fun hostname => ⟨fun hh => hh.elim id fun hand => absurd hand.1 hno, .inl⟩
    constructor
    · intro hostname
      rw [state_syncTraced, mem_syncDNSResolves hno, hheld]
    · intro hostname qType hw
      obtain ⟨hwritten, hkept⟩ := (writtenSince_syncTraced hno).1 hw
      rw [hheld]
      rcases hwritten with hold | hnew
      · exact hkept ((h.shadow hostname).2 (h.log hostname qType hold))
      · exact hnew.1

/-- **One run**: the new names are the ones to be written. -/
theorem installed_sync_iff (h : Tracks held st) (hst : Installed st) (r : ResolveRun) :
    Installed (syncTraced r.env r.order r.policy st) ↔
      ∀ hostname, Resolvable r.policy hostname → ¬ held hostname →
        ∀ qType ∈ [typeA, typeAAAA], qType ∈ r.env.written hostname := by
  by_cases hno : NoRoutes r.policy
  · rw [syncTraced_noRoutes hno]
    exact iff_of_true hst fun hostname hr => absurd hno hr.hasRoutes
  · simp only [Installed, state_syncTraced, mem_syncDNSResolves hno, writtenSince_syncTraced hno,
      h.shadow]
    constructor
    · intro hinst hostname hr hnew qType hq
      obtain ⟨hold | hwritten, -⟩ := hinst hostname hr qType hq
      · exact absurd (h.log hostname qType hold) hnew
      · exact hwritten.2.2
    · intro hwrites hostname hr qType hq
      refine ⟨?_, fun _ => hr⟩
      by_cases hheld : held hostname
      · exact .inl (hst hostname ((h.shadow hostname).2 hheld) qType hq)
      · exact .inr ⟨hr, hheld, hwrites hostname hr hheld qType hq⟩

theorem alwaysInstalled_of_tracks {rs : List ResolveRun} (h : Tracks held st) (hst : Installed st) :
    AlwaysAfter ResolveRun.syncTraced (fun _ => Installed) st rs ↔ WritesNew held rs := by
  induction rs generalizing held st with
  | nil => exact Iff.rfl
  | cons r rs ih =>
    rw [AlwaysAfter, WritesNew, ← installed_sync_iff h hst r]
    constructor
    · rintro ⟨st', hst', hinst, hrest⟩
      obtain rfl := Option.some.inj hst'
      exact ⟨hinst, (ih (h.sync r) hinst).1 hrest⟩
    · rintro ⟨hinst, hrest⟩
      exact ⟨_, rfl, hinst, (ih (h.sync r) hinst).2 hrest⟩

/-- **The names of the shadow map are installed after every run exactly when** every run writes both
records of the names it adds. What is written is in the log, which tells the table after every run. -/
theorem alwaysInstalled_iff (resdb : ResolveTable) (rs : List ResolveRun) :
    AlwaysAfter ResolveRun.syncTraced (fun _ => Tells resdb) ⟨⟨∅, resdb⟩, []⟩ rs ∧
    (AlwaysAfter ResolveRun.syncTraced (fun _ => Installed) ⟨⟨∅, resdb⟩, []⟩ rs ↔
      WritesNew (fun _ => False) rs) := by
  have htells : ∀ {st : TracedState} (r : ResolveRun), Tells resdb st →
      ∃ st', r.syncTraced st = some st' ∧ Tells resdb st' :=
    fun r h => ⟨_, rfl, resdb_syncTraced h r.env r.order r.policy⟩
  refine ⟨alwaysAfter_of_invariant htells rfl, ?_⟩
  refine alwaysInstalled_of_tracks ⟨fun hostname => ?_, fun _ _ hw => hw⟩ fun hostname hmem => ?_
  · exact iff_of_false (AList.notMem_empty hostname) id
  · exact absurd hmem (AList.notMem_empty hostname)

/-- A run for `web.default` in which the updates of the kernel map succeed or fail. -/
def updateRun (ok : Bool) : ResolveRun :=
  { routeRun ["web.default"] with env := ⟨some, 0, fun _ _ => ok, fun _ _ => true⟩ }

/-- A name whose updates failed is in the shadow map, and the next run does not write it. -/
theorem not_installed_no_retry :
    ¬ AlwaysAfter ResolveRun.syncTraced (fun _ => Installed) ⟨⟨∅, fun _ => none⟩, []⟩
      [updateRun false, updateRun true] ∧
    ∃ st, [updateRun false, updateRun true].foldlM ResolveRun.syncTraced
        ⟨⟨∅, fun _ => none⟩, []⟩ = some st ∧
      "web.default" ∈ st.state.dnsResolves ∧ ¬ WrittenSince "web.default" typeA st.log := by
  constructor
  · rintro ⟨st, hst, hinst, -⟩
    obtain rfl := Option.some.inj hst
    exact hinst "web.default" (by decide) typeA (.head _)
  · exact ⟨_, rfl, by decide, id⟩

end Bridge
