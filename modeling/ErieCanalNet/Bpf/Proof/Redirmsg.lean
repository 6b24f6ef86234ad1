import ErieCanalNet.Bpf.Proof.Connections

/-!
# Messages between the ends of a connection

`ecnet_redirmsg` looks for the peer of the sender in `ecnet_sock_pair`. Every entry there is an
established end under its own key (`EntriesOpen`), so a message goes to the peer or takes
its usual way (`redirmsg_peer`). In runs in which no update of the map fails every established end
at the bridge is registered (`registered_of_openEnd`).
-/

namespace Bpf

open Bridge Lib

variable {cfg : Config} {s s' : State} {events : List Event} {c : Cookie} {here there : Endpoint}

/-! ## Open ends -/

/-- The socket is an established end of a live connection, from `here` to `there`. -/
def OpenEnd (s : State) (c : Cookie) (here there : Endpoint) : Prop :=
  (∃ conn, s.conns ⟨here, there⟩ = some conn ∧ conn.client = some c ∧
    conn.progress ≠ .connecting) ∨
  ∃ conn, s.conns ⟨there, here⟩ = some conn ∧ conn.server = some c

/-- A socket is one end only. -/
theorem OpenEnd.unique (hw : Wf s) {here' there' : Endpoint} (h : OpenEnd s c here there)
    (h' : OpenEnd s c here' there') : here' = here ∧ there' = there := by
  rcases h with ⟨conn, hconn, hc, -⟩ | ⟨conn, hconn, hc⟩
  · have hbusy := hw.socket hconn (.inl hc)
    rcases h' with ⟨conn', hconn', hc', -⟩ | ⟨conn', hconn', hc'⟩
    · have ht := Socket.busy.inj ((hw.socket hconn' (.inl hc')).symm.trans hbusy)
      exact Tuple.mk.inj ht
    · -- the client's end and the server's end of one connection are two sockets
      have ht := Socket.busy.inj ((hw.socket hconn' (.inr hc')).symm.trans hbusy)
      rw [ht, hconn] at hconn'
      obtain rfl := Option.some.inj hconn'
      exact absurd hc' (hw.twoEnds hconn hc)
  · have hbusy := hw.socket hconn (.inr hc)
    rcases h' with ⟨conn', hconn', hc', -⟩ | ⟨conn', hconn', hc'⟩
    · have ht := Socket.busy.inj ((hw.socket hconn' (.inl hc')).symm.trans hbusy)
      rw [ht, hconn] at hconn'
      obtain rfl := Option.some.inj hconn'
      exact absurd hc (hw.twoEnds hconn hc')
    · have ht := Socket.busy.inj ((hw.socket hconn' (.inr hc')).symm.trans hbusy)
      exact (Tuple.mk.inj ht).symm

/-- An end stays open when a connection changes that keeps it. -/
theorem OpenEnd.update {t : Tuple} {conn' : Conn} {maps' : Maps} {sockets' : Cookie → Socket}
    (h : OpenEnd s c here there)
    (hclient : ∀ {conn}, s.conns t = some conn → conn.client = some c →
      conn.progress ≠ .connecting → conn'.client = some c ∧ conn'.progress ≠ .connecting)
    (hserver : ∀ {conn}, s.conns t = some conn → conn.server = some c → conn'.server = some c) :
    OpenEnd { maps := maps', conns := Function.update s.conns t (some conn'), sockets := sockets' }
      c here there := by
  rcases h with ⟨conn, hconn, hc, hprogress⟩ | ⟨conn, hconn, hc⟩
  · left
    by_cases ht : (⟨here, there⟩ : Tuple) = t
    · subst ht
      exact ⟨conn', Function.update_self .., hclient hconn hc hprogress⟩
    · exact ⟨conn, (Function.update_of_ne ht ..).trans hconn, hc, hprogress⟩
  · right
    by_cases ht : (⟨there, here⟩ : Tuple) = t
    · subst ht
      exact ⟨conn', Function.update_self .., hserver hconn hc⟩
    · exact ⟨conn, (Function.update_of_ne ht ..).trans hconn, hc⟩

/-- A new connection closes no end. -/
theorem OpenEnd.update_free {t : Tuple} {conn' : Conn} {maps' : Maps} {sockets' : Cookie → Socket}
    (h : OpenEnd s c here there) (ht : s.TupleFree t) :
    OpenEnd { maps := maps', conns := Function.update s.conns t (some conn'), sockets := sockets' }
      c here there := by
  have hnew : ∀ {conn}, s.conns t ≠ some conn := by
    intro conn hconn
    exact absurd (ht.1.symm.trans hconn) (by simp)
  exact h.update (fun hconn => absurd hconn hnew) fun hconn => absurd hconn hnew

/-- A connection without open ends is over. -/
theorem OpenEnd.update_none {t : Tuple} {conn : Conn} (h : OpenEnd s c here there)
    (hconn : s.conns t = some conn) (hclient : conn.client = none) (hserver : conn.server = none) :
    OpenEnd { s with conns := Function.update s.conns t none } c here there := by
  rcases h with ⟨conn', hconn', hc, hprogress⟩ | ⟨conn', hconn', hc⟩
  · left
    refine ⟨conn', (Function.update_of_ne ?_ ..).trans hconn', hc, hprogress⟩
    rintro rfl
    obtain rfl := Option.some.inj (hconn.symm.trans hconn')
    simp [hclient] at hc
  · right
    refine ⟨conn', (Function.update_of_ne ?_ ..).trans hconn', hc⟩
    rintro rfl
    obtain rfl := Option.some.inj (hconn.symm.trans hconn')
    simp [hserver] at hc

/-! ## Entries -/

/-- Every entry is an open end under its own key. -/
def EntriesOpen (s : State) : Prop :=
  ∀ p c, s.maps.sockPair p = some c →
    ∃ here there, OpenEnd s c here there ∧ p = pairOf ⟨here, there⟩

/-- Entries that stay are still of open ends. -/
theorem EntriesOpen.of_sockPair {p : Pair} (he : EntriesOpen s) (h : s.maps.sockPair p = some c)
    (hkeep : ∀ {here there}, OpenEnd s c here there → OpenEnd s' c here there) :
    ∃ here there, OpenEnd s' c here there ∧ p = pairOf ⟨here, there⟩ := by
  obtain ⟨here, there, hopen, hp⟩ := he p c h
  exact ⟨here, there, hkeep hopen, hp⟩

/-- The entries that are left when a socket goes. -/
theorem sockPair_release {m : Maps} {cookie : Cookie} {p : Pair}
    (h : (m.release cookie).sockPair p = some c) : m.sockPair p = some c ∧ c ≠ cookie := by
  simp only [Maps.release] at h
  split at h
  · simp at h
  · rename_i hne
    refine ⟨h, ?_⟩
    rintro rfl
    exact hne h

/-- **A step leaves no entry without its socket.** -/
theorem EntriesOpen.trans {e : Event} (he : EntriesOpen s) (h : Trans cfg s e s') :
    EntriesOpen s' := by
  intro p c hp
  cases h with
  | refused _ _ => exact he p c hp
  | redirected _ _ ht => exact he.of_sockPair hp fun ho => ho.update_free ht
  | direct _ _ ht => exact he.of_sockPair hp fun ho => ho.update_free ht
  | incoming ht => exact he.of_sockPair hp fun ho => ho.update_free ht
  | @established t _ _ conn cookie hconn hclient hprogress =>
    rcases sockPair_ecnetSockops (by decide) hp with hold | ⟨hp', rfl⟩
    · refine he.of_sockPair hold fun ho => ho.update (fun h _ hdone => ?_) fun h hc => ?_
      · obtain rfl := Option.some.inj (hconn.symm.trans h)
        exact absurd hprogress hdone
      · obtain rfl := Option.some.inj (hconn.symm.trans h)
        simp [Conn.server, hprogress] at hc
    · exact ⟨t.client, t.server, .inl ⟨_, Function.update_self .., hclient, by simp⟩, hp'⟩
  | @accept t _ _ conn cookie hconn hprogress _ =>
    rcases sockPair_ecnetSockops (by decide) hp with hold | ⟨hp', rfl⟩
    · refine he.of_sockPair hold fun ho => ho.update (fun h hc _ => ?_) fun h hc => ?_
      · obtain rfl := Option.some.inj (hconn.symm.trans h)
        exact ⟨hc, by simp⟩
      · obtain rfl := Option.some.inj (hconn.symm.trans h)
        simp [Conn.server, hprogress] at hc
    · exact ⟨t.server, t.client, .inr ⟨_, Function.update_self .., rfl⟩, hp'⟩
  | @closeClient t conn cookie hconn hclient =>
    obtain ⟨hold, hne⟩ := sockPair_release hp
    refine he.of_sockPair hold fun ho => ho.update (fun h hc _ => ?_) fun h hc => ?_
    · obtain rfl := Option.some.inj (hconn.symm.trans h)
      exact absurd (Option.some.inj (hc.symm.trans hclient)) hne
    · obtain rfl := Option.some.inj (hconn.symm.trans h)
      exact hc
  | @closeServer t conn cookie hconn hserver =>
    obtain ⟨hold, hne⟩ := sockPair_release hp
    refine he.of_sockPair hold fun ho => ho.update (fun h hc _ => ?_) fun h hc => ?_
    · obtain rfl := Option.some.inj (hconn.symm.trans h)
      exact ⟨hc, by simp⟩
    · obtain rfl := Option.some.inj (hconn.symm.trans h)
      exact absurd (Option.some.inj (hc.symm.trans hserver)) hne
  | finish hconn hclient hserver =>
    exact he.of_sockPair hp fun ho => ho.update_none hconn hclient hserver
  | evictSess => exact he p c hp
  | evictPair => exact he p c hp

theorem entriesOpen_init : EntriesOpen State.init := by
  intro p c hp
  simp [State.init] at hp

theorem entriesOpen_of_reaches (h : Reaches cfg events s) : EntriesOpen s :=
  Run.invariant entriesOpen_init (fun he hs => he.trans (step_trans hs)) h

/-! ## Established ends are registered -/

/-- The ends after a connection was set: its own, and those of the others. -/
theorem OpenEnd.of_update {t : Tuple} {conn' : Conn} {maps' : Maps} {sockets' : Cookie → Socket}
    (h : OpenEnd { maps := maps', conns := Function.update s.conns t (some conn')
                   sockets := sockets' } c here there) :
    (⟨here, there⟩ = t ∧ conn'.client = some c ∧ conn'.progress ≠ .connecting) ∨
      (⟨there, here⟩ = t ∧ conn'.server = some c) ∨
      OpenEnd s c here there ∧ ∃ t' conn, t' ≠ t ∧ s.conns t' = some conn ∧ conn.Holds c := by
  rcases h with ⟨conn, hconn, hc, hprogress⟩ | ⟨conn, hconn, hc⟩
  · rcases update_conns hconn with ⟨ht, hx⟩ | ⟨hne, hold⟩
    · obtain rfl := Option.some.inj hx
      exact .inl ⟨ht, hc, hprogress⟩
    · exact .inr (.inr ⟨.inl ⟨conn, hold, hc, hprogress⟩, _, conn, hne, hold, .inl hc⟩)
  · rcases update_conns hconn with ⟨ht, hx⟩ | ⟨hne, hold⟩
    · obtain rfl := Option.some.inj hx
      exact .inr (.inl ⟨ht, hc⟩)
    · exact .inr (.inr ⟨.inr ⟨conn, hold, hc⟩, _, conn, hne, hold, .inr hc⟩)

/-- No update of `ecnet_sock_pair` fails for want of room. -/
def Event.Hashed : Event → Prop
  | .established _ _ hashUpdated => hashUpdated = true
  | .accept _ _ _ hashUpdated => hashUpdated = true
  | _ => True

/-- Every established end at the bridge is in the map. -/
def EndsRegistered (cfg : Config) (s : State) : Prop :=
  ∀ c here there, OpenEnd s c here there → AtBridge cfg here there → here ≠ there →
    s.maps.sockPair (pairOf ⟨here, there⟩) = some c

theorem sockPair_release_of_ne {m : Maps} {cookie : Cookie} {p : Pair} (hne : c ≠ cookie)
    (h : m.sockPair p = some c) : (m.release cookie).sockPair p = some c := by
  have hother : m.sockPair p ≠ some cookie := by
    rw [h]
    exact fun hc => hne (Option.some.inj hc)
  exact (if_neg hother).trans h

/-- The key of an end that is established now is free. -/
theorem EntriesOpen.free (he : EntriesOpen s) (hno : ∀ c, ¬ OpenEnd s c here there) :
    s.maps.sockPair (pairOf ⟨here, there⟩) = none := by
  cases hp : s.maps.sockPair (pairOf ⟨here, there⟩) with
  | none => rfl
  | some c =>
    obtain ⟨x, y, hopen, heq⟩ := he _ c hp
    obtain ⟨rfl, rfl⟩ := Tuple.mk.inj (pairOf_inj.1 heq)
    exact absurd hopen (hno c)

/-- **A step keeps the established ends registered.** -/
theorem EndsRegistered.trans {e : Event} (hr : EndsRegistered cfg s) (hw : Wf s)
    (he : EntriesOpen s) (hh : e.Hashed) (h : Trans cfg s e s') : EndsRegistered cfg s' := by
  intro c here there hopen hbridge hends
  cases h with
  | refused _ _ => exact hr c here there hopen hbridge hends
  | redirected _ _ _ =>
    rcases hopen.of_update with ⟨-, -, hc⟩ | ⟨-, hc⟩ | ⟨hold, -⟩
    · exact absurd rfl hc
    · simp [Conn.server] at hc
    · exact hr c here there hold hbridge hends
  | direct _ _ _ =>
    rcases hopen.of_update with ⟨-, -, hc⟩ | ⟨-, hc⟩ | ⟨hold, -⟩
    · exact absurd rfl hc
    · simp [Conn.server] at hc
    · exact hr c here there hold hbridge hends
  | incoming _ =>
    rcases hopen.of_update with ⟨-, hc, -⟩ | ⟨-, hc⟩ | ⟨hold, -⟩
    · simp at hc
    · simp [Conn.server] at hc
    · exact hr c here there hold hbridge hends
  | @established t _ hashUpdated conn cookie hconn hclient hprogress =>
    obtain rfl : hashUpdated = true := hh
    rcases hopen.of_update with ⟨rfl, hc, -⟩ | ⟨-, hc⟩ | ⟨hold, -⟩
    · obtain rfl := Option.some.inj (hclient.symm.trans hc)
      refine sockPair_ecnetSockops_self (by decide) hbridge (he.free fun c' ho => ?_)
      rcases ho with ⟨conn', hconn', -, hdone⟩ | ⟨conn', hconn', -⟩
      · obtain rfl := Option.some.inj (hconn.symm.trans hconn')
        exact hdone hprogress
      · exact absurd (hconn'.symm.trans (hw.oneWay hconn hends)) (by simp)
    · simp [Conn.server] at hc
    · exact sockPair_ecnetSockops_of_some (by decide) (hr c here there hold hbridge hends)
  | @accept t _ hashUpdated conn cookie hconn hprogress _ =>
    obtain rfl : hashUpdated = true := hh
    rcases hopen.of_update with ⟨rfl, hc, -⟩ | ⟨rfl, hc⟩ | ⟨hold, -⟩
    · have hold : OpenEnd s c here there := .inl ⟨conn, hconn, hc, by simp [hprogress]⟩
      exact sockPair_ecnetSockops_of_some (by decide) (hr c here there hold hbridge hends)
    · obtain rfl : cookie = c := by simpa [Conn.server] using hc
      refine sockPair_ecnetSockops_self (by decide) hbridge (he.free fun c' ho => ?_)
      rcases ho with ⟨conn', hconn', -⟩ | ⟨conn', hconn', hc'⟩
      · exact absurd (hconn'.symm.trans (hw.oneWay hconn hends.symm)) (by simp)
      · obtain rfl := Option.some.inj (hconn.symm.trans hconn')
        simp [Conn.server, hprogress] at hc'
    · exact sockPair_ecnetSockops_of_some (by decide) (hr c here there hold hbridge hends)
  | @closeClient t conn cookie hconn hclient =>
    rcases hopen.of_update with ⟨-, hc, -⟩ | ⟨rfl, hc⟩ | ⟨hold, t', conn', hne, hconn', hc⟩
    · simp at hc
    · have hold : OpenEnd s c here there := .inr ⟨conn, hconn, hc⟩
      have hcookie : c ≠ cookie := by
        rintro rfl
        exact hw.twoEnds hconn hclient hc
      exact sockPair_release_of_ne hcookie (hr c here there hold hbridge hends)
    · have hcookie := hw.ne_of_holds hconn (.inl hclient) hconn' hc hne
      exact sockPair_release_of_ne hcookie (hr c here there hold hbridge hends)
  | @closeServer t conn cookie hconn hserver =>
    rcases hopen.of_update with ⟨rfl, hc, -⟩ | ⟨-, hc⟩ | ⟨hold, t', conn', hne, hconn', hc⟩
    · have hold : OpenEnd s c here there :=
        .inl ⟨conn, hconn, hc, Conn.progress_of_server hserver⟩
      have hcookie : c ≠ cookie := by
        rintro rfl
        exact hw.twoEnds hconn hc hserver
      exact sockPair_release_of_ne hcookie (hr c here there hold hbridge hends)
    · simp [Conn.server] at hc
    · have hcookie := hw.ne_of_holds hconn (.inr hserver) hconn' hc hne
      exact sockPair_release_of_ne hcookie (hr c here there hold hbridge hends)
  | finish _ _ _ =>
    have hold : OpenEnd s c here there := by
      rcases hopen with ⟨conn, hconn, hc⟩ | ⟨conn, hconn, hc⟩
      · exact .inl ⟨conn, update_none_eq_some hconn, hc⟩
      · exact .inr ⟨conn, update_none_eq_some hconn, hc⟩
    exact hr c here there hold hbridge hends
  | evictSess => exact hr c here there hopen hbridge hends
  | evictPair => exact hr c here there hopen hbridge hends

/-! ## Messages -/

/-- The socket is an established end, and in the map under the key `sockops` made for it
(`pair_sockOps`). -/
structure Registered (s : State) (c : Cookie) (here there : Endpoint) : Prop where
  openEnd : OpenEnd s c here there
  entry : s.maps.sockPair (pairOf ⟨here, there⟩) = some c

/-- **Established ends at the bridge are registered**, unless an update failed. -/
theorem registered_of_openEnd (h : Reaches cfg events s) (hh : ∀ e ∈ events, e.Hashed)
    (hopen : OpenEnd s c here there) (hbridge : AtBridge cfg here there) (hends : here ≠ there) :
    Registered s c here there := by
  have hinit : EndsRegistered cfg State.init := by
    rintro c here there (⟨conn, hconn, -⟩ | ⟨conn, hconn, -⟩)
    all_goals simp [State.init] at hconn
  have hall := Run.invariant_forall
    (fun s => Wf s ∧ EntriesOpen s ∧ EndsRegistered cfg s) h hh
    ⟨wf_init, entriesOpen_init, hinit⟩ fun hinv hh hs =>
      ⟨hinv.1.trans (step_trans hs), hinv.2.1.trans (step_trans hs),
        hinv.2.2.trans hinv.1 hinv.2.1 hh (step_trans hs)⟩
  exact ⟨hopen, hall.2.2 c here there hopen hbridge hends⟩

/-- **A message goes to the peer of its sender.** For a sender with the ends `here` and `there`:
the key is the one of a registered socket exactly if that socket is the peer, that is when the
message is put into it, and no other socket ever gets the message. -/
theorem redirmsg_peer (h : Reaches cfg events s) {t : Cookie} {here' there' : Endpoint}
    (ht : Registered s t here' there') (here there : Endpoint) :
    (∀ op, (skMsg here there).pair = (sockOps op here' there').pair ↔
      here' = there ∧ there' = here) ∧
    ((ecnetRedirmsg s.maps.sockPair (skMsg here there)).2 = some t ↔
      here' = there ∧ there' = here) ∧
    ∀ c, (ecnetRedirmsg s.maps.sockPair (skMsg here there)).2 = some c →
      OpenEnd s c there here := by
  have hkey : ∀ {x y : Endpoint}, pairOf ⟨there, here⟩ = pairOf ⟨x, y⟩ ↔ x = there ∧ y = here := by
    intro x y
    rw [pairOf_inj, Tuple.mk.injEq, eq_comm (a := there), eq_comm (a := here)]
  have hpeer : ∀ c, (ecnetRedirmsg s.maps.sockPair (skMsg here there)).2 = some c →
      OpenEnd s c there here := by
    intro c hc
    rw [ecnetRedirmsg, pair_skMsg] at hc
    obtain ⟨x, y, hopen, hp⟩ := entriesOpen_of_reaches h _ _ hc
    obtain ⟨rfl, rfl⟩ := hkey.1 hp
    exact hopen
  refine ⟨fun op => ?_, ⟨fun hc => ?_, ?_⟩, hpeer⟩
  · rw [pair_skMsg, pair_sockOps, hkey]
  · exact (hpeer t hc).unique (wf_of_reaches h) ht.openEnd
  · rintro ⟨rfl, rfl⟩
    rw [ecnetRedirmsg, pair_skMsg]
    exact ht.entry

/-- A message of the pod goes to the accepted socket. -/
theorem redirmsg_peer_pod :
    ∃ s, Reaches {} podConnects s ∧ Registered s 2 proxyEnd podEnd ∧
      (ecnetRedirmsg s.maps.sockPair (skMsg podEnd proxyEnd)).2 = some 2 := by
  obtain ⟨s, hs, hboth⟩ := reaches_of_eval
    (f := fun s => (s.conns ⟨podEnd, proxyEnd⟩, s.maps.sockPair (pairOf ⟨proxyEnd, podEnd⟩)))
    (a := (some { asked := webEnd, client := some 1, progress := .accepted (some 2) }, some 2))
    (by decide : (podConnects.foldlM (step {}) State.init).map _ = _)
  obtain ⟨hconn, hentry⟩ := Prod.mk.inj hboth
  have hreg : Registered s 2 proxyEnd podEnd := ⟨.inr ⟨_, hconn, rfl⟩, hentry⟩
  exact ⟨s, hs, hreg, (redirmsg_peer hs hreg podEnd proxyEnd).2.1.2 ⟨rfl, rfl⟩⟩

end Bpf
