import ErieCanalNet.Bpf.Proof.Connections

/-!
# The original destination of a connection

What the node proxy learns when it asks for `SO_ORIGINAL_DST`.

* `sockopt4_redirected`: on the accepted side of a redirected connection it gets the destination
  the client asked for, in every run in which no entry is lost. The invariant (`Remembered`)
  follows the destination through the maps: under the client's cookie until the client is
  established, under the key of the connection from then on.
* `sockopt4_direct`: on a connection that was not redirected the kernel's answer stands, in every
  run in which such a connection uses no socket and no pair of ends of an earlier redirected one.
  The entries of both maps outlive the connection that wrote them, so the condition is needed
  (`sockopt4_stale`).
-/

namespace Bpf

open Bridge Lib

variable {cfg : Config} {s s' : State} {events : List Event}

/-! ## Redirected connections -/

/-- No entry of `ecnet_sess_dest` or `ecnet_pair_dest` is lost. A connect that cannot be
remembered is refused, so it needs no assumption. -/
def Event.Lossless : Event → Prop
  | .established _ pairUpdated _ => pairUpdated = true
  | .evictSess _ | .evictPair _ => False
  | _ => True

/-- The destination of every redirected connection is in one of the maps. -/
structure Remembered (cfg : Config) (s : State) : Prop where
  bridge : ∀ {t conn}, s.conns t = some conn → conn.asked ≠ t.server →
    t.server.ip = bswap32 cfg.bridgeIP
  pending : ∀ {t conn c}, s.conns t = some conn → conn.asked ≠ t.server →
    conn.progress = .connecting → conn.client = some c →
    s.maps.sessDest c = some (originOf conn.asked)
  done : ∀ {t conn}, s.conns t = some conn → conn.asked ≠ t.server →
    conn.progress ≠ .connecting → s.maps.pairDest (pairOf t) = some (originOf conn.asked)

theorem remembered_init : Remembered cfg State.init where
  bridge h := by simp [State.init] at h
  pending h := by simp [State.init] at h
  done h := by simp [State.init] at h

/-- One connection has changed, or is new, and the others find their entries. -/
theorem Remembered.update (hr : Remembered cfg s) {t : Tuple} {conn' : Conn} {maps' : Maps}
    {sockets' : Cookie → Socket}
    (hbridge : conn'.asked ≠ t.server → t.server.ip = bswap32 cfg.bridgeIP)
    (hpending : ∀ {c}, conn'.asked ≠ t.server → conn'.progress = .connecting →
      conn'.client = some c → maps'.sessDest c = some (originOf conn'.asked))
    (hdone : conn'.asked ≠ t.server → conn'.progress ≠ .connecting →
      maps'.pairDest (pairOf t) = some (originOf conn'.asked))
    (hsess : ∀ {t' conn c}, t' ≠ t → s.conns t' = some conn → conn.client = some c →
      maps'.sessDest c = s.maps.sessDest c)
    (hpair : ∀ {t'}, t' ≠ t → maps'.pairDest (pairOf t') = s.maps.pairDest (pairOf t')) :
    Remembered cfg
      { maps := maps', conns := Function.update s.conns t (some conn'), sockets := sockets' } where
  bridge := by
    intro t' conn hconn hasked
    rcases update_conns hconn with ⟨rfl, hx⟩ | ⟨-, hold⟩
    · obtain rfl := Option.some.inj hx
      exact hbridge hasked
    · exact hr.bridge hold hasked
  pending := by
    intro t' conn c hconn hasked hprogress hc
    rcases update_conns hconn with ⟨rfl, hx⟩ | ⟨hne, hold⟩
    · obtain rfl := Option.some.inj hx
      exact hpending hasked hprogress hc
    · exact (hsess hne hold hc).trans (hr.pending hold hasked hprogress hc)
  done := by
    intro t' conn hconn hasked hprogress
    rcases update_conns hconn with ⟨rfl, hx⟩ | ⟨hne, hold⟩
    · obtain rfl := Option.some.inj hx
      exact hdone hasked hprogress
    · exact (hpair hne).trans (hr.done hold hasked hprogress)

/-- A new connection that goes where its client asked needs no entry. -/
theorem Remembered.update_direct (hr : Remembered cfg s) {t : Tuple} {conn' : Conn}
    {sockets' : Cookie → Socket} (hdirect : conn'.asked = t.server) :
    Remembered cfg
      { maps := s.maps, conns := Function.update s.conns t (some conn'), sockets := sockets' } := by
  apply hr.update
  · exact fun hasked => absurd hdirect hasked
  · exact fun hasked => absurd hdirect hasked
  · exact fun hasked => absurd hdirect hasked
  · exact fun _ _ _ => rfl
  · exact fun _ => rfl

/-- **A step without losses keeps the destinations.** -/
theorem Remembered.trans {e : Event} (hr : Remembered cfg s) (hw : Wf s) (hl : e.Lossless)
    (h : Trans cfg s e s') : Remembered cfg s' := by
  cases h with
  | refused _ _ => exact ⟨hr.bridge, hr.pending, hr.done⟩
  | @redirected cookie _ asked _ hfree hred _ =>
    apply hr.update
    · exact fun _ => hred.2.2.1
    · intro c _ _ hc
      obtain rfl : cookie = c := by simpa using hc
      exact Function.update_self ..
    · exact fun _ hprogress => absurd rfl hprogress
    · intro t' conn c _ hconn hc
      -- a socket with a connection is not the one that connects
      have hne : c ≠ cookie := by
        rintro rfl
        exact Socket.ne_busy hfree (hw.socket hconn (.inl hc))
      exact Function.update_of_ne hne ..
    · exact fun _ => rfl
  | direct _ _ _ => exact hr.update_direct rfl
  | @established t pairUpdated _ conn cookie hconn hclient hprogress =>
    obtain rfl : pairUpdated = true := hl
    apply hr.update
    · exact fun hasked => hr.bridge hconn hasked
    · intro c _ hprogress'
      simp at hprogress'
    · intro hasked _
      have hasked' := hr.pending hconn hasked hprogress hclient
      exact pairDest_ecnetSockops_self (by decide) (.inr (hr.bridge hconn hasked)) hasked'
    · intro t' conn' c _ _ _
      rw [sessDest_ecnetSockops (by decide)]
    · exact fun hne => pairDest_ecnetSockops_ne (by decide) fun h => hne (pairOf_inj.1 h)
  | incoming _ => exact hr.update_direct rfl
  | @accept t _ _ conn cookie hconn hprogress hnew =>
    have hnone := hw.sessDest_of_unused hnew
    apply hr.update
    · exact fun hasked => hr.bridge hconn hasked
    · intro c _ hprogress'
      simp at hprogress'
    · intro hasked _
      have hdone := hr.done hconn hasked (by simp [hprogress])
      rwa [pairDest_ecnetSockops_of_none (by decide) hnone]
    · intro t' conn' c _ _ _
      rw [sessDest_ecnetSockops (by decide)]
    · intro t' _
      rw [pairDest_ecnetSockops_of_none (by decide) hnone]
  | @closeClient t conn cookie hconn _ =>
    apply hr.update
    · exact fun hasked => hr.bridge hconn hasked
    · intro c _ _ hc
      simp at hc
    · intro hasked hprogress
      have hdone := hr.done hconn hasked hprogress
      exact hdone
    · exact fun _ _ _ => rfl
    · exact fun _ => rfl
  | @closeServer t conn cookie hconn hserver =>
    have hprogress := Conn.progress_of_server hserver
    apply hr.update
    · exact fun hasked => hr.bridge hconn hasked
    · intro c _ hprogress'
      simp at hprogress'
    · intro hasked _
      have hdone := hr.done hconn hasked hprogress
      exact hdone
    · exact fun _ _ _ => rfl
    · exact fun _ => rfl
  | finish _ _ _ =>
    exact ⟨fun h => hr.bridge (update_none_eq_some h), fun h => hr.pending (update_none_eq_some h),
      fun h => hr.done (update_none_eq_some h)⟩
  | evictSess => exact hl.elim
  | evictPair => exact hl.elim

theorem remembered_of_reaches (h : Reaches cfg events s) (hl : ∀ e ∈ events, e.Lossless) :
    Remembered cfg s := by
  have hboth := Run.invariant_forall (fun s => Wf s ∧ Remembered cfg s) h hl
    ⟨wf_init, remembered_init⟩ fun hinv hl hs =>
      ⟨hinv.1.trans (step_trans hs), hinv.2.trans hinv.1 hl (step_trans hs)⟩
  exact hboth.2

/-- **The proxy learns where the client wanted to go**: on the accepted side of a connection that
does not go where its client asked, the answer is what the client asked for. -/
theorem sockopt4_redirected (h : Reaches cfg events s) (hl : ∀ e ∈ events, e.Lossless)
    {t : Tuple} {conn : Conn} {c : Cookie} (hconn : s.conns t = some conn)
    (hred : conn.asked ≠ t.server) (hserver : conn.server = some c) {ctx : Sockopt}
    (hopt : ctx.optname = soOriginalDst) (hsk : ctx.sk = bpfSock t.server t.client)
    (hbuf : 16 ≤ ctx.optval.length) :
    ecnetSockopt4 s.maps.pairDest ctx = (1, { ctx with
      optlen := 16, retval := 0
      optval := sockaddrIn 2 (bswap16 conn.asked.port) conn.asked.ip ++ ctx.optval.drop 16 }) := by
  have hfound := (remembered_of_reaches h hl).done hconn hred (Conn.progress_of_server hserver)
  have hanswer := ecnetSockopt4_of_some hopt hsk hbuf hfound
  exact hanswer

/-- The proxy's question on an accepted socket. -/
def askOrigDst (t : Tuple) : Sockopt where
  sk := bpfSock t.server t.client
  optname := soOriginalDst
  optlen := 16
  optval := List.replicate 16 0
  retval := -2

theorem sockopt4_redirected_pod :
    ∃ s, Reaches {} podConnects s ∧
      ecnetSockopt4 s.maps.pairDest (askOrigDst ⟨podEnd, proxyEnd⟩) =
        (1, { askOrigDst ⟨podEnd, proxyEnd⟩ with
          retval := 0, optval := sockaddrIn 2 (bswap16 80) (le32 10 244 1 1) }) := by
  obtain ⟨s, hs, hconn⟩ := reaches_of_eval (f := fun s => s.conns ⟨podEnd, proxyEnd⟩)
    (a := some { asked := webEnd, client := some 1, progress := .accepted (some 2) })
    (by decide : (podConnects.foldlM (step {}) State.init).map _ = _)
  exact ⟨s, hs, sockopt4_redirected hs (by simp [podConnects, Event.Lossless]) hconn (by decide)
    rfl rfl rfl (by decide)⟩

/-! ## Other connections -/

/-- The socket and the two ends of a connect that is redirected. -/
def Event.redirects (cfg : Config) : Event → Option (Cookie × Tuple)
  | .connect cookie uidGid asked here _ =>
    if Redirected cfg uidGid asked then some (cookie, ⟨here, ⟨asked.ip, cfg.proxyPort⟩⟩) else none
  | _ => none

/-- The socket, if this host has it, and the two ends of a connection that is not redirected. -/
def Event.opensDirect (cfg : Config) : Event → Option (Option Cookie × Tuple)
  | .connect cookie uidGid asked here _ =>
    if Redirected cfg uidGid asked then none else some (some cookie, ⟨here, asked⟩)
  | .incoming t => some (none, t)
  | _ => none

/-- The event opens a connection that is not redirected, with the socket or the two ends of the
earlier event, a redirected connect. -/
def Event.reuses (cfg : Config) (e' e : Event) : Bool :=
  match e'.opensDirect cfg, e.redirects cfg with
  | some (c', t'), some (c, t) => c' = some c || t' = t || t' = t.swap
  | _, _ => false

theorem ne_of_not_reuses {e' e : Event} {client : Option Cookie} {c : Cookie} {t' t : Tuple}
    (h : e'.reuses cfg e = false) (he' : e'.opensDirect cfg = some (client, t'))
    (he : e.redirects cfg = some (c, t)) : client ≠ some c ∧ t' ≠ t ∧ t' ≠ t.swap := by
  simpa [Event.reuses, he', he, and_assoc] using h

/-- The maps hold nothing about a connection and the client's socket. -/
structure Untouched (m : Maps) (t : Tuple) (client : Option Cookie) : Prop where
  pair : m.pairDest (pairOf t) = none
  swapped : m.pairDest (pairOf t.swap) = none
  sess : ∀ {c}, client = some c → m.sessDest c = none

/-- An established socket that asked for nothing leaves no trace. -/
theorem Untouched.ecnetSockops {m : Maps} {t : Tuple} {client : Option Cookie} {cookie : Cookie}
    {pairUpdated hashUpdated : Bool} {op : SockOp} {here there : Endpoint}
    (hu : Untouched m t client) (hop : op ≠ .other) (hnone : m.sessDest cookie = none) :
    Untouched (ecnetSockops cfg cookie pairUpdated hashUpdated (sockOps op here there) m).2 t
      client := by
  refine ⟨?_, ?_, fun {c} hc => ?_⟩
  · rw [pairDest_ecnetSockops_of_none hop hnone]
    exact hu.pair
  · rw [pairDest_ecnetSockops_of_none hop hnone]
    exact hu.swapped
  · rw [sessDest_ecnetSockops hop]
    exact hu.sess hc

/-- Every entry comes from a redirected connect, and none is about a connection that was not
redirected. -/
structure Traced (cfg : Config) (events : List Event) (s : State) : Prop where
  sess : ∀ {c d}, s.maps.sessDest c = some d → ∃ e ∈ events, ∃ t, e.redirects cfg = some (c, t)
  pair : ∀ {p d}, s.maps.pairDest p = some d →
    ∃ e ∈ events, ∃ c t, e.redirects cfg = some (c, t) ∧ p = pairOf t
  redirected : ∀ {t conn}, s.conns t = some conn → conn.asked ≠ t.server →
    ∃ e ∈ events, ∃ c, e.redirects cfg = some (c, t)
  direct : ∀ {t conn}, s.conns t = some conn → conn.asked = t.server →
    Untouched s.maps t conn.client

theorem traced_init : Traced cfg [] State.init where
  sess h := by simp [State.init] at h
  pair h := by simp [State.init] at h
  redirected h := by simp [State.init] at h
  direct h := by simp [State.init] at h

/-- The past only grows. -/
theorem Traced.mono {e : Event} (ht : Traced cfg events s) : Traced cfg (events ++ [e]) s := by
  have hmem : ∀ {e'}, e' ∈ events → e' ∈ events ++ [e] := fun h => List.mem_append_left _ h
  refine ⟨fun h => ?_, fun h => ?_, fun h hasked => ?_, ht.direct⟩
  · obtain ⟨e', he', hred⟩ := ht.sess h
    exact ⟨e', hmem he', hred⟩
  · obtain ⟨e', he', hred⟩ := ht.pair h
    exact ⟨e', hmem he', hred⟩
  · obtain ⟨e', he', hred⟩ := ht.redirected h hasked
    exact ⟨e', hmem he', hred⟩

/-- Nothing is about a connection that opens now, if it reuses nothing. -/
theorem Traced.untouched {e : Event} {client : Option Cookie} {t : Tuple}
    (ht : Traced cfg events s) (hno : ∀ e' ∈ events, e.reuses cfg e' = false)
    (he : e.opensDirect cfg = some (client, t)) : Untouched s.maps t client where
  pair := by
    cases hp : s.maps.pairDest (pairOf t) with
    | none => rfl
    | some d =>
      obtain ⟨e', he', c, t', hred, heq⟩ := ht.pair hp
      exact absurd (pairOf_inj.1 heq) (ne_of_not_reuses (hno e' he') he hred).2.1
  swapped := by
    cases hp : s.maps.pairDest (pairOf t.swap) with
    | none => rfl
    | some d =>
      obtain ⟨e', he', c, t', hred, heq⟩ := ht.pair hp
      have hswap : t = t'.swap := congrArg Tuple.swap (pairOf_inj.1 heq)
      exact absurd hswap (ne_of_not_reuses (hno e' he') he hred).2.2
  sess := by
    intro c hc
    cases hs : s.maps.sessDest c with
    | none => rfl
    | some d =>
      obtain ⟨e', he', t', hred⟩ := ht.sess hs
      exact absurd hc (ne_of_not_reuses (hno e' he') he hred).1

/-- One connection has changed, or is new, and nothing is about the others. -/
theorem Traced.update (ht : Traced cfg events s) {t : Tuple} {conn' : Conn} {maps' : Maps}
    {sockets' : Cookie → Socket}
    (hsess : ∀ {c d}, maps'.sessDest c = some d → ∃ e ∈ events, ∃ t, e.redirects cfg = some (c, t))
    (hpair : ∀ {p d}, maps'.pairDest p = some d →
      ∃ e ∈ events, ∃ c t, e.redirects cfg = some (c, t) ∧ p = pairOf t)
    (hred : conn'.asked ≠ t.server → ∃ e ∈ events, ∃ c, e.redirects cfg = some (c, t))
    (hself : conn'.asked = t.server → Untouched maps' t conn'.client)
    (hother : ∀ {t' conn}, t' ≠ t → s.conns t' = some conn → Untouched s.maps t' conn.client →
      Untouched maps' t' conn.client) :
    Traced cfg events
      { maps := maps', conns := Function.update s.conns t (some conn'), sockets := sockets' } where
  sess := hsess
  pair := hpair
  redirected := by
    intro t' conn hconn hasked
    rcases update_conns hconn with ⟨rfl, hx⟩ | ⟨-, hold⟩
    · obtain rfl := Option.some.inj hx
      exact hred hasked
    · exact ht.redirected hold hasked
  direct := by
    intro t' conn hconn hasked
    rcases update_conns hconn with ⟨rfl, hx⟩ | ⟨hne, hold⟩
    · obtain rfl := Option.some.inj hx
      exact hself hasked
    · exact hother hne hold (ht.direct hold hasked)

/-- **A step that reuses nothing leaves no entry about a connection that was not redirected.** -/
theorem Traced.trans {e : Event} (ht : Traced cfg events s) (hw : Wf s)
    (hno : ∀ e' ∈ events, e.reuses cfg e' = false) (h : Trans cfg s e s') :
    Traced cfg (events ++ [e]) s' := by
  have ht' : Traced cfg (events ++ [e]) s := ht.mono
  cases h with
  | refused _ _ => exact ⟨ht'.sess, ht'.pair, ht'.redirected, ht'.direct⟩
  | @redirected cookie uidGid asked here hfree hred _ =>
    have hlast : ∃ e ∈ events ++ [.connect cookie uidGid asked here true],
        e.redirects cfg = some (cookie, ⟨here, ⟨asked.ip, cfg.proxyPort⟩⟩) :=
      ⟨_, List.mem_append_right _ (.head _), if_pos hred⟩
    obtain ⟨e, he, heq⟩ := hlast
    apply ht'.update
    · intro c d hd
      by_cases hc : c = cookie
      · exact ⟨e, he, _, hc ▸ heq⟩
      · exact ht'.sess ((Function.update_of_ne hc ..).symm.trans hd)
    · exact ht'.pair
    · exact fun _ => ⟨e, he, cookie, heq⟩
    · exact fun hasked => absurd (congrArg Endpoint.port hasked) hred.1
    · intro t' conn _ hconn hu
      refine ⟨hu.pair, hu.swapped, fun {c} hc => ?_⟩
      have hne : c ≠ cookie := by
        rintro rfl
        exact Socket.ne_busy hfree (hw.socket hconn (.inl hc))
      exact (Function.update_of_ne hne ..).trans (hu.sess hc)
  | direct _ hred _ =>
    apply ht'.update
    · exact ht'.sess
    · exact ht'.pair
    · exact fun hasked => absurd rfl hasked
    · intro _
      have hu := ht.untouched hno (if_neg hred)
      exact ⟨hu.pair, hu.swapped, hu.sess⟩
    · exact fun _ _ hu => ⟨hu.pair, hu.swapped, hu.sess⟩
  | @established t _ _ conn cookie hconn hclient _ =>
    apply ht'.update
    · intro c d hd
      rw [sessDest_ecnetSockops (by decide)] at hd
      exact ht'.sess hd
    · intro p d hd
      rcases pairDest_ecnetSockops_cases (by decide) hd with hold | ⟨hp, hs⟩
      · exact ht'.pair hold
      · -- the socket asked for something, so its connection is a redirected one
        have hasked : conn.asked ≠ t.server := by
          intro hdirect
          have hnone := (ht.direct hconn hdirect).sess hclient
          exact absurd (hs.symm.trans hnone) (by simp)
        obtain ⟨e, he, c, hred⟩ := ht'.redirected hconn hasked
        exact ⟨e, he, c, t, hred, hp⟩
    · exact fun hasked => ht'.redirected hconn hasked
    · intro hasked
      have hu := ht.direct hconn hasked
      exact hu.ecnetSockops (by decide) (hu.sess hclient)
    · intro t' conn' hne hconn' hu
      have hswap : t'.swap ≠ t := by
        rintro rfl
        by_cases hends : t'.client = t'.server
        · exact hne (Tuple.mk.injEq .. ▸ ⟨hends, hends.symm⟩)
        · exact absurd (hconn.symm.trans (hw.oneWay hconn' hends)) (by simp)
      refine ⟨?_, ?_, fun {c} hc => ?_⟩
      · rw [pairDest_ecnetSockops_ne (by decide) fun h => hne (pairOf_inj.1 h)]
        exact hu.pair
      · rw [pairDest_ecnetSockops_ne (by decide) fun h => hswap (pairOf_inj.1 h)]
        exact hu.swapped
      · rw [sessDest_ecnetSockops (by decide)]
        exact hu.sess hc
  | incoming _ =>
    apply ht'.update
    · exact ht'.sess
    · exact ht'.pair
    · exact fun hasked => absurd rfl hasked
    · exact fun _ => ht.untouched hno rfl
    · exact fun _ _ hu => hu
  | @accept t _ _ conn cookie hconn _ hnew =>
    have hnone := hw.sessDest_of_unused hnew
    apply ht'.update
    · intro c d hd
      rw [sessDest_ecnetSockops (by decide)] at hd
      exact ht'.sess hd
    · intro p d hd
      rw [pairDest_ecnetSockops_of_none (by decide) hnone] at hd
      exact ht'.pair hd
    · exact fun hasked => ht'.redirected hconn hasked
    · exact fun hasked => (ht.direct hconn hasked).ecnetSockops (by decide) hnone
    · exact fun _ _ hu => hu.ecnetSockops (by decide) hnone
  | @closeClient t conn cookie hconn _ =>
    apply ht'.update
    · exact ht'.sess
    · exact ht'.pair
    · exact fun hasked => ht'.redirected hconn hasked
    · intro hasked
      have hu := ht.direct hconn hasked
      exact ⟨hu.pair, hu.swapped, by simp⟩
    · exact fun _ _ hu => ⟨hu.pair, hu.swapped, hu.sess⟩
  | @closeServer t conn cookie hconn _ =>
    apply ht'.update
    · exact ht'.sess
    · exact ht'.pair
    · exact fun hasked => ht'.redirected hconn hasked
    · intro hasked
      have hu := ht.direct hconn hasked
      exact ⟨hu.pair, hu.swapped, hu.sess⟩
    · exact fun _ _ hu => ⟨hu.pair, hu.swapped, hu.sess⟩
  | finish _ _ _ =>
    exact ⟨ht'.sess, ht'.pair, fun h => ht'.redirected (update_none_eq_some h),
      fun h => ht'.direct (update_none_eq_some h)⟩
  | evictSess =>
    refine ⟨fun h => ht'.sess (update_none_eq_some h), ht'.pair, ht'.redirected, ?_⟩
    intro t conn hconn hasked
    have hu := ht.direct hconn hasked
    exact ⟨hu.pair, hu.swapped, fun hc => update_none_eq_none (hu.sess hc)⟩
  | evictPair =>
    refine ⟨ht'.sess, fun h => ht'.pair (update_none_eq_some h), ht'.redirected, ?_⟩
    intro t conn hconn hasked
    have hu := ht.direct hconn hasked
    exact ⟨update_none_eq_none hu.pair, update_none_eq_none hu.swapped, hu.sess⟩

/-- **A connection that was not redirected keeps its own destination**, seen from either end, in
every run in which no such connection uses the socket or the two ends of an earlier redirected
one. -/
theorem sockopt4_direct (h : Reaches cfg events s)
    (hno : events.Pairwise fun e e' => e'.reuses cfg e = false) {t : Tuple} {conn : Conn}
    (hconn : s.conns t = some conn) (hdirect : conn.asked = t.server) {ctx : Sockopt}
    (hsk : ctx.sk = bpfSock t.server t.client ∨ ctx.sk = bpfSock t.client t.server) :
    ecnetSockopt4 s.maps.pairDest ctx = (1, boundOptlen ctx) := by
  have hboth := Run.invariant_pairwise (fun events s => Wf s ∧ Traced cfg events s) h hno
    ⟨wf_init, traced_init⟩ fun hinv hno hs =>
      ⟨hinv.1.trans (step_trans hs), hinv.2.trans hinv.1 hno (step_trans hs)⟩
  have hu := hboth.2.direct hconn hdirect
  rcases hsk with hsk | hsk
  · exact ecnetSockopt4_of_none hsk hu.pair
  · exact ecnetSockopt4_of_none hsk hu.swapped

/-- A direct connection to the proxy, by the socket 3 from the given end, up to its accept. -/
def connectsDirectly (here : Endpoint) : List Event :=
  [.connect 3 1000 proxyEnd here true, .established ⟨here, proxyEnd⟩ true true,
    .accept ⟨here, proxyEnd⟩ 4 true true]

/-- The pod connects directly from another port. -/
theorem sockopt4_direct_pod :
    ∃ s, Reaches {} (podConnects ++ connectsDirectly { podEnd with port := 40001 }) s ∧
      ecnetSockopt4 s.maps.pairDest (askOrigDst ⟨{ podEnd with port := 40001 }, proxyEnd⟩) =
        (1, askOrigDst ⟨{ podEnd with port := 40001 }, proxyEnd⟩) := by
  obtain ⟨s, hs, hconn⟩ := reaches_of_eval
    (f := fun s => s.conns ⟨{ podEnd with port := 40001 }, proxyEnd⟩)
    (a := some { asked := proxyEnd, client := some 3, progress := .accepted (some 4) })
    (by decide : ((podConnects ++ connectsDirectly { podEnd with port := 40001 }).foldlM
      (step {}) State.init).map _ = _)
  exact ⟨s, hs, sockopt4_direct hs (by decide) hconn rfl (.inl rfl)⟩

/-- The pod closes its redirected connection, and connects directly from the same port. -/
def podReuses : List Event :=
  podConnects ++ [.closeClient ⟨podEnd, proxyEnd⟩, .closeServer ⟨podEnd, proxyEnd⟩,
    .finish ⟨podEnd, proxyEnd⟩] ++ connectsDirectly podEnd

/-- **A direct connection sees the destination of an earlier one**: the entry of the closed
connection is still there. -/
theorem sockopt4_stale :
    ∃ s conn, Reaches {} podReuses s ∧ s.conns ⟨podEnd, proxyEnd⟩ = some conn ∧
      conn.asked = proxyEnd ∧ conn.server = some 4 ∧
      (ecnetSockopt4 s.maps.pairDest (askOrigDst ⟨podEnd, proxyEnd⟩)).2.optval =
        sockaddrIn 2 (bswap16 webEnd.port) webEnd.ip := by
  obtain ⟨s, hs, hboth⟩ := reaches_of_eval
    (f := fun s => (s.conns ⟨podEnd, proxyEnd⟩, s.maps.pairDest (pairOf ⟨podEnd, proxyEnd⟩)))
    (a := (some { asked := proxyEnd, client := some 3, progress := .accepted (some 4) },
      some (originOf webEnd)))
    (by decide : (podReuses.foldlM (step {}) State.init).map _ = _)
  obtain ⟨hconn, hpair⟩ := Prod.mk.inj hboth
  refine ⟨s, _, hs, hconn, rfl, rfl, ?_⟩
  rw [ecnetSockopt4_of_some rfl rfl (by decide) hpair]
  rfl

end Bpf
