import Mathlib.Data.Option.Basic
import ErieCanalNet.Bpf.Proof.Sockets

/-!
# The steps of a host

`Trans` says what each step can do, with the programs replaced by their effects; `step_trans` reads
it off `step`, and every invariant is a case analysis on it. `Wf` is the bookkeeping of sockets and
connections that all of them rest on (`wf_of_reaches`).
-/

namespace Bpf

open Bridge Lib

variable {cfg : Config}

/-! ## What a step does -/

/-- A new connection of a socket. -/
def State.opened (s : State) (cookie : Cookie) (asked : Endpoint) (t : Tuple)
    (sess : Cookie → Option OriginInfo) : State where
  maps := { s.maps with sessDest := sess }
  conns := Function.update s.conns t
    (some { asked, client := some cookie, progress := .connecting })
  sockets := Function.update s.sockets cookie (.busy t)

/-- No live connection has these two ends, in either direction. -/
def State.TupleFree (s : State) (t : Tuple) : Prop := s.conns t = none ∧ s.conns t.swap = none

inductive Trans (cfg : Config) (s : State) : Event → State → Prop
  | refused {cookie uidGid asked here} (hfree : (s.sockets cookie).free)
      (hred : Redirected cfg uidGid asked) :
      Trans cfg s (.connect cookie uidGid asked here false)
        { s with sockets := Function.update s.sockets cookie .idle }
  | redirected {cookie uidGid asked here} (hfree : (s.sockets cookie).free)
      (hred : Redirected cfg uidGid asked) (ht : s.TupleFree ⟨here, ⟨asked.ip, cfg.proxyPort⟩⟩) :
      Trans cfg s (.connect cookie uidGid asked here true)
        (s.opened cookie asked ⟨here, ⟨asked.ip, cfg.proxyPort⟩⟩
          (Function.update s.maps.sessDest cookie (some (originOf asked))))
  | direct {cookie uidGid asked here updated} (hfree : (s.sockets cookie).free)
      (hred : ¬ Redirected cfg uidGid asked) (ht : s.TupleFree ⟨here, asked⟩) :
      Trans cfg s (.connect cookie uidGid asked here updated)
        (s.opened cookie asked ⟨here, asked⟩ s.maps.sessDest)
  | established {t pairUpdated hashUpdated conn cookie} (hconn : s.conns t = some conn)
      (hclient : conn.client = some cookie) (hprogress : conn.progress = .connecting) :
      Trans cfg s (.established t pairUpdated hashUpdated)
        { s with
          maps := (ecnetSockops cfg cookie pairUpdated hashUpdated
            (sockOps .activeEstablished t.client t.server) s.maps).2
          conns := Function.update s.conns t (some { conn with progress := .established }) }
  | incoming {t} (ht : s.TupleFree t) :
      Trans cfg s (.incoming t)
        { s with
          conns := Function.update s.conns t
            (some { asked := t.server, client := none, progress := .established }) }
  | accept {t pairUpdated hashUpdated conn cookie} (hconn : s.conns t = some conn)
      (hprogress : conn.progress = .established) (hnew : s.sockets cookie = .unused) :
      Trans cfg s (.accept t cookie pairUpdated hashUpdated)
        { maps := (ecnetSockops cfg cookie pairUpdated hashUpdated
            (sockOps .passiveEstablished t.server t.client) s.maps).2
          conns := Function.update s.conns t
            (some { conn with progress := .accepted (some cookie) })
          sockets := Function.update s.sockets cookie (.busy t) }
  | closeClient {t conn cookie} (hconn : s.conns t = some conn)
      (hclient : conn.client = some cookie) :
      Trans cfg s (.closeClient t)
        { maps := s.maps.release cookie
          conns := Function.update s.conns t (some { conn with client := none })
          sockets := Function.update s.sockets cookie .idle }
  | closeServer {t conn cookie} (hconn : s.conns t = some conn)
      (hserver : conn.server = some cookie) :
      Trans cfg s (.closeServer t)
        { maps := s.maps.release cookie
          conns := Function.update s.conns t (some { conn with progress := .accepted none })
          sockets := Function.update s.sockets cookie .idle }
  | finish {t conn} (hconn : s.conns t = some conn) (hclient : conn.client = none)
      (hserver : conn.server = none) :
      Trans cfg s (.finish t) { s with conns := Function.update s.conns t none }
  | evictSess {cookie} :
      Trans cfg s (.evictSess cookie)
        { s with maps := { s.maps with
            sessDest := Function.update s.maps.sessDest cookie none } }
  | evictPair {p} :
      Trans cfg s (.evictPair p)
        { s with maps := { s.maps with pairDest := Function.update s.maps.pairDest p none } }

theorem tupleFree_iff {s : State} {t : Tuple} : s.tupleFree t = true ↔ s.TupleFree t := by
  simp [State.tupleFree, State.TupleFree]

/-- **Inversion of a step.** -/
theorem step_trans {s s' : State} {e : Event} (h : step cfg s e = some s') : Trans cfg s e s' := by
  cases e with
  | connect cookie uidGid asked here updated =>
    simp only [step, stepConnect, ecnetSockConnect4_eq] at h
    by_cases hred : Redirected cfg uidGid asked
    · cases updated with
      | false =>
        simp only [hred, if_true, Bool.false_eq_true, if_false, Nat.zero_ne_one, Option.pure_def,
          Option.bind_eq_bind, Option.bind_eq_some_iff, Option.guard_eq_some', Option.some.injEq,
          exists_const] at h
        obtain ⟨hfree, rfl⟩ := h
        exact .refused hfree hred
      | true =>
        simp only [hred, if_true, dest_connectCtx, Option.pure_def, Option.bind_eq_bind,
          Option.bind_eq_some_iff, Option.guard_eq_some', Option.some.injEq, exists_const] at h
        obtain ⟨hfree, ht, rfl⟩ := h
        exact .redirected hfree hred (tupleFree_iff.1 ht)
    · simp only [hred, if_true, if_false, dest_connectCtx, Option.pure_def, Option.bind_eq_bind,
        Option.bind_eq_some_iff, Option.guard_eq_some', Option.some.injEq, exists_const] at h
      obtain ⟨hfree, ht, rfl⟩ := h
      exact .direct hfree hred (tupleFree_iff.1 ht)
  | established t pairUpdated hashUpdated =>
    simp only [step, stepEstablished, Option.pure_def, Option.bind_eq_bind, Option.bind_eq_some_iff,
      Option.guard_eq_some', Option.some.injEq, exists_const] at h
    obtain ⟨conn, hconn, cookie, hclient, hprogress, rfl⟩ := h
    exact .established hconn hclient hprogress
  | incoming t =>
    simp only [step, stepIncoming, Option.pure_def, Option.bind_eq_bind, Option.bind_eq_some_iff,
      Option.guard_eq_some', Option.some.injEq, exists_const] at h
    obtain ⟨ht, rfl⟩ := h
    exact .incoming (tupleFree_iff.1 ht)
  | accept t cookie pairUpdated hashUpdated =>
    simp only [step, stepAccept, Option.pure_def, Option.bind_eq_bind, Option.bind_eq_some_iff,
      Option.guard_eq_some', Option.some.injEq, exists_const] at h
    obtain ⟨conn, hconn, ⟨hprogress, hnew⟩, rfl⟩ := h
    exact .accept hconn hprogress hnew
  | closeClient t =>
    simp only [step, stepCloseClient, Option.pure_def, Option.bind_eq_bind, Option.bind_eq_some_iff,
      Option.some.injEq] at h
    obtain ⟨conn, hconn, cookie, hclient, rfl⟩ := h
    exact .closeClient hconn hclient
  | closeServer t =>
    simp only [step, stepCloseServer, Option.pure_def, Option.bind_eq_bind, Option.bind_eq_some_iff,
      Option.some.injEq] at h
    obtain ⟨conn, hconn, cookie, hserver, rfl⟩ := h
    exact .closeServer hconn hserver
  | finish t =>
    simp only [step, stepFinish, Option.pure_def, Option.bind_eq_bind, Option.bind_eq_some_iff,
      Option.guard_eq_some', Option.some.injEq, exists_const] at h
    obtain ⟨conn, hconn, ⟨hclient, hserver⟩, rfl⟩ := h
    exact .finish hconn hclient hserver
  | evictSess cookie =>
    obtain rfl := Option.some.inj h
    exact .evictSess
  | evictPair p =>
    obtain rfl := Option.some.inj h
    exact .evictPair

/-! ## Entries that are dropped -/

section

variable {α β : Type} [DecidableEq α] {f : α → Option β} {a b : α}

theorem update_none_eq_some {x : β} (h : Function.update f a none b = some x) : f b = some x := by
  by_cases hb : b = a
  · simp [hb] at h
  · exact (Function.update_of_ne hb ..).symm.trans h

theorem update_none_eq_none (h : f b = none) : Function.update f a none b = none := by
  by_cases hb : b = a
  · simp [hb]
  · exact (Function.update_of_ne hb ..).trans h

end

/-! ## Sockets and connections -/

/-- The socket is an end of the connection. -/
def Conn.Holds (conn : Conn) (c : Cookie) : Prop := conn.client = some c ∨ conn.server = some c

/-- A connection with an accepted socket is past its handshake. -/
theorem Conn.progress_of_server {conn : Conn} {c : Cookie} (h : conn.server = some c) :
    conn.progress ≠ .connecting := by
  intro hprogress
  simp [Conn.server, hprogress] at h

/-- The bookkeeping of a reachable state. -/
structure Wf (s : State) : Prop where
  socket : ∀ {t conn c}, s.conns t = some conn → conn.Holds c → s.sockets c = .busy t
  twoEnds : ∀ {t conn c}, s.conns t = some conn → conn.client = some c → conn.server ≠ some c
  sess : ∀ {c d}, s.maps.sessDest c = some d → s.sockets c ≠ .unused
  oneWay : ∀ {t conn}, s.conns t = some conn → t.client ≠ t.server → s.conns t.swap = none

theorem wf_init : Wf State.init where
  socket h := by simp [State.init] at h
  twoEnds h := by simp [State.init] at h
  sess h := by simp [State.init] at h
  oneWay h := by simp [State.init] at h

theorem Socket.ne_busy {x : Socket} {t : Tuple} (h : x.free) : x ≠ .busy t := by
  rintro rfl
  exact absurd h (by simp [Socket.free])

section

variable {s : State}

/-- Ends of two connections are two sockets. -/
theorem Wf.ne_of_holds (hw : Wf s) {t t' : Tuple} {conn conn' : Conn} {c c' : Cookie}
    (hconn : s.conns t = some conn) (hc : conn.Holds c) (hconn' : s.conns t' = some conn')
    (hc' : conn'.Holds c') (hne : t' ≠ t) : c' ≠ c := by
  rintro rfl
  exact hne (Socket.busy.inj ((hw.socket hconn' hc').symm.trans (hw.socket hconn hc)))

/-- A connection after one was set is that one or an old one. -/
theorem update_conns {t t' : Tuple} {x : Option Conn} {conn : Conn}
    (h : Function.update s.conns t x t' = some conn) :
    t' = t ∧ x = some conn ∨ t' ≠ t ∧ s.conns t' = some conn := by
  by_cases ht : t' = t
  · subst ht
    rw [Function.update_self] at h
    exact .inl ⟨rfl, h⟩
  · rw [Function.update_of_ne ht] at h
    exact .inr ⟨ht, h⟩

/-- A socket that is set to something is in use. -/
theorem update_sockets_ne_unused {cookie c : Cookie} {x : Socket} (hx : x ≠ .unused)
    (h : c = cookie ∨ s.sockets c ≠ .unused) : Function.update s.sockets cookie x c ≠ .unused := by
  by_cases hne : c = cookie
  · subst hne
    rwa [Function.update_self]
  · rw [Function.update_of_ne hne]
    exact h.resolve_left hne

/-- One connection is new or has changed, with the sockets it holds. -/
theorem Wf.update (hw : Wf s) {t : Tuple} {conn' : Conn} {maps' : Maps}
    {sockets' : Cookie → Socket} (hown : ∀ {c}, conn'.Holds c → sockets' c = .busy t)
    (hother : ∀ {c t'}, t' ≠ t → s.sockets c = .busy t' → sockets' c = .busy t')
    (htwo : ∀ {c}, conn'.client = some c → conn'.server ≠ some c)
    (hsess : ∀ {c d}, maps'.sessDest c = some d → sockets' c ≠ .unused)
    (hway : t.client ≠ t.server → s.conns t.swap = none) :
    Wf { maps := maps', conns := Function.update s.conns t (some conn'), sockets := sockets' } where
  socket := by
    intro t' conn c hconn hc
    rcases update_conns hconn with ⟨rfl, hx⟩ | ⟨hne, hold⟩
    · obtain rfl := Option.some.inj hx
      exact hown hc
    · exact hother hne (hw.socket hold hc)
  twoEnds := by
    intro t' conn c hconn hc
    rcases update_conns hconn with ⟨rfl, hx⟩ | ⟨-, hold⟩
    · obtain rfl := Option.some.inj hx
      exact htwo hc
    · exact hw.twoEnds hold hc
  sess := hsess
  oneWay := by
    intro t' conn hconn hends
    rcases update_conns hconn with ⟨rfl, -⟩ | ⟨-, hold⟩
    · have hswap : t'.swap ≠ t' := fun h => hends (congrArg Tuple.server h)
      exact (Function.update_of_ne hswap ..).trans (hway hends)
    · have hswap : t'.swap ≠ t := by
        rintro rfl
        -- then `t'` would be the live connection the other way
        exact absurd (hold.symm.trans (hway hends.symm)) (by simp)
      exact (Function.update_of_ne hswap ..).trans (hw.oneWay hold hends)

theorem Wf.opened (hw : Wf s) {cookie : Cookie} {asked : Endpoint} {t : Tuple}
    {sess : Cookie → Option OriginInfo} (hfree : (s.sockets cookie).free) (ht : s.TupleFree t)
    (hsess : ∀ {c d}, sess c = some d → c = cookie ∨ s.sockets c ≠ .unused) :
    Wf (s.opened cookie asked t sess) := by
  apply hw.update
  · intro c hc
    obtain rfl : cookie = c := by simpa [Conn.Holds, Conn.server] using hc
    exact Function.update_self ..
  · intro c t' _ hc
    have hne : c ≠ cookie := by
      rintro rfl
      exact Socket.ne_busy hfree hc
    exact (Function.update_of_ne hne ..).trans hc
  · simp [Conn.server]
  · exact fun hc => update_sockets_ne_unused (by simp) (hsess hc)
  · exact fun _ => ht.2

/-- A new socket has asked for nothing. -/
theorem Wf.sessDest_of_unused (hw : Wf s) {cookie : Cookie} (hnew : s.sockets cookie = .unused) :
    s.maps.sessDest cookie = none := by
  cases hd : s.maps.sessDest cookie with
  | none => rfl
  | some d => exact absurd hnew (hw.sess hd)

/-- **A step keeps the bookkeeping.** -/
theorem Wf.trans {s' : State} {e : Event} (hw : Wf s) (h : Trans cfg s e s') : Wf s' := by
  cases h with
  | @refused cookie _ _ _ hfree _ =>
    have hkept : ∀ {c t}, s.sockets c = .busy t →
        Function.update s.sockets cookie .idle c = .busy t := by
      intro c t hc
      have hne : c ≠ cookie := by
        rintro rfl
        exact Socket.ne_busy hfree hc
      exact (Function.update_of_ne hne ..).trans hc
    exact ⟨fun hconn hc => hkept (hw.socket hconn hc), hw.twoEnds,
      fun hc => update_sockets_ne_unused (by simp) (.inr (hw.sess hc)), hw.oneWay⟩
  | @redirected cookie _ _ _ hfree _ ht =>
    apply hw.opened hfree ht
    intro c d hc
    by_cases hne : c = cookie
    · exact .inl hne
    · rw [Function.update_of_ne hne] at hc
      exact .inr (hw.sess hc)
  | direct hfree _ ht => exact hw.opened hfree ht fun hc => .inr (hw.sess hc)
  | established hconn hclient hprogress =>
    apply hw.update
    · intro c hc
      exact hw.socket hconn (.inl (hc.resolve_right (by simp [Conn.server])))
    · exact fun _ hc => hc
    · simp [Conn.server]
    · intro c d hc
      rw [sessDest_ecnetSockops (by decide)] at hc
      exact hw.sess hc
    · exact hw.oneWay hconn
  | incoming ht =>
    apply hw.update
    · intro c hc
      simp [Conn.Holds, Conn.server] at hc
    · exact fun _ hc => hc
    · simp
    · exact hw.sess
    · exact fun _ => ht.2
  | @accept t _ _ conn cookie hconn hprogress hnew =>
    have hne : ∀ {c t'}, s.sockets c = .busy t' → c ≠ cookie := by
      rintro c t' hc rfl
      exact absurd (hc.symm.trans hnew) (by simp)
    apply hw.update
    · rintro c (hc | hc)
      · have hbusy := hw.socket hconn (.inl hc)
        exact (Function.update_of_ne (hne hbusy) ..).trans hbusy
      · obtain rfl : cookie = c := by simpa [Conn.server] using hc
        exact Function.update_self ..
    · exact fun _ hc => (Function.update_of_ne (hne hc) ..).trans hc
    · rintro c hc hserver
      obtain rfl : cookie = c := by simpa [Conn.server] using hserver
      exact hne (hw.socket hconn (.inl hc)) rfl
    · intro c d hc
      rw [sessDest_ecnetSockops (by decide)] at hc
      exact update_sockets_ne_unused (by simp) (.inr (hw.sess hc))
    · exact hw.oneWay hconn
  | @closeClient t conn cookie hconn hclient =>
    have hcookie := hw.socket hconn (.inl hclient)
    apply hw.update
    · rintro c (hc | hc)
      · simp at hc
      · have hne : c ≠ cookie := by
          rintro rfl
          exact hw.twoEnds hconn hclient hc
        exact (Function.update_of_ne hne ..).trans (hw.socket hconn (.inr hc))
    · intro c t' ht hc
      have hne : c ≠ cookie := by
        rintro rfl
        exact ht (Socket.busy.inj (hc.symm.trans hcookie))
      exact (Function.update_of_ne hne ..).trans hc
    · simp
    · exact fun hc => update_sockets_ne_unused (by simp) (.inr (hw.sess hc))
    · exact hw.oneWay hconn
  | @closeServer t conn cookie hconn hserver =>
    have hcookie := hw.socket hconn (.inr hserver)
    apply hw.update
    · rintro c (hc | hc)
      · have hne : c ≠ cookie := by
          rintro rfl
          exact hw.twoEnds hconn hc hserver
        exact (Function.update_of_ne hne ..).trans (hw.socket hconn (.inl hc))
      · simp [Conn.server] at hc
    · intro c t' ht hc
      have hne : c ≠ cookie := by
        rintro rfl
        exact ht (Socket.busy.inj (hc.symm.trans hcookie))
      exact (Function.update_of_ne hne ..).trans hc
    · simp [Conn.server]
    · exact fun hc => update_sockets_ne_unused (by simp) (.inr (hw.sess hc))
    · exact hw.oneWay hconn
  | finish _ _ _ =>
    refine ⟨fun h hc => hw.socket (update_none_eq_some h) hc,
      fun h hc => hw.twoEnds (update_none_eq_some h) hc, hw.sess, ?_⟩
    intro t' conn' h hends
    exact update_none_eq_none (hw.oneWay (update_none_eq_some h) hends)
  | evictSess =>
    exact ⟨hw.socket, hw.twoEnds, fun hc => hw.sess (update_none_eq_some hc), hw.oneWay⟩
  | evictPair => exact ⟨hw.socket, hw.twoEnds, hw.sess, hw.oneWay⟩

/-- A state that is reached by evaluation. -/
theorem reaches_of_eval {α : Type} {f : State → α} {a : α} {events : List Event}
    (h : (events.foldlM (step cfg) State.init).map f = some a) :
    ∃ s, Reaches cfg events s ∧ f s = a := by
  obtain ⟨s, hs, hf⟩ := Option.map_eq_some_iff.1 h
  exact ⟨s, run_of_foldlM hs, hf⟩

theorem wf_of_reaches {events : List Event} (h : Reaches cfg events s) : Wf s :=
  Run.invariant wf_init (fun hw hs => hw.trans (step_trans hs)) h

end

/-! ## A run -/

/-- A pod at 10.244.1.5. -/
def podEnd : Endpoint := ⟨le32 10 244 1 5, 40000⟩

/-- What the pod asks for, port 80 of the bridge. -/
def webEnd : Endpoint := ⟨le32 10 244 1 1, 80⟩

/-- Where it gets, the node proxy. -/
def proxyEnd : Endpoint := ⟨le32 10 244 1 1, 15001⟩

/-- A redirected connection of the pod, up to its accept. -/
def podConnects : List Event :=
  [.connect 1 1000 webEnd podEnd true, .established ⟨podEnd, proxyEnd⟩ true true,
    .accept ⟨podEnd, proxyEnd⟩ 2 true true]

end Bpf
