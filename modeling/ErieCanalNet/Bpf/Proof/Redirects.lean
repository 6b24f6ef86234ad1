import ErieCanalNet.Bpf.Proof.OrigDst

/-!
# The connections of the pods

A process that is neither root nor the proxy connects to the address of the bridge, on another port
than the proxy's: it gets to the proxy (`connectEnds_of_pod`), and as long as the connection is not
finished the proxy reads the destination it asked for (`origDst_of_pod`).
-/

namespace Bpf

open Bridge Lib

variable {cfg : Config} {s s' : State} {events : List Event}

/-- The address and the port in a `struct sockaddr_in`. -/
def origDst (optval : List Byte) : Endpoint := ⟨read32 optval 4, bswap16 (read16 optval 2)⟩

theorem origDst_sockaddrIn (asked : Endpoint) (rest : List Byte) :
    origDst (sockaddrIn 2 (bswap16 asked.port) asked.ip ++ rest) = asked := by
  simp [origDst, sockaddrIn, read32, read16, bytes16, bytes32]

/-- A connection keeps what its client asked for until it is finished. -/
theorem Trans.asked {e : Event} {t : Tuple} {asked : Endpoint} (h : Trans cfg s e s')
    (hconn : ∃ conn, s.conns t = some conn ∧ conn.asked = asked) (he : e ≠ .finish t) :
    ∃ conn, s'.conns t = some conn ∧ conn.asked = asked := by
  obtain ⟨conn, hconn, hasked⟩ := hconn
  -- a new connection has other ends, a changed one the same destination
  have hnew : ∀ {t' : Tuple} {conn' : Conn}, s.TupleFree t' →
      ∃ conn, Function.update s.conns t' (some conn') t = some conn ∧ conn.asked = asked := by
    intro t' conn' hfree
    have hne : t ≠ t' := by
      rintro rfl
      rw [hfree.1] at hconn
      cases hconn
    exact ⟨conn, by rw [Function.update_of_ne hne, hconn], hasked⟩
  have hold : ∀ {t' : Tuple} {conn₀ conn' : Conn}, s.conns t' = some conn₀ →
      conn'.asked = conn₀.asked →
      ∃ conn, Function.update s.conns t' (some conn') t = some conn ∧ conn.asked = asked := by
    intro t' conn₀ conn' hconn₀ hsame
    by_cases ht : t = t'
    · subst ht
      obtain rfl := Option.some.inj (hconn.symm.trans hconn₀)
      exact ⟨conn', Function.update_self .., hsame.trans hasked⟩
    · exact ⟨conn, by rw [Function.update_of_ne ht, hconn], hasked⟩
  cases h with
  | refused => exact ⟨conn, hconn, hasked⟩
  | redirected _ _ hfree => exact hnew hfree
  | direct _ _ hfree => exact hnew hfree
  | established hconn₀ => exact hold hconn₀ rfl
  | incoming hfree => exact hnew hfree
  | accept hconn₀ => exact hold hconn₀ rfl
  | closeClient hconn₀ => exact hold hconn₀ rfl
  | closeServer hconn₀ => exact hold hconn₀ rfl
  | @finish t' _ _ _ _ =>
    have hne : t ≠ t' := by
      rintro rfl
      exact he rfl
    exact ⟨conn, (Function.update_of_ne hne ..).trans hconn, hasked⟩
  | evictSess => exact ⟨conn, hconn, hasked⟩
  | evictPair => exact ⟨conn, hconn, hasked⟩

/-- The two ends of the connection of a `connect`. -/
def connectEnds (cfg : Config) (uidGid : BitVec 64) (here asked : Endpoint) : Tuple :=
  if Redirected cfg uidGid asked then ⟨here, ⟨asked.ip, cfg.proxyPort⟩⟩ else ⟨here, asked⟩

/-- They are those the program leaves. -/
theorem dest_ecnetSockConnect4 (uidGid : BitVec 64) (here asked : Endpoint) (cookie : Cookie)
    (sess : Cookie → Option OriginInfo) :
    (ecnetSockConnect4 cfg uidGid cookie true (connectCtx asked) sess).ctx.dest =
      (connectEnds cfg uidGid here asked).server := by
  rw [ecnetSockConnect4_eq, connectEnds]
  split
  · exact dest_connectCtx _
  · exact dest_connectCtx _

/-- A process that is neither root nor the proxy has connected to the destination, the connection
is not finished, and its other end has been accepted. -/
structure PodConnection (cfg : Config) (events : List Event) (s : State) (uidGid : BitVec 64)
    (here asked : Endpoint) : Prop where
  reaches : Reaches cfg events s
  lossless : ∀ e ∈ events, e.Lossless
  notRoot : uidGid &&& 0xffffffff ≠ 0
  notProxy : uidGid &&& 0xffffffff ≠ cfg.proxyUserID.setWidth 64
  connected : ∃ cookie, Since (fun _ e => e = .connect cookie uidGid asked here true)
    (· = .finish (connectEnds cfg uidGid here asked)) events
  accepted : ∃ conn c, s.conns (connectEnds cfg uidGid here asked) = some conn ∧
    conn.server = some c

section

variable {uidGid : BitVec 64} {here asked : Endpoint}
  (h : PodConnection cfg events s uidGid here asked) (hbridge : asked.ip = bswap32 cfg.bridgeIP)
  (hloopback : asked.ip &&& 0xff ≠ 0x7f) (hport : asked.port ≠ cfg.proxyPort)
include h hbridge hloopback hport

/-- **The connection goes to the proxy.** -/
theorem connectEnds_of_pod : connectEnds cfg uidGid here asked = ⟨here, ⟨asked.ip, cfg.proxyPort⟩⟩ :=
  if_pos ⟨hport, hloopback, hbridge, h.notRoot, h.notProxy⟩

/-- **The proxy reads what the pod asked for.** -/
theorem origDst_of_pod {ctx : Sockopt} (hopt : ctx.optname = soOriginalDst)
    (hsk : ctx.sk = bpfSock (connectEnds cfg uidGid here asked).server here)
    (hbuf : 16 ≤ ctx.optval.length) :
    origDst (ecnetSockopt4 s.maps.pairDest ctx).2.optval = asked := by
  have hred : Redirected cfg uidGid asked := ⟨hport, hloopback, hbridge, h.notRoot, h.notProxy⟩
  have hends := connectEnds_of_pod h hbridge hloopback hport
  obtain ⟨cookie, hsince⟩ := h.connected
  obtain ⟨conn, c, hconn, hserver⟩ := h.accepted
  rw [hends] at hsince hconn hsk
  obtain ⟨conn', hconn', hasked⟩ : ∃ conn,
      s.conns ⟨here, ⟨asked.ip, cfg.proxyPort⟩⟩ = some conn ∧ conn.asked = asked := by
    refine Run.of_since (fun s => ∃ conn, s.conns ⟨here, ⟨asked.ip, cfg.proxyPort⟩⟩ = some conn ∧
      conn.asked = asked) h.reaches ?set (fun hkept he hs => (step_trans hs).asked hkept he) hsince
    rintro _ s₁ _ s₂ rfl hs
    cases step_trans hs with
    | redirected => exact ⟨_, Function.update_self .., rfl⟩
    | direct _ hdirect => exact absurd hred hdirect
  obtain rfl : conn = conn' := Option.some.inj (hconn.symm.trans hconn')
  have hne : conn.asked ≠ (⟨asked.ip, cfg.proxyPort⟩ : Endpoint) := by
    rw [hasked]
    exact fun he => hport (congrArg Endpoint.port he)
  have hfound := (remembered_of_reaches h.reaches h.lossless).done hconn hne
    (Conn.progress_of_server hserver)
  rw [hasked] at hfound
  rw [ecnetSockopt4_of_some hopt hsk hbuf hfound]
  exact origDst_sockaddrIn asked _

end

end Bpf
