import ErieCanalNet.Bpf.Connections

/-!
# What the socket programs do

The programs on the contexts of a connection, with the byte orders resolved: every key is a pair
of ends (`pairOf`), seen from one side or from the other. `connect4` sends a connection to the
proxy exactly if it is to be redirected (`Redirected`) and remembers what was asked for;
`sockops4` copies that under the key of the connection.
-/

namespace Bpf

open Bridge Lib

/-! ## Byte orders -/

/-- A port in the upper half of its word. -/
theorem upper_half (x : BitVec 16) : ((x.setWidth 32 <<< 16) >>> 16).setWidth 16 = x := by
  apply BitVec.eq_of_toNat_eq
  have := x.isLt
  simp only [BitVec.toNat_setWidth, BitVec.toNat_ushiftRight, BitVec.toNat_shiftLeft,
    Nat.shiftRight_eq_div_pow, Nat.shiftLeft_eq]
  omega

/-- The key of a connection, seen from its first end. -/
def pairOf (t : Tuple) : Pair where
  sip := t.client.ip
  sport := bswap16 t.client.port
  dip := t.server.ip
  dport := bswap16 t.server.port

theorem pairOf_inj {t t' : Tuple} : pairOf t = pairOf t' ↔ t = t' := by
  obtain ⟨⟨ci, cp⟩, si, sp⟩ := t
  obtain ⟨⟨ci', cp'⟩, si', sp'⟩ := t'
  simp only [pairOf, Pair.mk.injEq, bswap16_inj, Tuple.mk.injEq, Endpoint.mk.injEq]
  tauto

@[simp] theorem pair_sockOps (op : SockOp) (here there : Endpoint) :
    (sockOps op here there).pair = pairOf ⟨here, there⟩ := by
  simp [SockOps.pair, sockOps, pairOf, upper_half]

@[simp] theorem pair_bpfSock (here there : Endpoint) :
    (bpfSock here there).pair = pairOf ⟨there, here⟩ := by
  simp [BpfSock.pair, bpfSock, pairOf]

@[simp] theorem pair_skMsg (here there : Endpoint) :
    (skMsg here there).pair = pairOf ⟨there, here⟩ := by
  simp [SkMsg.pair, skMsg, pairOf, upper_half]

@[simp] theorem dest_connectCtx (dst : Endpoint) : (connectCtx dst).dest = dst := by
  simp [SockAddr.dest, connectCtx]

/-! ## `connect4` -/

variable {cfg : Config}

/-- The connections `connect4` sends to the proxy: those to the bridge address, not to the proxy
port, and not of root or the proxy itself. -/
def Redirected (cfg : Config) (uidGid : BitVec 64) (asked : Endpoint) : Prop :=
  asked.port ≠ cfg.proxyPort ∧ asked.ip &&& 0xff ≠ 0x7f ∧ asked.ip = bswap32 cfg.bridgeIP ∧
    uidGid &&& 0xffffffff ≠ 0 ∧ uidGid &&& 0xffffffff ≠ cfg.proxyUserID.setWidth 64

instance (uidGid : BitVec 64) (asked : Endpoint) : Decidable (Redirected cfg uidGid asked) :=
  inferInstanceAs (Decidable (_ ∧ _))

/-- What is remembered of a destination. -/
def originOf (dst : Endpoint) : OriginInfo := { ip := dst.ip, port := bswap16 dst.port }

/-- **What `connect4` does**: it redirects, refuses if it cannot remember, or does nothing. -/
theorem ecnetSockConnect4_eq (uidGid : BitVec 64) (cookie : Cookie) (updated : Bool)
    (asked : Endpoint) (sess : Cookie → Option OriginInfo) :
    ecnetSockConnect4 cfg uidGid cookie updated (connectCtx asked) sess =
      if Redirected cfg uidGid asked then
        if updated then ⟨1, connectCtx ⟨asked.ip, cfg.proxyPort⟩,
          Function.update sess cookie (some (originOf asked))⟩
        else ⟨0, connectCtx asked, sess⟩
      else ⟨1, connectCtx asked, sess⟩ := by
  have hport : bswap16 ((connectCtx asked).userPort.setWidth 16) = asked.port := by
    simp [connectCtx]
  have hip : (connectCtx asked).userIp4 = asked.ip := rfl
  have htcp : (connectCtx asked).protocol = ipprotoTCP := rfl
  rw [ecnetSockConnect4, if_pos htcp, ecnetTcpCon4, hport, hip]
  by_cases h1 : asked.port = cfg.proxyPort
  · rw [if_pos h1, if_neg fun h => h.1 h1]
  by_cases h2 : asked.ip &&& 0xff = 0x7f
  · rw [if_neg h1, if_pos h2, if_neg fun h => h.2.1 h2]
  by_cases h3 : asked.ip = bswap32 cfg.bridgeIP
  · by_cases h4 : uidGid &&& 0xffffffff = 0 ∨ uidGid &&& 0xffffffff = cfg.proxyUserID.setWidth 64
    · rw [if_neg h1, if_neg h2, if_neg (not_not.2 h3), if_pos h4,
        if_neg fun h => h4.elim h.2.2.2.1 h.2.2.2.2]
    · have hred : Redirected cfg uidGid asked := ⟨h1, h2, h3, (not_or.1 h4).1, (not_or.1 h4).2⟩
      have horigin : (connectCtx asked).userPort.setWidth 16 = bswap16 asked.port := by
        simp [connectCtx]
      rw [if_neg h1, if_neg h2, if_neg (not_not.2 h3), if_neg h4, if_pos hred, horigin]
      rfl
  · rw [if_neg h1, if_neg h2, if_pos h3, if_neg fun h => h3 h.2.2.1]

/-! ## `sockops4` -/

variable {cookie : Cookie} {pairUpdated hashUpdated : Bool} {here there : Endpoint} {m : Maps}
  {op : SockOp}

/-- One of the ends is at the bridge. -/
def AtBridge (cfg : Config) (here there : Endpoint) : Prop :=
  here.ip = bswap32 cfg.bridgeIP ∨ there.ip = bswap32 cfg.bridgeIP

instance : Decidable (AtBridge cfg here there) := inferInstanceAs (Decidable (_ ∨ _))

/-- **What `sockops` does when a socket is established.** -/
theorem ecnetSockops_eq (hop : op ≠ .other) :
    (ecnetSockops cfg cookie pairUpdated hashUpdated (sockOps op here there) m).2 =
      if AtBridge cfg here there then
        { sessDest := m.sessDest
          pairDest := match m.sessDest cookie with
            | some dd => if pairUpdated then
                Function.update m.pairDest (pairOf ⟨here, there⟩) (some dd) else m.pairDest
            | none => m.pairDest
          sockPair := if hashUpdated ∧ m.sockPair (pairOf ⟨here, there⟩) = none then
              Function.update m.sockPair (pairOf ⟨here, there⟩) (some cookie)
            else m.sockPair }
      else m := by
  have hops4 : ecnetSockops cfg cookie pairUpdated hashUpdated (sockOps op here there) m =
      ecnetSockops4 cfg cookie pairUpdated hashUpdated (sockOps op here there) m := by
    cases op with
    | passiveEstablished => rfl
    | activeEstablished => rfl
    | other => exact absurd rfl hop
  have hbridge : ((sockOps op here there).localIp4 ≠ bswap32 cfg.bridgeIP ∧
      (sockOps op here there).remoteIp4 ≠ bswap32 cfg.bridgeIP) ↔ ¬ AtBridge cfg here there :=
    not_or.symm
  rw [hops4, ecnetSockops4]
  simp only [hbridge, pair_sockOps]
  by_cases h : AtBridge cfg here there
  · rw [if_pos h]
    exact congrArg Prod.snd (if_neg (not_not.2 h))
  · rw [if_pos h, if_neg h]

/-- The map of the cookies is only read. -/
theorem sessDest_ecnetSockops (hop : op ≠ .other) :
    (ecnetSockops cfg cookie pairUpdated hashUpdated (sockOps op here there) m).2.sessDest =
      m.sessDest := by
  rw [ecnetSockops_eq hop]
  split <;> rfl

/-- A socket that asked for nothing leaves no trace under its key. -/
theorem pairDest_ecnetSockops_of_none (hop : op ≠ .other) (h : m.sessDest cookie = none) :
    (ecnetSockops cfg cookie pairUpdated hashUpdated (sockOps op here there) m).2.pairDest =
      m.pairDest := by
  rw [ecnetSockops_eq hop]
  split
  · simp only [h]
  · rfl

/-- Other keys stay as they are. -/
theorem pairDest_ecnetSockops_ne (hop : op ≠ .other) {p : Pair} (hne : p ≠ pairOf ⟨here, there⟩) :
    (ecnetSockops cfg cookie pairUpdated hashUpdated (sockOps op here there) m).2.pairDest p =
      m.pairDest p := by
  rw [ecnetSockops_eq hop]
  split
  · cases hs : m.sessDest cookie with
    | none => rfl
    | some dd =>
      cases pairUpdated with
      | false => rfl
      | true => exact Function.update_of_ne hne _ _
  · rfl

/-- What the socket asked for is now under its key. -/
theorem pairDest_ecnetSockops_self (hop : op ≠ .other) {dd : OriginInfo}
    (hbridge : AtBridge cfg here there) (h : m.sessDest cookie = some dd) :
    (ecnetSockops cfg cookie true hashUpdated (sockOps op here there) m).2.pairDest
      (pairOf ⟨here, there⟩) = some dd := by
  rw [ecnetSockops_eq hop, if_pos hbridge]
  simp only [h, if_true, Function.update_self]

/-- An entry of `ecnet_pair_dest` is an old one or what the socket asked for. -/
theorem pairDest_ecnetSockops_cases (hop : op ≠ .other) {p : Pair} {dd : OriginInfo}
    (h : (ecnetSockops cfg cookie pairUpdated hashUpdated (sockOps op here there) m).2.pairDest p =
      some dd) :
    m.pairDest p = some dd ∨ p = pairOf ⟨here, there⟩ ∧ m.sessDest cookie = some dd := by
  by_cases hp : p = pairOf ⟨here, there⟩
  · rw [ecnetSockops_eq hop] at h
    split at h
    · cases hs : m.sessDest cookie with
      | none =>
        simp only [hs] at h
        exact .inl h
      | some d =>
        simp only [hs] at h
        cases pairUpdated with
        | false => exact .inl h
        | true =>
          rw [if_pos rfl, hp, Function.update_self] at h
          exact .inr ⟨hp, h⟩
    · exact .inl h
  · rw [pairDest_ecnetSockops_ne hop hp] at h
    exact .inl h

/-- A key of `ecnet_sock_pair` is an old one or the socket's own. -/
theorem sockPair_ecnetSockops (hop : op ≠ .other) {p : Pair} {c : Cookie}
    (h : (ecnetSockops cfg cookie pairUpdated hashUpdated (sockOps op here there) m).2.sockPair p =
      some c) : m.sockPair p = some c ∨ p = pairOf ⟨here, there⟩ ∧ c = cookie := by
  rw [ecnetSockops_eq hop] at h
  split at h
  · change (if _ then _ else _ : Pair → Option Cookie) p = _ at h
    split at h
    · by_cases hp : p = pairOf ⟨here, there⟩
      · subst hp
        rw [Function.update_self] at h
        exact .inr ⟨rfl, (Option.some.inj h).symm⟩
      · rw [Function.update_of_ne hp] at h
        exact .inl h
    · exact .inl h
  · exact .inl h

/-- An entry is not overwritten. -/
theorem sockPair_ecnetSockops_of_some (hop : op ≠ .other) {p : Pair} {c : Cookie}
    (h : m.sockPair p = some c) :
    (ecnetSockops cfg cookie pairUpdated hashUpdated (sockOps op here there) m).2.sockPair p =
      some c := by
  rw [ecnetSockops_eq hop]
  split
  · change (if _ then _ else _ : Pair → Option Cookie) p = _
    split
    · rename_i hfree
      have hne : p ≠ pairOf ⟨here, there⟩ := by
        rintro rfl
        exact absurd (h.symm.trans hfree.2) (by simp)
      exact (Function.update_of_ne hne ..).trans h
    · exact h
  · exact h

/-- A socket at the bridge is registered under its key, if the key is free. -/
theorem sockPair_ecnetSockops_self (hop : op ≠ .other) (hbridge : AtBridge cfg here there)
    (h : m.sockPair (pairOf ⟨here, there⟩) = none) :
    (ecnetSockops cfg cookie pairUpdated true (sockOps op here there) m).2.sockPair
      (pairOf ⟨here, there⟩) = some cookie := by
  rw [ecnetSockops_eq hop, if_pos hbridge]
  simp only [h, and_self, if_true, Function.update_self]

/-! ## `sockopt4` -/

variable {pairDest : Pair → Option OriginInfo} {ctx : Sockopt}

/-- The context as the program finds it, with an excessive length cut. -/
def boundOptlen (ctx : Sockopt) : Sockopt :=
  { ctx with optlen := if ctx.optlen > maxOpsBuffLength then maxOpsBuffLength else ctx.optlen }

theorem boundOptlen_eq (ctx : Sockopt) :
    (if ctx.optlen > maxOpsBuffLength then { ctx with optlen := maxOpsBuffLength } else ctx) =
      boundOptlen ctx := by
  unfold boundOptlen
  split <;> rfl

/-- Without an entry the answer of the kernel stands. -/
theorem ecnetSockopt4_of_none (hsk : ctx.sk = bpfSock here there)
    (h : pairDest (pairOf ⟨there, here⟩) = none) :
    ecnetSockopt4 pairDest ctx = (1, boundOptlen ctx) := by
  have hfamily : (boundOptlen ctx).sk.family = afINET := by
    show ctx.sk.family = _
    rw [hsk]
    rfl
  have hpair : (boundOptlen ctx).sk.pair = pairOf ⟨there, here⟩ := by
    show ctx.sk.pair = _
    rw [hsk, pair_bpfSock]
  simp only [ecnetSockopt4, boundOptlen_eq, hfamily, hpair, h, if_true]
  split <;> rfl

/-- With an entry the answer is the destination in it. -/
theorem ecnetSockopt4_of_some {origin : OriginInfo} (hopt : ctx.optname = soOriginalDst)
    (hsk : ctx.sk = bpfSock here there) (hbuf : 16 ≤ ctx.optval.length)
    (h : pairDest (pairOf ⟨there, here⟩) = some origin) :
    ecnetSockopt4 pairDest ctx = (1, { ctx with
      optlen := 16, retval := 0
      optval := sockaddrIn 2 origin.port origin.ip ++ ctx.optval.drop 16 }) := by
  have hname : ¬ (boundOptlen ctx).optname ≠ soOriginalDst := not_not.2 hopt
  have hfamily : (boundOptlen ctx).sk.family = afINET := by
    show ctx.sk.family = _
    rw [hsk]
    rfl
  have hpair : (boundOptlen ctx).sk.pair = pairOf ⟨there, here⟩ := by
    show ctx.sk.pair = _
    rw [hsk, pair_bpfSock]
  have hlen : ¬ (boundOptlen ctx).optval.length < 16 := by
    show ¬ ctx.optval.length < 16
    omega
  simp only [ecnetSockopt4, boundOptlen_eq, if_neg hname, hfamily, hpair, h, if_true, if_neg hlen]
  rfl

end Bpf
