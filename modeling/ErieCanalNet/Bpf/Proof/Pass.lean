import ErieCanalNet.Bpf.Proof.ParseQuery

/-!
# Frames the DNS proxy passes on

`ecnet_dns_proxy` has one path on which it writes: the path of a query that matches a record
(`MatchedQuery`); every other exit passes the frame as it came (`ecnetDnsProxy_of_not_matched`).
On that path it edits the DNS header before it asks for a new packet length, and passes the
edited frame when the helper fails: a passed frame is the received one exactly when this does
not happen (`pass_unchanged_iff`).
-/

namespace Bpf

open Bridge Lib

/-! ## Matched queries -/

/-- The table has a record for the question: its name ends at the first zero, within the bound,
and is followed by type and class, which count as zero when the packet ends before. -/
def HasRecord (resdb : ResolveTable) (query : List Byte) (body rest : List Byte) (a : ARecord) :
    Prop :=
  query = body ++ 0 :: rest ∧ (∀ b ∈ body, b ≠ 0) ∧ body.length < maxDNSNameLength ∧
    resdb (questionKey body rest) = some a

/-- A frame the program answers: UDP over IPv4 to port 53 of a DNS endpoint, a standard query,
and a question the table has a record for. -/
structure MatchedQuery (env : XdpEnv) (frame : List Byte) (clusterIP : Addr)
    (body rest : List Byte) (a : ARecord) : Prop where
  long : queryOff ≤ frame.length
  ethType : read16 frame 12 = bswap16 0x0800
  protocol : byteAt frame 23 = 17
  endpoint : env.endpt (read32 frame 30) = some clusterIP
  port : read16 frame 36 = bswap16 53
  standardQuery : byteAt frame 44 &&& 0xf8 = 0
  record : HasRecord env.resdb (frame.drop queryOff) body rest a

variable {env : XdpEnv} {frame : List Byte}

/-- What the program does with a matched query. -/
theorem ecnetDnsProxy_of_matched {clusterIP : Addr} {body rest : List Byte} {a : ARecord}
    (h : MatchedQuery env frame clusterIP body rest a) :
    ecnetDnsProxy env frame = respondTo env clusterIP (body.length + 5) a frame := by
  obtain ⟨hlong, heth, hproto, hend, hport, hstd, hquery, hz, hlen, hrec⟩ := h
  have h34 : ¬ frame.length < ethLen + ipLen := by
    simp only [queryOff, dnsOff, ethLen, ipLen, udpLen, dnsLen] at *; omega
  have hn : ¬ ((body.length : Int) + 5 < 1) := by omega
  have hnat : ((body.length : Int) + 5).toNat = body.length + 5 := by omega
  simp only [ecnetDnsProxy, if_neg h34, heth, hproto, ne_eq, not_true, if_false,
    if_neg (Nat.not_lt.2 hlong), hend, hport, if_true, hstd, hquery, parseQuery_of_zero hz hlen,
    if_neg hn, matchARecords, hrec, hnat]

/-- Every other frame is passed as it came. -/
theorem ecnetDnsProxy_of_not_matched
    (h : ¬ ∃ clusterIP body rest a, MatchedQuery env frame clusterIP body rest a) :
    ecnetDnsProxy env frame = (.pass, frame) := by
  unfold ecnetDnsProxy
  split
  · rfl
  split
  · rfl
  split
  · rfl
  split
  · rfl
  rename_i heth hproto hlong
  cases hend : env.endpt (read32 frame 30) with
  | none => rfl
  | some clusterIP =>
    dsimp only
    split
    · split
      · rename_i hport hstd
        rcases zero_or_noZero (frame.drop queryOff) with ⟨body, rest, hquery, hz, hlen⟩ | hno
        · rw [hquery, parseQuery_of_zero hz hlen]
          dsimp only
          rw [if_neg (by omega)]
          cases hrec : matchARecords env.resdb (questionKey body rest) with
          | none => rfl
          | some a =>
            exact absurd ⟨clusterIP, body, rest, a, by omega, by simpa using heth,
              by simpa using hproto, hend, hport, hstd, hquery, hz, hlen, hrec⟩ h
        · rw [if_pos (by rw [parseQuery_of_noZero hno]; decide)]
      · rfl
    · rfl

/-- Only matched queries are answered. -/
theorem exists_matched (htx : (ecnetDnsProxy env frame).1 = .tx) :
    ∃ clusterIP body rest a, MatchedQuery env frame clusterIP body rest a := by
  by_contra hm
  rw [ecnetDnsProxy_of_not_matched hm] at htx
  cases htx

/-- What the program read in the question of a matched query. -/
theorem MatchedQuery.parse {clusterIP : Addr} {body rest : List Byte} {a : ARecord}
    (h : MatchedQuery env frame clusterIP body rest a) :
    parseQuery (frame.drop queryOff) = (questionKey body rest, (body.length : Int) + 5) ∧
      env.resdb (questionKey body rest) = some a := by
  obtain ⟨hquery, hz, hshort, hrec⟩ := h.record
  exact ⟨by rw [hquery, parseQuery_of_zero hz hshort], hrec⟩

/-! ## The edited header -/

/-- The edit keeps all but two bytes of flags and the two bytes of ANCOUNT. -/
theorem keeps_modifyDnsHeaderResponse (h : queryOff ≤ frame.length) :
    Keeps (fun j => j ≠ 44 ∧ j ≠ 45 ∧ j ≠ 48 ∧ j ≠ 49) frame (modifyDnsHeaderResponse frame) := by
  have h54 : 54 ≤ frame.length := h
  unfold modifyDnsHeaderResponse
  extract_lets f₁ f₂
  have h₁ : Keeps (fun j => j ≠ 44 ∧ j ≠ 45 ∧ j ≠ 48 ∧ j ≠ 49) frame f₁ :=
    (Keeps.refl _ frame).patch (by rw [List.length_singleton]; omega)
      fun j hj => by rw [List.length_singleton]; omega
  have h₂ : Keeps (fun j => j ≠ 44 ∧ j ≠ 45 ∧ j ≠ 48 ∧ j ≠ 49) frame f₂ :=
    h₁.patch (by rw [List.length_singleton]; omega) fun j hj => by rw [List.length_singleton]; omega
  exact h₂.write16 (by omega) fun j hj => by omega

theorem length_modifyDnsHeaderResponse (h : queryOff ≤ frame.length) :
    (modifyDnsHeaderResponse frame).length = frame.length :=
  (keeps_modifyDnsHeaderResponse h).length

/-- The bytes the edit writes. -/
theorem byteAt_modifyDnsHeaderResponse (h : queryOff ≤ frame.length) :
    byteAt (modifyDnsHeaderResponse frame) 44 = byteAt frame 44 ||| 0x80 ∧
      byteAt (modifyDnsHeaderResponse frame) 48 = 0 ∧
      byteAt (modifyDnsHeaderResponse frame) 49 = 1 := by
  have h54 : 54 ≤ frame.length := h
  unfold modifyDnsHeaderResponse
  extract_lets f₁ f₂
  have h₁ : f₁.length = frame.length := length_patch_one (by omega)
  have h₂ : f₂.length = frame.length := (length_patch_one (by omega)).trans h₁
  have hlo : byteOf (bswap16 1) 0 = 0 := by decide
  have hhi : byteOf (bswap16 1) 1 = 1 := by decide
  rw [byteAt_write16 (by omega), byteAt_write16 (by omega), byteAt_write16 (by omega)]
  refine ⟨?_, hlo, hhi⟩
  show byteAt f₂ 44 = _
  rw [byteAt_patch_one (by omega), if_neg (by decide), byteAt_patch_one (by omega), if_pos rfl]

/-- The edit of a query changes it: the response bit was not set. -/
theorem modifyDnsHeaderResponse_ne (h : queryOff ≤ frame.length)
    (hstd : byteAt frame 44 &&& 0xf8 = 0) : modifyDnsHeaderResponse frame ≠ frame := by
  intro heq
  have hbyte := (byteAt_modifyDnsHeaderResponse h).1
  rw [heq] at hbyte
  have hbit : ∀ b : Byte, b &&& 0xf8 = 0 → b ≠ b ||| 0x80 := by decide
  exact hbit _ hstd hbyte

/-! ## Passed frames -/

theorem length_adjustTail {newLen : Nat} {frame' : List Byte}
    (h : adjustTail env frame newLen = some frame') : frame'.length = newLen := by
  unfold adjustTail at h
  split at h
  · obtain rfl := Option.some.inj h
    simp only [List.length_append, List.length_take, List.length_map, List.length_range]
    omega
  · exact absurd h (by simp)

theorem length_copyToPktBuf (dst : Nat) (src : List Byte) :
    (copyToPktBuf frame dst src).length = frame.length := by
  unfold copyToPktBuf
  split
  · exact length_patch ‹_›
  · rfl

/-- A matched query is answered once the new length is granted. -/
theorem ecnetDnsProxy_of_adjustTail {clusterIP : Addr} {body rest : List Byte} {a : ARecord}
    (h : MatchedQuery env frame clusterIP body rest a) (hok : env.adjustTailOk = true) :
    (ecnetDnsProxy env frame).1 = .tx := by
  obtain ⟨frame', hadj⟩ : ∃ f, adjustTail env (modifyDnsHeaderResponse frame)
      (queryOff + (body.length + 5) + answerLen) = some f := by simp [adjustTail, hok]
  have hlen : ¬ (copyToPktBuf frame' (queryOff + (body.length + 5))
      (createQueryResponse a)).length < dnsOff := by
    rw [length_copyToPktBuf, length_adjustTail hadj]
    simp only [queryOff]
    omega
  rw [ecnetDnsProxy_of_matched h, respondTo]
  simp only [hadj, if_neg hlen]

/-- **A passed frame is the received one, unless** the frame is a matched query and the new
length was refused. -/
theorem pass_unchanged_iff (env : XdpEnv) (frame : List Byte) :
    ((ecnetDnsProxy env frame).1 = .pass → (ecnetDnsProxy env frame).2 = frame) ↔
      ¬ ((∃ clusterIP body rest a, MatchedQuery env frame clusterIP body rest a) ∧
        env.adjustTailOk = false) := by
  by_cases hm : ∃ clusterIP body rest a, MatchedQuery env frame clusterIP body rest a
  · obtain ⟨clusterIP, body, rest, a, h⟩ := hm
    cases hok : env.adjustTailOk with
    | false =>
      have hnone : ∀ f n, adjustTail env f n = none := fun f n => by simp [adjustTail, hok]
      rw [ecnetDnsProxy_of_matched h, respondTo]
      simp only [hnone]
      refine ⟨fun hp => absurd (hp trivial) (modifyDnsHeaderResponse_ne h.long h.standardQuery),
        fun hn => absurd ⟨⟨clusterIP, body, rest, a, h⟩, trivial⟩ hn⟩
    | true =>
      rw [ecnetDnsProxy_of_adjustTail h hok]
      simp
  · rw [ecnetDnsProxy_of_not_matched hm]
    exact ⟨fun _ hn => hm hn.1, fun _ _ => rfl⟩

/-- A query from 10.0.0.1 to the DNS endpoint 10.0.0.2, with the given question and what
follows it. -/
def queryFrame (arcount : Byte) (question : List Byte) : List Byte :=
  [2, 0, 0, 0, 0, 2, 2, 0, 0, 0, 0, 1, 8, 0] ++
  [0x45, 0, 0, BitVec.ofNat 8 (40 + question.length), 0, 0, 0, 0, 64, 17, 0, 0,
    10, 0, 0, 1, 10, 0, 0, 2] ++
  [48, 57, 0, 53, 0, BitVec.ofNat 8 (20 + question.length), 0, 0] ++
  [0x12, 0x34, 1, 0, 0, 1, 0, 0, 0, 0, 0, arcount] ++ question

/-- The question for the A record of `web.default`, and what follows it. -/
def webQuestion (rest : List Byte) : List Byte :=
  webDefault.wire ++ Dns.be16 typeA ++ Dns.be16 classINET ++ rest

/-- `web.default` is registered, 10.0.0.2 is an endpoint of the cluster DNS. -/
def webEnv (adjustTailOk : Bool) : XdpEnv where
  resdb := registered Dns.packDomainName 0x0af40001 [(webDefault, 60)]
  endpt := fun addr => if addr = le32 10 0 0 2 then some (le32 10 96 0 10) else none
  adjustTailOk := adjustTailOk
  fill := fun _ => 0
  csumDiff := fun _ => 0

theorem webQuestion_matched (adjustTailOk : Bool) (arcount : Byte) (rest : List Byte) :
    ∃ a, MatchedQuery (webEnv adjustTailOk) (queryFrame arcount (webQuestion rest))
      (le32 10 96 0 10) (Dns.labelsWire webDefault.labels)
      (Dns.be16 typeA ++ Dns.be16 classINET ++ rest) a := by
  have hkey : IsKeyOf webDefault (questionKey (Dns.labelsWire webDefault.labels)
      (Dns.be16 typeA ++ Dns.be16 classINET ++ rest)) :=
    (isKeyOf_questionKey webDefault.ne_zero).2
      ⟨typeA, .head _, rfl, List.prefix_append _ _⟩
  have hsome : ((webEnv adjustTailOk).resdb (questionKey (Dns.labelsWire webDefault.labels)
      (Dns.be16 typeA ++ Dns.be16 classINET ++ rest))).isSome := by
    rw [webEnv, registered_isSome Dns.packDomainName_fqdn]
    exact ⟨(webDefault, 60), .head _, hkey⟩
  obtain ⟨a, ha⟩ := Option.isSome_iff_exists.1 hsome
  have hflags : (1 : Byte) &&& 0xf8 = 0 := by decide
  have hquestion : (queryFrame arcount (webQuestion rest)).drop queryOff =
      Dns.labelsWire webDefault.labels ++
        0 :: (Dns.be16 typeA ++ Dns.be16 classINET ++ rest) := rfl
  have hendpt : (webEnv adjustTailOk).endpt (le32 10 0 0 2) = some (le32 10 96 0 10) := by
    simp [webEnv]
  exact ⟨a, by simp [queryFrame, queryOff, dnsOff, ethLen, ipLen, udpLen, dnsLen], rfl, rfl, hendpt,
    rfl, hflags, hquestion, webDefault.ne_zero, length_labelsWire_lt webDefault, ha⟩

/-- A matched query whose new length is refused is passed on as a response. -/
theorem pass_changed_adjust_refused :
    (ecnetDnsProxy (webEnv false) (queryFrame 0 (webQuestion []))).1 = .pass ∧
      (ecnetDnsProxy (webEnv false) (queryFrame 0 (webQuestion []))).2 ≠
        queryFrame 0 (webQuestion []) := by
  obtain ⟨a, h⟩ := webQuestion_matched false 0 []
  rw [ecnetDnsProxy_of_matched h]
  exact ⟨rfl, modifyDnsHeaderResponse_ne h.long h.standardQuery⟩

end Bpf
