import ErieCanalNet.Bpf.Proof.Reply
import ErieCanalNet.Lib.Ipv4

/-!
# What traffic is consumed

The program reads every header at a fixed offset and checks the type of the frame, the protocol, the
port and the flags of the message. A reference decoder also reads the version, the length of the
header, the fragment, the two lengths and the count of questions. A frame that is answered is a query
for a registered name exactly when these fields are as the program takes them to be
(`consumed_iff`).
-/

namespace Bpf

open Bridge Lib

/-! ## Queries, by the reference decoder -/

/-- The key of a decoded question. -/
def keyOf (q : Dns.Question) : DnsQuery where
  qtype := q.qtype
  qclass := q.qclass
  name := padName (Dns.wire q.name)

/-- A message that asks, in the standard way, for a name of the table. -/
structure AsksFor (resdb : ResolveTable) (msg : List Byte) : Prop where
  long : Dns.headerLength ≤ msg.length
  -- `qr` and `opcode`
  standard : byteAt msg 2 &&& 0xf8 = 0
  counted : 1 ≤ Dns.qdcount msg
  registered : ∃ q off, Dns.readQuestion msg Dns.headerLength = some (q, off) ∧
    (resdb (keyOf q)).isSome

/-- The frame is a UDP datagram to port 53 with such a message. -/
def IsRegisteredQuery (resdb : ResolveTable) (frame : List Byte) : Prop :=
  ∃ d, Ipv4.decodeUdp frame = some d ∧ d.destPort = 53 ∧ AsksFor resdb d.payload

/-! ## The fields the program does not check -/

/-- The length of a question whose name ends at the first zero. -/
def questionLength (frame : List Byte) : Nat :=
  ((frame.drop queryOff).takeWhile (· ≠ 0)).length + 5

/-- The fields the program takes for granted: a whole datagram, in an IPv4 header without options,
with lengths that cover the question, and a question that is counted. -/
structure TakenForGranted (frame : List Byte) : Prop where
  version : Ipv4.version frame = 4
  header : Ipv4.headerLength frame = Ipv4.minHeaderLength
  whole : Ipv4.fragment frame = 0
  counted : 1 ≤ (Dns.be16At frame 46).toNat
  question : udpLen + dnsLen + questionLength frame ≤ (Dns.be16At frame 38).toNat
  udpLength : ipLen + (Dns.be16At frame 38).toNat ≤ Ipv4.totalLength frame
  total : ethLen + Ipv4.totalLength frame ≤ frame.length

/-! ## The two readings -/

variable {env : XdpEnv} {frame : List Byte} {clusterIP : Addr} {body rest : List Byte} {a : ARecord}

theorem questionLength_of_matched (hm : MatchedQuery env frame clusterIP body rest a) :
    questionLength frame = body.length + 5 := by
  obtain ⟨hquery, hz, -⟩ := hm.record
  rw [questionLength, hquery, takeWhile_zero hz]

theorem be16At_eq_bswap16 (i : Nat) : Dns.be16At frame i = bswap16 (read16 frame i) := by
  rw [read16, bswap16_le16, Dns.be16At]

/-- A number of the message, in the frame. -/
theorem be16At_message {j k : Nat} (h : j + 1 < k) :
    Dns.be16At ((frame.drop dnsOff).take k) j = Dns.be16At frame (dnsOff + j) := by
  rw [Dns.be16At, byteAt_take h, byteAt_take (by omega), byteAt_drop, byteAt_drop, Dns.be16At]
  rfl

/-- The program's key of a question is that of the decoded question. -/
theorem questionKey_eq_keyOf {n : Dns.Name} {t : BitVec 16} {r : List Byte}
    (hz : ∀ b ∈ body, b ≠ 0)
    (h : body ++ 0 :: rest = n.wire ++ Dns.be16 t ++ Dns.be16 classINET ++ r) :
    questionKey body rest = keyOf { name := n.labels, qtype := t, qclass := classINET } := by
  have hpre : Dns.labelsWire n.labels ++ 0 :: (Dns.be16 t ++ Dns.be16 classINET) <+:
      body ++ 0 :: rest := by
    refine ⟨r, ?_⟩
    rw [h, Dns.Name.wire, Dns.wire]
    simp
  obtain ⟨rfl, r', rfl⟩ := (zero_prefix_iff n.ne_zero hz).1 hpre
  rw [questionKey, typeAndClass_be16, keyOf, ← Dns.Name.wire, padName_wire]

/-- **What the program matched is a question for a registered name**, to a decoder that is given
enough of the message. -/
theorem asksFor_of_matched (hname : ∃ n, IsKeyOf n (lookupKey frame))
    (hm : MatchedQuery env frame clusterIP body rest a) {k : Nat}
    (hlong : dnsLen + questionLength frame ≤ k) (hcount : 1 ≤ (Dns.be16At frame 46).toNat) :
    AsksFor env.resdb ((frame.drop dnsOff).take k) := by
  obtain ⟨n, t, r, hf, hbody⟩ := question_of_matched hname hm
  obtain ⟨hquery, hz, -, hrec⟩ := hm.record
  rw [questionLength_of_matched hm, dnsLen] at hlong
  have hlength : (n.wire ++ Dns.be16 t ++ Dns.be16 classINET).length ≤ k - 12 := by
    simp only [List.length_append, Dns.be16, List.length_cons, List.length_nil]
    omega
  have hdrop : ((frame.drop dnsOff).take k).drop Dns.headerLength =
      n.wire ++ Dns.be16 t ++ Dns.be16 classINET ++
        r.take (k - 12 - (n.wire ++ Dns.be16 t ++ Dns.be16 classINET).length) := by
    rw [List.drop_take, List.drop_drop, show dnsOff + Dns.headerLength = queryOff by rfl, hf,
      List.take_append, Dns.headerLength, List.take_of_length_le hlength]
  refine ⟨?_, ?_, ?_, _, _, Dns.readQuestion_of_drop hdrop, ?_⟩
  · have hframe : 54 ≤ frame.length := hm.long
    rw [List.length_take, List.length_drop, Dns.headerLength, dnsOff, ethLen, ipLen, udpLen]
    omega
  · rw [byteAt_take (by omega), byteAt_drop]
    exact hm.standardQuery
  · rw [Dns.qdcount, be16At_message (by omega)]
    exact hcount
  · rw [← questionKey_eq_keyOf hz (hquery ▸ hf), hrec]
    rfl

/-- **A frame that is answered for the key of a name is a query for a registered name exactly when
the fields the program does not check are as it takes them to be**; with options in the header, the
two read different bytes. -/
theorem consumed_iff (hname : ∃ n, IsKeyOf n (lookupKey frame))
    (hoptions : Ipv4.headerLength frame ≤ Ipv4.minHeaderLength)
    (htx : (ecnetDnsProxy env frame).1 = .tx) :
    IsRegisteredQuery env.resdb frame ↔ TakenForGranted frame := by
  obtain ⟨clusterIP, body, rest, a, hm⟩ := exists_matched htx
  have hquestion := questionLength_of_matched hm
  constructor
  · rintro ⟨d, hd, -, hasks⟩
    obtain ⟨hudp, rfl⟩ := Ipv4.decodeUdp_eq_some.1 hd
    have hheader : Ipv4.headerLength frame = Ipv4.minHeaderLength :=
      Nat.le_antisymm hoptions hudp.header
    rw [Ipv4.datagram_of_minHeader hheader] at hasks
    change AsksFor env.resdb ((frame.drop dnsOff).take ((Dns.be16At frame 38).toNat - 8)) at hasks
    obtain ⟨n, t, r, hf, hbody⟩ := question_of_matched hname hm
    obtain ⟨q, off, hread, -⟩ := hasks.registered
    obtain ⟨r', hr'⟩ := question_in_part (List.take_prefix _ _) hread hf
    have hlength := congrArg List.length hr'
    have hcount := hasks.counted
    have hlong := hasks.long
    simp only [List.length_drop, List.length_take, List.length_append, Dns.be16, List.length_cons,
      List.length_nil, Dns.headerLength] at hlength hlong
    rw [Dns.qdcount, be16At_message (by omega)] at hcount
    have hinside := hudp.inside
    rw [Ipv4.udpLength, Ipv4.udpStart, hheader] at hinside
    refine ⟨hudp.version, hheader, hudp.whole, hcount, ?_, hinside, hudp.total⟩
    rw [hquestion, udpLen, dnsLen]
    omega
  · intro h
    obtain ⟨hversion, hheader, hwhole, hcount, hcover, hinside, htotal⟩ := h
    have hport : Dns.be16At frame 36 = 53 := by rw [be16At_eq_bswap16, hm.port, bswap16_bswap16]
    have hethType : Dns.be16At frame 12 = Ipv4.ethTypeIPv4 := by
      rw [be16At_eq_bswap16, hm.ethType, bswap16_bswap16, Ipv4.ethTypeIPv4]
    have hlength : Ipv4.udpLength frame = (Dns.be16At frame 38).toNat := by
      rw [Ipv4.udpLength, Ipv4.udpStart, hheader, Ipv4.minHeaderLength]
    rw [udpLen, dnsLen] at hcover
    rw [ipLen] at hinside
    rw [ethLen] at htotal
    refine ⟨_, Ipv4.decodeUdp_eq_some.2 ⟨⟨?_, hethType, hversion, ?_, htotal, hm.protocol, hwhole, ?_,
      ?_, ?_⟩, Ipv4.datagram_of_minHeader hheader⟩, hport, ?_⟩
    · omega
    · omega
    · rw [hheader, Ipv4.minHeaderLength]
      omega
    · omega
    · rw [hheader, Ipv4.minHeaderLength]
      omega
    · exact asksFor_of_matched hname hm (by rw [dnsLen]; omega) hcount

/-- The plain query for `web.default` is one for a registered name. -/
theorem consumed_web :
    IsRegisteredQuery (webEnv true).resdb (queryFrame 0 (webQuestion [])) :=
  (consumed_iff ⟨webDefault, typeA, .head _, by decide +kernel⟩ (by decide) (webQuestion_tx 0 [])).2
    ⟨by decide, by decide, by decide, by decide, by decide, by decide, by decide⟩

/-- The same bytes as a fragment at offset 8, and behind a header of 24 bytes: neither is a query, and
both are answered. -/
theorem consumed_fragment_options :
    ((ecnetDnsProxy (webEnv true) (patch (queryFrame 0 (webQuestion [])) 20 [0, 1])).1 = .tx ∧
      ¬ IsRegisteredQuery (webEnv true).resdb (patch (queryFrame 0 (webQuestion [])) 20 [0, 1])) ∧
    (ecnetDnsProxy (webEnv true) (patch (queryFrame 0 (webQuestion [])) 14 [0x46])).1 = .tx ∧
      ¬ IsRegisteredQuery (webEnv true).resdb
        (patch (queryFrame 0 (webQuestion [])) 14 [0x46]) := by
  have hfragment : Ipv4.decodeUdp (patch (queryFrame 0 (webQuestion [])) 20 [0, 1]) = none := by
    decide +kernel
  have hport : (Ipv4.datagram (patch (queryFrame 0 (webQuestion [])) 14 [0x46])).destPort ≠ 53 := by
    decide +kernel
  refine ⟨⟨by decide +kernel, ?_⟩, by decide +kernel, ?_⟩
  · rintro ⟨d, hd, -⟩
    rw [hfragment] at hd
    cases hd
  · rintro ⟨d, hd, hd53, -⟩
    obtain ⟨-, rfl⟩ := Ipv4.decodeUdp_eq_some.1 hd
    exact hport hd53

end Bpf
