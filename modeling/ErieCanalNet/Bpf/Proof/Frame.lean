import ErieCanalNet.Bpf.Proof.Reply

/-!
# The frame of a reply

`Layout`: a frame cut where the program takes the fields of the headers to be. The edits of the
program replace fields (`modifyDnsHeaderResponse_bytes`, `rewriteHeaders_bytes`), so that a reply is
the layout of the query with some fields replaced, and with the answer in place of what followed the
question (`Layout.reply`, `exists_layout_reply`).

With a table of names the question is inside the frame, and the reply is determined but for the two
checksums (`reply_frame`).
-/

namespace Bpf

open Bridge Lib

/-! ## Layout -/

/-- The parts of a frame; `question` and `rest` have any length. -/
structure Layout where
  destMac : Block 6
  sourceMac : Block 6
  ethType : Block 2
  versionAndTos : Block 2
  totalLength : Block 2
  /-- identification, fragment, time to live and protocol -/
  ipMiddle : Block 6
  ipCheck : Block 2
  sourceIP : Block 4
  destIP : Block 4
  sourcePort : Block 2
  destPort : Block 2
  udpLength : Block 2
  udpCheck : Block 2
  id : Block 2
  flags : Byte
  moreFlags : Byte
  qdcount : Block 2
  ancount : Block 2
  nscount : Block 2
  arcount : Block 2
  question : List Byte
  rest : List Byte

namespace Layout

def ipHeader (l : Layout) : List Byte :=
  l.versionAndTos.1 ++ (l.totalLength.1 ++ (l.ipMiddle.1 ++ (l.ipCheck.1 ++ (l.sourceIP.1 ++
    l.destIP.1))))

def message (l : Layout) : List Byte :=
  l.id.1 ++ (l.flags :: l.moreFlags :: (l.qdcount.1 ++ (l.ancount.1 ++ (l.nscount.1 ++
    (l.arcount.1 ++ (l.question ++ l.rest))))))

def segment (l : Layout) : List Byte :=
  l.sourcePort.1 ++ (l.destPort.1 ++ (l.udpLength.1 ++ (l.udpCheck.1 ++ l.message)))

def bytes (l : Layout) : List Byte :=
  l.destMac.1 ++ (l.sourceMac.1 ++ (l.ethType.1 ++ (l.versionAndTos.1 ++ (l.totalLength.1 ++
    (l.ipMiddle.1 ++ (l.ipCheck.1 ++ (l.sourceIP.1 ++ (l.destIP.1 ++ l.segment))))))))

theorem length_bytes (l : Layout) :
    l.bytes.length = queryOff + l.question.length + l.rest.length := by
  simp only [bytes, segment, message, List.length_append, List.length_cons, length_block]
  simp only [queryOff, dnsOff, ethLen, ipLen, udpLen, dnsLen]
  omega

/-! ## Loads and stores of fields -/

section

variable (l : Layout)

@[simp] theorem write_totalLength (x : BitVec 16) :
    write16 l.bytes 16 x = { l with totalLength := block16 x }.bytes := by
  simp [bytes, segment, message, write16, block16]

@[simp] theorem write_ipCheck (x : BitVec 16) :
    write16 l.bytes 24 x = { l with ipCheck := block16 x }.bytes := by
  simp [bytes, segment, message, write16, block16]

@[simp] theorem write_sourceIP (x : BitVec 32) :
    write32 l.bytes 26 x = { l with sourceIP := block32 x }.bytes := by
  simp [bytes, segment, message, write32, block32]

@[simp] theorem write_destIP (x : BitVec 32) :
    write32 l.bytes 30 x = { l with destIP := block32 x }.bytes := by
  simp [bytes, segment, message, write32, block32]

@[simp] theorem write_sourcePort (x : BitVec 16) :
    write16 l.bytes 34 x = { l with sourcePort := block16 x }.bytes := by
  simp [bytes, segment, message, write16, block16]

@[simp] theorem write_destPort (x : BitVec 16) :
    write16 l.bytes 36 x = { l with destPort := block16 x }.bytes := by
  simp [bytes, segment, message, write16, block16]

@[simp] theorem write_udpLength (x : BitVec 16) :
    write16 l.bytes 38 x = { l with udpLength := block16 x }.bytes := by
  simp [bytes, segment, message, write16, block16]

@[simp] theorem write_udpCheck (x : BitVec 16) :
    write16 l.bytes 40 x = { l with udpCheck := block16 x }.bytes := by
  simp [bytes, segment, message, write16, block16]

@[simp] theorem read_sourceIP : block32 (read32 l.bytes 26) = l.sourceIP := by
  simp [bytes]

@[simp] theorem read_sourcePort : block16 (read16 l.bytes 34) = l.sourcePort := by
  simp [bytes, segment]

@[simp] theorem read_destPort : block16 (read16 l.bytes 36) = l.destPort := by
  simp [bytes, segment]

theorem be16At_totalLength {x : BitVec 16} (h : l.totalLength = be16Block x) :
    Dns.be16At l.bytes 16 = x := by
  simp [Dns.be16At, bytes, h, be16Block]

theorem be16At_udpLength {x : BitVec 16} (h : l.udpLength = be16Block x) :
    Dns.be16At l.bytes 38 = x := by
  simp [Dns.be16At, bytes, segment, h, be16Block]

theorem swapSrcDstUdp_bytes : swapSrcDstUdp l.bytes =
    { l with sourcePort := l.destPort, destPort := l.sourcePort }.bytes := by
  simp [swapSrcDstUdp]

theorem swapSrcDstMac_bytes : swapSrcDstMac l.bytes =
    { l with destMac := l.sourceMac, sourceMac := l.destMac }.bytes := by
  simp [swapSrcDstMac, bytes, segment, message]

theorem ipHeader_bytes : (l.bytes.drop ethLen).take ipLen = l.ipHeader := by
  simp [bytes, ipHeader, ethLen, ipLen]

end

end Layout

/-! ## The edits of the program -/

variable {env : XdpEnv} {clusterIP : Addr}

namespace Layout

/-- The header of the message as a response with one answer. -/
def response (l : Layout) : Layout :=
  { l with
    flags := l.flags ||| 0x80
    moreFlags := l.moreFlags ||| 0x80
    ancount := be16Block 1 }

/-- The headers turned around, with the lengths of the frame. -/
def turned (clusterIP : Addr) (l : Layout) : Layout :=
  { l with
    destMac := l.sourceMac
    sourceMac := l.destMac
    totalLength := be16Block (BitVec.ofNat 16 (l.bytes.length - ethLen))
    sourceIP := block32 clusterIP
    destIP := l.sourceIP
    sourcePort := l.destPort
    destPort := l.sourcePort
    udpLength := be16Block (BitVec.ofNat 16 (l.bytes.length - ethLen - ipLen)) }

/-- The two checksums, each computed while its field is zero. -/
def checked (env : XdpEnv) (l : Layout) : Layout :=
  let ipCheck := block16 (ipv4Csum env { l with ipCheck := block16 0 }.ipHeader)
  { l with
    ipCheck
    udpCheck := block16 (calUdpCsum { l with ipCheck, udpCheck := block16 0 }.bytes) }

end Layout

variable (l : Layout)

theorem block16_bswap16 (x : BitVec 16) : block16 (bswap16 x) = be16Block x := by
  simp [block16, be16Block, bytes16, bswap16]

theorem modifyDnsHeaderResponse_bytes : modifyDnsHeaderResponse l.bytes = l.response.bytes := by
  simp [modifyDnsHeaderResponse, Layout.bytes, Layout.segment, Layout.message, Layout.response,
    write16, be16Block, bytes16_bswap16, Dns.be16]

theorem rewriteHeaders_bytes :
    rewriteHeaders env clusterIP l.bytes = ((l.turned clusterIP).checked env).bytes := by
  simp only [rewriteHeaders, Layout.write_totalLength, Layout.write_udpLength,
    Layout.write_sourceIP, Layout.write_destIP, Layout.read_sourceIP, Layout.swapSrcDstUdp_bytes,
    Layout.swapSrcDstMac_bytes, Layout.write_ipCheck, Layout.write_udpCheck, Layout.ipHeader_bytes,
    block16_bswap16]
  rfl

/-! ## Frames as layouts -/

/-- The layout of a frame with a question of `n` bytes. -/
def layoutOf (frame : List Byte) (n : Nat) (h : 54 ≤ frame.length) : Layout :=
  { destMac := slice frame 0 6 (by omega)
    sourceMac := slice frame 6 6 (by omega)
    ethType := slice frame 12 2 (by omega)
    versionAndTos := slice frame 14 2 (by omega)
    totalLength := slice frame 16 2 (by omega)
    ipMiddle := slice frame 18 6 (by omega)
    ipCheck := slice frame 24 2 (by omega)
    sourceIP := slice frame 26 4 (by omega)
    destIP := slice frame 30 4 (by omega)
    sourcePort := slice frame 34 2 (by omega)
    destPort := slice frame 36 2 (by omega)
    udpLength := slice frame 38 2 (by omega)
    udpCheck := slice frame 40 2 (by omega)
    id := slice frame 42 2 (by omega)
    flags := byteAt frame 44
    moreFlags := byteAt frame 45
    qdcount := slice frame 46 2 (by omega)
    ancount := slice frame 48 2 (by omega)
    nscount := slice frame 50 2 (by omega)
    arcount := slice frame 52 2 (by omega)
    question := (frame.drop queryOff).take n
    rest := frame.drop (queryOff + n) }

theorem bytes_layoutOf {frame : List Byte} {n : Nat} (h : 54 ≤ frame.length) :
    (layoutOf frame n h).bytes = frame := by
  have hquestion : (frame.drop queryOff).take n ++ frame.drop (queryOff + n) = frame.drop 54 := by
    rw [← List.drop_drop, List.take_append_drop]
    rfl
  have hflags : byteAt frame 44 :: byteAt frame 45 :: frame.drop 46 = frame.drop 44 := by
    rw [byteAt_cons_drop (by omega) rfl, byteAt_cons_drop (by omega) rfl]
  simp only [layoutOf, Layout.bytes, Layout.segment, Layout.message, hquestion, slice_append, hflags,
    Nat.reduceAdd, List.drop_zero]

theorem exists_layout {frame : List Byte} {n : Nat} (h : queryOff + n ≤ frame.length) :
    ∃ l : Layout, l.bytes = frame ∧ l.question.length = n := by
  have h54 : 54 ≤ frame.length := Nat.le_trans (Nat.le_add_right queryOff n) h
  refine ⟨layoutOf frame n h54, bytes_layoutOf h54, List.length_take_of_le ?_⟩
  rw [List.length_drop]
  omega

theorem Layout.bytes_append_rest (x : List Byte) :
    { l with rest := x ++ l.rest }.bytes = { l with rest := x }.bytes ++ l.rest := by
  simp [Layout.bytes, Layout.segment, Layout.message]

theorem take_bytes (x : List Byte) :
    l.bytes.take (queryOff + l.question.length) ++ x = { l with rest := x }.bytes := by
  have hnil : l.bytes = { l with rest := [] }.bytes ++ l.rest := Layout.bytes_append_rest l []
  have hx : ({ l with rest := x } : Layout).bytes = { l with rest := [] }.bytes ++ x :=
    Layout.bytes_append_rest { l with rest := x } []
  have hlen : ({ l with rest := [] } : Layout).bytes.length = queryOff + l.question.length :=
    Layout.length_bytes _
  rw [hnil, hx, List.take_left' hlen]

/-! ## The emitted frame -/

theorem modifyDnsHeaderResponse_append {frame : List Byte} (h : queryOff ≤ frame.length)
    (x : List Byte) :
    modifyDnsHeaderResponse (frame ++ x) = modifyDnsHeaderResponse frame ++ x := by
  have h54 : 54 ≤ frame.length := h
  have hx : (layoutOf frame 0 h54).bytes = frame := bytes_layoutOf h54
  have happend : ∀ l : Layout, l.bytes ++ x = { l with rest := l.rest ++ x }.bytes := fun l => by
    simp [Layout.bytes, Layout.segment, Layout.message]
  rw [← hx, happend, modifyDnsHeaderResponse_bytes, modifyDnsHeaderResponse_bytes, happend]
  rfl

/-- The layout of a reply. -/
def Layout.reply (env : XdpEnv) (clusterIP : Addr) (a : ARecord) (l : Layout) : Layout :=
  (Layout.turned clusterIP { l.response with rest := createQueryResponse a }).checked env

/-- **A reply is the query with fields replaced** and the answer behind the question. A question that
is cut off is completed by what the packet grows by. -/
theorem exists_layout_reply {frame body rest : List Byte} {a : ARecord}
    (hm : MatchedQuery env frame clusterIP body rest a) (htx : (ecnetDnsProxy env frame).1 = .tx) :
    ∃ l : Layout, l.bytes = frame ++ added env frame (queryOff + (body.length + 5) + answerLen) ∧
      l.question.length = body.length + 5 ∧
      (ecnetDnsProxy env frame).2 = (l.reply env clusterIP a).bytes := by
  obtain ⟨l, hl, hquestion⟩ := exists_layout (n := body.length + 5) (show queryOff +
      (body.length + 5) ≤ (frame ++ added env frame
        (queryOff + (body.length + 5) + answerLen)).length by
    simp only [List.length_append, added, List.length_map, List.length_range]
    omega)
  refine ⟨l, hl, hquestion, ?_⟩
  have htake := take_bytes l.response (createQueryResponse a)
  rw [show l.response.question.length = body.length + 5 from hquestion] at htake
  rw [ecnetDnsProxy_tx_added hm htx, ← modifyDnsHeaderResponse_append hm.long, ← hl,
    modifyDnsHeaderResponse_bytes, htake, rewriteHeaders_bytes]
  rfl

/-! ## Replies from the table of the bridge -/

/-- The tables the bridge fills, whichever of its map operations succeed. -/
inductive Filled (pack : List Byte → Option (List Byte)) (bridgeIPInt : BitVec 32) :
    ResolveTable → Prop
  | empty : Filled pack bridgeIPInt fun _ => none
  | update {table : ResolveTable} (h : Filled pack bridgeIPInt table) (ok : BitVec 16 → Bool)
      (n : Dns.Name) (ttl : BitVec 32) :
      Filled pack bridgeIPInt
        (updateDNSResolveEntry pack ok bridgeIPInt (Dns.text n.labels) ttl table)
  | delete {table : ResolveTable} (h : Filled pack bridgeIPInt table) (ok : BitVec 16 → Bool)
      (name : List Byte) : Filled pack bridgeIPInt (deleteDNSResolveEntry pack ok name table)

theorem Filled.keysOfNames {pack : List Byte → Option (List Byte)} {bridgeIPInt : BitVec 32}
    {table : ResolveTable} (hp : PacksWire pack) (h : Filled pack bridgeIPInt table) :
    KeysOfNames table := by
  induction h with
  | empty => exact keysOfNames_empty
  | update _ ok n ttl ih => exact ih.updateDNSResolveEntry hp ok bridgeIPInt n ttl
  | delete _ ok name ih => exact ih.deleteDNSResolveEntry ok name

/-- An A record in network order: a pointer to the name of the question, type, class, time to live,
length, address. -/
def answerBytes (a : ARecord) : List Byte :=
  Dns.be16 0xc00c ++ (Dns.be16 typeA ++ (Dns.be16 classINET ++ (Dns.be32 a.ttl ++
    (Dns.be16 4 ++ bytes32 a.addr))))

theorem createQueryResponse_eq_answerBytes (a : ARecord) :
    createQueryResponse a = answerBytes a := by
  have httl : bytes32 (bswap32 a.ttl) = Dns.be32 a.ttl := by
    simp [bytes32, bswap32, Dns.be32]
  simp only [createQueryResponse, bytes16_bswap16, httl, answerBytes, List.append_assoc]
  rfl

/-- The fields of a reply, in terms of those of the query. -/
def Layout.replyWith (clusterIP : Addr) (a : ARecord) (ipCheck udpCheck : Block 2) (l : Layout) :
    Layout where
  destMac := l.sourceMac
  sourceMac := l.destMac
  ethType := l.ethType
  versionAndTos := l.versionAndTos
  totalLength := be16Block (BitVec.ofNat 16 (20 + 8 + 12 + l.question.length + 16))
  ipMiddle := l.ipMiddle
  ipCheck := ipCheck
  sourceIP := block32 clusterIP
  destIP := l.sourceIP
  sourcePort := l.destPort
  destPort := l.sourcePort
  udpLength := be16Block (BitVec.ofNat 16 (8 + 12 + l.question.length + 16))
  udpCheck := udpCheck
  id := l.id
  flags := l.flags ||| 0x80
  moreFlags := l.moreFlags ||| 0x80
  qdcount := l.qdcount
  ancount := be16Block 1
  nscount := l.nscount
  arcount := l.arcount
  question := l.question
  rest := answerBytes a

theorem Layout.reply_eq (a : ARecord) : l.reply env clusterIP a =
    l.replyWith clusterIP a (l.reply env clusterIP a).ipCheck (l.reply env clusterIP a).udpCheck := by
  have hlen : ({ l.response with rest := answerBytes a } : Layout).bytes.length =
      54 + l.question.length + 16 := Layout.length_bytes _
  have htotal : 54 + l.question.length + 16 - ethLen = 20 + 8 + 12 + l.question.length + 16 := by
    simp only [ethLen]
    omega
  have hudp : 20 + 8 + 12 + l.question.length + 16 - ipLen = 8 + 12 + l.question.length + 16 := by
    simp only [ipLen]
    omega
  simp only [Layout.reply, createQueryResponse_eq_answerBytes, Layout.turned, hlen, htotal, hudp]
  rfl

/-- **The frame of a reply** to a query with a question of `n` bytes: the fields of the query, turned
around, with the cluster's address as the source, the lengths of the reply and one answer. -/
theorem reply_frame {env : XdpEnv} {frame : List Byte} {pack : List Byte → Option (List Byte)}
    {bridgeIPInt : BitVec 32} (hp : PacksWire pack) (hfilled : Filled pack bridgeIPInt env.resdb)
    (htx : (ecnetDnsProxy env frame).1 = .tx) :
    ∃ (l : Layout) (c : Addr) (a : ARecord) (ipCheck udpCheck : Block 2),
      frame = l.bytes ∧
      (parseQuery (frame.drop queryOff)).2 = l.question.length ∧
      env.endpt (read32 frame 30) = some c ∧
      env.resdb (parseQuery (frame.drop queryOff)).1 = some a ∧
      (ecnetDnsProxy env frame).2 = (l.replyWith c a ipCheck udpCheck).bytes ∧
      (ecnetDnsProxy env frame).2.length = 14 + 20 + 8 + 12 + l.question.length + 16 ∧
      (Dns.be16At (ecnetDnsProxy env frame).2 16).toNat + 14 =
        (ecnetDnsProxy env frame).2.length ∧
      (Dns.be16At (ecnetDnsProxy env frame).2 38).toNat + 34 =
        (ecnetDnsProxy env frame).2.length := by
  obtain ⟨c, body, rest, a, hm⟩ := exists_matched htx
  obtain ⟨n, t, r, hf, hbody⟩ := question_of_matched ((hfilled.keysOfNames hp).matched hm) hm
  have hin : queryOff + (body.length + 5) ≤ frame.length := by
    have hlen := congrArg List.length hf
    simp only [List.length_drop, List.length_append, Dns.be16, List.length_cons,
      List.length_nil] at hlen
    omega
  obtain ⟨l, hl, hquestion, hreply⟩ := exists_layout_reply hm htx
  obtain ⟨hparse, hrec⟩ := hm.parse
  have hframe := take_bytes l (frame.drop (queryOff + (body.length + 5)))
  rw [hquestion, hl, List.take_append_of_le_length hin, List.take_append_drop] at hframe
  have hanswer : ∀ ipCheck udpCheck, (l.replyWith c a ipCheck udpCheck).rest.length = 16 :=
    fun _ _ => rfl
  have hbound : body.length < 256 := hm.record.2.2.1
  rw [hreply, l.reply_eq]
  refine ⟨{ l with rest := frame.drop (queryOff + (body.length + 5)) }, c, a, _, _, hframe, ?_,
    hm.endpoint, ?_, rfl, ?_, ?_, ?_⟩
  · rw [hparse, hquestion]
    rfl
  · rw [hparse, hrec]
  · rw [Layout.length_bytes]
    rfl
  · rw [Layout.be16At_totalLength _ rfl, Layout.length_bytes, BitVec.toNat_ofNat, hquestion, hanswer,
      Nat.mod_eq_of_lt (by omega)]
    simp only [Layout.replyWith, hquestion, queryOff, dnsOff, ethLen, ipLen, udpLen, dnsLen]
    omega
  · rw [Layout.be16At_udpLength _ rfl, Layout.length_bytes, BitVec.toNat_ofNat, hquestion, hanswer,
      Nat.mod_eq_of_lt (by omega)]
    simp only [Layout.replyWith, hquestion, queryOff, dnsOff, ethLen, ipLen, udpLen, dnsLen]
    omega

theorem filled_webEnv (adjustTailOk : Bool) :
    Filled Dns.packDomainName 0x0af40001 (webEnv adjustTailOk).resdb :=
  .update .empty (fun _ => true) webDefault 60

/-- The query for `web.default` with an OPT record behind the question. -/
theorem reply_frame_web :
    ∃ (l : Layout) (c : Addr) (a : ARecord) (ipCheck udpCheck : Block 2),
      queryFrame 1 (webQuestion optRecord) = l.bytes ∧
      (parseQuery ((queryFrame 1 (webQuestion optRecord)).drop queryOff)).2 =
        l.question.length ∧
      (ecnetDnsProxy (webEnv true) (queryFrame 1 (webQuestion optRecord))).2 =
        (l.replyWith c a ipCheck udpCheck).bytes := by
  obtain ⟨l, c, a, ipCheck, udpCheck, hl, hlen, -, -, hreply, -⟩ :=
    reply_frame Dns.packDomainName_fqdn (filled_webEnv true) (webQuestion_tx 1 optRecord)
  exact ⟨l, c, a, ipCheck, udpCheck, hl, hlen, hreply⟩

end Bpf
