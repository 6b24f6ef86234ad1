import ErieCanalNet.Bpf.Proof.Pass

/-!
# The replies of the DNS proxy

A reply is the query edited in place: the response bits and ANCOUNT are set, the packet is cut
or extended to end right after one answer behind the question, and the headers before the DNS
message are rewritten. The other counts stay as they came.

* `question_of_matched`: under the key of a name, a matched question is the name with its type and
  class.
* `udpPayload_reply`: the emitted message is the edited DNS header, the question and the answer.
* `decode_reply`: a decoder reads the question and the record for it, and is then at the end of
  the message; the records ARCOUNT still counts are missing.
* `reply_answers_iff`: so the reply is well formed exactly when the query had none.
-/

namespace Bpf

open Bridge Lib

/-! ## Messages in frames -/

/-- The UDP payload of a frame, where the program takes it to be and of the length the UDP header
says. -/
def udpPayload (frame : List Byte) : List Byte :=
  (frame.drop dnsOff).take ((Dns.be16At frame 38).toNat - udpLen)

/-- A query with one question and any number of additional records. -/
structure WellFormedQuery (frame : List Byte) (query : Dns.Message) : Prop where
  decodes : Dns.decode (udpPayload frame) = some query
  qdcount : Dns.qdcount (udpPayload frame) = 1
  ancount : Dns.ancount (udpPayload frame) = 0
  nscount : Dns.nscount (udpPayload frame) = 0

/-- The message decodes, to the question of the query and one A record for it. -/
def AnswersQuestion (query : Dns.Message) (payload : List Byte) : Prop :=
  ∃ reply q rr, Dns.decode payload = some reply ∧ query.questions = [q] ∧
    reply.questions = [q] ∧ reply.answers = [rr] ∧ rr.name = q.name ∧ rr.rtype = typeA ∧
    rr.rclass = classINET ∧ rr.rdata.length = 4

/-! ## The table of the bridge -/

/-- Every key of the table is a key of a name. The bridge keeps it so. -/
def KeysOfNames (resdb : ResolveTable) : Prop := ∀ q, (resdb q).isSome → ∃ n, IsKeyOf n q

section

variable {table : ResolveTable} {pack : List Byte → Option (List Byte)}

theorem keysOfNames_empty : KeysOfNames fun _ => none := by
  intro q hq
  simp at hq

theorem KeysOfNames.update (h : KeysOfNames table) {key : DnsQuery} {x : Option ARecord}
    (hkey : x.isSome → ∃ n, IsKeyOf n key) : KeysOfNames (Function.update table key x) := by
  intro q hq
  by_cases heq : q = key
  · subst heq
    rw [Function.update_self] at hq
    exact hkey hq
  · rw [Function.update_of_ne heq] at hq
    exact h q hq

theorem KeysOfNames.updateDNSResolveEntry (h : KeysOfNames table) (hp : PacksWire pack)
    (ok : BitVec 16 → Bool) (bridgeIPInt : BitVec 32) (n : Dns.Name) (ttl : BitVec 32) :
    KeysOfNames (updateDNSResolveEntry pack ok bridgeIPInt (Dns.text n.labels) ttl table) := by
  have hpack : pack (Dns.text n.labels ++ [46]) = some n.wire := hp n
  have hkey : ∀ {t}, t ∈ [typeA, typeAAAA] → ∃ n', IsKeyOf n' (queryKey t n.wire) :=
    fun ht => ⟨n, _, ht, rfl⟩
  simp only [Bridge.updateDNSResolveEntry, List.foldl_cons, List.foldl_nil, hpack]
  split_ifs
  · exact (h.update fun _ => hkey (.head _)).update fun _ => hkey (.tail _ (.head _))
  · exact h.update fun _ => hkey (.tail _ (.head _))
  · exact h.update fun _ => hkey (.head _)
  · exact h

theorem KeysOfNames.deleteDNSResolveEntry (h : KeysOfNames table) (ok : BitVec 16 → Bool)
    (name : List Byte) : KeysOfNames (deleteDNSResolveEntry pack ok name table) := by
  have hnone : ∀ {key : DnsQuery}, (none : Option ARecord).isSome → ∃ n, IsKeyOf n key := by simp
  simp only [Bridge.deleteDNSResolveEntry, List.foldl_cons, List.foldl_nil]
  cases pack name with
  | none => exact h
  | some packed =>
    dsimp only
    split_ifs
    · exact (h.update hnone).update hnone
    · exact h.update hnone
    · exact h.update hnone
    · exact h

theorem keysOfNames_registered (hp : PacksWire pack) (bridgeIPInt : BitVec 32)
    (hosts : List (Dns.Name × BitVec 32)) : KeysOfNames (registered pack bridgeIPInt hosts) := by
  suffices hfold : ∀ table : ResolveTable, KeysOfNames table →
      KeysOfNames (hosts.foldl (fun table h => Bridge.updateDNSResolveEntry pack (fun _ => true)
        bridgeIPInt (Dns.text h.1.labels) h.2 table) table) from hfold _ keysOfNames_empty
  induction hosts with
  | nil => exact fun _ h => h
  | cons host hosts ih =>
    exact fun table h => ih _ (h.updateDNSResolveEntry hp (fun _ => true) bridgeIPInt host.1 host.2)

end

/-! ## The question -/

variable {env : XdpEnv} {frame : List Byte} {clusterIP : Addr} {body rest : List Byte} {a : ARecord}

/-- The key the program looks up: the bytes up to the first zero, and the four behind it. -/
def lookupKey (frame : List Byte) : DnsQuery :=
  questionKey ((frame.drop queryOff).takeWhile (· ≠ 0)) ((frame.drop queryOff).dropWhile (· ≠ 0)).tail

theorem lookupKey_of_matched (hm : MatchedQuery env frame clusterIP body rest a) :
    lookupKey frame = questionKey body rest := by
  obtain ⟨hquery, hz, -⟩ := hm.record
  have hrest : (body ++ 0 :: rest).dropWhile (· ≠ 0) = 0 :: rest := by
    rw [List.dropWhile_append_of_pos (by simpa using hz), List.dropWhile_cons_of_neg (by simp)]
  rw [lookupKey, hquery, takeWhile_zero hz, hrest, List.tail_cons]

/-- In a table of names, the key of a matched query is one of a name. -/
theorem KeysOfNames.matched (h : KeysOfNames env.resdb)
    (hm : MatchedQuery env frame clusterIP body rest a) : ∃ n, IsKeyOf n (lookupKey frame) := by
  obtain ⟨-, -, -, hrec⟩ := hm.record
  rw [lookupKey_of_matched hm]
  exact h _ (Option.isSome_iff_exists.2 ⟨a, hrec⟩)

/-- Where the key is one of a name, the question of a matched query is the name with its type and
class. -/
theorem question_of_matched (hname : ∃ n, IsKeyOf n (lookupKey frame))
    (hm : MatchedQuery env frame clusterIP body rest a) :
    ∃ (n : Dns.Name) (t : BitVec 16) (r : List Byte),
      frame.drop queryOff = n.wire ++ Dns.be16 t ++ Dns.be16 classINET ++ r ∧
        n.wire.length = body.length + 1 := by
  obtain ⟨hquery, hz, -⟩ := hm.record
  obtain ⟨n, hkey⟩ := hname
  rw [lookupKey_of_matched hm] at hkey
  obtain ⟨t, -, hbody, r, hrest⟩ := (isKeyOf_questionKey hz).1 hkey
  refine ⟨n, t, r, ?_, ?_⟩
  · rw [hquery, hbody, ← hrest, Dns.Name.wire, Dns.wire]
    simp
  · rw [hbody, Dns.Name.wire, Dns.wire, List.length_append, List.length_singleton]

variable {query : Dns.Message} {n : Dns.Name} {t c : BitVec 16} {r : List Byte}

/-- A part of the message in which a decoder reads a question holds the whole question. -/
theorem question_in_part {msg : List Byte} {q : Dns.Question} {off : Nat}
    (hmsg : msg <+: frame.drop dnsOff)
    (hread : Dns.readQuestion msg Dns.headerLength = some (q, off))
    (hf : frame.drop queryOff = n.wire ++ Dns.be16 t ++ Dns.be16 c ++ r) :
    ∃ r', msg.drop Dns.headerLength = n.wire ++ Dns.be16 t ++ Dns.be16 c ++ r' := by
  obtain ⟨tail, htail⟩ := hmsg
  -- the decoder read a name and four bytes
  obtain ⟨name, off, hname, hin⟩ := Dns.decodeName_of_readQuestion hread
  -- in the frame the name at that place is `n`
  have hframe : Dns.decodeName (frame.drop dnsOff) Dns.maxNameSteps Dns.headerLength =
      some (n.labels, Dns.headerLength + n.wire.length) := by
    refine n.decodeName ⟨Dns.be16 t ++ Dns.be16 c ++ r, ?_⟩ (by decide)
    rw [List.drop_drop, show dnsOff + Dns.headerLength = queryOff by rfl, hf]
    simp
  rw [← htail, Dns.decodeName_append hname] at hframe
  obtain ⟨-, rfl⟩ := Prod.mk.inj (Option.some.inj hframe)
  have hdrop : msg.drop Dns.headerLength ++ tail = n.wire ++ Dns.be16 t ++ Dns.be16 c ++ r := by
    rw [← hf, show queryOff = dnsOff + Dns.headerLength by rfl, ← List.drop_drop, ← htail,
      List.drop_append_of_le_length (by omega)]
  obtain ⟨r', hr'⟩ : n.wire ++ Dns.be16 t ++ Dns.be16 c <+: msg.drop 12 := by
    refine List.prefix_of_prefix_length_le ⟨r, hdrop.symm⟩ ⟨tail, rfl⟩ ?_
    simp only [List.length_append, Dns.be16, List.length_cons, List.length_nil, List.length_drop,
      Dns.headerLength] at hin ⊢
    omega
  exact ⟨r', hr'.symm⟩

/-- The UDP payload of a well-formed query holds the whole question. -/
theorem question_in_payload (hq : WellFormedQuery frame query)
    (hf : frame.drop queryOff = n.wire ++ Dns.be16 t ++ Dns.be16 c ++ r) :
    ∃ r', (udpPayload frame).drop Dns.headerLength =
      n.wire ++ Dns.be16 t ++ Dns.be16 c ++ r' := by
  obtain ⟨-, o₁, -, -, hread, -⟩ := Dns.decode_eq_some.1 hq.decodes
  rw [hq.qdcount, Dns.readMany] at hread
  cases hquestion : Dns.readQuestion (udpPayload frame) Dns.headerLength with
  | none => simp [hquestion] at hread
  | some x => exact question_in_part (List.take_prefix _ _) hquestion hf

/-- What a decoder finds as the question. -/
theorem questions_of_payload (hq : WellFormedQuery frame query)
    (hf : (udpPayload frame).drop Dns.headerLength = n.wire ++ Dns.be16 t ++ Dns.be16 c ++ r) :
    query.questions = [{ name := n.labels, qtype := t, qclass := c }] := by
  obtain ⟨-, o₁, -, -, hread, -⟩ := Dns.decode_eq_some.1 hq.decodes
  rw [hq.qdcount, Dns.readMany_one (Dns.readQuestion_of_drop hf)] at hread
  exact (Prod.mk.inj (Option.some.inj hread)).1.symm

/-! ## The emitted frame -/

/-- The bytes a growing packet gets at its end. -/
def added (env : XdpEnv) (frame : List Byte) (newLen : Nat) : List Byte :=
  (List.range (newLen - frame.length)).map env.fill

/-- The answer stands right behind the question, whether the packet was cut or extended. -/
theorem copyToPktBuf_added {frame' src : List Byte} {k : Nat}
    (h : adjustTail env frame (k + src.length) = some frame') :
    copyToPktBuf frame' k src = (frame ++ added env frame (k + src.length)).take k ++ src := by
  have hlen := length_adjustTail h
  unfold adjustTail at h
  split at h
  · obtain rfl := Option.some.inj h
    have hcut : frame.take (k + src.length) ++ added env frame (k + src.length) =
        (frame ++ added env frame (k + src.length)).take (k + src.length) := by
      have hadded : (added env frame (k + src.length)).take (k + src.length - frame.length) =
          added env frame (k + src.length) := List.take_of_length_le (by simp [added])
      rw [List.take_append, hadded]
    have htake : (frame.take (k + src.length) ++ added env frame (k + src.length)).take k =
        (frame ++ added env frame (k + src.length)).take k := by
      rw [hcut, List.take_take, Nat.min_eq_left (Nat.le_add_right _ _)]
    rw [copyToPktBuf, if_pos (by omega), patch, List.drop_eq_nil_of_le (by omega), List.append_nil]
    exact congrArg (· ++ src) htake
  · cases h

theorem added_modifyDnsHeaderResponse (h : queryOff ≤ frame.length) (newLen : Nat) :
    added env (modifyDnsHeaderResponse frame) newLen = added env frame newLen := by
  rw [added, length_modifyDnsHeaderResponse h, added]

/-- An answered query went through the growth of its packet: the emitted frame is what the packet
held up to the end of the question, completed by what it grew by, and the answer behind it. -/
theorem ecnetDnsProxy_tx_added (hm : MatchedQuery env frame clusterIP body rest a)
    (htx : (ecnetDnsProxy env frame).1 = .tx) :
    (ecnetDnsProxy env frame).2 = rewriteHeaders env clusterIP
      ((modifyDnsHeaderResponse frame ++
          added env frame (queryOff + (body.length + 5) + answerLen)).take
        (queryOff + (body.length + 5)) ++ createQueryResponse a) := by
  rw [ecnetDnsProxy_of_matched hm, respondTo] at htx ⊢
  cases hadj : adjustTail env (modifyDnsHeaderResponse frame)
      (queryOff + (body.length + 5) + answerLen) with
  | none => simp [hadj] at htx
  | some frame' =>
    have hadj' : adjustTail env (modifyDnsHeaderResponse frame)
        (queryOff + (body.length + 5) + (createQueryResponse a).length) = some frame' := hadj
    have hcopy := copyToPktBuf_added hadj'
    rw [added_modifyDnsHeaderResponse hm.long] at hcopy
    simp only [hadj] at htx ⊢
    split at htx
    · cases htx
    · rename_i hlong
      rw [if_neg hlong, hcopy]
      rfl

/-- Where the packet held the whole question, nothing of what it grew by is left in the reply. -/
theorem ecnetDnsProxy_tx (hm : MatchedQuery env frame clusterIP body rest a)
    (htx : (ecnetDnsProxy env frame).1 = .tx)
    (hin : queryOff + (body.length + 5) ≤ frame.length) :
    (ecnetDnsProxy env frame).2 = rewriteHeaders env clusterIP
      ((modifyDnsHeaderResponse frame).take (queryOff + (body.length + 5)) ++
        createQueryResponse a) := by
  have hmod := length_modifyDnsHeaderResponse hm.long
  rw [ecnetDnsProxy_tx_added hm htx, List.take_append_of_le_length (by omega)]

/-! ## The rewritten headers -/

section

variable {J : Nat → Prop} {p p' : List Byte}

theorem keeps_swapSrcDstUdp (hk : Keeps J p p') (h : 38 ≤ p.length)
    (hJ : ∀ j, J j → j < 34 ∨ 38 ≤ j) : Keeps J p (swapSrcDstUdp p') := by
  apply Keeps.write16
  · exact hk.write16 (by omega) fun j hj => by have := hJ j hj; omega
  · omega
  · intro j hj
    have := hJ j hj
    omega

theorem keeps_swapSrcDstMac (hk : Keeps J p p') (h : 12 ≤ p.length)
    (hJ : ∀ j, J j → 12 ≤ j) : Keeps J p (swapSrcDstMac p') := by
  have hlen := hk.length
  have hdest : (p'.take 6).length = 6 := by rw [List.length_take]; omega
  have hsource : ((p'.drop 6).take 6).length = 6 := by
    rw [List.length_take, List.length_drop]
    omega
  apply Keeps.patch
  · exact hk.patch (by omega) fun j hj => by have := hJ j hj; omega
  · omega
  · intro j hj
    have := hJ j hj
    omega

end

/-- What the rewrite of the headers leaves alone once the lengths are stored: the UDP length and
the DNS message. -/
def AfterLengths (j : Nat) : Prop := j = 38 ∨ j = 39 ∨ 42 ≤ j

theorem keeps_rewriteHeaders (h : dnsOff ≤ frame.length) :
    Keeps AfterLengths
      (write16 (write16 frame 16 (bswap16 (BitVec.ofNat 16 (frame.length - ethLen)))) 38
        (bswap16 (BitVec.ofNat 16 (frame.length - ethLen - ipLen))))
      (rewriteHeaders env clusterIP frame) := by
  have h42 : 42 ≤ frame.length := h
  unfold rewriteHeaders
  extract_lets iplen udplen f₁ f₂ srcIP f₃ f₄ f₅ f₆ f₇ f₈ f₉
  have hlen : f₂.length = frame.length := by
    have h₁ : f₁.length = frame.length := length_write16 (by omega)
    exact (length_write16 (by omega)).trans h₁
  have hJ : ∀ j, AfterLengths j → j = 38 ∨ j = 39 ∨ 42 ≤ j := fun _ hj => hj
  have h₃ : Keeps AfterLengths f₂ f₃ :=
    (Keeps.refl _ f₂).write32 (by omega) fun j hj => by have := hJ j hj; omega
  have h₄ : Keeps AfterLengths f₂ f₄ :=
    h₃.write32 (by omega) fun j hj => by have := hJ j hj; omega
  have h₅ : Keeps AfterLengths f₂ f₅ :=
    keeps_swapSrcDstUdp h₄ (by omega) fun j hj => by have := hJ j hj; omega
  have h₆ : Keeps AfterLengths f₂ f₆ :=
    keeps_swapSrcDstMac h₅ (by omega) fun j hj => by have := hJ j hj; omega
  have h₇ : Keeps AfterLengths f₂ f₇ :=
    h₆.write16 (by omega) fun j hj => by have := hJ j hj; omega
  have h₈ : Keeps AfterLengths f₂ f₈ :=
    h₇.write16 (by omega) fun j hj => by have := hJ j hj; omega
  have h₉ : Keeps AfterLengths f₂ f₉ :=
    h₈.write16 (by omega) fun j hj => by have := hJ j hj; omega
  exact h₉.write16 (by omega) fun j hj => by have := hJ j hj; omega

/-- **The DNS message of a rewritten frame** is the whole of what follows the headers. -/
theorem udpPayload_rewriteHeaders (h : dnsOff ≤ frame.length) (hshort : frame.length < 65536) :
    udpPayload (rewriteHeaders env clusterIP frame) = frame.drop dnsOff := by
  have h42 : 42 ≤ frame.length := h
  have hk : Keeps AfterLengths _ (rewriteHeaders env clusterIP frame) := keeps_rewriteHeaders h
  have h16 : ∀ x, (write16 frame 16 x).length = frame.length := fun x => length_write16 (by omega)
  have h38 : ∀ x y, 38 + 2 ≤ (write16 frame 16 x).length ∧
      (write16 (write16 frame 16 x) 38 y).length = frame.length := fun x y =>
    ⟨by rw [h16]; omega, by rw [length_write16 (by rw [h16]; omega), h16]⟩
  have hudplen : Dns.be16At (rewriteHeaders env clusterIP frame) 38 =
      BitVec.ofNat 16 (frame.length - ethLen - ipLen) := by
    rw [Dns.be16At, hk.byteAt 38 (.inl rfl), hk.byteAt 39 (.inr (.inl rfl)),
      byteAt_write16 (h38 _ 0).1, byteAt_write16 (h38 _ 0).1]
    simp [bswap16]
  have hdrop : (rewriteHeaders env clusterIP frame).drop dnsOff = frame.drop dnsOff := by
    have hlens := ((Keeps.refl (fun j => 42 ≤ j) frame).write16
      (x := bswap16 (BitVec.ofNat 16 (frame.length - ethLen))) (by omega : 16 + 2 ≤ frame.length)
      fun j hj => by omega).write16 (x := bswap16 (BitVec.ofNat 16 (frame.length - ethLen - ipLen)))
      (by omega : 38 + 2 ≤ frame.length) fun j hj => by omega
    exact (hk.drop fun j hj => .inr (.inr hj)).trans (hlens.drop fun j hj => hj)
  have hlen : (BitVec.ofNat 16 (frame.length - ethLen - ipLen)).toNat - udpLen =
      (frame.drop dnsOff).length := by
    rw [BitVec.toNat_ofNat, List.length_drop]
    simp only [ethLen, ipLen, udpLen, dnsOff]
    omega
  rw [udpPayload, hudplen, hdrop, hlen, List.take_length]

/-! ## The emitted message -/

/-- The message of a reply to a question of `k` bytes. -/
def replyMessage (frame : List Byte) (k : Nat) (a : ARecord) : List Byte :=
  ((modifyDnsHeaderResponse frame).take (queryOff + k) ++ createQueryResponse a).drop dnsOff

/-- The header of the message is the edited one. -/
theorem be16At_replyMessage {k i : Nat} (hin : queryOff + k ≤ frame.length) (hi : i + 2 ≤ 12) :
    Dns.be16At (replyMessage frame k a) i =
      Dns.be16At (modifyDnsHeaderResponse frame) (42 + i) := by
  have h54 : queryOff = 54 := rfl
  have h42 : dnsOff = 42 := rfl
  have hlen : ((modifyDnsHeaderResponse frame).take (queryOff + k)).length = queryOff + k := by
    rw [List.length_take, length_modifyDnsHeaderResponse (by omega)]
    omega
  have hbyte : ∀ j < 12, byteAt (replyMessage frame k a) j =
      byteAt (modifyDnsHeaderResponse frame) (42 + j) := fun j hj => by
    rw [replyMessage, byteAt_drop, byteAt_append_left (by omega), byteAt_take (by omega), h42]
  rw [Dns.be16At, Dns.be16At, hbyte _ (by omega), hbyte _ (by omega)]
  rfl

/-- So is the header of the query's message. -/
theorem be16At_udpPayload {i : Nat} (hq : WellFormedQuery frame query) (hi : i + 2 ≤ 12) :
    Dns.be16At (udpPayload frame) i = Dns.be16At frame (42 + i) := by
  have hlen : 12 ≤ (udpPayload frame).length := (Dns.decode_eq_some.1 hq.decodes).1
  have hbyte : ∀ j < 12, byteAt (udpPayload frame) j = byteAt frame (42 + j) := fun j hj => by
    rw [udpPayload, List.length_take] at hlen
    rw [udpPayload, byteAt_take (by omega), byteAt_drop]
    rfl
  rw [Dns.be16At, Dns.be16At, hbyte _ (by omega), hbyte _ (by omega)]
  rfl

/-- The counts of the reply: ANCOUNT is one, the others are those of the query. -/
theorem counts_replyMessage {k : Nat} (hq : WellFormedQuery frame query)
    (hin : queryOff + k ≤ frame.length) :
    Dns.qdcount (replyMessage frame k a) = 1 ∧ Dns.ancount (replyMessage frame k a) = 1 ∧
      Dns.nscount (replyMessage frame k a) = 0 ∧
      Dns.arcount (replyMessage frame k a) = Dns.arcount (udpPayload frame) := by
  have hlong : queryOff ≤ frame.length := by omega
  have hkeeps := keeps_modifyDnsHeaderResponse hlong
  have hkept : ∀ i, (i = 4 ∨ i = 8 ∨ i = 10) →
      Dns.be16At (replyMessage frame k a) i = Dns.be16At (udpPayload frame) i := fun i hi => by
    rw [be16At_replyMessage hin (by omega), be16At_udpPayload hq (by omega), Dns.be16At, Dns.be16At,
      hkeeps.byteAt _ (by omega), hkeeps.byteAt _ (by omega)]
  have hone : Dns.be16At (replyMessage frame k a) 6 = 1 := by
    obtain ⟨-, h48, h49⟩ := byteAt_modifyDnsHeaderResponse hlong
    rw [be16At_replyMessage hin (by omega), Dns.be16At, h48, h49]
    decide
  refine ⟨?_, ?_, ?_, ?_⟩
  · rw [← hq.qdcount, Dns.qdcount, Dns.qdcount, hkept 4 (.inl rfl)]
  · rw [Dns.ancount, hone]
    rfl
  · rw [← hq.nscount, Dns.nscount, Dns.nscount, hkept 8 (.inr (.inl rfl))]
  · rw [Dns.arcount, Dns.arcount, hkept 10 (.inr (.inr rfl))]

/-- Behind the header stand the question and the answer. -/
theorem drop_replyMessage {k : Nat} (hin : queryOff + k ≤ frame.length)
    (hf : frame.drop queryOff = n.wire ++ Dns.be16 t ++ Dns.be16 c ++ r)
    (hk : n.wire.length + 4 = k) :
    (replyMessage frame k a).drop Dns.headerLength =
      n.wire ++ Dns.be16 t ++ Dns.be16 c ++ createQueryResponse a := by
  have h54 : queryOff = 54 := rfl
  have hkeeps := keeps_modifyDnsHeaderResponse (show queryOff ≤ frame.length by omega)
  have hquestion : (n.wire ++ Dns.be16 t ++ Dns.be16 c).length = k := by
    rw [← hk]
    simp [Dns.be16]
  have hlen : ((modifyDnsHeaderResponse frame).take (queryOff + k)).length = queryOff + k := by
    rw [List.length_take, length_modifyDnsHeaderResponse (by omega)]
    omega
  rw [replyMessage, List.drop_drop, show dnsOff + Dns.headerLength = queryOff by rfl,
    List.drop_append_of_le_length (by omega), List.drop_take, Nat.add_sub_cancel_left,
    hkeeps.drop fun j hj => by omega, hf, List.take_left' hquestion]

/-- **The message of an emitted frame.** -/
theorem udpPayload_reply (hm : MatchedQuery env frame clusterIP body rest a)
    (htx : (ecnetDnsProxy env frame).1 = .tx)
    (hin : queryOff + (body.length + 5) ≤ frame.length) :
    udpPayload (ecnetDnsProxy env frame).2 = replyMessage frame (body.length + 5) a := by
  have h54 : queryOff = 54 := rfl
  have h42 : dnsOff = 42 := rfl
  have hbody : body.length < 256 := hm.record.2.2.1
  have htake : ((modifyDnsHeaderResponse frame).take (queryOff + (body.length + 5))).length =
      queryOff + (body.length + 5) := by
    rw [List.length_take, length_modifyDnsHeaderResponse hm.long]
    omega
  have hlen : ((modifyDnsHeaderResponse frame).take (queryOff + (body.length + 5)) ++
      createQueryResponse a).length = queryOff + (body.length + 5) + 16 := by
    rw [List.length_append, htake]
    rfl
  rw [ecnetDnsProxy_tx hm htx hin, udpPayload_rewriteHeaders (by omega) (by omega), replyMessage]

/-! ## Decoding the reply -/

theorem bytes16_bswap16 (x : BitVec 16) : bytes16 (bswap16 x) = Dns.be16 x := by
  simp [bytes16, bswap16, Dns.be16]

/-- The answer: a pointer to the question's name, the type and class, four bytes of data. -/
theorem createQueryResponse_eq (a : ARecord) :
    createQueryResponse a = 0xc0 :: 0x0c :: (Dns.be16 typeA ++ (Dns.be16 classINET ++
      (bytes32 (bswap32 a.ttl) ++ (Dns.be16 4 ++ (bytes32 a.addr ++ []))))) := by
  have hptr : Dns.be16 0xc00c = [0xc0, 0x0c] := by decide
  simp only [createQueryResponse, bytes16_bswap16, hptr, List.append_assoc, List.append_nil]
  rfl

variable {msg : List Byte}

/-- The record behind the question of a reply is an A record for it, and ends the message. -/
theorem readRecord_reply (h : msg.drop Dns.headerLength =
      n.wire ++ Dns.be16 t ++ Dns.be16 c ++ createQueryResponse a) :
    ∃ ttl, Dns.readRecord msg (Dns.headerLength + n.wire.length + 4) =
      some ({ name := n.labels, rtype := typeA, rclass := classINET, ttl, rdata := bytes32 a.addr },
        msg.length) := by
  have hlen : msg.length = Dns.headerLength + n.wire.length + 4 + 16 := by
    have := congrArg List.length h
    simp only [List.length_drop, List.length_append, Dns.be16, List.length_cons, List.length_nil,
      show (createQueryResponse a).length = 16 from rfl] at this
    omega
  have hanswer : msg.drop (Dns.headerLength + n.wire.length + 4) = createQueryResponse a := by
    have hquestion : (n.wire ++ Dns.be16 t ++ Dns.be16 c).length = n.wire.length + 4 := by
      simp [Dns.be16]
    rw [Nat.add_assoc, ← List.drop_drop, h, ← hquestion, List.drop_left]
  have hname : Dns.readName msg (Dns.headerLength + n.wire.length + 4) =
      some (n.labels, Dns.headerLength + n.wire.length + 4 + 2) := by
    refine n.readName_pointer (hanswer.trans (createQueryResponse_eq a)) (by decide) ?_ ?_
    · show 12 < 12 + n.wire.length + 4
      omega
    · exact ⟨Dns.be16 t ++ Dns.be16 c ++ createQueryResponse a, by
        show _ = msg.drop Dns.headerLength; rw [h]; simp⟩
  have hrest : msg.drop (Dns.headerLength + n.wire.length + 4 + 2) =
      Dns.be16 typeA ++ (Dns.be16 classINET ++ (bytes32 (bswap32 a.ttl) ++
        (Dns.be16 4 ++ (bytes32 a.addr ++ [])))) := by
    rw [← List.drop_drop, hanswer, createQueryResponse_eq]
    rfl
  rw [hlen]
  exact ⟨_, Dns.readRecord_of_drop hname hrest rfl rfl⟩

/-- **A decoder of the reply** is at its end behind the one record, where a record that ARCOUNT
counts is missing. -/
theorem decode_reply (hqd : Dns.qdcount msg = 1) (han : Dns.ancount msg = 1)
    (hns : Dns.nscount msg = 0) (h : msg.drop Dns.headerLength =
      n.wire ++ Dns.be16 t ++ Dns.be16 c ++ createQueryResponse a) :
    ∃ ttl, ∀ reply, Dns.decode msg = some reply ↔ Dns.arcount msg = 0 ∧ reply =
      { questions := [{ name := n.labels, qtype := t, qclass := c }]
        answers := [{ name := n.labels, rtype := typeA, rclass := classINET, ttl,
                      rdata := bytes32 a.addr }]
        authority := [], additional := [] } := by
  obtain ⟨ttl, hrecord⟩ := readRecord_reply h
  refine ⟨ttl, fun reply => ?_⟩
  have hquestions := Dns.readMany_one (Dns.readQuestion_of_drop h)
  have hanswers := Dns.readMany_one hrecord
  rw [Dns.decode_eq_some, hqd, han, hns, hquestions]
  constructor
  · rintro ⟨-, o₁, o₂, o₃, h1, h2, h3, h4⟩
    obtain ⟨hq, rfl⟩ := Prod.mk.inj (Option.some.inj h1)
    obtain ⟨ha, rfl⟩ := Prod.mk.inj (Option.some.inj (hanswers.symm.trans h2))
    obtain ⟨hauth, rfl⟩ := Prod.mk.inj (Option.some.inj h3)
    cases har : Dns.arcount msg with
    | zero =>
      rw [har] at h4
      obtain ⟨hadd, -⟩ := Prod.mk.inj (Option.some.inj h4)
      obtain ⟨qs, ans, auth, add⟩ := reply
      exact ⟨rfl, by subst hq ha hauth hadd; rfl⟩
    | succ k =>
      rw [har, Dns.readMany, Dns.readRecord_end] at h4
      exact absurd h4 (by simp)
  · rintro ⟨har, rfl⟩
    have hlen : Dns.headerLength ≤ msg.length := by
      have hdrop := congrArg List.length h
      simp only [List.length_drop, List.length_append, Dns.be16, List.length_cons,
        List.length_nil] at hdrop
      omega
    rw [har]
    exact ⟨hlen, _, _, _, rfl, hanswers, rfl, rfl⟩

theorem reply_answers_matched (hkeys : KeysOfNames env.resdb) (hq : WellFormedQuery frame query)
    (hm : MatchedQuery env frame clusterIP body rest a)
    (htx : (ecnetDnsProxy env frame).1 = .tx) :
    AnswersQuestion query (udpPayload (ecnetDnsProxy env frame).2) ↔
      Dns.arcount (udpPayload frame) = 0 := by
  obtain ⟨n, t, r, hf, hbody⟩ := question_of_matched (hkeys.matched hm) hm
  have hin : queryOff + (body.length + 5) ≤ frame.length := by
    have hlen := congrArg List.length hf
    simp only [List.length_drop, List.length_append, Dns.be16, List.length_cons,
      List.length_nil] at hlen
    omega
  obtain ⟨r', hpayload⟩ := question_in_payload hq hf
  have hquestions := questions_of_payload hq hpayload
  obtain ⟨hqd, han, hns, har⟩ := counts_replyMessage (a := a) hq hin
  obtain ⟨ttl, hdecode⟩ := decode_reply hqd han hns (drop_replyMessage hin hf (by omega))
  rw [udpPayload_reply hm htx hin, ← har]
  constructor
  · rintro ⟨reply, -, -, hreply, -⟩
    exact ((hdecode reply).1 hreply).1
  · intro h0
    exact ⟨_, _, _, (hdecode _).2 ⟨h0, rfl⟩, hquestions, rfl, rfl, rfl, rfl, rfl, rfl⟩

/-- **A reply is well formed exactly when the query had no additional records**: the decoder
finds the question and one A record for it, and nothing else is counted. -/
theorem reply_answers_iff (hkeys : KeysOfNames env.resdb) (hq : WellFormedQuery frame query)
    (htx : (ecnetDnsProxy env frame).1 = .tx) :
    AnswersQuestion query (udpPayload (ecnetDnsProxy env frame).2) ↔
      Dns.arcount (udpPayload frame) = 0 := by
  obtain ⟨clusterIP, body, rest, a, hm⟩ := exists_matched htx
  exact reply_answers_matched hkeys hq hm htx

/-- The query for the A record of `web.default`, with the given additional records. -/
def webQuery (additional : List Dns.ResourceRecord) : Dns.Message where
  questions := [{ name := webDefault.labels, qtype := typeA, qclass := classINET }]
  answers := []
  authority := []
  additional := additional

theorem keysOfNames_webEnv (adjustTailOk : Bool) : KeysOfNames (webEnv adjustTailOk).resdb :=
  keysOfNames_registered Dns.packDomainName_fqdn _ _

theorem webQuestion_tx (arcount : Byte) (rest : List Byte) :
    (ecnetDnsProxy (webEnv true) (queryFrame arcount (webQuestion rest))).1 = .tx := by
  obtain ⟨a, hm⟩ := webQuestion_matched true arcount rest
  exact ecnetDnsProxy_of_adjustTail hm rfl

/-- The query without additional records gets its reply. -/
theorem reply_answers_web :
    AnswersQuestion (webQuery [])
      (udpPayload (ecnetDnsProxy (webEnv true) (queryFrame 0 (webQuestion []))).2) :=
  (reply_answers_iff (keysOfNames_webEnv true)
    ⟨by decide, by decide, by decide, by decide⟩ (webQuestion_tx 0 [])).2 (by decide)

/-- An EDNS OPT record: the root name, type 41, a payload size of 4096, no options. -/
def optRecord : List Byte := [0, 0, 41, 16, 0, 0, 0, 0, 0, 0, 0]

/-- The same query with an OPT record gets a reply that counts the record and does not have it. -/
theorem reply_broken_opt :
    let frame := queryFrame 1 (webQuestion optRecord)
    let query := webQuery [{ name := [], rtype := 41, rclass := 4096, ttl := 0, rdata := [] }]
    KeysOfNames (webEnv true).resdb ∧ WellFormedQuery frame query ∧
      (ecnetDnsProxy (webEnv true) frame).1 = .tx ∧
      ¬ AnswersQuestion query (udpPayload (ecnetDnsProxy (webEnv true) frame).2) := by
  intro frame query
  have hkeys := keysOfNames_webEnv true
  have hq : WellFormedQuery frame query :=
    ⟨by decide, by decide, by decide, by decide⟩
  have htx : (ecnetDnsProxy (webEnv true) frame).1 = .tx := webQuestion_tx 1 optRecord
  refine ⟨hkeys, hq, htx, ?_⟩
  obtain ⟨a, hm⟩ := webQuestion_matched true 1 optRecord
  rw [reply_answers_matched hkeys hq hm htx]
  decide

end Bpf
