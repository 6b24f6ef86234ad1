import ErieCanalNet.Bpf.Proof.Frame
import ErieCanalNet.Lib.Checksum

/-!
# The checksum of the UDP segment

`cal_udp_csum` sums the words of the pseudo-header and of the segment in 32 bits and folds once, in
16 bits: the carry of the fold is lost. A receiver takes the reply exactly when there is none
(`udp_checksum_iff`).

* `toNat_sumWords`: the loop computes the sum of the words;
* `toNat_calUdpCsum`: the checksum, from the sum;
* `accepted_iff`: what a receiver makes of it.
-/

namespace Bpf

open Bridge Lib

/-! ## The receiver -/

/-- The pseudo-header of RFC 768: the addresses, zero, the protocol and the length of the segment. -/
def pseudoHeader (frame : List Byte) : List Byte :=
  (frame.drop 26).take 8 ++ ([0, byteAt frame 23] ++ (frame.drop 38).take 2)

/-- A receiver takes the segment: it has no checksum, or the one's complement sum of the
pseudo-header and the segment is all ones. -/
def ChecksumAccepted (frame : List Byte) : Prop :=
  Dns.be16At frame 40 = 0 ∨
    onesSum (beWords (pseudoHeader frame ++ frame.drop (ethLen + ipLen))) = 0xffff

instance (frame : List Byte) : Decidable (ChecksumAccepted frame) :=
  inferInstanceAs (Decidable (_ ∨ _))

/-! ## The sum -/

theorem toNat_sumWords : ∀ {n : Nat} {buf : List Byte} (acc : BitVec 32),
    buf.length ≤ 2 * n + 1 →
    (sumWords n buf acc).toNat = (acc.toNat + (leWords buf).sum) % 2 ^ 32
  | n, [], acc, _ => by
    have := acc.isLt
    cases n <;> simp [sumWords, leWords] <;> omega
  | n, [b], acc, _ => by
    have := b.isLt
    cases n <;> simp [sumWords, leWords]
  | 0, b0 :: b1 :: buf, acc, h => by
    simp at h
  | n + 1, b0 :: b1 :: buf, acc, h => by
    have hlen : buf.length ≤ 2 * n + 1 := by
      simp only [List.length_cons] at h
      omega
    have hword := (le16 b0 b1).isLt
    rw [sumWords, toNat_sumWords _ hlen, leWords, List.sum_cons, BitVec.toNat_add,
      BitVec.toNat_setWidth, toNat_le16]
    omega

/-- The two halves of an address are its words. -/
theorem toNat_halves (b : Block 4) (rest : List Byte) :
    ((read32 (b.1 ++ rest) 0).setWidth 16).toNat +
      ((read32 (b.1 ++ rest) 0 >>> 16).setWidth 16).toNat = (leWords b.1).sum := by
  obtain ⟨bs, hbs⟩ := b
  match bs, hbs with
  | [b0, b1, b2, b3], _ =>
    have h0 := b0.isLt
    have h1 := b1.isLt
    have h2 := b2.isLt
    have h3 := b3.isLt
    have hread : read32 ([b0, b1, b2, b3] ++ rest) 0 = le32 b0 b1 b2 b3 := rfl
    rw [hread, BitVec.toNat_setWidth, BitVec.toNat_setWidth, BitVec.toNat_ushiftRight,
      Nat.shiftRight_eq_div_pow, toNat_le32]
    simp only [leWords, List.sum_cons, List.sum_nil]
    omega

theorem toNat_read16 (b : Block 2) (rest : List Byte) :
    (read16 (b.1 ++ rest) 0).toNat = (leWords b.1).sum := by
  obtain ⟨bs, hbs⟩ := b
  match bs, hbs with
  | [b0, b1], _ =>
    have hread : read16 ([b0, b1] ++ rest) 0 = le16 b0 b1 := rfl
    rw [hread, toNat_le16, leWords, leWords, List.sum_singleton]

theorem sum_leWords_word (b : Block 2) (rest : List Byte) :
    (leWords (b.1 ++ rest)).sum = (leWords b.1).sum + (leWords rest).sum :=
  sum_leWords_append rest (by rw [length_block])

/-- The sum of the pseudo-header does not overflow. -/
theorem toNat_pseudo (a b c d e : BitVec 16) (protocol : Byte) :
    (a.setWidth 32 + b.setWidth 32 + c.setWidth 32 + d.setWidth 32 +
      ((protocol.setWidth 32 : BitVec 32) <<< 8) + e.setWidth 32).toNat =
      a.toNat + b.toNat + (c.toNat + d.toNat) + 256 * protocol.toNat + e.toNat := by
  simp only [BitVec.toNat_add, BitVec.toNat_setWidth, BitVec.toNat_shiftLeft, Nat.shiftLeft_eq]
  omega

/-- The one fold, in 16 bits. -/
theorem toNat_foldOnce (sum : BitVec 32) :
    (~~~(sum.setWidth 16 + (sum >>> 16).setWidth 16)).toNat =
      65535 - (sum.toNat % 65536 + sum.toNat / 65536) % 65536 := by
  rw [BitVec.toNat_not, BitVec.toNat_add, BitVec.toNat_setWidth, BitVec.toNat_setWidth,
    BitVec.toNat_ushiftRight, Nat.shiftRight_eq_div_pow]
  omega

namespace Layout

variable (l : Layout)

def protocol : Byte := byteAt l.ipMiddle.1 5

/-- The words a checksum of the segment covers. -/
def udpText : List Byte :=
  l.sourceIP.1 ++ (l.destIP.1 ++ ([0, l.protocol] ++ (l.udpLength.1 ++ l.segment)))

/-- Their sum. -/
def udpSum : Nat := (leWords l.udpText).sum

theorem byteAt_protocol : byteAt l.bytes 23 = l.protocol := by
  have hin : 5 < l.ipMiddle.1.length := by simp
  simp [bytes, protocol, byteAt_append_left hin]

theorem udpText_bytes : pseudoHeader l.bytes ++ l.bytes.drop (ethLen + ipLen) = l.udpText := by
  rw [pseudoHeader, byteAt_protocol]
  simp [bytes, segment, udpText, ethLen, ipLen]

theorem udpSum_eq : l.udpSum = (leWords l.sourceIP.1).sum + (leWords l.destIP.1).sum +
    256 * l.protocol.toNat + (leWords l.udpLength.1).sum + (leWords l.segment).sum := by
  have hword : (leWords [0, l.protocol]).sum = 256 * l.protocol.toNat := by
    rw [leWords, leWords, List.sum_singleton]
    exact Nat.zero_add _
  rw [udpSum, udpText, sum_leWords_append _ (by simp), sum_leWords_append _ (by simp),
    sum_leWords_append _ (by simp), sum_leWords_word, hword]
  omega

theorem udpSum_lt (h : l.segment.length ≤ 1480) : l.udpSum < 2 ^ 32 := by
  have hsum := sum_leWords_le l.udpText
  simp only [udpText, List.length_append, length_block, List.length_cons, List.length_nil] at hsum
  rw [udpSum, udpText]
  omega

/-- **The checksum, from the sum**: one fold, whose carry is lost. -/
theorem toNat_calUdpCsum (h : l.segment.length ≤ 1480) :
    (calUdpCsum l.bytes).toNat = 65535 - (l.udpSum % 65536 + l.udpSum / 65536) % 65536 := by
  have hlt := l.udpSum_lt h
  have hsource := toNat_halves l.sourceIP (l.destIP.1 ++ l.segment)
  have hdest := toNat_halves l.destIP l.segment
  have hlength := toNat_read16 l.udpLength (l.udpCheck.1 ++ l.message)
  have hread26 : read32 l.bytes 26 = read32 (l.sourceIP.1 ++ (l.destIP.1 ++ l.segment)) 0 := by
    simp [bytes]
  have hread30 : read32 l.bytes 30 = read32 (l.destIP.1 ++ l.segment) 0 := by simp [bytes]
  have hread38 : read16 l.bytes 38 = read16 (l.udpLength.1 ++ (l.udpCheck.1 ++ l.message)) 0 := by
    simp [bytes, segment]
  have hdrop : l.bytes.drop (ethLen + ipLen) = l.segment := by simp [bytes, ethLen, ipLen]
  rw [udpSum_eq] at hlt
  rw [calUdpCsum, toNat_foldOnce, hread26, hread30, hread38, hdrop, byteAt_protocol,
    toNat_sumWords _ (by omega), toNat_pseudo, hsource, hdest, hlength, Nat.mod_eq_of_lt hlt,
    udpSum_eq]

/-- The segment with a checksum. -/
def withCheck (x : BitVec 16) : Layout := { l with udpCheck := block16 x }

/-- The field counts as one word of the sum. -/
theorem udpSum_withCheck (x : BitVec 16) :
    (l.withCheck x).udpSum = (l.withCheck 0).udpSum + x.toNat := by
  have hword : ∀ y : BitVec 16, (leWords (block16 y).1).sum = y.toNat := fun y => by
    have hread := toNat_read16 (block16 y) []
    rw [List.append_nil] at hread
    rw [← hread]
    simp [read16, block16, bytes16]
  have hsegment : ∀ y : BitVec 16, (l.withCheck y).segment =
      l.sourcePort.1 ++ (l.destPort.1 ++ (l.udpLength.1 ++ ((block16 y).1 ++ l.message))) :=
    fun _ => rfl
  have hsum : ∀ y : BitVec 16, (l.withCheck y).udpSum = (leWords l.sourceIP.1).sum +
      (leWords l.destIP.1).sum + 256 * l.protocol.toNat + (leWords l.udpLength.1).sum +
      (leWords (l.withCheck y).segment).sum := fun y => (l.withCheck y).udpSum_eq
  have hzero : (0 : BitVec 16).toNat = 0 := rfl
  simp only [hsum, hsegment, sum_leWords_word, hword, hzero]
  omega

theorem be16At_withCheck_eq_zero {x : BitVec 16} :
    Dns.be16At (l.withCheck x).bytes 40 = 0 ↔ x.toNat = 0 := by
  have hbytes : Dns.be16At (l.withCheck x).bytes 40 = bswap16 x := by
    simp [Dns.be16At, bytes, segment, withCheck, block16, bytes16, bswap16]
  have hzero : bswap16 0 = 0 := by decide
  rw [hbytes, ← hzero, bswap16_inj, ← BitVec.toNat_inj]
  exact Iff.rfl

end Layout

/-! ## The reply -/

/-- A sum whose carries, added in once, make no carry. -/
def FoldsOnce (s : Nat) : Prop := s % 65536 + s / 65536 < 65536

instance (s : Nat) : Decidable (FoldsOnce s) := inferInstanceAs (Decidable (_ < _))

/-- With a carry the total is one more than a multiple of 65535, and the field is not zero. -/
theorem complement_iff {s f : Nat} (hs : s < 2 ^ 32)
    (hf : f = 65535 - (s % 65536 + s / 65536) % 65536) :
    (f = 0 ∨ (s + f) % 65535 = 0 ∧ s + f ≠ 0) ↔ FoldsOnce s := by
  have hsplit : 65536 * (s / 65536) + s % 65536 = s := Nat.div_add_mod s 65536
  unfold FoldsOnce
  by_cases hcarry : s % 65536 + s / 65536 < 65536
  · have htotal : s + f = 65535 * (s / 65536 + 1) := by
      rw [hf, Nat.mod_eq_of_lt hcarry]
      omega
    have hmod : (s + f) % 65535 = 0 := by rw [htotal, Nat.mul_mod_right]
    exact iff_of_true (.inr ⟨hmod, by omega⟩) hcarry
  · have hlost : (s % 65536 + s / 65536) % 65536 = s % 65536 + s / 65536 - 65536 := by omega
    have htotal : s + f = 65535 * (s / 65536 + 2) + 1 := by omega
    have hmod : (s + f) % 65535 = 1 := by rw [htotal, Nat.mul_add_mod]
    refine iff_of_false ?_ hcarry
    omega

/-- **A receiver takes a segment exactly when its sum folds at once.** -/
theorem accepted_iff (l : Layout) (h : l.segment.length ≤ 1480) :
    ChecksumAccepted (l.withCheck (calUdpCsum (l.withCheck 0).bytes)).bytes ↔
      FoldsOnce (l.withCheck 0).udpSum := by
  have hlength : (l.withCheck 0).segment.length ≤ 1480 := by
    simpa [Layout.segment, Layout.message, Layout.withCheck] using h
  rw [ChecksumAccepted, Layout.udpText_bytes, onesSum_eq_ones_iff, ← Layout.udpSum,
    Layout.udpSum_withCheck, Layout.be16At_withCheck_eq_zero]
  exact complement_iff (Layout.udpSum_lt _ hlength) (Layout.toNat_calUdpCsum _ hlength)

/-- **A receiver takes a reply exactly when the words of its segment fold at once**: the pseudo-header
and the segment of the reply, which the query, the endpoint and the record determine. -/
theorem udp_checksum_iff {env : XdpEnv} {frame : List Byte}
    (htx : (ecnetDnsProxy env frame).1 = .tx) :
    ∃ (l : Layout) (c : Addr) (a : ARecord),
      l.bytes = frame ++ added env frame (queryOff + l.question.length + answerLen) ∧
      (parseQuery (frame.drop queryOff)).2 = l.question.length ∧
      env.endpt (read32 frame 30) = some c ∧
      env.resdb (parseQuery (frame.drop queryOff)).1 = some a ∧
      (ChecksumAccepted (ecnetDnsProxy env frame).2 ↔
        FoldsOnce (l.replyWith c a (block16 0) (block16 0)).udpSum) := by
  obtain ⟨c, body, rest, a, hm⟩ := exists_matched htx
  obtain ⟨l, hl, hquestion, hreply⟩ := exists_layout_reply hm htx
  obtain ⟨hparse, hrec⟩ := hm.parse
  refine ⟨l, c, a, by rw [hquestion, hl], by rw [hparse, hquestion]; rfl, hm.endpoint,
    by rw [hparse, hrec], ?_⟩
  have hchecked : (l.reply env c a).withCheck (calUdpCsum ((l.reply env c a).withCheck 0).bytes) =
      l.reply env c a := rfl
  have hsum : ((l.reply env c a).withCheck 0).udpSum =
      (l.replyWith c a (block16 0) (block16 0)).udpSum := by
    rw [l.reply_eq]
    rfl
  have hlength : (l.reply env c a).segment.length ≤ 1480 := by
    have hbound : body.length < 256 := hm.record.2.2.1
    have hanswer : (answerBytes a).length = 16 := rfl
    rw [l.reply_eq]
    simp only [Layout.segment, Layout.message, Layout.replyWith, List.length_append,
      List.length_cons, length_block, hquestion, hanswer]
    omega
  rw [hreply, ← hsum, ← accepted_iff _ hlength, hchecked]

/-- The query for `web.default` with the transaction id 0x1234: its reply is taken. -/
theorem udp_checksum_web :
    ChecksumAccepted (ecnetDnsProxy (webEnv true) (queryFrame 0 (webQuestion []))).2 ∧
      ∃ (l : Layout) (c : Addr) (a : ARecord),
        (webEnv true).endpt (read32 (queryFrame 0 (webQuestion [])) 30) = some c ∧
        FoldsOnce (l.replyWith c a (block16 0) (block16 0)).udpSum := by
  have haccepted : ChecksumAccepted
      (ecnetDnsProxy (webEnv true) (queryFrame 0 (webQuestion []))).2 := by decide +kernel
  obtain ⟨l, c, a, -, -, hc, -, hiff⟩ := udp_checksum_iff (webQuestion_tx 0 [])
  exact ⟨haccepted, l, c, a, hc, hiff.1 haccepted⟩

/-- The same query with the transaction id 0x50d0: the fold carries, and the reply is dropped. -/
theorem udp_checksum_carry :
    (ecnetDnsProxy (webEnv true) (patch (queryFrame 0 (webQuestion [])) 42 [0x50, 0xd0])).1 = .tx ∧
      ¬ ChecksumAccepted
        (ecnetDnsProxy (webEnv true) (patch (queryFrame 0 (webQuestion [])) 42 [0x50, 0xd0])).2 := by
  decide +kernel

end Bpf
