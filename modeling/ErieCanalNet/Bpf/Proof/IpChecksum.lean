import ErieCanalNet.Bpf.DnsProxy
import ErieCanalNet.Lib.Checksum
import ErieCanalNet.Lib.Dns

/-!
# The checksum of the IP header

`ipv4_csum` folds a 64-bit value four times. The helper of the kernel returns the sum of the header
in some form, as an `int`: a value with the sign bit is extended by 32 ones, which is a multiple of
65535 (`toNat_signExtend_mod`). Four folds leave 16 bits of any 64-bit value (`toNat_csumFolds_lt`),
and each keeps what the value represents, so that the result is the checksum of RFC 1071, stored in
network order (`ipv4_csum_rfc1071`).
-/

namespace Bpf

open Lib

/-! ## The folds -/

/-- One conditional fold of `csum_fold_helper`. -/
def csumFold (csum : BitVec 64) : BitVec 64 :=
  if csum >>> 16 ≠ 0 then (csum &&& 0xffff#64) + (csum >>> 16) else csum

/-- The value `csum_fold_helper` takes the complement of. -/
def csumFolds (csum : BitVec 64) : BitVec 64 := csumFold (csumFold (csumFold (csumFold csum)))

theorem csumFoldHelper_eq (csum : BitVec 64) :
    csumFoldHelper csum = ~~~((csumFolds csum).setWidth 16) := rfl

theorem toNat_csumFold (csum : BitVec 64) :
    (csumFold csum).toNat = csum.toNat % 65536 + csum.toNat / 65536 := by
  have hlt := csum.isLt
  have hlow : (csum &&& 0xffff#64).toNat = csum.toNat % 65536 := by
    rw [BitVec.toNat_and]
    exact Nat.and_two_pow_sub_one_eq_mod csum.toNat 16
  have hhigh : (csum >>> 16).toNat = csum.toNat / 65536 := by
    rw [BitVec.toNat_ushiftRight, Nat.shiftRight_eq_div_pow]
  unfold csumFold
  split
  · rw [BitVec.toNat_add, hlow, hhigh]
    omega
  · rename_i hzero
    rw [ne_eq, not_not, ← BitVec.toNat_inj, hhigh] at hzero
    change csum.toNat / 65536 = 0 at hzero
    omega

/-- Each fold halves what is above the low word; the fourth leaves nothing. -/
theorem toNat_csumFolds_lt (csum : BitVec 64) : (csumFolds csum).toNat < 65536 := by
  have h₀ := csum.isLt
  have h₁ : (csumFold csum).toNat ≤ 2 ^ 48 + 65534 := by
    rw [toNat_csumFold]
    omega
  have h₂ : (csumFold (csumFold csum)).toNat ≤ 2 ^ 32 + 65534 := by
    rw [toNat_csumFold]
    omega
  have h₃ : (csumFold (csumFold (csumFold csum))).toNat ≤ 2 ^ 16 + 65534 := by
    rw [toNat_csumFold]
    omega
  rw [csumFolds, toNat_csumFold]
  omega

/-- **The folds keep the sum.** -/
theorem represents_csumFolds (csum : BitVec 64) :
    Represents (csumFolds csum).toNat csum.toNat := by
  have h := Represents.of_lt (toNat_csumFolds_lt csum)
  rw [csumFolds, toNat_csumFold, Represents.fold_iff, toNat_csumFold, Represents.fold_iff,
    toNat_csumFold, Represents.fold_iff, toNat_csumFold, Represents.fold_iff] at h
  rwa [csumFolds, toNat_csumFold, toNat_csumFold, toNat_csumFold, toNat_csumFold]

/-! ## The helper's value -/

/-- The ones of a sign extension are a multiple of 65535. -/
theorem toNat_signExtend_mod (v : BitVec 32) :
    (v.signExtend 64).toNat % 65535 = v.toNat % 65535 := by
  rw [BitVec.toNat_signExtend]
  split
  · rw [BitVec.toNat_setWidth]
    omega
  · rw [BitVec.toNat_setWidth]
    omega

theorem signExtend_eq_zero {v : BitVec 32} : (v.signExtend 64).toNat = 0 ↔ v.toNat = 0 := by
  have hlt := v.isLt
  rw [BitVec.toNat_signExtend, BitVec.toNat_setWidth]
  split
  · rename_i hsign
    rw [BitVec.msb_eq_decide, decide_eq_true_eq] at hsign
    omega
  · omega

/-- What `bpf_csum_diff` may return for a header: the sum of its words, with any number of carries
added in. -/
structure HeaderSum (header : List Byte) (v : BitVec 32) : Prop where
  mod : v.toNat % 65535 = (leWords header).sum % 65535
  zero : v.toNat = 0 ↔ (leWords header).sum = 0

/-! ## The result -/

theorem toNat_ipv4Csum (env : XdpEnv) {header : List Byte}
    (h : HeaderSum header (env.csumDiff header)) :
    (ipv4Csum env header).toNat = 65535 - swap16 (onesSum (beWords header)) := by
  have hfolds : Represents (csumFolds ((env.csumDiff header).signExtend 64)).toNat
      (leWords header).sum :=
    (represents_csumFolds _).of_congr ((toNat_signExtend_mod _).trans h.mod)
      (signExtend_eq_zero.trans h.zero)
  have hsum : Represents (swap16 (onesSum (beWords header))) (leWords header).sum :=
    represents_swap16 (represents_onesSum lt_of_mem_beWords)
  have hlt := hfolds.lt
  rw [ipv4Csum, csumFoldHelper_eq, BitVec.toNat_not, BitVec.toNat_setWidth, hfolds.unique hsum]
  rw [hfolds.unique hsum] at hlt
  omega

/-- A word with swapped bytes is stored as the word in network order. -/
theorem bytes16_of_swap16 {x y : BitVec 16} (h : x.toNat = swap16 y.toNat) :
    bytes16 x = Dns.be16 y := by
  have hy := y.isLt
  have hlow : byteOf x 0 = byteOf y 1 := by
    rw [← BitVec.toNat_inj, toNat_byteOf, toNat_byteOf, h, swap16, Nat.mul_zero, Nat.mul_one,
      Nat.pow_zero]
    omega
  have hhigh : byteOf x 1 = byteOf y 0 := by
    have hdiv : (y.toNat % 256 * 256 + y.toNat / 256) / 256 = y.toNat % 256 := by omega
    rw [← BitVec.toNat_inj, toNat_byteOf, toNat_byteOf, h, swap16, Nat.mul_zero, Nat.mul_one,
      Nat.pow_zero, Nat.div_one]
    rw [show 2 ^ 8 = 256 from rfl, hdiv, Nat.mod_mod]
  rw [bytes16, Dns.be16, hlow, hhigh]

/-- **The IP checksum is that of RFC 1071**, in network order, whatever form of the sum the helper
returns; and four folds leave no carry of any value. -/
theorem ipv4_csum_rfc1071 (env : XdpEnv) (header : List Byte)
    (h : HeaderSum header (env.csumDiff header)) :
    bytes16 (ipv4Csum env header) = Dns.be16 (BitVec.ofNat 16 (internetChecksum header)) ∧
      ∀ csum : BitVec 64, csumFolds csum >>> 16 = 0 := by
  constructor
  · have hlt : onesSum (beWords header) < 65536 := (represents_onesSum lt_of_mem_beWords).lt
    refine bytes16_of_swap16 ?_
    rw [toNat_ipv4Csum env h, BitVec.toNat_ofNat, internetChecksum, swap16, swap16]
    omega
  · intro csum
    have hlt := toNat_csumFolds_lt csum
    rw [← BitVec.toNat_inj, BitVec.toNat_ushiftRight, Nat.shiftRight_eq_div_pow]
    change (csumFolds csum).toNat / 65536 = 0
    omega

/-- A header from 10.0.0.1 to 10.0.0.2, with its checksum field zeroed. -/
def plainHeader : List Byte :=
  [0x45, 0, 0, 40, 0, 0, 0, 0, 64, 17, 0, 0, 10, 0, 0, 1, 10, 0, 0, 2]

/-- Its sum, returned as a negative number. -/
theorem ipv4_csum_plainHeader :
    bytes16 (ipv4Csum ⟨fun _ => none, fun _ => none, true, fun _ => 0, fun _ => 0xffff3c99⟩
        plainHeader) = Dns.be16 (BitVec.ofNat 16 (internetChecksum plainHeader)) ∧
      ∀ csum : BitVec 64, csumFolds csum >>> 16 = 0 :=
  ipv4_csum_rfc1071 _ _ ⟨by decide, by decide⟩

end Bpf
