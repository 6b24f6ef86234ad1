import Mathlib.Algebra.BigOperators.Group.List.Basic
import Mathlib.Algebra.GroupWithZero.Nat
import ErieCanalNet.Lib.Bytes

/-!
# The Internet checksum (RFC 1071)

The checksum of a text is the complement of the one's complement sum of its 16-bit words in network
order (`internetChecksum`). One's complement addition has an end-around carry, so a sum is determined
by its residue modulo 65535 and by whether it is zero: `Represents r s` says that the 16 bits `r` are
the one's complement form of the sum `s`, and there is one such `r` (`Represents.unique`).

* `represents_onesSum`: the sum with end-around carries represents the plain sum;
* `Represents.fold`: so does every fold of the carries, done afterwards;
* `represents_swap16`: the sum of the words as a little-endian machine loads them is the sum in
  network order with its bytes swapped.
-/

namespace Lib

/-! ## Sums of words -/

/-- The words of a text in network order; an odd byte at the end is padded with zero. -/
def beWords : List Byte → List Nat
  | b0 :: b1 :: bs => (256 * b0.toNat + b1.toNat) :: beWords bs
  | [b] => [256 * b.toNat]
  | [] => []

/-- The words as a little-endian machine loads them. -/
def leWords : List Byte → List Nat
  | b0 :: b1 :: bs => (b0.toNat + 256 * b1.toNat) :: leWords bs
  | [b] => [b.toNat]
  | [] => []

/-- Addition with an end-around carry. -/
def onesAdd (a b : Nat) : Nat := if a + b < 65536 then a + b else a + b - 65535

/-- The one's complement sum. -/
def onesSum (ws : List Nat) : Nat := ws.foldl onesAdd 0

/-- The checksum of a text. -/
def internetChecksum (bs : List Byte) : Nat := 65535 - onesSum (beWords bs)

/-! ## One's complement forms -/

/-- The 16 bits `r` are the one's complement form of `s`. -/
structure Represents (r s : Nat) : Prop where
  lt : r < 65536
  mod : r % 65535 = s % 65535
  zero : r = 0 ↔ s = 0

namespace Represents

variable {r r' s s' : Nat}

theorem unique (h : Represents r s) (h' : Represents r' s) : r = r' := by
  obtain ⟨hlt, hmod, hzero⟩ := h
  obtain ⟨hlt', hmod', hzero'⟩ := h'
  omega

theorem of_congr (h : Represents r s) (hmod : s % 65535 = s' % 65535) (hzero : s = 0 ↔ s' = 0) :
    Represents r s' := ⟨h.lt, h.mod.trans hmod, h.zero.trans hzero⟩

/-- A sum with its carries added in is the same sum. -/
theorem fold_iff : Represents r (s % 65536 + s / 65536) ↔ Represents r s := by
  have hmod : (s % 65536 + s / 65536) % 65535 = s % 65535 := by omega
  have hzero : s % 65536 + s / 65536 = 0 ↔ s = 0 := by omega
  exact ⟨fun h => h.of_congr hmod hzero, fun h => h.of_congr hmod.symm hzero.symm⟩

theorem of_lt (h : s < 65536) : Represents s s := ⟨h, rfl, Iff.rfl⟩

/-- The form of all ones. -/
theorem eq_ones_iff (h : Represents r s) : r = 65535 ↔ s % 65535 = 0 ∧ s ≠ 0 := by
  obtain ⟨hlt, hmod, hzero⟩ := h
  omega

theorem onesAdd {w : Nat} (h : Represents r s) (hw : w < 65536) :
    Represents (onesAdd r w) (s + w) := by
  obtain ⟨hlt, hmod, hzero⟩ := h
  unfold Lib.onesAdd
  split
  · exact ⟨by omega, by omega, by omega⟩
  · exact ⟨by omega, by omega, by omega⟩

end Represents

theorem represents_foldl {ws : List Nat} (hws : ∀ w ∈ ws, w < 65536) {r s : Nat}
    (h : Represents r s) : Represents (ws.foldl onesAdd r) (s + ws.sum) := by
  induction ws generalizing r s with
  | nil => exact h
  | cons w ws ih =>
    rw [List.foldl_cons, List.sum_cons, ← Nat.add_assoc]
    exact ih (fun w' hw' => hws w' (.tail _ hw')) (h.onesAdd (hws w (.head _)))

/-- **The one's complement sum represents the sum.** -/
theorem represents_onesSum {ws : List Nat} (hws : ∀ w ∈ ws, w < 65536) :
    Represents (onesSum ws) ws.sum := by
  have h := represents_foldl hws (.of_lt (by decide : 0 < 65536))
  rwa [Nat.zero_add] at h

theorem lt_of_mem_beWords : ∀ {bs : List Byte}, ∀ w ∈ beWords bs, w < 65536
  | b0 :: b1 :: bs, w, hw => by
    rw [beWords, List.mem_cons] at hw
    obtain rfl | hw := hw
    · have := b0.isLt
      have := b1.isLt
      omega
    · exact lt_of_mem_beWords w hw
  | [b], w, hw => by
    rw [beWords, List.mem_singleton] at hw
    have := b.isLt
    omega
  | [], w, hw => by simp [beWords] at hw

/-! ## Byte order -/

/-- The two bytes of a word, swapped. -/
def swap16 (x : Nat) : Nat := x % 256 * 256 + x / 256

/-- Swapping the bytes of every word swaps those of the sum, up to the carries. -/
theorem sum_leWords_mod : ∀ bs : List Byte,
    (leWords bs).sum % 65535 = 256 * (beWords bs).sum % 65535
  | b0 :: b1 :: bs => by
    have ih := sum_leWords_mod bs
    rw [leWords, beWords, List.sum_cons, List.sum_cons]
    omega
  | [b] => by
    rw [leWords, beWords, List.sum_singleton, List.sum_singleton]
    omega
  | [] => rfl

theorem sum_leWords_eq_zero : ∀ bs : List Byte, (leWords bs).sum = 0 ↔ (beWords bs).sum = 0
  | b0 :: b1 :: bs => by
    have ih := sum_leWords_eq_zero bs
    rw [leWords, beWords, List.sum_cons, List.sum_cons]
    omega
  | [b] => by
    rw [leWords, beWords, List.sum_singleton, List.sum_singleton]
    omega
  | [] => Iff.rfl

/-- **The sum does not depend on the byte order**, but for the order of its own bytes. -/
theorem represents_swap16 {bs : List Byte} {r : Nat} (h : Represents r (beWords bs).sum) :
    Represents (swap16 r) (leWords bs).sum := by
  have hmod := sum_leWords_mod bs
  have hzero := sum_leWords_eq_zero bs
  obtain ⟨hlt, hmod', hzero'⟩ := h
  unfold swap16
  exact ⟨by omega, by omega, by omega⟩

/-- A text whose checksum field is right sums to all ones, in either byte order. -/
theorem onesSum_eq_ones_iff (bs : List Byte) : onesSum (beWords bs) = 65535 ↔
    (leWords bs).sum % 65535 = 0 ∧ (leWords bs).sum ≠ 0 := by
  have hmod := sum_leWords_mod bs
  have hzero := sum_leWords_eq_zero bs
  rw [(represents_onesSum lt_of_mem_beWords).eq_ones_iff]
  omega

/-- No word is larger than 65535 times its bytes. -/
theorem sum_leWords_le : ∀ bs : List Byte, (leWords bs).sum ≤ 65535 * bs.length
  | b0 :: b1 :: bs => by
    have ih := sum_leWords_le bs
    have := b0.isLt
    have := b1.isLt
    rw [leWords, List.sum_cons, List.length_cons, List.length_cons]
    omega
  | [b] => by
    have := b.isLt
    rw [leWords, List.sum_singleton, List.length_singleton]
    omega
  | [] => Nat.zero_le _

/-- A sum that starts with whole words. -/
theorem sum_leWords_append (bs' : List Byte) : ∀ {bs : List Byte}, bs.length % 2 = 0 →
    (leWords (bs ++ bs')).sum = (leWords bs).sum + (leWords bs').sum
  | [], _ => by simp [leWords]
  | [b], h => by simp at h
  | b0 :: b1 :: bs, h => by
    have heven : bs.length % 2 = 0 := by
      simp only [List.length_cons] at h
      omega
    have ih := sum_leWords_append bs' heven
    rw [List.cons_append, List.cons_append, leWords, leWords, List.sum_cons, List.sum_cons, ih]
    omega

end Lib
