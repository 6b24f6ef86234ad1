import Mathlib.Algebra.Group.Nat.Defs
import Mathlib.Data.List.Basic

/-!
# Machine words as bytes

Words of a little-endian machine and the bytes they are stored in: `le16`/`le32` load a word
from its bytes in memory order, `byteOf` is a byte of a word, `bswap16`/`bswap32` reverse the
bytes (`htons`/`htonl` on this machine). A swapped load is the load of the reversed bytes
(`bswap16_le16`), so a swap is its own inverse and loses nothing (`bswap16_inj`).
-/

namespace Lib

abbrev Byte := BitVec 8

/-- Byte `i` of a word, byte 0 the least significant. -/
def byteOf {w : Nat} (x : BitVec w) (i : Nat) : Byte := x.extractLsb' (8 * i) 8

/-- The 16-bit word stored as the bytes `b0 b1`. -/
def le16 (b0 b1 : Byte) : BitVec 16 := b1 ++ b0

/-- The 32-bit word stored as the bytes `b0 b1 b2 b3`. -/
def le32 (b0 b1 b2 b3 : Byte) : BitVec 32 := b3 ++ b2 ++ b1 ++ b0

def bswap16 (x : BitVec 16) : BitVec 16 := le16 (byteOf x 1) (byteOf x 0)

def bswap32 (x : BitVec 32) : BitVec 32 :=
  le32 (byteOf x 3) (byteOf x 2) (byteOf x 1) (byteOf x 0)

/-! ## Values -/

theorem toNat_append_byte {w : Nat} (x : BitVec w) (b : Byte) :
    (x ++ b).toNat = 256 * x.toNat + b.toNat := by
  rw [BitVec.toNat_append, ← Nat.shiftLeft_add_eq_or_of_lt b.isLt, Nat.shiftLeft_eq]
  omega

theorem toNat_byteOf {w : Nat} (x : BitVec w) (i : Nat) :
    (byteOf x i).toNat = x.toNat / 2 ^ (8 * i) % 256 := by
  rw [byteOf, BitVec.extractLsb'_toNat, Nat.shiftRight_eq_div_pow]

theorem toNat_le16 (b0 b1 : Byte) : (le16 b0 b1).toNat = b0.toNat + 256 * b1.toNat := by
  rw [le16, toNat_append_byte]; omega

@[simp] theorem byteOf_le16_zero (b0 b1 : Byte) : byteOf (le16 b0 b1) 0 = b0 := by
  simp only [← BitVec.toNat_inj, toNat_byteOf, toNat_le16]
  omega

@[simp] theorem byteOf_le16_one (b0 b1 : Byte) : byteOf (le16 b0 b1) 1 = b1 := by
  simp only [← BitVec.toNat_inj, toNat_byteOf, toNat_le16]
  omega

theorem toNat_le32 (b0 b1 b2 b3 : Byte) : (le32 b0 b1 b2 b3).toNat =
    b0.toNat + 256 * b1.toNat + 65536 * b2.toNat + 16777216 * b3.toNat := by
  rw [le32, toNat_append_byte, toNat_append_byte, toNat_append_byte]; omega

@[simp] theorem byteOf_le32_zero (b0 b1 b2 b3 : Byte) : byteOf (le32 b0 b1 b2 b3) 0 = b0 := by
  simp only [← BitVec.toNat_inj, toNat_byteOf, toNat_le32]
  omega

@[simp] theorem byteOf_le32_one (b0 b1 b2 b3 : Byte) : byteOf (le32 b0 b1 b2 b3) 1 = b1 := by
  simp only [← BitVec.toNat_inj, toNat_byteOf, toNat_le32]
  omega

@[simp] theorem byteOf_le32_two (b0 b1 b2 b3 : Byte) : byteOf (le32 b0 b1 b2 b3) 2 = b2 := by
  simp only [← BitVec.toNat_inj, toNat_byteOf, toNat_le32]
  omega

@[simp] theorem byteOf_le32_three (b0 b1 b2 b3 : Byte) : byteOf (le32 b0 b1 b2 b3) 3 = b3 := by
  simp only [← BitVec.toNat_inj, toNat_byteOf, toNat_le32]
  omega

/-- A word is the load of its own bytes. -/
@[simp] theorem le16_byteOf (x : BitVec 16) : le16 (byteOf x 0) (byteOf x 1) = x := by
  have := x.isLt
  simp only [← BitVec.toNat_inj, toNat_byteOf, toNat_le16, Nat.reduceMul, Nat.reducePow,
    Nat.div_one]
  omega

@[simp] theorem le32_byteOf (x : BitVec 32) :
    le32 (byteOf x 0) (byteOf x 1) (byteOf x 2) (byteOf x 3) = x := by
  have := x.isLt
  simp only [← BitVec.toNat_inj, toNat_byteOf, toNat_le32, Nat.reduceMul, Nat.reducePow,
    Nat.div_one]
  omega

@[simp] theorem bswap16_le16 (b0 b1 : Byte) : bswap16 (le16 b0 b1) = le16 b1 b0 := by
  simp [bswap16]

@[simp] theorem bswap16_bswap16 (x : BitVec 16) : bswap16 (bswap16 x) = x := by
  simp [bswap16]

theorem bswap16_inj {x y : BitVec 16} : bswap16 x = bswap16 y ↔ x = y :=
  ⟨fun h => by rw [← bswap16_bswap16 x, h, bswap16_bswap16], congrArg _⟩

end Lib
