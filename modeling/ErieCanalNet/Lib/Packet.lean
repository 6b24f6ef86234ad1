import Mathlib.Data.List.GetD
import ErieCanalNet.Lib.Bytes

/-!
# Packets as bytes

A packet is the list of its bytes. `byteAt`, `read16`, `read32` load at an offset, `patch` and
`write16`, `write32` store at one and keep the length. A store leaves every byte outside its
range alone (`byteAt_patch`); `Keeps` says this of a sequence of stores, one rule for each kind
of store.

A packet made of blocks is edited block by block: a load or a store skips the blocks before its
offset (`patch_block`, `byteAt_block`) and takes or replaces the block at it (`patch_zero`,
`block16_read16`, `block32_read32`).
-/

namespace Lib

/-- The byte at an offset; callers stay inside the packet. -/
def byteAt (p : List Byte) (i : Nat) : Byte := p.getD i 0

def read16 (p : List Byte) (i : Nat) : BitVec 16 := le16 (byteAt p i) (byteAt p (i + 1))

def read32 (p : List Byte) (i : Nat) : BitVec 32 :=
  le32 (byteAt p i) (byteAt p (i + 1)) (byteAt p (i + 2)) (byteAt p (i + 3))

/-- Overwrite the bytes at an offset. -/
def patch (p : List Byte) (i : Nat) (bs : List Byte) : List Byte :=
  p.take i ++ bs ++ p.drop (i + bs.length)

/-- The bytes a 16-bit word is stored as. -/
def bytes16 (x : BitVec 16) : List Byte := [byteOf x 0, byteOf x 1]

/-- The bytes a 32-bit word is stored as. -/
def bytes32 (x : BitVec 32) : List Byte := [byteOf x 0, byteOf x 1, byteOf x 2, byteOf x 3]

def write16 (p : List Byte) (i : Nat) (x : BitVec 16) : List Byte := patch p i (bytes16 x)

def write32 (p : List Byte) (i : Nat) (x : BitVec 32) : List Byte := patch p i (bytes32 x)

/-! ## Loads -/

variable {p bs : List Byte} {i j : Nat}

theorem byteAt_drop (p : List Byte) (i j : Nat) : byteAt (p.drop i) j = byteAt p (i + j) := by
  simp [byteAt, List.getD_eq_getElem?_getD]

theorem byteAt_take (h : j < i) : byteAt (p.take i) j = byteAt p j := by
  simp [byteAt, List.getD_eq_getElem?_getD, h]

theorem byteAt_append_left (h : j < p.length) : byteAt (p ++ bs) j = byteAt p j := by
  rw [byteAt, List.getD_append _ _ _ _ h, byteAt]

theorem byteAt_append_length (p bs : List Byte) (i : Nat) :
    byteAt (p ++ bs) (p.length + i) = byteAt bs i := by
  rw [byteAt, List.getD_append_right _ _ _ _ (Nat.le_add_right _ _), Nat.add_sub_cancel_left, byteAt]

/-- A word that ends a packet. -/
theorem read32_append_bytes32 (p : List Byte) (x : BitVec 32) :
    read32 (p ++ bytes32 x) p.length = x := by
  have h0 := byteAt_append_length p (bytes32 x) 0
  rw [Nat.add_zero] at h0
  rw [read32, h0, byteAt_append_length, byteAt_append_length, byteAt_append_length]
  exact le32_byteOf x

/-! ## Stores -/

theorem length_patch (h : i + bs.length ≤ p.length) : (patch p i bs).length = p.length := by
  simp only [patch, List.length_append, List.length_take, List.length_drop]
  omega

theorem length_patch_one {b : Byte} (h : i < p.length) : (patch p i [b]).length = p.length :=
  length_patch h

@[simp] theorem length_bytes16 (x : BitVec 16) : (bytes16 x).length = 2 := rfl

@[simp] theorem length_bytes32 (x : BitVec 32) : (bytes32 x).length = 4 := rfl

theorem length_write16 {x : BitVec 16} (h : i + 2 ≤ p.length) :
    (write16 p i x).length = p.length := length_patch h

/-- A store, byte by byte. -/
theorem byteAt_patch (h : i + bs.length ≤ p.length) (j : Nat) :
    byteAt (patch p i bs) j =
      if i ≤ j ∧ j < i + bs.length then byteAt bs (j - i) else byteAt p j := by
  have hlen : (p.take i).length = i := by rw [List.length_take]; omega
  unfold byteAt patch
  by_cases hlt : j < i
  · rw [if_neg (by omega), List.append_assoc, List.getD_append _ _ _ _ (by omega),
      List.getD_eq_getElem?_getD, List.getElem?_take_of_lt hlt, List.getD_eq_getElem?_getD]
  · by_cases hin : j < i + bs.length
    · rw [if_pos ⟨by omega, hin⟩, List.append_assoc, List.getD_append_right _ _ _ _ (by omega),
        hlen, List.getD_append _ _ _ _ (by omega)]
    · rw [if_neg (by omega),
        List.getD_append_right _ _ _ _ (by rw [List.length_append]; omega),
        List.length_append, hlen, List.getD_eq_getElem?_getD, List.getElem?_drop,
        List.getD_eq_getElem?_getD]
      congr 2
      omega

theorem byteAt_patch_one {b : Byte} (h : i < p.length) (j : Nat) :
    byteAt (patch p i [b]) j = if j = i then b else byteAt p j := by
  rw [byteAt_patch (show i + [b].length ≤ p.length from h)]
  by_cases hj : j = i
  · subst hj; simp [byteAt]
  · rw [if_neg (by simp only [List.length_singleton]; omega), if_neg hj]

theorem byteAt_write16 {x : BitVec 16} (h : i + 2 ≤ p.length) (j : Nat) :
    byteAt (write16 p i x) j =
      if j = i then byteOf x 0 else if j = i + 1 then byteOf x 1 else byteAt p j := by
  rw [write16, byteAt_patch h, length_bytes16]
  by_cases h0 : j = i
  · subst h0; simp [byteAt, bytes16]
  · by_cases h1 : j = i + 1
    · subst h1; simp [byteAt, bytes16]
    · rw [if_neg (by omega), if_neg h0, if_neg h1]

/-! ## What a sequence of stores keeps -/

/-- An edit that keeps the length and the bytes at the offsets `J`. -/
structure Keeps (J : Nat → Prop) (p p' : List Byte) : Prop where
  length : p'.length = p.length
  byteAt : ∀ j, J j → byteAt p' j = byteAt p j

variable {J : Nat → Prop} {p' : List Byte}

theorem Keeps.refl (J : Nat → Prop) (p : List Byte) : Keeps J p p := ⟨rfl, fun _ _ => rfl⟩

/-- A store outside the offsets keeps them. -/
theorem Keeps.patch (hk : Keeps J p p') (h : i + bs.length ≤ p.length)
    (hJ : ∀ j, J j → j < i ∨ i + bs.length ≤ j) : Keeps J p (patch p' i bs) := by
  rw [← hk.length] at h
  refine ⟨by rw [length_patch h, hk.length], fun j hj => ?_⟩
  have hout := hJ j hj
  rw [byteAt_patch h, if_neg (by omega), hk.byteAt j hj]

theorem Keeps.write16 {x : BitVec 16} (hk : Keeps J p p') (h : i + 2 ≤ p.length)
    (hJ : ∀ j, J j → j < i ∨ i + 2 ≤ j) : Keeps J p (write16 p' i x) := hk.patch h hJ

theorem Keeps.write32 {x : BitVec 32} (hk : Keeps J p p') (h : i + 4 ≤ p.length)
    (hJ : ∀ j, J j → j < i ∨ i + 4 ≤ j) : Keeps J p (write32 p' i x) := hk.patch h hJ

/-- The tail of a packet is kept with its bytes. -/
theorem Keeps.drop (hk : Keeps J p p') (hJ : ∀ j, i ≤ j → J j) : p'.drop i = p.drop i := by
  apply List.ext_getElem
  · rw [List.length_drop, List.length_drop, hk.length]
  · intro n h1 h2
    rw [List.length_drop] at h1 h2
    have hbyte := hk.byteAt (i + n) (hJ _ (by omega))
    rw [Lib.byteAt, Lib.byteAt, List.getD_eq_getElem _ _ (by omega),
      List.getD_eq_getElem _ _ (by omega)] at hbyte
    rw [List.getElem_drop, List.getElem_drop, hbyte]

/-! ## Packets made of blocks -/

/-- A block of `n` bytes. -/
abbrev Block (n : Nat) := { bs : List Byte // bs.length = n }

def be16Block (x : BitVec 16) : Block 2 := ⟨[byteOf x 1, byteOf x 0], rfl⟩

def block16 (x : BitVec 16) : Block 2 := ⟨bytes16 x, rfl⟩

def block32 (x : BitVec 32) : Block 4 := ⟨bytes32 x, rfl⟩

/-- The block at an offset. -/
def slice (p : List Byte) (i n : Nat) (h : i + n ≤ p.length) : Block n :=
  ⟨(p.drop i).take n, List.length_take_of_le (by rw [List.length_drop]; omega)⟩

/-- A block and what follows it. -/
theorem slice_append {n : Nat} (h : i + n ≤ p.length) (hj : i + n = j) :
    (slice p i n h).1 ++ p.drop j = p.drop i := by
  rw [slice, ← hj, ← List.drop_drop, List.take_append_drop]

theorem byteAt_cons_drop (h : i < p.length) (hj : i + 1 = j) :
    byteAt p i :: p.drop j = p.drop i := by
  rw [byteAt, List.getD_eq_getElem _ _ h, ← hj, List.drop_eq_getElem_cons h]

section Blocks

variable {n : Nat} (a : Block n) (rest : List Byte)

@[simp] theorem length_block : a.1.length = n := a.2

theorem length_block_le (h : n ≤ i) : a.1.length ≤ i := (length_block a).symm ▸ h

@[simp] theorem take_block (h : n ≤ i) : (a.1 ++ rest).take i = a.1 ++ rest.take (i - n) := by
  rw [List.take_append, length_block, List.take_of_length_le (length_block_le a h)]

@[simp] theorem drop_block (h : n ≤ i) : (a.1 ++ rest).drop i = rest.drop (i - n) := by
  rw [List.drop_append, length_block, List.drop_eq_nil_of_le (length_block_le a h), List.nil_append]

@[simp] theorem byteAt_block (h : n ≤ i) : byteAt (a.1 ++ rest) i = byteAt rest (i - n) := by
  rw [byteAt, List.getD_append_right _ _ _ _ (length_block_le a h), length_block, byteAt]

@[simp] theorem patch_block (h : n ≤ i) :
    patch (a.1 ++ rest) i bs = a.1 ++ patch rest (i - n) bs := by
  have hdrop : i + bs.length - n = i - n + bs.length := by omega
  rw [patch, patch, take_block a rest h, drop_block a rest (by omega), hdrop, List.append_assoc,
    List.append_assoc, List.append_assoc]

@[simp] theorem read16_block (h : n ≤ i) : read16 (a.1 ++ rest) i = read16 rest (i - n) := by
  rw [read16, read16, byteAt_block a rest h, byteAt_block a rest (by omega),
    Nat.sub_add_comm h]

@[simp] theorem read32_block (h : n ≤ i) : read32 (a.1 ++ rest) i = read32 rest (i - n) := by
  rw [read32, read32, byteAt_block a rest h, byteAt_block a rest (by omega),
    byteAt_block a rest (by omega), byteAt_block a rest (by omega), Nat.sub_add_comm h,
    Nat.sub_add_comm h, Nat.sub_add_comm h]

@[simp] theorem patch_zero (p bs : List Byte) : patch p 0 bs = bs ++ p.drop bs.length := by
  simp [patch]

@[simp] theorem patch_cons (b : Byte) (h : 0 < i) :
    patch (b :: rest) i bs = b :: patch rest (i - 1) bs := by
  obtain ⟨i, rfl⟩ : ∃ k, i = k + 1 := ⟨i - 1, by omega⟩
  rw [patch, patch, Nat.add_right_comm, List.take_succ_cons, List.drop_succ_cons,
    Nat.add_sub_cancel]
  rfl

@[simp] theorem byteAt_cons_zero (b : Byte) : byteAt (b :: rest) 0 = b := rfl

@[simp] theorem byteAt_cons (b : Byte) (h : 0 < i) : byteAt (b :: rest) i = byteAt rest (i - 1) := by
  obtain ⟨i, rfl⟩ : ∃ k, i = k + 1 := ⟨i - 1, by omega⟩
  rfl

end Blocks

@[simp] theorem block16_read16 (a : Block 2) (rest : List Byte) :
    block16 (read16 (a.1 ++ rest) 0) = a := by
  obtain ⟨bs, hbs⟩ := a
  match bs, hbs with
  | [b0, b1], _ => simp [block16, read16, bytes16, byteAt]

@[simp] theorem block32_read32 (a : Block 4) (rest : List Byte) :
    block32 (read32 (a.1 ++ rest) 0) = a := by
  obtain ⟨bs, hbs⟩ := a
  match bs, hbs with
  | [b0, b1, b2, b3], _ => simp [block32, read32, bytes32, byteAt]

end Lib
