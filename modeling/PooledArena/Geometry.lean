import PooledArena.Layout
import PooledArena.Error

/-!
# `PooledArena.Geometry`: how the offsets of an arena fall into pools

An arena has `poolCount` pools of one size, and the size is a power of two.
Offset `n` of the arena lies in pool `n / poolSize`, at place `n % poolSize` of
it; `Geometry.locate` finds both by a shift and a mask. All pools together stay
below `0x8000000000000000`, so half of the words are left beyond the capacity.

The lemmas say what the words of a geometry are as natural numbers:

* `toNat_poolSize`, `toNat_capacity`: the shifts lose no bit.
* `locate_index`, `locate_offset`: shift and mask are quotient and remainder.
-/

set_option autoImplicit false

namespace PooledArena

/-- Pool buffers are aligned to this, and smaller pools to their own size. -/
def maxPoolAlign : Word := 64

/-- A pool and an offset inside it. -/
structure Place where
  index : Nat
  offset : Word
  deriving DecidableEq

/-- How many pools there are, and the binary logarithm of their size. -/
@[ext]
structure Geometry where
  poolCount : Word
  shift : Word
  poolCount_pos : 0 < poolCount.toNat
  capacity_lt : poolCount.toNat <<< shift.toNat < 0x8000000000000000
  deriving DecidableEq

namespace Geometry

variable (g : Geometry)

/-- The size of every pool. -/
def poolSize : Word :=
  1 <<< g.shift

/-- How many bytes the pools hold together. -/
def capacity : Word :=
  g.poolCount <<< g.shift

/-- Split an offset into its pool and the place there. An offset beyond the
capacity gets an index beyond the last pool. -/
def locate (offset : Word) : Place :=
  ⟨(offset >>> g.shift).toNat, offset &&& (g.poolSize - 1)⟩

/-- A shift by 63 or more would leave no room for a single pool. -/
theorem shift_lt : g.shift.toNat < 63 :=
  lt_of_shiftLeft_lt g.poolCount_pos g.capacity_lt

theorem toNat_capacity_eq_shiftLeft : g.capacity.toNat = g.poolCount.toNat <<< g.shift.toNat := by
  have hshift := g.shift_lt
  have hlt := g.capacity_lt
  rw [capacity, UInt64.toNat_shiftLeft, Nat.mod_eq_of_lt (show g.shift.toNat < 64 by omega),
    Nat.mod_eq_of_lt (by omega)]

theorem toNat_capacity_lt : g.capacity.toNat < 0x8000000000000000 := by
  rw [toNat_capacity_eq_shiftLeft]
  exact g.capacity_lt

theorem toNat_poolSize : g.poolSize.toNat = 1 <<< g.shift.toNat := by
  have hshift := g.shift_lt
  have hle : 1 <<< g.shift.toNat ≤ g.poolCount.toNat <<< g.shift.toNat := by
    rw [Nat.shiftLeft_eq, Nat.shiftLeft_eq]
    exact Nat.mul_le_mul_right _ g.poolCount_pos
  have hlt := g.capacity_lt
  rw [poolSize, UInt64.toNat_shiftLeft, Nat.mod_eq_of_lt (show g.shift.toNat < 64 by omega),
    UInt64.toNat_one, Nat.mod_eq_of_lt (by omega)]

theorem isPowerOfTwo_poolSize : Word.IsPowerOfTwo g.poolSize :=
  ⟨_, g.toNat_poolSize⟩

theorem poolSize_pos : 0 < g.poolSize.toNat :=
  g.isPowerOfTwo_poolSize.pos

theorem toNat_capacity : g.capacity.toNat = g.poolCount.toNat * g.poolSize.toNat := by
  rw [toNat_capacity_eq_shiftLeft, toNat_poolSize, Nat.one_shiftLeft, Nat.shiftLeft_eq]

theorem toNat_poolSize_le_capacity : g.poolSize.toNat ≤ g.capacity.toNat := by
  rw [toNat_capacity]
  exact Nat.le_mul_of_pos_left _ g.poolCount_pos

/-- The powers of two below `0x8000000000000000` end at half of it. -/
theorem toNat_poolSize_le : g.poolSize.toNat ≤ 0x4000000000000000 := by
  have hshift := g.shift_lt
  rw [toNat_poolSize, Nat.one_shiftLeft]
  exact Nat.pow_le_pow_right (by decide) (show g.shift.toNat ≤ 62 by omega)

theorem locate_index (offset : Word) :
    (g.locate offset).index = offset.toNat / g.poolSize.toNat := by
  have hshift := g.shift_lt
  rw [locate, toNat_poolSize, UInt64.toNat_shiftRight,
    Nat.mod_eq_of_lt (show g.shift.toNat < 64 by omega), Nat.shiftRight_eq_div_pow,
    Nat.one_shiftLeft]

theorem locate_offset (offset : Word) :
    (g.locate offset).offset.toNat = offset.toNat % g.poolSize.toNat :=
  Word.toNat_and_sub_one g.isPowerOfTwo_poolSize

/-- The alignment of a pool buffer. -/
def bufferAlign : Word :=
  min g.poolSize maxPoolAlign

/-- Both choices are powers of two. -/
theorem isPowerOfTwo_bufferAlign : Word.IsPowerOfTwo g.bufferAlign := by
  unfold bufferAlign
  by_cases h : g.poolSize ≤ maxPoolAlign
  · rw [show min g.poolSize maxPoolAlign = g.poolSize from if_pos h]
    exact g.isPowerOfTwo_poolSize
  · rw [show min g.poolSize maxPoolAlign = maxPoolAlign from if_neg h]
    exact ⟨6, rfl⟩

/-- The buffers of large pools are aligned to 64, those of smaller ones to the pool size. -/
theorem toNat_bufferAlign : g.bufferAlign.toNat = min 64 g.poolSize.toNat := by
  rw [bufferAlign, Word.toNat_min, Nat.min_comm]
  rfl

theorem bufferAlign_le_poolSize : g.bufferAlign.toNat ≤ g.poolSize.toNat := by
  rw [toNat_bufferAlign]
  exact Nat.min_le_right _ _

/-- The memory of one pool. Its alignment is at most its size, and the two
together are at most `0x8000000000000000`, so they make a layout. -/
def bufferLayout : Layout where
  size := g.poolSize
  align := g.bufferAlign
  isPowerOfTwo_align := g.isPowerOfTwo_bufferAlign
  size_add_align_le := by
    have hle := g.bufferAlign_le_poolSize
    have hsize := g.toNat_poolSize_le
    omega

/-- The shape of `poolCount` pools whose size is the least power of two that is
at least `minPoolSize`. The test is on exact numbers: a pool size that does not
fit in a word fails it too. -/
def ofSizes (poolCount minPoolSize : Word) : Except Error Geometry :=
  let shift := ceilLog2 (max minPoolSize.toNat 1)
  if hzero : poolCount.toNat = 0 then
    .error .invalidPoolCount
  else if hlt : poolCount.toNat <<< shift < 0x8000000000000000 then
    .ok {
      poolCount
      shift := UInt64.ofNat shift
      poolCount_pos := Nat.pos_of_ne_zero hzero
      capacity_lt := by
        have hshift : shift < 63 := lt_of_shiftLeft_lt (Nat.pos_of_ne_zero hzero) hlt
        rwa [UInt64.toNat_ofNat', Nat.mod_eq_of_lt (by omega)]
    }
  else
    .error .poolSizeOverflow

end Geometry

end PooledArena
