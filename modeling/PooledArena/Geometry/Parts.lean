import PooledArena.Geometry

/-!
# `PooledArena.Geometry.Parts`: the numbers of a geometry, checked in words

`Geometry.ofSizes` makes one test of the sizes of an arena, in exact arithmetic. Who has words
only takes several checks, one after the other: is there a pool at all, is the pool size still
a word when it is rounded up to a power of two, is the capacity one, and small enough, and has
the memory of a pool a layout. `Parts.ofSizes` goes through these checks, and tells which of
them the sizes fail.

What it comes to are words as well. The pool size is kept as a mask for offsets inside a pool,
and once more as the number of bits that the index of a pool is shifted by.
-/

set_option autoImplicit false

namespace PooledArena

/-! ### Powers of two in words -/

namespace Word

/-- How many zeros come before the highest one. -/
def leadingZeros (w : Word) : Word :=
  ⟨w.toBitVec.clz⟩

/-- How many zeros come behind the lowest one. -/
def trailingZeros (w : Word) : Word :=
  ⟨w.toBitVec.ctz⟩

/-- One less than the least power of two that is at least `w`, which is always a word: ones from
the highest one of `w - 1` down. -/
def nextPowerOfTwoPred (w : Word) : Word :=
  if w ≤ 1 then 0 else 0xffffffffffffffff >>> (w - 1).leadingZeros

/-- The least power of two that is at least `w`, unless it is too large for a word. -/
def nextPowerOfTwo? (w : Word) : Option Word :=
  checkedAdd w.nextPowerOfTwoPred 1

/-- The product, unless it is too large for a word. -/
def checkedMul (a b : Word) : Option Word :=
  if a.toNat * b.toNat < 0x10000000000000000 then some (a * b) else none

end Word

/-- A check that the sizes of an arena fail. -/
inductive SizeFault where
  | noPools
  /-- No power of two that is a word is large enough for a pool. -/
  | poolSize
  /-- The pools together take up half of the words or more. -/
  | capacity
  /-- The memory of a pool has no layout. -/
  | bufferLayout
  deriving DecidableEq

/-- How the fault is reported. -/
def SizeFault.error : SizeFault → Error
  | noPools => .invalidPoolCount
  | _ => .poolSizeOverflow

namespace Geometry

/-- A geometry in words. -/
structure Parts where
  shift : Word
  mask : Word
  poolCount : Word
  bufferLayout : Layout
  deriving DecidableEq

/-- The words that a geometry is kept as. -/
def parts (g : Geometry) : Parts where
  shift := g.shift
  mask := g.poolSize - 1
  poolCount := g.poolCount
  bufferLayout := g.bufferLayout

namespace Parts

/-- The size of every pool. -/
def poolSize (parts : Parts) : Word :=
  parts.mask + 1

/-- How many bytes the pools hold together. -/
def capacity (parts : Parts) : Word :=
  parts.poolCount <<< parts.shift

/-- Split an offset into its pool and the place there. -/
def locate (parts : Parts) (offset : Word) : Place :=
  ⟨(offset >>> parts.shift).toNat, offset &&& parts.mask⟩

/-- Check the sizes of an arena one after the other, and keep what they come to. -/
def ofSizes (poolCount minPoolSize : Word) : Except SizeFault Parts :=
  if poolCount = 0 then
    .error .noPools
  else
    match (max minPoolSize 1).nextPowerOfTwo? with
    | none => .error .poolSize
    | some poolSize =>
      match poolCount.checkedMul poolSize with
      | none => .error .capacity
      | some capacity =>
        if capacity ≤ 0xffffffffffffffff / 2 then
          match Layout.ofSizeAlign? poolSize (min poolSize maxPoolAlign) with
          | none => .error .bufferLayout
          | some bufferLayout =>
            .ok { shift := poolSize.trailingZeros, mask := poolSize - 1, poolCount, bufferLayout }
        else
          .error .capacity

end Parts

end Geometry

end PooledArena
