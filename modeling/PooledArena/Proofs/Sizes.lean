import PooledArena.Geometry.Parts
import Mathlib.Order.Bounds.Basic
import Mathlib.Algebra.GroupWithZero.Nat

/-!
# `PooledArena.Proofs.Sizes`: which sizes make an arena

The pool size of an arena is the least power of two that is at least the size asked for. There
is an arena of these sizes if there is a pool at all and the pools together stay below
`0x8000000000000000`, which is one inequality between exact numbers.

`Geometry.ofSizes` is that inequality. `Parts.ofSizes_eq` says that the checks in words come to
the same: the power of two is found from the leading zeros (`Word.nextPowerOfTwo?_eq_some_iff`),
and where it is no word, or the product is none, the exact product is too large as well. The
last of these checks, the one for a layout, is never the one that fails.
-/

set_option autoImplicit false

namespace PooledArena

/-- The least power of two that reaches a number, among all powers of two. -/
theorem isLeast_two_pow_ceilLog2 (n : Nat) :
    IsLeast {size | (∃ k, size = 2 ^ k) ∧ n ≤ size} (2 ^ ceilLog2 n) := by
  have hreaches := le_one_shiftLeft_ceilLog2 n
  rw [Nat.one_shiftLeft] at hreaches
  refine ⟨⟨⟨_, rfl⟩, hreaches⟩, ?_⟩
  rintro size ⟨⟨k, rfl⟩, hsize⟩
  rw [← Nat.one_shiftLeft] at hsize
  exact Nat.pow_le_pow_right (by decide) (ceilLog2_le_iff.2 hsize)

/-! ### Words -/

namespace Word

theorem checkedMul_eq_some_iff {a b product : Word} :
    checkedMul a b = some product ↔ product.toNat = a.toNat * b.toNat := by
  have hproduct := product.toNat_lt
  unfold checkedMul
  split
  · rename_i hlt
    rw [Option.some_inj, ← UInt64.toNat_inj, UInt64.toNat_mul, Nat.mod_eq_of_lt hlt, eq_comm]
  · rename_i hge
    exact ⟨nofun, fun heq => absurd (heq ▸ hproduct) hge⟩

theorem checkedMul_eq_none_iff {a b : Word} :
    checkedMul a b = none ↔ 0x10000000000000000 ≤ a.toNat * b.toNat := by
  unfold checkedMul
  rw [ite_eq_right_iff, ← Nat.not_lt]
  exact ⟨fun h hlt => Option.some_ne_none _ (h hlt), fun h hlt => absurd hlt h⟩

/-- The highest one of a word stands right behind its leading zeros. -/
theorem log2_eq_of_pos {w : Word} (h : 0 < w.toNat) :
    w.leadingZeros.toNat ≤ 63 ∧ w.toNat.log2 = 63 - w.leadingZeros.toNat := by
  have hne : w.toBitVec ≠ 0#64 := by
    intro hzero
    have hnat : w.toNat = 0 := congrArg BitVec.toNat hzero
    omega
  have hle : 2 ^ (63 - w.leadingZeros.toNat) ≤ w.toNat :=
    BitVec.two_pow_sub_clz_le_toNat_of_ne_zero (by decide) hne
  have hlt : w.toNat < 2 ^ (64 - w.leadingZeros.toNat) := BitVec.toNat_lt_two_pow_sub_clz
  have hcount : w.leadingZeros.toNat ≤ 63 := by
    by_contra hbeyond
    rw [show 64 - w.leadingZeros.toNat = 0 by omega] at hlt
    omega
  refine ⟨hcount, (Nat.log2_eq_iff (Nat.ne_of_gt h)).2 ⟨hle, ?_⟩⟩
  rw [show 63 - w.leadingZeros.toNat + 1 = 64 - w.leadingZeros.toNat by omega]
  exact hlt

/-- All ones, shifted right, are one less than a power of two. -/
theorem toNat_shiftRight_add_one {count : Word} (h : count.toNat ≤ 63) :
    ((0xffffffffffffffff : Word) >>> count).toNat + 1 = 2 ^ (64 - count.toNat) := by
  have hpos := Nat.two_pow_pos count.toNat
  have hsplit : 2 ^ count.toNat * 2 ^ (64 - count.toNat) = 0x10000000000000000 := by
    rw [← Nat.pow_add, show count.toNat + (64 - count.toNat) = 64 by omega]
  rw [UInt64.toNat_shiftRight, Nat.mod_eq_of_lt (by omega), Nat.shiftRight_eq_div_pow]
  calc 0xffffffffffffffff / 2 ^ count.toNat + 1
      = (0xffffffffffffffff + 2 ^ count.toNat) / 2 ^ count.toNat :=
        (Nat.add_div_right _ hpos).symm
    _ = (2 ^ count.toNat * 2 ^ (64 - count.toNat) + (2 ^ count.toNat - 1)) / 2 ^ count.toNat := by
        rw [hsplit]
        congr 1
        omega
    _ = 2 ^ (64 - count.toNat) := by
        rw [Nat.mul_add_div hpos, Nat.div_eq_of_lt (Nat.sub_one_lt_of_lt hpos), Nat.add_zero]

theorem toNat_nextPowerOfTwoPred (w : Word) :
    w.nextPowerOfTwoPred.toNat + 1 = 2 ^ ceilLog2 w.toNat := by
  unfold nextPowerOfTwoPred ceilLog2
  simp only [UInt64.le_iff_toNat_le, UInt64.toNat_one]
  split
  · rfl
  · rename_i hlarge
    have hpred := toNat_sub_one (w := w) (by omega)
    obtain ⟨hcount, hlog⟩ := log2_eq_of_pos (w := w - 1) (by omega)
    rw [toNat_shiftRight_add_one hcount, ← hpred, hlog]
    congr 1
    omega

theorem nextPowerOfTwo?_eq_some_iff {w size : Word} :
    w.nextPowerOfTwo? = some size ↔ size.toNat = 2 ^ ceilLog2 w.toNat := by
  rw [← toNat_nextPowerOfTwoPred]
  exact checkedAdd_eq_some_iff

theorem nextPowerOfTwo?_eq_none_iff {w : Word} :
    w.nextPowerOfTwo? = none ↔ 0x10000000000000000 ≤ 2 ^ ceilLog2 w.toNat := by
  rw [← toNat_nextPowerOfTwoPred]
  exact checkedAdd_eq_none_iff

/-- The only one of a power of two is the lowest. -/
theorem toNat_trailingZeros {w : Word} {k : Nat} (h : w.toNat = 2 ^ k) :
    w.trailingZeros.toNat = k := by
  have hne : w.toBitVec ≠ 0#64 := by
    intro hzero
    have hnat : w.toNat = 0 := congrArg BitVec.toNat hzero
    have hpos := Nat.two_pow_pos k
    omega
  have hone : w.toNat.testBit w.trailingZeros.toNat = true :=
    BitVec.getLsbD_true_ctz_of_ne_zero hne
  rw [h, Nat.testBit_two_pow, decide_eq_true_iff] at hone
  exact hone.symm

end Word

/-- The numbers of a layout make a layout. -/
theorem Layout.ofSizeAlign?_self (layout : Layout) :
    ofSizeAlign? layout.size layout.align = some layout :=
  dif_pos ⟨layout.isPowerOfTwo_align, layout.size_add_align_le⟩

/-! ### The exact test -/

namespace Geometry

/-- The pool size of an arena with pools of at least so many bytes, as an exact number. -/
def leastPoolSize (minPoolSize : Word) : Nat :=
  2 ^ ceilLog2 (max minPoolSize.toNat 1)

theorem leastPoolSize_isLeast (minPoolSize : Word) :
    IsLeast {size | (∃ k, size = 2 ^ k) ∧ max minPoolSize.toNat 1 ≤ size}
      (leastPoolSize minPoolSize) :=
  isLeast_two_pow_ceilLog2 _

variable {poolCount minPoolSize : Word}

theorem ofSizes_of_zero (h : poolCount.toNat = 0) :
    ofSizes poolCount minPoolSize = .error .invalidPoolCount :=
  dif_pos h

theorem ofSizes_of_lt (hpos : 0 < poolCount.toNat)
    (h : 0x7fffffffffffffff < poolCount.toNat * leastPoolSize minPoolSize) :
    ofSizes poolCount minPoolSize = .error .poolSizeOverflow := by
  unfold ofSizes
  dsimp only
  rw [dif_neg (Nat.ne_of_gt hpos), dif_neg]
  rw [Nat.shiftLeft_eq]
  exact Nat.not_lt.2 h

/-- The geometry has the pool size and the number of pools that it was made from. -/
theorem exists_ofSizes_of_le (hpos : 0 < poolCount.toNat)
    (h : poolCount.toNat * leastPoolSize minPoolSize ≤ 0x7fffffffffffffff) :
    ∃ g, ofSizes poolCount minPoolSize = .ok g ∧ g.poolCount = poolCount
      ∧ g.poolSize.toNat = leastPoolSize minPoolSize := by
  have hlt : poolCount.toNat <<< ceilLog2 (max minPoolSize.toNat 1) < 0x8000000000000000 := by
    rw [Nat.shiftLeft_eq]
    exact Nat.lt_succ_of_le h
  have hshift := lt_of_shiftLeft_lt (m := 63) hpos hlt
  unfold ofSizes
  dsimp only
  rw [dif_neg (Nat.ne_of_gt hpos), dif_pos hlt]
  refine ⟨_, rfl, rfl, ?_⟩
  rw [toNat_poolSize, Nat.one_shiftLeft, UInt64.toNat_ofNat', Nat.mod_eq_of_lt (by omega)]
  rfl

theorem ofSizes_eq_invalidPoolCount_iff :
    ofSizes poolCount minPoolSize = .error .invalidPoolCount ↔ poolCount.toNat = 0 := by
  refine ⟨fun h => ?_, ofSizes_of_zero⟩
  by_contra hcount
  have hpos := Nat.pos_of_ne_zero hcount
  rcases Nat.lt_or_ge 0x7fffffffffffffff (poolCount.toNat * leastPoolSize minPoolSize) with
    hlt | hle
  · rw [ofSizes_of_lt hpos hlt] at h
    cases h
  · obtain ⟨g, hg, _⟩ := exists_ofSizes_of_le hpos hle
    rw [hg] at h
    cases h

theorem ofSizes_eq_poolSizeOverflow_iff :
    ofSizes poolCount minPoolSize = .error .poolSizeOverflow
      ↔ 0 < poolCount.toNat
        ∧ 0x7fffffffffffffff < poolCount.toNat * leastPoolSize minPoolSize := by
  refine ⟨fun h => ?_, fun h => ofSizes_of_lt h.1 h.2⟩
  have hpos : 0 < poolCount.toNat := by
    refine Nat.pos_of_ne_zero fun hzero => ?_
    rw [ofSizes_of_zero hzero] at h
    cases h
  refine ⟨hpos, ?_⟩
  by_contra hle
  obtain ⟨g, hg, _⟩ := exists_ofSizes_of_le hpos (Nat.not_lt.1 hle)
  rw [hg] at h
  cases h

/-! ### The checks in words -/

namespace Parts

/-- The checks in words come to what the exact test says, and the last of them never fails. -/
theorem ofSizes_eq (poolCount minPoolSize : Word) :
    (Parts.ofSizes poolCount minPoolSize).mapError SizeFault.error
        = (Geometry.ofSizes poolCount minPoolSize).map parts
      ∧ Parts.ofSizes poolCount minPoolSize ≠ .error .bufferLayout := by
  unfold Parts.ofSizes
  split
  · rename_i hzero
    rw [ofSizes_of_zero (congrArg UInt64.toNat hzero)]
    exact ⟨rfl, nofun⟩
  · rename_i hzero
    have hpos : 0 < poolCount.toNat := by
      refine Nat.pos_of_ne_zero fun hnat => hzero ?_
      exact UInt64.toNat_inj.1 hnat
    split
    · rename_i hnone
      -- The power of two alone is too large already.
      rw [Word.nextPowerOfTwo?_eq_none_iff, Word.toNat_max, UInt64.toNat_one] at hnone
      change _ ≤ leastPoolSize minPoolSize at hnone
      have hproduct := Nat.le_mul_of_pos_left (leastPoolSize minPoolSize) hpos
      rw [ofSizes_of_lt hpos (by omega)]
      exact ⟨rfl, nofun⟩
    · rename_i poolSize hsize
      rw [Word.nextPowerOfTwo?_eq_some_iff, Word.toNat_max, UInt64.toNat_one] at hsize
      change _ = leastPoolSize minPoolSize at hsize
      split
      · rename_i hnone
        rw [Word.checkedMul_eq_none_iff, hsize] at hnone
        rw [ofSizes_of_lt hpos (by omega)]
        exact ⟨rfl, nofun⟩
      · rename_i capacity hcapacity
        rw [Word.checkedMul_eq_some_iff, hsize] at hcapacity
        split
        · rename_i hle
          rw [UInt64.le_iff_toNat_le, hcapacity] at hle
          obtain ⟨g, hg, hcount, hpool⟩ := exists_ofSizes_of_le hpos hle
          obtain rfl : g.poolSize = poolSize := UInt64.toNat_inj.1 (hpool.trans hsize.symm)
          have hlayout : Layout.ofSizeAlign? g.poolSize (min g.poolSize maxPoolAlign)
              = some g.bufferLayout := g.bufferLayout.ofSizeAlign?_self
          have hshift : g.poolSize.trailingZeros = g.shift := by
            rw [← UInt64.toNat_inj]
            exact Word.toNat_trailingZeros (g.toNat_poolSize.trans (Nat.one_shiftLeft _))
          rw [hlayout, hg, hshift, ← hcount]
          exact ⟨rfl, nofun⟩
        · rename_i hlt
          rw [UInt64.le_iff_toNat_le, hcapacity] at hlt
          rw [ofSizes_of_lt hpos (Nat.not_le.1 hlt)]
          exact ⟨rfl, nofun⟩

end Parts

/-! ### All sizes -/

/-- What the geometry of so many pools of so many bytes each is, in exact numbers. -/
structure HasSizes (g : Geometry) (poolCount size : Nat) : Prop where
  poolCount_eq : g.poolCount.toNat = poolCount
  poolSize_eq : g.poolSize.toNat = size
  shift_eq : size = 2 ^ g.shift.toNat
  /-- The pools are counted in full: the shift has lost no bit. -/
  capacity_eq : g.capacity.toNat = poolCount * size
  /-- The words that are kept come to the same. -/
  parts_poolSize_eq : g.parts.poolSize.toNat = size
  parts_capacity_eq : g.parts.capacity.toNat = poolCount * size
  layout_size_eq : g.bufferLayout.size.toNat = size
  layout_align_eq : g.bufferLayout.align.toNat = min size 64
  align_dvd : min size 64 ∣ size
  layout_eq : Layout.ofSizeAlign? g.bufferLayout.size g.bufferLayout.align
    = some g.bufferLayout

theorem hasSizes (g : Geometry) : g.HasSizes g.poolCount.toNat g.poolSize.toNat where
  poolCount_eq := rfl
  poolSize_eq := rfl
  shift_eq := g.toNat_poolSize.trans (Nat.one_shiftLeft _)
  capacity_eq := g.toNat_capacity
  parts_poolSize_eq := congrArg UInt64.toNat (UInt64.sub_add_cancel g.poolSize 1)
  parts_capacity_eq := g.toNat_capacity
  layout_size_eq := rfl
  layout_align_eq := g.toNat_bufferAlign.trans (Nat.min_comm _ _)
  align_dvd := by
    rw [Nat.min_comm, ← g.toNat_bufferAlign]
    exact g.isPowerOfTwo_bufferAlign.dvd g.isPowerOfTwo_poolSize g.bufferAlign_le_poolSize
  layout_eq := g.bufferLayout.ofSizeAlign?_self

/-- What becomes of sizes that an arena is asked for, where its pools are of `size` bytes. -/
structure AcceptsExactly (poolCount minPoolSize : Word) (size : Nat) : Prop where
  /-- The pool size is a power of two, and the least that is no smaller than asked for. -/
  size_isLeast : IsLeast {n | (∃ k, n = 2 ^ k) ∧ max minPoolSize.toNat 1 ≤ n} size
  invalidPoolCount_iff : ofSizes poolCount minPoolSize = .error .invalidPoolCount
    ↔ poolCount.toNat = 0
  poolSizeOverflow_iff : ofSizes poolCount minPoolSize = .error .poolSizeOverflow
    ↔ 0 < poolCount.toNat ∧ 0x7fffffffffffffff < poolCount.toNat * size
  accepted : 0 < poolCount.toNat → poolCount.toNat * size ≤ 0x7fffffffffffffff →
    ∃ g, ofSizes poolCount minPoolSize = .ok g ∧ g.HasSizes poolCount.toNat size
  /-- The checks in words come to the same geometry, or to the same error. -/
  parts_eq : (Parts.ofSizes poolCount minPoolSize).mapError SizeFault.error
    = (ofSizes poolCount minPoolSize).map parts
  /-- The memory of a pool always has a layout. -/
  parts_ne : Parts.ofSizes poolCount minPoolSize ≠ .error .bufferLayout

/-- Which sizes make an arena is one inequality between exact numbers, and the arena has the least
power of two for its pools that is large enough. -/
theorem ofSizes_exact (poolCount minPoolSize : Word) :
    ∃ size, AcceptsExactly poolCount minPoolSize size := by
  obtain ⟨hparts, hlayout⟩ := Parts.ofSizes_eq poolCount minPoolSize
  refine ⟨leastPoolSize minPoolSize, leastPoolSize_isLeast minPoolSize,
    ofSizes_eq_invalidPoolCount_iff, ofSizes_eq_poolSizeOverflow_iff, ?_, hparts, hlayout⟩
  intro hpos hle
  obtain ⟨g, hg, hcount, hpool⟩ := exists_ofSizes_of_le hpos hle
  refine ⟨g, hg, ?_⟩
  rw [← hcount, ← hpool]
  exact g.hasSizes

end Geometry

end PooledArena
