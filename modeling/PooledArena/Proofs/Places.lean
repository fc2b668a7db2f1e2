import PooledArena.Proofs.Reservation
import PooledArena.Proofs.Sizes
import Mathlib.Data.Prod.Lex

/-!
# `PooledArena.Proofs.Places`: offsets and places say the same

An offset counts the bytes of all pools, and a place names a pool and counts inside it.
`Geometry.locate` goes from one to the other by a shift and a mask. `locate_eq_iff` says that it
finds the one place there is: the way back, `Geometry.position`, is exact.

So the order of offsets is that of places, pool by pool (`key_locate_le_iff`), and what fits in
the rest of a pool is what ends in the same one (`fits_iff_index_eq`). None of this stops at the
capacity. An offset beyond it has a place as well, in a pool that there is not.

`locate_exact` puts this together. It is about every geometry there is, and
`ofSizes_poolSize` says that those are the ones that sizes are accepted for.
-/

set_option autoImplicit false

namespace PooledArena

/-- The last byte of a range has an offset, even if the range ends behind the largest word. -/
theorem Word.toNat_add_sub_one {offset bytes : Word} (hpos : 0 < bytes.toNat)
    (h : offset.toNat + bytes.toNat ≤ 0x10000000000000000) :
    (offset + bytes - 1).toNat + 1 = offset.toNat + bytes.toNat := by
  have hpred := toNat_sub_one hpos
  rw [UInt64.sub_eq_add_neg, UInt64.add_assoc, ← UInt64.sub_eq_add_neg,
    toNat_add_of_lt (by omega)]
  omega

/-- What places are ordered by: the pool, and inside of one pool the offset there. -/
def Place.key (place : Place) : Nat ×ₗ Nat :=
  toLex (place.index, place.offset.toNat)

theorem Place.key_le_iff {first second : Place} : first.key ≤ second.key ↔
    first.index < second.index
      ∨ first.index = second.index ∧ first.offset.toNat ≤ second.offset.toNat :=
  Prod.Lex.toLex_le_toLex

namespace Geometry

variable {g : Geometry}

/-! ### The geometries that sizes are accepted for -/

/-- A geometry is determined by how many pools it has and how large they are. -/
theorem eq_of_poolSize {other : Geometry} (hcount : g.poolCount = other.poolCount)
    (hsize : g.poolSize.toNat = other.poolSize.toNat) : g = other := by
  rw [toNat_poolSize, toNat_poolSize, Nat.one_shiftLeft, Nat.one_shiftLeft] at hsize
  exact Geometry.ext hcount (UInt64.toNat_inj.1 (Nat.pow_right_injective (Nat.le_refl 2) hsize))

/-- A power of two is the least one that is at least itself. -/
theorem leastPoolSize_poolSize (g : Geometry) :
    leastPoolSize g.poolSize = g.poolSize.toNat := by
  have hpos := g.poolSize_pos
  refine (leastPoolSize_isLeast g.poolSize).unique ⟨⟨⟨g.shift.toNat, ?_⟩, ?_⟩, ?_⟩
  · rw [toNat_poolSize, Nat.one_shiftLeft]
  · exact Nat.max_le.2 ⟨Nat.le_refl _, hpos⟩
  · rintro size ⟨_, hsize⟩
    exact Nat.le_trans (Nat.le_max_left _ _) hsize

/-- Every geometry is accepted, as the one that its own sizes make. -/
theorem ofSizes_poolSize (g : Geometry) : ofSizes g.poolCount g.poolSize = .ok g := by
  have hle : g.poolCount.toNat * leastPoolSize g.poolSize ≤ 0x7fffffffffffffff := by
    rw [leastPoolSize_poolSize, ← toNat_capacity]
    exact Nat.le_of_lt_succ g.toNat_capacity_lt
  obtain ⟨made, hmade, hcount, hsize⟩ := exists_ofSizes_of_le g.poolCount_pos hle
  rw [leastPoolSize_poolSize] at hsize
  rw [hmade, eq_of_poolSize hcount hsize]

/-- The checks in words accept it too, and keep the words it is made of. -/
theorem Parts.ofSizes_poolSize (g : Geometry) :
    Parts.ofSizes g.poolCount g.poolSize = .ok g.parts := by
  have hparts := (Parts.ofSizes_eq g.poolCount g.poolSize).1
  rw [g.ofSizes_poolSize] at hparts
  cases hchecked : Parts.ofSizes g.poolCount g.poolSize with
  | error fault =>
      rw [hchecked] at hparts
      cases hparts
  | ok parts =>
      rw [hchecked] at hparts
      exact congrArg _ (Except.ok.inj hparts)

/-! ### Places and positions -/

/-- There is one place for every offset, and it is the one that is found. -/
theorem locate_eq_iff {offset : Word} {place : Place} : g.locate offset = place ↔
    place.index * g.poolSize.toNat + place.offset.toNat = offset.toNat
      ∧ place.offset.toNat < g.poolSize.toNat := by
  constructor
  · rintro rfl
    exact ⟨g.position_locate offset, g.locate_offset_lt offset⟩
  · rintro ⟨hposition, hlt⟩
    obtain ⟨hindex, hoffset⟩ := locate_eq hposition.symm hlt
    obtain ⟨index, rest⟩ := place
    exact (Place.mk.injEq ..).mpr ⟨hindex, UInt64.toNat_inj.1 hoffset⟩

/-- Pools come one behind the other, so a place in an earlier one has the smaller position. -/
theorem position_lt_of_index_lt {first second : Place}
    (hfirst : first.offset.toNat < g.poolSize.toNat) (h : first.index < second.index) :
    g.position first < g.position second := by
  have hpools := Nat.mul_le_mul_right g.poolSize.toNat (Nat.succ_le_of_lt h)
  rw [Nat.succ_mul] at hpools
  unfold position
  omega

/-- Places are ordered as their positions are. -/
theorem key_le_iff_position_le {first second : Place}
    (hfirst : first.offset.toNat < g.poolSize.toNat)
    (hsecond : second.offset.toNat < g.poolSize.toNat) :
    first.key ≤ second.key ↔ g.position first ≤ g.position second := by
  rw [Place.key_le_iff]
  rcases Nat.lt_trichotomy first.index second.index with hlt | heq | hgt
  · have hposition := position_lt_of_index_lt hfirst hlt
    exact ⟨fun _ => Nat.le_of_lt hposition, fun _ => .inl hlt⟩
  · unfold position
    rw [heq]
    omega
  · have hposition := position_lt_of_index_lt hsecond hgt
    omega

theorem key_locate_le_iff (g : Geometry) (first second : Word) :
    (g.locate first).key ≤ (g.locate second).key ↔ first ≤ second := by
  rw [key_le_iff_position_le (g.locate_offset_lt first) (g.locate_offset_lt second),
    position_locate, position_locate, UInt64.le_iff_toNat_le]

/-! ### What ends in the same pool -/

/-- What is no larger than a pool ends in the pool it begins in, unless it reaches beyond it.
The last byte is the one to look at: what reaches up to the end of the pool still fits. -/
theorem fits_iff_index_eq {offset last : Word} {bytes : Nat} (hpos : 0 < bytes)
    (hlast : last.toNat + 1 = offset.toNat + bytes) :
    (g.locate offset).offset.toNat + bytes ≤ g.poolSize.toNat
      ↔ (g.locate last).index = (g.locate offset).index := by
  have hbegin := g.position_locate offset
  have hend := g.position_locate last
  have hlt := g.locate_offset_lt last
  unfold position at hbegin hend
  constructor
  · intro hfits
    have hplace : last.toNat = (g.locate offset).index * g.poolSize.toNat
        + ((g.locate offset).offset.toNat + bytes - 1) := by
      omega
    exact (locate_eq hplace (by omega)).1
  · intro hindex
    rw [hindex] at hend
    omega

/-! ### All offsets -/

/-- Where the offsets of an arena of this shape lie, in exact numbers. -/
structure LocatesExactly (g : Geometry) : Prop where
  /-- The shape is one that sizes are accepted with, and the words of it are kept. -/
  ofSizes_eq : ofSizes g.poolCount g.poolSize = .ok g
  parts_eq : Parts.ofSizes g.poolCount g.poolSize = .ok g.parts
  /-- A mask that is kept finds the same place as one that is worked out. -/
  parts_locate_eq : ∀ offset, g.parts.locate offset = g.locate offset
  /-- Of all places only the one that is found has this position. -/
  locate_iff : ∀ offset place, g.locate offset = place ↔
    place.index * g.poolSize.toNat + place.offset.toNat = offset.toNat
      ∧ place.offset.toNat < g.poolSize.toNat
  /-- The offsets beyond the capacity are those that lie in no pool. -/
  beyond_iff : ∀ offset, g.poolCount.toNat ≤ (g.locate offset).index ↔ g.capacity ≤ offset
  /-- Places are ordered pool by pool. -/
  key_le_iff : ∀ first second,
    (g.locate first).key ≤ (g.locate second).key ↔ first ≤ second
  /-- The test for what fits in the rest of a pool is exact, and says in which pool it ends. -/
  fits_iff : ∀ offset bytes, 0 < bytes.toNat → bytes ≤ g.poolSize →
    offset.toNat + bytes.toNat ≤ 0x10000000000000000 →
      ((g.locate offset).offset + bytes).toNat
          = (g.locate offset).offset.toNat + bytes.toNat
        ∧ ((g.locate offset).offset + bytes ≤ g.poolSize
          ↔ (g.locate (offset + bytes - 1)).index = (g.locate offset).index)

/-- To find a place by shift and mask is to divide by the pool size, wherever the offset is. -/
theorem locate_exact (g : Geometry) : g.LocatesExactly where
  ofSizes_eq := g.ofSizes_poolSize
  parts_eq := Parts.ofSizes_poolSize g
  parts_locate_eq _ := rfl
  locate_iff _ _ := locate_eq_iff
  beyond_iff offset := by
    rw [UInt64.le_iff_toNat_le, ← Nat.not_lt, ← Nat.not_lt, locate_index_lt_iff]
  key_le_iff := g.key_locate_le_iff
  fits_iff offset bytes hpos hle hend := by
    rw [UInt64.le_iff_toNat_le] at hle
    have hsum : ((g.locate offset).offset + bytes).toNat
        = (g.locate offset).offset.toNat + bytes.toNat := by
      have hoffset := g.locate_offset_lt offset
      have hpool := g.toNat_poolSize_le
      exact Word.toNat_add_of_lt (by omega)
    refine ⟨hsum, ?_⟩
    rw [UInt64.le_iff_toNat_le, hsum]
    exact fits_iff_index_eq hpos (Word.toNat_add_sub_one hpos hend)

end Geometry

end PooledArena
