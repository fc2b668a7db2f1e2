import PooledArena.Geometry
import PooledArena.Cursor

/-!
# `PooledArena.Arena.Reservation`: finding room for a block

A request is first checked against the pools: `Geometry.accept` turns it into an
extent, a number of bytes that surely fits in a pool, or says what is wrong with
it. Padding by `align - 1` bytes leaves room for an aligned start wherever the
extent comes to lie.

`Geometry.reserve` then moves the cursor. A reservation that straddles two pools
is thrown away, and the next one is tried from behind it, until one lies inside
a pool or the cursor has passed them all. Each try moves the cursor, by less than
the distance from the capacity to the largest word, so the search ends.
-/

set_option autoImplicit false

namespace PooledArena

/-- A number of bytes that fits in a pool. -/
@[ext]
structure Extent (g : Geometry) where
  bytes : Word
  bytes_pos : 0 < bytes.toNat
  bytes_le : bytes.toNat ≤ g.poolSize.toNat

/-- Where the search for room came out. -/
inductive Landing where
  /-- The extent lies at this place, all of it in one pool. -/
  | settled (place : Place)
  /-- No pool is left. -/
  | exhausted
  deriving DecidableEq

/-- The outcome of a search: where it came out, the cursor behind it, and how many
reservations were thrown away on the way. -/
structure Reservation where
  landing : Landing
  cursor : Cursor
  straddles : Nat
  deriving DecidableEq

namespace Geometry

variable (g : Geometry)

/-! ### Checking a request -/

/-- The bytes of a block with its padding, if a pool has so many. -/
def padded? (size align : Word) : Option Word :=
  (Word.checkedAdd size (align - 1)).filter fun padded => padded ≤ g.poolSize

/-- The sum is checked and the test is on words, so both are exact. -/
theorem padded?_eq_some_iff {size align padded : Word} : g.padded? size align = some padded
    ↔ padded.toNat = size.toNat + (align - 1).toNat ∧ padded.toNat ≤ g.poolSize.toNat := by
  rw [padded?, Option.filter_eq_some_iff, Word.checkedAdd_eq_some_iff, decide_eq_true_iff,
    UInt64.le_iff_toNat_le]

/-- The extent of a block of `size` bytes at a multiple of `align`. A size of zero
is reported before a bad alignment, and that before a size too large. -/
def accept (size align : Word) : Except Error (Extent g) :=
  if hsize : size.toNat = 0 then
    .error .allocZeroSize
  else if Word.IsPowerOfTwo align ∧ align ≤ g.bufferLayout.align then
    match hpadded : g.padded? size align with
    | some padded =>
      have hexact := g.padded?_eq_some_iff.1 hpadded
      .ok ⟨padded, by omega, hexact.2⟩
    | none => .error (.requestTooLarge (Word.saturatingAdd size (align - 1)) g.poolSize)
  else
    .error (.invalidAlign align)

/-! ### Moving the cursor -/

/-- A reservation below the capacity does not wrap: both its parts are small. -/
theorem toNat_reserve {cursor : Cursor} (extent : Extent g)
    (h : ¬g.capacity ≤ cursor.position) :
    (cursor.reserve extent.bytes).2.position.toNat
      = cursor.position.toNat + extent.bytes.toNat := by
  have := g.toNat_poolSize_le_capacity
  have := g.toNat_capacity_lt
  have := extent.bytes_le
  rw [UInt64.le_iff_toNat_le] at h
  exact Word.toNat_add_of_lt (by omega)

/-- Move the cursor until the extent lies inside a pool. A cursor that has passed
all pools stays where it is. -/
def reserve (extent : Extent g) (cursor : Cursor) : Reservation :=
  if g.capacity ≤ cursor.position then
    { landing := .exhausted, cursor, straddles := 0 }
  else
    let reserved := cursor.reserve extent.bytes
    let place := g.locate reserved.1
    -- Nobody else moves the cursor, so a cursor below the capacity is in a pool.
    if g.poolCount.toNat ≤ place.index then
      { landing := .exhausted, cursor := reserved.2, straddles := 0 }
    else if place.offset + extent.bytes ≤ g.poolSize then
      { landing := .settled place, cursor := reserved.2, straddles := 0 }
    else
      -- It straddles. Its bytes are lost, and the search goes on behind them.
      let later := reserve extent reserved.2
      { later with straddles := later.straddles + 1 }
termination_by g.capacity.toNat - cursor.position.toNat
decreasing_by
  have hnext := g.toNat_reserve extent ‹_›
  have := extent.bytes_pos
  simp only [UInt64.le_iff_toNat_le] at *
  omega

end Geometry

end PooledArena
