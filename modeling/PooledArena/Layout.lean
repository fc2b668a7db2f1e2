import PooledArena.Word

/-!
# `PooledArena.Layout`: requests for memory, and the memory itself

A layout says how much memory is wanted and what its address has to be a
multiple of. Both rules on the two numbers are fields of the type: the alignment
is a power of two, and the size, rounded up to the alignment, stays below
`0x8000000000000000`, which is half the number of words. `Layout.ofSizeAlign?` is
the way in for numbers from outside.

A loan is memory that was got for a layout. Whoever holds a loan gives it back
with the same layout, so the two stay together.
-/

set_option autoImplicit false

namespace PooledArena

/-- A size and an alignment that go together. -/
@[ext]
structure Layout where
  size : Word
  align : Word
  isPowerOfTwo_align : Word.IsPowerOfTwo align
  size_add_align_le : size.toNat + align.toNat ≤ 0x8000000000000000
  deriving DecidableEq

namespace Layout

/-- The layout of these numbers, or nothing where they break a rule. -/
def ofSizeAlign? (size align : Word) : Option Layout :=
  if h : Word.IsPowerOfTwo align ∧ size.toNat + align.toNat ≤ 0x8000000000000000 then
    some ⟨size, align, h.1, h.2⟩
  else
    none

end Layout

/-- Memory on loan from an allocator: where it is, and what it was got for. -/
@[ext]
structure Loan where
  addr : Addr
  layout : Layout
  deriving DecidableEq

end PooledArena
