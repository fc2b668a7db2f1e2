import PooledArena.Host

/-!
# `PooledArena.Backing.Heap`: the memory of the machine

The heap serves every request that a machine can serve: all but the empty ones
and those of `0x4000000000000000` bytes or more. It never lends an address twice.
-/

set_option autoImplicit false

namespace PooledArena

/-- The heap, known by its first free address. -/
structure Heap where
  next : Addr

namespace Heap

/-- Requests from this size on are more than any machine can serve. -/
def unservable : Nat := 0x4000000000000000

instance : Backing Heap where
  allocate layout heap :=
    let size := layout.size.toNat
    let align := layout.align.toNat
    if size = 0 ∨ unservable ≤ size then
      (none, heap)
    else
      let addr := (heap.next + (align - 1)) / align * align
      (some addr, ⟨addr + size⟩)
  free _ heap := heap

/-- What can be seen of the answer to a single request. -/
structure Sample where
  zeroed : Bool
  aligned : Bool
  deriving DecidableEq

/-- Ask a new heap for memory and look at what it lends. -/
def sample (layout : Layout) : Option Sample :=
  match (Host.ofBacking (Heap.mk 1)).allocate layout with
  | (none, _) => none
  | (some addr, host) =>
    some {
      zeroed := host.memory.isZero addr layout.size.toNat
      aligned := addr % layout.align.toNat = 0
    }

end Heap

end PooledArena
