import PooledArena.Arena

/-!
# `PooledArena.Arena.Describe`: an arena as a text for people

The text names the arena, says how much is reserved, and has a line for each
pool. Every line ends in a line break, the last one too.
-/

set_option autoImplicit false

namespace PooledArena.Arena

variable (arena : Arena)

/-- The line about pool `index`. -/
def describePool (index : Nat) (slot : Slot) : String :=
  "  Pool " ++ toString index ++ " (" ++ Text.hex arena.geometry.poolSize.toNat ++ " bytes): "
    ++ slot.describe ++ "\n"

/-- The whole text. -/
def describe : String :=
  "PoolAllocator " ++ arena.label ++ " with:\n"
    ++ "  Reserved: " ++ Text.hex arena.reserved.toNat ++ " of "
    ++ Text.hex arena.geometry.capacity.toNat ++ "\n"
    ++ String.join (arena.table.slots.zipIdx.map fun (slot, index) =>
      arena.describePool index slot)

end PooledArena.Arena
