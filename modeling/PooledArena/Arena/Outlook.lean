import PooledArena.Arena

/-!
# `PooledArena.Arena.Outlook`: whether an allocation would have to wait

Who is alone with an arena must not wait for a buffer, since nobody else is there
to bring one. `Arena.wouldWait?` looks ahead: it asks whether a pool is pending
between the first pool and the one in which the next reservation ends. It goes by
the first reservation only, and by the bytes that count as reserved.
-/

set_option autoImplicit false

namespace PooledArena.Arena

/-- Whether some pool up to the end of the next reservation is pending. Nothing,
where that end is too large for a word. -/
def wouldWait? (arena : Arena) (padded : Word) : Option Bool :=
  (Word.checkedAdd arena.reserved padded).map fun stop =>
    let last := (stop.toNat - 1) / arena.geometry.poolSize.toNat
    let last := min last (arena.geometry.poolCount.toNat - 1)
    (arena.table.states.take (last + 1)).contains .pending

end PooledArena.Arena
