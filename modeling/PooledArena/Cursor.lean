import PooledArena.Word

/-!
# `PooledArena.Cursor`: the position up to which an arena is reserved

The cursor only ever moves by reservations. Each one takes the range that starts
at the old position, whether or not the range turns out to be of use. The
position is a word, so a reservation past the largest word wraps around.
-/

set_option autoImplicit false

namespace PooledArena

/-- Everything before the position is reserved. -/
@[ext]
structure Cursor where
  position : Word
  deriving DecidableEq

namespace Cursor

/-- The cursor of an arena that has reserved nothing. -/
def start : Cursor := ⟨0⟩

/-- Reserve `size` bytes: the start of the reserved range, and the cursor behind it. -/
def reserve (cursor : Cursor) (size : Word) : Word × Cursor :=
  (cursor.position, ⟨cursor.position + size⟩)

/-- One reservation after another. For each: where it starts, and the cursor behind it. -/
def reserveAll (cursor : Cursor) : List Word → List (Word × Cursor)
  | [] => []
  | size :: sizes =>
    let reserved := cursor.reserve size
    reserved :: reserved.2.reserveAll sizes

end Cursor

end PooledArena
