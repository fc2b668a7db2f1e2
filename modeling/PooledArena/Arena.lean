import PooledArena.Geometry
import PooledArena.Cursor
import PooledArena.SlotTable
import PooledArena.Host

/-!
# `PooledArena.Arena`: pools, and a cursor that moves through them

An arena hands out blocks from a row of pools of one size. A cursor moves
through the offsets of all pools; the slot table knows which pools have a
buffer. Blocks are never given back one by one: the arena ends as a whole.

A `System` is an arena together with its host, which is what the operations
that call the backing work on.
-/

set_option autoImplicit false

namespace PooledArena

/-- A row of pools. There is a slot for every pool. -/
@[ext]
structure Arena where
  label : String
  geometry : Geometry
  cursor : Cursor
  table : SlotTable
  length_slots : table.slots.length = geometry.poolCount.toNat

namespace Arena

variable (arena : Arena)

/-- How many bytes are reserved, padding and waste included. Reservations may
run past the last pool; those bytes do not count. -/
def reserved : Word :=
  min arena.cursor.position arena.geometry.capacity

/-- Whether some pool waits for a buffer. -/
def needsInjection : Bool :=
  arena.table.hasPending

/-- How many pools have a buffer. -/
def readyPools : Nat :=
  arena.table.readyCount

/-- The state of pool `index`, if there is such a pool. -/
def slotState? (index : Nat) : Option SlotState :=
  arena.table.slots[index]?.map Slot.state

/-- The loans that pool buffers are held on, in index order. -/
def bufferLoans : List Loan :=
  arena.table.buffers.map (⟨·, arena.geometry.bufferLayout⟩)

/-- The same arena after its cursor moved. -/
def moveTo (cursor : Cursor) : Arena :=
  { arena with cursor }

/-- Ask for a buffer for pool `index`. Says `true` to the first to ask. -/
def request (index : Nat) : Bool × Arena :=
  ((arena.table.request index).1, {
    arena with
    table := (arena.table.request index).2
    length_slots := (arena.table.length_request index).trans arena.length_slots
  })

/-- Bring a buffer: the index of the pool that took it, if one did, and the
arena after. -/
def install (buffer : Addr) : Option Nat × Arena :=
  ((arena.table.offer buffer).1, {
    arena with
    table := (arena.table.offer buffer).2
    length_slots := (arena.table.length_offer buffer).trans arena.length_slots
  })

/-- An arena before its first buffer: nothing is reserved, and the first pool
is the only one that was asked for. -/
def blank (label : String) (geometry : Geometry) (loan : Loan) : Arena where
  label
  geometry
  cursor := Cursor.start
  table := ((SlotTable.blank loan geometry.poolCount.toNat).request 0).2
  length_slots := by
    rw [SlotTable.length_request]
    exact List.length_replicate

end Arena

/-- An arena and the host it takes its memory from. -/
structure System (β : Type) where
  arena : Arena
  host : Host β

namespace System

variable {β : Type}

/-- Bring a buffer to the first pool that waits for one: allocate the buffer,
then look for the pool. Gives the pool's index. Where no pool waits, the buffer
goes back. -/
def inject [Backing β] (sys : System β) : Except Error Nat × System β :=
  let label := sys.arena.label
  let layout := sys.arena.geometry.bufferLayout
  -- The buffer comes first: whether a pool waits for it turns out later.
  match sys.host.allocate layout with
  | (none, host) => (.error .allocatorError, { sys with host := host.note label .bufferRefused })
  | (some buffer, host) =>
    match sys.arena.install buffer with
    | (some index, arena) => (.ok index, ⟨arena, host.note label (.injected index buffer)⟩)
    | (none, _) =>
      (.error .doubleInjection,
        { sys with host := (host.free ⟨buffer, layout⟩).note label .doubleInjection })

end System

end PooledArena
