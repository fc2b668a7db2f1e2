import PooledArena.Arena.Reservation
import PooledArena.Arena.Wait

/-!
# `PooledArena.Arena.Alloc`: handing out a block

An allocation goes through four stages: the request is checked, the cursor moves
until the padded block lies inside a pool, the pool's buffer is waited for, and
the pool behind it is asked for. The first block of a pool finds that next pool
absent; it reports so, and somebody has to inject.

Alignment is worked out on the offset inside the pool. It holds for the address
too, because buffers are aligned to every alignment that `Geometry.accept` lets
through.
-/

set_option autoImplicit false

namespace PooledArena

/-- Memory handed out: `size` bytes of a pool's buffer, from `start` on. -/
structure Block where
  pool : Nat
  buffer : Addr
  start : Word
  size : Word
  /-- Whether the block was the one to ask for the next pool. -/
  moreNeeded : Bool
  deriving DecidableEq

/-- The address of the first byte. -/
def Block.addr (block : Block) : Addr :=
  block.buffer + block.start.toNat

/-- How an allocation ends. -/
inductive Outcome where
  | granted (block : Block)
  | failed (error : Error)
  /-- The schedule ended while the pool was still pending. -/
  | abandoned
  deriving DecidableEq

/-- An allocation that is over: how it ended, the reservations it threw away, the
turns it waited, and what the injections among them came to. -/
structure Attempt where
  outcome : Outcome
  straddles : Nat
  relaxes : Nat
  injections : List (Except Error Nat)

namespace Attempt

/-- A failure without a wait. -/
def failure (error : Error) (straddles : Nat) : Attempt :=
  { outcome := .failed error, straddles, relaxes := 0, injections := [] }

/-- The block, if there is one. -/
def block? (attempt : Attempt) : Option Block :=
  match attempt.outcome with
  | .granted block => some block
  | _ => none

end Attempt

namespace Arena

variable (arena : Arena)

/-- Hand out the block at a place in a pool whose buffer is here, and ask for the
pool behind. -/
def grant (size align : Word) (place : Place) (buffer : Addr) : Block × Arena :=
  let (moreNeeded, arena) := arena.request (place.index + 1)
  let start := Word.alignUp place.offset align
  (⟨place.index, buffer, start, size, moreNeeded⟩, arena)

/-- What comes of an allocation whose wait is over. -/
def settle (size align : Word) (place : Place) : Arrival → Outcome × Arena
  | .ready buffer =>
    let (block, arena) := arena.grant size align place buffer
    (.granted block, arena)
  | .absent => (.failed (.poolAbsent place.index), arena)
  | .abandoned => (.abandoned, arena)

end Arena

namespace System

variable {β : Type} [Backing β]

/-- Allocate at a place that the cursor has just passed. -/
def allocAt (sys : System β) (size align : Word) (place : Place) (straddles : Nat)
    (schedule : Schedule) : Attempt × System β :=
  let wait := sys.await place.index schedule
  let (outcome, arena) := wait.system.arena.settle size align place wait.arrival
  ({ outcome, straddles, relaxes := wait.relaxes, injections := wait.injections },
    { wait.system with arena })

/-- Allocate `size` bytes at a multiple of `align`, waiting by the schedule if the
pool has no buffer yet. -/
def alloc (sys : System β) (size align : Word) (schedule : Schedule) : Attempt × System β :=
  match sys.arena.geometry.accept size align with
  | .error error => (Attempt.failure error 0, sys)
  | .ok extent =>
    let reservation := sys.arena.geometry.reserve extent sys.arena.cursor
    -- Whatever comes of the allocation, the cursor keeps what was reserved.
    let sys := { sys with arena := sys.arena.moveTo reservation.cursor }
    match reservation.landing with
    | .exhausted => (Attempt.failure .capacityExhausted reservation.straddles, sys)
    | .settled place => sys.allocAt size align place reservation.straddles schedule

end System

end PooledArena
