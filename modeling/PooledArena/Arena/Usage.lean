import PooledArena.Arena.Run

/-!
# `PooledArena.Arena.Usage`: an arena and the writes to its blocks

Who was handed a block may write to it at any time, also while somebody waits for the next
one. So an arena in use is told in smaller steps than the operations of a run. An allocation
books a place, looks at the slot as often as it takes, and takes the block or leaves; an
injection is one step. Between any two of these deeds there may be fills, which write one
byte to the whole of a block.

`Run.deeds` are the deeds that the operations of a run come down to. A list of deeds that has
these in their order, and fills anywhere between them, is that run as it is written to.
-/

set_option autoImplicit false

namespace PooledArena

/-- Something that is done to an arena, or to one of its blocks. -/
inductive Deed where
  /-- Check a request, and move the cursor to a place for it. -/
  | book (size align : Word)
  /-- Look at the slot of the place that was booked, and take the block if it is there. -/
  | look
  /-- Give up the place that was booked. -/
  | leave
  | inject
  /-- Write a byte to all of a block. Blocks are numbered as they are handed out. -/
  | fill (number : Nat) (byte : UInt8)
  deriving DecidableEq

/-- Whether the deed writes to a block. The arena has no part in those that do. -/
def Deed.isFill : Deed → Bool
  | fill _ _ => true
  | _ => false

/-- A place that the cursor has passed, and the request that it was booked for. -/
structure Booking where
  size : Word
  align : Word
  place : Place

/-- The addresses of a block. -/
def Block.Covers (block : Block) (addr : Addr) : Prop :=
  block.addr ≤ addr ∧ addr < block.addr + block.size.toNat

/-- An arena in use: its host, the place that is booked, the blocks handed out in order, and
what was written to them, newest first, each with the number of its block. -/
structure Usage (β : Type) where
  system : System β
  booking : Option Booking
  blocks : List Block
  fills : List (Nat × UInt8)

namespace Usage

variable {β : Type} (usage : Usage β)

/-- An arena before its first use. -/
def ofSystem (sys : System β) : Usage β :=
  { system := sys, booking := none, blocks := [], fills := [] }

/-- The byte that a block was filled with last. One that was never filled has its zeros. -/
def lastFill (number : Nat) : UInt8 :=
  (usage.fills.lookup number).getD 0

/-! ### Deeds -/

/-- Find a place for a request, and move the cursor behind it. -/
def book (size align : Word) : Usage β :=
  match usage.system.arena.geometry.accept size align with
  | .error _ => { usage with booking := none }
  | .ok extent =>
    let reservation := usage.system.arena.geometry.reserve extent usage.system.arena.cursor
    let system := { usage.system with arena := usage.system.arena.moveTo reservation.cursor }
    match reservation.landing with
    | .exhausted => { usage with system, booking := none }
    | .settled place => { usage with system, booking := some ⟨size, align, place⟩ }

/-- Look at the slot of the booked place. A pending one tells nothing yet. -/
def look : Usage β :=
  match usage.booking with
  | none => usage
  | some booking =>
    match usage.system.arena.table.slot booking.place.index with
    | .pending => usage
    | .absent => { usage with booking := none }
    | .ready buffer =>
      let (block, arena) :=
        usage.system.arena.grant booking.size booking.align booking.place buffer
      {
        usage with
        system := { usage.system with arena }
        booking := none
        blocks := usage.blocks ++ [block]
      }

/-- Write to a block. Nobody can write to one that was not handed out yet. -/
def fill (number : Nat) (byte : UInt8) : Usage β :=
  match usage.blocks[number]? with
  | none => usage
  | some block =>
    let host := usage.system.host.fill block.addr block.size.toNat byte
    {
      usage with
      system := { usage.system with host }
      fills := (number, byte) :: usage.fills
    }

/-- The usage after a deed. -/
def step [Backing β] (usage : Usage β) : Deed → Usage β
  | .book size align => usage.book size align
  | .look => usage.look
  | .leave => { usage with booking := none }
  | .inject => { usage with system := usage.system.inject.2 }
  | .fill number byte => usage.fill number byte

/-- The usage after several deeds. -/
def steps [Backing β] (usage : Usage β) (deeds : List Deed) : Usage β :=
  deeds.foldl step usage

end Usage

/-- What an operation comes down to. All injections of a wait are made before its last look. -/
def Entry.deeds : Entry → List Deed
  | alloc size align attempt =>
    .book size align :: (List.replicate attempt.injections.length .inject
      ++ [if attempt.outcome = .abandoned then .leave else .look])
  | inject _ => [.inject]

namespace Run

variable {β : Type} [Backing β] (run : Run β)

/-- What all operations come down to. -/
def deeds : List Deed :=
  run.transcript.flatMap Entry.deeds

/-- The arena of a run in use, from its creation on. -/
def usage (deeds : List Deed) : Usage β :=
  (Usage.ofSystem run.opening).steps deeds

end Run

end PooledArena
