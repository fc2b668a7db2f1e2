import PooledArena.Text.Hex

/-!
# `PooledArena.Slot`: one pool's entry in the slot table

A slot is absent until a block of the pool before it asks for it, then pending
until somebody brings a buffer, then ready. Only a ready slot holds an address,
so a ready slot without a buffer cannot be written down.
-/

set_option autoImplicit false

namespace PooledArena

/-- What an arena knows of one of its pools. -/
inductive Slot where
  /-- No buffer, and none was asked for. -/
  | absent
  /-- A buffer was asked for and has not come yet. -/
  | pending
  /-- The pool's buffer. -/
  | ready (buffer : Addr)
  deriving DecidableEq

/-- How far a slot has come, without its address. -/
inductive SlotState where
  | absent
  | pending
  | ready
  deriving DecidableEq

/-- What became of a buffer that was offered to a slot. -/
inductive Offer where
  | installed
  /-- The slot holds a buffer already. -/
  | occupied
  /-- Nobody asked for a buffer. -/
  | absent
  deriving DecidableEq

namespace Slot

/-- How far the slot has come. -/
def state : Slot → SlotState
  | absent => .absent
  | pending => .pending
  | ready _ => .ready

/-- Ask for a buffer. Says `true` to the first to ask, and to nobody else. -/
def request : Slot → Bool × Slot
  | absent => (true, pending)
  | slot => (false, slot)

/-- Offer a buffer, which only a pending slot accepts. -/
def install (buffer : Addr) : Slot → Offer × Slot
  | absent => (.absent, absent)
  | pending => (.installed, ready buffer)
  | ready held => (.occupied, ready held)

/-- The buffer that a slot gives up when it is emptied. -/
def buffer? : Slot → Option Addr
  | ready buffer => some buffer
  | _ => none

/-- Empty the slot, whatever its state. The buffer of a ready slot is handed out. -/
def take (slot : Slot) : Option Addr × Slot :=
  (slot.buffer?, absent)

/-- The slot as a text, with the address of its buffer. -/
def describe : Slot → String
  | absent => "Absent"
  | pending => "Pending"
  | ready buffer => "Ready at " ++ Text.hex buffer

end Slot

namespace SlotState

/-- The state as a word. -/
def name : SlotState → String
  | absent => "Absent"
  | pending => "Pending"
  | ready => "Ready"

/-- The letter of the state in a run-length text. -/
def letter : SlotState → Char
  | absent => 'A'
  | pending => 'P'
  | ready => 'R'

end SlotState

namespace Offer

/-- The answer as a word. -/
def name : Offer → String
  | installed => "Installed"
  | occupied => "Occupied"
  | absent => "Absent"

end Offer

end PooledArena
