import PooledArena.Word

/-!
# `PooledArena.Memory`: the bytes behind the addresses

Memory gives a byte to every address. There is one way to change it, `fill`,
which writes one byte value to a whole range. Fresh buffers are filled with
zeros, blocks with whatever their owner likes.

`fill_apply` is the whole theory: inside the range the new byte (`fill_inside`), outside it
the old one (`fill_outside`).
-/

set_option autoImplicit false

namespace PooledArena

/-- The byte at each address. -/
def Memory := Addr → UInt8

namespace Memory

/-- Memory in which nothing was written. -/
def blank : Memory := fun _ => 0

/-- Write `byte` to the `length` addresses from `start` on. -/
def fill (memory : Memory) (start : Addr) (length : Nat) (byte : UInt8) : Memory := fun addr =>
  if start ≤ addr ∧ addr < start + length then byte else memory addr

/-- The `length` bytes from `start` on. -/
def read (memory : Memory) (start : Addr) (length : Nat) : List UInt8 :=
  (List.range length).map fun i => memory (start + i)

/-- Whether the `length` bytes from `start` on are all zero. -/
def isZero (memory : Memory) (start : Addr) (length : Nat) : Bool :=
  length.all fun i _ => memory (start + i) = 0

theorem fill_apply (memory : Memory) (start : Addr) (length : Nat) (byte : UInt8) (addr : Addr) :
    memory.fill start length byte addr
      = if start ≤ addr ∧ addr < start + length then byte else memory addr :=
  rfl

theorem fill_inside {memory : Memory} {start addr : Addr} {length : Nat} {byte : UInt8}
    (h : start ≤ addr ∧ addr < start + length) : memory.fill start length byte addr = byte := by
  rw [fill_apply, if_pos h]

theorem fill_outside {memory : Memory} {start addr : Addr} {length : Nat} {byte : UInt8}
    (h : ¬(start ≤ addr ∧ addr < start + length)) :
    memory.fill start length byte addr = memory addr := by
  rw [fill_apply, if_neg h]

end Memory

end PooledArena
