import PooledArena.Host

/-!
# `PooledArena.Backing.Scripted`: a backing that fails on demand

This backing lends buffers one behind the other from a base address on, and
never lends an address twice. A script says which of its calls fail. It tells
slot tables from pool buffers by their layout: no pool is a multiple of sixteen
bytes at an alignment of eight. Tables lie beyond all 64-bit addresses, so the
addresses of buffers depend on the buffers alone.
-/

set_option autoImplicit false

namespace PooledArena

/-- What a scripted backing is to do. -/
structure Script where
  /-- Where the first buffer goes, before rounding up to its alignment. -/
  base : Addr
  /-- The numbers of the calls that fail, from zero on. -/
  failingCalls : List Nat
  /-- How many calls may succeed, if there is a limit. -/
  limit : Option Nat
  /-- Whether there are bytes behind the addresses. Then buffers must not be too
  large. -/
  hasMemory : Bool

/-- The script in which no call fails on demand. -/
def Script.smooth : Script where
  base := 65536
  failingCalls := []
  limit := none
  hasMemory := false

/-- A scripted backing at work: the calls made, those that succeeded, and the
first free addresses for buffers and for tables. -/
structure Scripted where
  script : Script
  callCount : Nat
  grantCount : Nat
  nextBuffer : Addr
  nextTable : Addr

/-- The layouts of slot tables, as opposed to pool buffers. -/
def Layout.isTable (layout : Layout) : Bool :=
  layout.size = 0 || (layout.align = 8 && 16 ≤ layout.size.toNat)

namespace Scripted

/-- The largest slot table, in bytes. -/
def maxTableSize : Nat := 65536

/-- The largest buffer with bytes behind its addresses. -/
def maxBufferSize : Nat := 1048576

/-- The backing before its first call. -/
def ofScript (script : Script) : Scripted where
  script
  callCount := 0
  grantCount := 0
  nextBuffer := script.base
  nextTable := 0x10000000000000000

/-- Whether the script lets the next call through. -/
def permits (backing : Scripted) : Bool :=
  !backing.script.failingCalls.contains backing.callCount
    && backing.script.limit.all (backing.grantCount < ·)

/-- The first multiple of `align` from `addr` on. -/
def roundUp (addr : Addr) (align : Nat) : Addr :=
  (addr + (align - 1)) / align * align

/-- Lend memory for a slot table. -/
def lendTable (backing : Scripted) (layout : Layout) : Option Addr × Scripted :=
  let size := layout.size.toNat
  if size = 0 ∨ maxTableSize < size then
    (none, backing)
  else
    (some backing.nextTable, {
      backing with
      grantCount := backing.grantCount + 1
      nextTable := backing.nextTable + size
    })

/-- Whether a buffer of this size may be lent, wherever it lies. -/
def suits (backing : Scripted) (size : Nat) : Bool :=
  !backing.script.hasMemory || size ≤ maxBufferSize

/-- Lend memory for a pool buffer, all of which has to have 64-bit addresses. -/
def lendBuffer (backing : Scripted) (layout : Layout) : Option Addr × Scripted :=
  let size := layout.size.toNat
  let addr := roundUp backing.nextBuffer layout.align.toNat
  if addr + size < 0x10000000000000000 ∧ backing.suits size then
    (some addr, {
      backing with
      grantCount := backing.grantCount + 1
      nextBuffer := addr + size
    })
  else
    (none, backing)

instance : Backing Scripted where
  allocate layout backing :=
    -- A call counts whether or not it succeeds.
    let called := { backing with callCount := backing.callCount + 1 }
    if !backing.permits then
      (none, called)
    else if layout.isTable then
      called.lendTable layout
    else
      called.lendBuffer layout
  free _ backing := backing

end Scripted

end PooledArena
