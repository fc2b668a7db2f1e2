import PooledArena.Slot
import PooledArena.Layout

/-!
# `PooledArena.SlotTable`: the slots of all pools, in index order

The table has one slot for each pool and never changes its length. It lives in
memory of its own, on a loan that it keeps so that it can be given back.

A buffer is not addressed to a slot: `SlotTable.offer` walks from the first slot
on, passes over the ready ones, and stops at the first that is not. A pending
slot takes the buffer, an absent one ends the walk.
-/

set_option autoImplicit false

namespace PooledArena

/-- The memory that holds the table, and what stands in it. -/
@[ext]
structure SlotTable where
  loan : Loan
  slots : List Slot
  deriving DecidableEq

namespace SlotTable

/-- Memory for `length` slots of sixteen bytes, or nothing where no layout is
that large. -/
def layout? (length : Nat) : Option Layout :=
  if h : 16 * length + 8 ≤ 0x8000000000000000 then
    some {
      size := UInt64.ofNat (16 * length)
      align := 8
      isPowerOfTwo_align := ⟨3, rfl⟩
      size_add_align_le := by
        rw [UInt64.toNat_ofNat', Nat.mod_eq_of_lt (by omega)]
        exact h
    }
  else
    none

/-- A table whose slots are all absent. -/
def blank (loan : Loan) (length : Nat) : SlotTable :=
  ⟨loan, List.replicate length .absent⟩

variable (table : SlotTable)

/-! ### Single slots -/

/-- The slot of pool `index`. A pool beyond the table was never asked for, so it
counts as absent. -/
def slot (index : Nat) : Slot :=
  table.slots[index]?.getD .absent

/-- Put a slot in the place of the one at `index`, if there is one. -/
def set (index : Nat) (slot : Slot) : SlotTable :=
  { table with slots := table.slots.set index slot }

/-- Ask for a buffer for pool `index`. Says `true` to the first to ask, and
never for a pool beyond the table. -/
def request (index : Nat) : Bool × SlotTable :=
  match table.slots[index]? with
  | none => (false, table)
  | some slot =>
    let (first, asked) := slot.request
    (first, table.set index asked)

/-! ### The table as a whole -/

/-- Offer a buffer to one slot after the other, as long as they are occupied. The
answer is the index of the slot that took it, and the slots after. -/
def installFirst (buffer : Addr) : List Slot → Option Nat × List Slot
  | [] => (none, [])
  | slot :: slots =>
    match slot.install buffer with
    | (.installed, filled) => (some 0, filled :: slots)
    | (.absent, _) => (none, slot :: slots)
    | (.occupied, _) =>
      let (index, later) := installFirst buffer slots
      (index.map (· + 1), slot :: later)

/-- Bring a buffer: the index of the slot that took it, if one did, and the
table after. -/
def offer (buffer : Addr) : Option Nat × SlotTable :=
  let (index, slots) := installFirst buffer table.slots
  (index, { table with slots })

/-- The state of each slot, in index order. -/
def states : List SlotState :=
  table.slots.map Slot.state

/-- Whether some slot waits for a buffer. -/
def hasPending : Bool :=
  table.states.any (· = .pending)

/-- How many slots hold a buffer. -/
def readyCount : Nat :=
  table.states.countP (· = .ready)

/-- The buffers of the ready slots, in index order. -/
def buffers : List Addr :=
  table.slots.filterMap Slot.buffer?

/-! ### The length stays -/

/-- The walk changes one slot at most. -/
theorem length_installFirst (buffer : Addr) (slots : List Slot) :
    (installFirst buffer slots).2.length = slots.length := by
  induction slots with
  | nil => rfl
  | cons slot slots ih =>
    cases slot with
    | absent => rfl
    | pending => rfl
    | ready held => exact congrArg (· + 1) ih

theorem length_offer (buffer : Addr) :
    (table.offer buffer).2.slots.length = table.slots.length :=
  length_installFirst buffer table.slots

theorem length_request (index : Nat) :
    (table.request index).2.slots.length = table.slots.length := by
  unfold request
  split
  · rfl
  · exact List.length_set

end SlotTable

end PooledArena
