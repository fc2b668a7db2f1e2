import PooledArena.SlotTable

/-!
# `PooledArena.SlotTable.Steps`: a slot table worked by hand

Every operation on a slot, and on the table as a whole, as a step with an answer.
A step at an index beyond the table changes nothing; emptying a slot that is not
there gives no buffer, and every other such step is answered as out of bounds.
-/

set_option autoImplicit false

namespace PooledArena

/-- Something to do with a slot table. -/
inductive SlotStep where
  | length
  | states
  | request (index : Nat)
  | state (index : Nat)
  | describe (index : Nat)
  | lookup (index : Nat)
  | install (index : Nat) (buffer : Addr)
  | take (index : Nat)
  | takeAll
  deriving DecidableEq

/-- The answer to a step. -/
inductive SlotAnswer where
  | number (n : Nat)
  | states (states : List SlotState)
  | first (first : Bool)
  | state (state : SlotState)
  | text (text : String)
  | slot (slot : Slot)
  | offer (offer : Offer)
  | taken (buffer : Option Addr)
  | allTaken (buffers : List (Option Addr))
  | outOfBounds (length index : Nat)
  deriving DecidableEq

/-- What is said about an index beyond the table. -/
def outOfBoundsMessage (length index : Nat) : String :=
  "index out of bounds: the len is " ++ toString length ++ " but the index is " ++ toString index

namespace SlotTable

variable (table : SlotTable)

/-- Work on the slot at `index`, if it is there. -/
def atSlot (index : Nat) (work : Slot → SlotAnswer × Slot) : SlotAnswer × SlotTable :=
  match table.slots[index]? with
  | none => (.outOfBounds table.slots.length index, table)
  | some slot =>
    let (answer, slot) := work slot
    (answer, table.set index slot)

/-- Take one step. -/
def step : SlotStep → SlotAnswer × SlotTable
  | .length => (.number table.slots.length, table)
  | .states => (.states table.states, table)
  | .request index => table.atSlot index fun slot => (.first slot.request.1, slot.request.2)
  | .state index => table.atSlot index fun slot => (.state slot.state, slot)
  | .describe index => table.atSlot index fun slot => (.text slot.describe, slot)
  | .lookup index => table.atSlot index fun slot => (.slot slot, slot)
  | .install index buffer => table.atSlot index fun slot =>
    (.offer (slot.install buffer).1, (slot.install buffer).2)
  | .take index =>
    let taken := (table.slot index).take
    (.taken taken.1, table.set index taken.2)
  | .takeAll =>
    let taken := table.slots.map Slot.take
    (.allTaken (taken.map Prod.fst), { table with slots := taken.map Prod.snd })

/-- Take one step after the other. -/
def steps (table : SlotTable) : List SlotStep → List SlotAnswer × SlotTable
  | [] => ([], table)
  | step :: rest =>
    let (answer, table) := table.step step
    let (answers, table) := table.steps rest
    (answer :: answers, table)

end SlotTable

end PooledArena
