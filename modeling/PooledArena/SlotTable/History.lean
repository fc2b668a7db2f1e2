import PooledArena.SlotTable.Steps

/-!
# `PooledArena.SlotTable.History`: what was done to one slot, and what it said

A step of a table is addressed to one slot, or to all of them, or to none. For the slot of an
index it is a task, or nothing at all, and of the answer to the step a part is the slot's own.
The history of a slot is its tasks with these answers, the oldest first.

`Slot.performAll` works on a slot that stands alone.
-/

set_option autoImplicit false

namespace PooledArena

/-- Something to do with a single slot. -/
inductive SlotTask where
  | request
  | state
  | describe
  | lookup
  | install (buffer : Addr)
  | take
  deriving DecidableEq

/-- What a slot was asked to do, and its answer. -/
structure SlotEntry where
  task : SlotTask
  answer : SlotAnswer
  deriving DecidableEq

namespace SlotEntry

/-- The buffer that the slot accepted. -/
def installed? : SlotEntry → Option Addr
  | ⟨.install buffer, .offer .installed⟩ => some buffer
  | _ => none

/-- The buffer that the slot gave up. -/
def taken? : SlotEntry → Option Addr
  | ⟨.take, .taken buffer⟩ => buffer
  | _ => none

end SlotEntry

namespace Slot

/-- Work on the slot: its answer, and the slot after. -/
def perform (slot : Slot) : SlotTask → SlotAnswer × Slot
  | .request => (.first slot.request.1, slot.request.2)
  | .state => (.state slot.state, slot)
  | .describe => (.text slot.describe, slot)
  | .lookup => (.slot slot, slot)
  | .install buffer => (.offer (slot.install buffer).1, (slot.install buffer).2)
  | .take => (.taken slot.take.1, slot.take.2)

/-- Work on the slot again and again: its history, and the slot after. -/
def performAll (slot : Slot) : List SlotTask → List SlotEntry × Slot
  | [] => ([], slot)
  | task :: tasks =>
    let (answer, slot) := slot.perform task
    let (history, slot) := slot.performAll tasks
    (⟨task, answer⟩ :: history, slot)

end Slot

namespace SlotStep

/-- What the step is to the slot at `index`. -/
def task? (index : Nat) : SlotStep → Option SlotTask
  | length => none
  | states => some .state
  | request asked => if asked = index then some .request else none
  | state asked => if asked = index then some .state else none
  | describe asked => if asked = index then some .describe else none
  | lookup asked => if asked = index then some .lookup else none
  | install asked buffer => if asked = index then some (.install buffer) else none
  | take asked => if asked = index then some .take else none
  | takeAll => some .take

end SlotStep

namespace SlotAnswer

/-- What the answer says of the slot at `index`. -/
def about? (index : Nat) : SlotAnswer → Option SlotAnswer
  | states all => all[index]?.map .state
  | allTaken all => all[index]?.map .taken
  | answer => some answer

end SlotAnswer

namespace SlotTable

/-- What a step and its answer are to the slot at `index`. -/
def entryOf? (index : Nat) : SlotStep × SlotAnswer → Option SlotEntry
  | (step, answer) =>
    (step.task? index).bind fun task => (answer.about? index).map fun own => ⟨task, own⟩

/-- What was done to the slot at `index`, and its answers. -/
def history (table : SlotTable) (index : Nat) (steps : List SlotStep) : List SlotEntry :=
  (steps.zip (table.steps steps).1).filterMap (entryOf? index)

end SlotTable

end PooledArena
