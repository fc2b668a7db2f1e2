import PooledArena.SlotTable.History

/-!
# `PooledArena.SlotTable.Cell`: a slot in memory

In memory a slot is two fields, a tag and a pointer, and each operation writes one after the
other. The pointer is null unless the tag says that the slot is ready. Nothing in the fields
themselves makes that so: a ready tag beside a null pointer can be written down, and has no
answer to a lookup.

A tag is changed by comparing it with an expected one first. So of two installers only one goes
on to write the pointer, and says that it does by a tag of its own.
-/

set_option autoImplicit false

namespace PooledArena

/-- How far a slot has come, as it stands in memory. -/
inductive Tag where
  | absent
  | pending
  /-- Somebody is bringing a buffer. To everybody else the slot is pending. -/
  | installing
  | ready
  deriving DecidableEq

/-- A slot as its two fields in memory. A pointer may be null. -/
structure Cell where
  tag : Tag
  pointer : Option Addr
  deriving DecidableEq

namespace Cell

/-- The fields of an absent slot. -/
def blank : Cell :=
  ⟨.absent, none⟩

/-- Change the tag to `new` if it is `expected`. The tag before is the answer, as a success or as
a failure. -/
def exchange (cell : Cell) (expected new : Tag) : Except Tag Tag × Cell :=
  if cell.tag = expected then (.ok cell.tag, { cell with tag := new }) else (.error cell.tag, cell)

/-- How far the slot has come. -/
def state (cell : Cell) : SlotState :=
  match cell.tag with
  | .absent => .absent
  | .pending | .installing => .pending
  | .ready => .ready

/-- Look at the slot. There is nothing to see where the tag is ready and the pointer is null. -/
def lookup? (cell : Cell) : Option Slot :=
  match cell.tag with
  | .absent => some .absent
  | .pending | .installing => some .pending
  | .ready => cell.pointer.map .ready

/-- Ask for a buffer. -/
def request (cell : Cell) : Bool × Cell :=
  match cell.exchange .absent .pending with
  | (.ok _, cell) => (true, cell)
  | (.error _, cell) => (false, cell)

/-- Offer a buffer: claim the slot, write the pointer, and let everybody see it. -/
def install (buffer : Addr) (cell : Cell) : Offer × Cell :=
  match cell.exchange .pending .installing with
  | (.ok _, claimed) =>
    let written := { claimed with pointer := some buffer }
    (.installed, { written with tag := .ready })
  | (.error .absent, cell) => (.absent, cell)
  | (.error _, cell) => (.occupied, cell)

/-- Empty both fields. The pointer is handed out if the tag was ready. -/
def take (cell : Cell) : Option Addr × Cell :=
  (if cell.tag = .ready then cell.pointer else none, blank)

/-- Work on the slot, which has no answer where there is nothing to see. -/
def perform (cell : Cell) : SlotTask → Option SlotAnswer × Cell
  | .request => (some (.first cell.request.1), cell.request.2)
  | .state => (some (.state cell.state), cell)
  | .describe => (cell.lookup?.map fun slot => .text slot.describe, cell)
  | .lookup => (cell.lookup?.map .slot, cell)
  | .install buffer => (some (.offer (cell.install buffer).1), (cell.install buffer).2)
  | .take => (some (.taken cell.take.1), cell.take.2)

/-- Work on the slot again and again: its answers, and the fields after. -/
def performAll (cell : Cell) : List SlotTask → List (Option SlotAnswer) × Cell
  | [] => ([], cell)
  | task :: tasks =>
    let (answer, cell) := cell.perform task
    let (answers, cell) := cell.performAll tasks
    (answer :: answers, cell)

/-- The fields of a slot in memory. -/
def ofSlot : Slot → Cell
  | .absent => blank
  | .pending => ⟨.pending, none⟩
  | .ready buffer => ⟨.ready, some buffer⟩

end Cell

end PooledArena
