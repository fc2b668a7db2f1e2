import PooledArena.SlotTable.Steps
import PooledArena.Trial.Report

/-!
# `PooledArena.Trial.Slots`: a slot table put through a list of steps

Like a trial of an arena, but for a slot table alone: the table is allocated from
a scripted backing, worked by hand, and given back.
-/

set_option autoImplicit false

namespace PooledArena

/-- Allocate a table, take the steps and give the table back: the answers, unless
there was no memory for the table, and what the host has to report in the end. -/
def Script.runSlots (script : Script) (length : Nat) (steps : List SlotStep) :
    Option (List SlotAnswer) × Report :=
  let host := Host.ofBacking (Scripted.ofScript script)
  match SlotTable.layout? length with
  | none => (none, host.reportSince host)
  | some layout =>
    match host.allocate layout with
    | (none, after) => (none, after.reportSince host)
    | (some addr, after) =>
      let table := SlotTable.blank ⟨addr, layout⟩ length
      (some (table.steps steps).1, (after.free table.loan).reportSince host)

end PooledArena
