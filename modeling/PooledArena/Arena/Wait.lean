import PooledArena.Arena

/-!
# `PooledArena.Arena.Wait`: waiting for a pool's buffer

A block that falls in a pending pool has to wait until somebody brings the
buffer. The wait looks at the slot, and while it is pending it relaxes for a turn
and looks again. What happens elsewhere during each turn is given by a schedule:
so many injections, most often none or one. A schedule also says how long the
wait is borne: when its last turn is over, the wait is given up without another
look.
-/

set_option autoImplicit false

namespace PooledArena

/-- The turns that a waiting allocation bears, in order. Each is the number of
injections made while it passes. -/
abbrev Schedule := List Nat

/-- How a wait ends. -/
inductive Arrival where
  | ready (buffer : Addr)
  | absent
  | abandoned
  deriving DecidableEq

/-- A wait that is over: how it ended, the turns it took, what the injections
among them came to, and the system after. -/
structure Wait (β : Type) where
  arrival : Arrival
  relaxes : Nat
  injections : List (Except Error Nat)
  system : System β

/-- What a slot tells a waiting allocation. A pending slot tells nothing yet. -/
def Slot.arrival? : Slot → Option Arrival
  | .absent => some .absent
  | .pending => none
  | .ready buffer => some (.ready buffer)

namespace System

variable {β : Type} [Backing β]

/-- Inject so many times: what the injections come to, and the system after. -/
def injectTimes (sys : System β) : Nat → List (Except Error Nat) × System β
  | 0 => ([], sys)
  | times + 1 =>
    let (result, sys) := sys.inject
    let (results, sys) := sys.injectTimes times
    (result :: results, sys)

/-- Wait until pool `index` is no longer pending, or the schedule is over. -/
def await (index : Nat) : Schedule → System β → Wait β
  | [], sys =>
    let arrival := (sys.arena.table.slot index).arrival?.getD .abandoned
    { arrival, relaxes := 0, injections := [], system := sys }
  | turn :: turns, sys =>
    match (sys.arena.table.slot index).arrival? with
    | some arrival => { arrival, relaxes := 0, injections := [], system := sys }
    | none =>
      let (injections, sys) := sys.injectTimes turn
      -- An injection in the last turn counts, but nobody looks at the slot again.
      if turns.isEmpty then
        { arrival := .abandoned, relaxes := 1, injections, system := sys }
      else
        let later := await index turns sys
        {
          later with
          relaxes := later.relaxes + 1
          injections := injections ++ later.injections
        }

end System

end PooledArena
