import PooledArena.Arena

/-!
# `PooledArena.Arena.Lifecycle`: how an arena begins and ends

Creating an arena takes two loans: one for the slot table and one for the buffer
of the first pool. Where the second is refused the first goes back, so a failed
creation leaves nothing behind. Releasing an arena gives back the buffers in
index order, and the table last.

The buffers are counted while they go back, by a signed number of 32 bits. The
count is checked, so the release of an arena with more buffers than such a number
can say breaks off in the middle, and the rest stays on loan.
-/

set_option autoImplicit false

namespace PooledArena

variable {β : Type} [Backing β]

/-- One more, unless that is too large for a signed number of 32 bits. -/
def countUp (count : Int32) : Option Int32 :=
  if count = Int32.maxValue then none else some (count + 1)

/-- What comes of a release: whether it came to its end, and the host after. -/
structure Release (β : Type) where
  completed : Bool
  host : Host β

namespace Host

/-- Give one loan back after the other, and count on from `count`. Every loan is
counted after it went back, so one that is too many to count has gone back too. -/
def freeCounting (host : Host β) (count : Int32) : List Loan → Option Int32 × Host β
  | [] => (some count, host)
  | loan :: loans =>
    match countUp count with
    | none => (none, host.free loan)
    | some count => (host.free loan).freeCounting count loans

/-- Give the memory of a table back. Nobody remembers the layout that it was asked
for with, so this works it out from the length of the table once more. -/
def freeTable (host : Host β) (table : SlotTable) : Host β :=
  match SlotTable.layout? table.slots.length with
  | none => host
  | some layout => host.free ⟨table.loan.addr, layout⟩

end Host

/-- End the arena: give everything back to the host. -/
def System.release (sys : System β) : Release β :=
  match sys.host.freeCounting 0 sys.arena.bufferLoans with
  | (none, host) => { completed := false, host }
  | (some count, host) => {
      completed := true
      host := (host.freeTable sys.arena.table).note sys.arena.label (.released count)
    }

namespace Arena

/-- Create an arena of these sizes and inject its first pool. The sizes are
checked before anything is allocated. An arena without a first pool has no buffer
to count, so its release comes to its end. -/
def create (label : String) (poolCount minPoolSize : Word) (host : Host β) :
    Except Error Arena × Host β :=
  match Geometry.ofSizes poolCount minPoolSize with
  | .error error => (.error error, host)
  | .ok geometry =>
    match SlotTable.layout? geometry.poolCount.toNat with
    | none => (.error .allocatorError, host)
    | some layout =>
      match host.allocate layout with
      | (none, host) => (.error .allocatorError, host)
      | (some addr, host) =>
        let sys : System β := ⟨Arena.blank label geometry ⟨addr, layout⟩, host⟩
        match sys.inject with
        | (.error error, sys) => (.error error, sys.release.host)
        | (.ok _, sys) =>
          (.ok sys.arena, sys.host.note label (.created geometry.poolCount geometry.poolSize))

end Arena

end PooledArena
