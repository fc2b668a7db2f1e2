import PooledArena.Layout
import PooledArena.Memory
import PooledArena.Notice

/-!
# `PooledArena.Host`: where arenas get their memory from

An arena takes its slot table and its pool buffers from a backing allocator. The
class `Backing` says what it asks of one: to lend zeroed memory for a layout, or
to refuse, and to take loans back. Nothing is assumed about the addresses.

The host keeps the backing together with all that can be seen of the dealings
with it: the calls made, the bytes behind the addresses, and the log. Calls and
notices are listed newest first. Several arenas may share one host.
-/

set_option autoImplicit false

namespace PooledArena

/-- A backing allocator whose state is a `β`. -/
class Backing (β : Type) where
  /-- Lend zeroed memory for the layout, or refuse. -/
  allocate : Layout → β → Option Addr × β
  /-- Take a loan back. -/
  free : Loan → β → β

/-- A call to the backing allocator, with its answer. -/
inductive Call where
  | granted (loan : Loan)
  | refused (layout : Layout)
  | freed (loan : Loan)
  deriving DecidableEq

/-- The loans still held after these calls, newest first. -/
def Call.outstanding : List Call → List Loan
  | [] => []
  | .granted loan :: calls => loan :: outstanding calls
  | .refused _ :: calls => outstanding calls
  | .freed loan :: calls => (outstanding calls).erase loan

/-- Whether the call asked for memory. -/
def Call.isRequest : Call → Bool
  | .freed _ => false
  | _ => true

/-- The loan that ended with the call. -/
def Call.freed? : Call → Option Loan
  | .freed loan => some loan
  | _ => none

/-- The loan that began with the call. -/
def Call.granted? : Call → Option Loan
  | .granted loan => some loan
  | _ => none

/-- A backing allocator and all dealings with it. -/
structure Host (β : Type) where
  backing : β
  calls : List Call
  memory : Memory
  log : List Notice

namespace Host

variable {β : Type}

/-- A host that has done nothing yet. -/
def ofBacking (backing : β) : Host β :=
  { backing, calls := [], memory := Memory.blank, log := [] }

/-- The loans that were never given back. -/
def outstanding (host : Host β) : List Loan :=
  Call.outstanding host.calls

/-- Ask the backing for memory. What it lends reads as zeros. -/
def allocate [Backing β] (host : Host β) (layout : Layout) : Option Addr × Host β :=
  match Backing.allocate layout host.backing with
  | (none, backing) => (none, { host with backing, calls := .refused layout :: host.calls })
  | (some addr, backing) =>
    (some addr, {
      host with
      backing
      calls := .granted ⟨addr, layout⟩ :: host.calls
      memory := host.memory.fill addr layout.size.toNat 0
    })

/-- Give a loan back. -/
def free [Backing β] (host : Host β) (loan : Loan) : Host β :=
  { host with backing := Backing.free loan host.backing, calls := .freed loan :: host.calls }

/-- Write an event to the log, under a label. -/
def note (host : Host β) (label : String) (event : Event) : Host β :=
  { host with log := ⟨label, event⟩ :: host.log }

/-- Write a byte to a range of memory. -/
def fill (host : Host β) (start : Addr) (length : Nat) (byte : UInt8) : Host β :=
  { host with memory := host.memory.fill start length byte }

end Host

end PooledArena
