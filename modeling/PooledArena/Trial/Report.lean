import PooledArena.Backing.Scripted

/-!
# `PooledArena.Trial.Report`: what a host did since last time

A report is read off two states of one host, an earlier and a later one. Loans
and calls are counted from the beginning; buffers given back and notices in the
log are those since the earlier state, in the order in which they came.
-/

set_option autoImplicit false

namespace PooledArena

/-- What there is to see of a host. -/
structure Report where
  /-- The loans not given back. -/
  live : Nat
  /-- The requests for memory made to the backing. -/
  calls : Nat
  /-- The pool buffers given back since last time. -/
  freed : List Addr
  /-- The notices since last time. -/
  notices : List Notice

/-- The elements that `later` has before those of `earlier`, oldest first. Both
lists have the newest first. -/
def newSince {α : Type} (earlier later : List α) : List α :=
  (later.take (later.length - earlier.length)).reverse

namespace Host

variable {β : Type}

/-- The loans for pool buffers that ended in these calls. -/
def freedBuffers (calls : List Call) : List Loan :=
  (calls.filterMap Call.freed?).filter fun loan => !loan.layout.isTable

/-- The loans for pool buffers that began in these calls. -/
def grantedBuffers (calls : List Call) : List Loan :=
  (calls.filterMap Call.granted?).filter fun loan => !loan.layout.isTable

/-- What `host` has to report to those who last saw it as `earlier`. -/
def reportSince (host earlier : Host β) : Report where
  live := host.outstanding.length
  calls := host.calls.countP Call.isRequest
  freed := (freedBuffers (newSince earlier.calls host.calls)).map Loan.addr
  notices := newSince earlier.log host.log

end Host

end PooledArena
