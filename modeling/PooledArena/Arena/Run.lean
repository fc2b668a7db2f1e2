import PooledArena.Arena.Alloc
import PooledArena.Arena.Lifecycle

/-!
# `PooledArena.Arena.Run`: the life of an arena, operation by operation

A run is a creation that succeeded, and a list of operations on what it created.
Between creation and release there are two operations: to allocate and to inject.
Each leaves an entry in the transcript of the run.

A run may stop anywhere. It may stop in the middle of a wait too: the schedule of
its last allocation then ends there, and the allocation is abandoned. So what
holds at the end of every run holds at every point of every run.
-/

set_option autoImplicit false

namespace PooledArena

/-- Something to ask of an arena. A request that does not care for the alignment
asks for a multiple of one, and a request by layout for the layout's two numbers. -/
inductive Operation where
  | alloc (size align : Word) (schedule : Schedule)
  | inject
  deriving DecidableEq

/-- An operation that is over, and what came of it. -/
inductive Entry where
  | alloc (size align : Word) (attempt : Attempt)
  | inject (result : Except Error Nat)

namespace Entry

/-- The block that was handed out, if one was. -/
def block? : Entry → Option Block
  | alloc _ _ attempt => attempt.block?
  | inject _ => none

/-- What the injections came to, in order. Those of an allocation were made while
it waited. -/
def injections : Entry → List (Except Error Nat)
  | alloc _ _ attempt => attempt.injections
  | inject result => [result]

/-- The pools that got a buffer, in order. -/
def filled (entry : Entry) : List Nat :=
  entry.injections.filterMap Except.toOption

end Entry

namespace System

variable {β : Type} [Backing β]

/-- Do what an operation asks for: the entry about it, and the system after. -/
def perform (sys : System β) : Operation → Entry × System β
  | .alloc size align schedule =>
    let (attempt, sys) := sys.alloc size align schedule
    (.alloc size align attempt, sys)
  | .inject =>
    let (result, sys) := sys.inject
    (.inject result, sys)

/-- Do one operation after the other. -/
def performAll (sys : System β) : List Operation → List Entry × System β
  | [] => ([], sys)
  | operation :: operations =>
    let (entry, sys) := sys.perform operation
    let (entries, sys) := sys.performAll operations
    (entry :: entries, sys)

end System

/-- An arena that was created, and what is done with it. -/
structure Run (β : Type) [Backing β] where
  label : String
  poolCount : Word
  minPoolSize : Word
  /-- The host before the creation. -/
  host : Host β
  /-- The arena, and its host after the creation. -/
  opening : System β
  create_eq : Arena.create label poolCount minPoolSize host = (.ok opening.arena, opening.host)
  operations : List Operation

namespace Run

variable {β : Type} [Backing β]

/-- The run that is over with its creation, where that succeeds. -/
def start? (label : String) (poolCount minPoolSize : Word) (host : Host β) : Option (Run β) :=
  match hcreate : Arena.create label poolCount minPoolSize host with
  | (.error _, _) => none
  | (.ok arena, after) =>
    some {
      label
      poolCount
      minPoolSize
      host
      opening := ⟨arena, after⟩
      create_eq := hcreate
      operations := []
    }

variable (run : Run β)

/-- The shape of the arena, which never changes. -/
def geometry : Geometry :=
  run.opening.arena.geometry

/-- The entries about all operations, in order. -/
def transcript : List Entry :=
  (run.opening.performAll run.operations).1

/-- The arena and its host when the last operation is over. -/
def final : System β :=
  (run.opening.performAll run.operations).2

/-- The blocks handed out, in order. -/
def blocks : List Block :=
  run.transcript.filterMap Entry.block?

/-- The pools that got a buffer after the creation, in order. -/
def filled : List Nat :=
  run.transcript.flatMap Entry.filled

/-- What comes of the release of the arena after the run. -/
def released : Release β :=
  run.final.release

/-- The same run with more operations at its end. -/
def andThen (later : List Operation) : Run β :=
  { run with operations := run.operations ++ later }

end Run

end PooledArena
