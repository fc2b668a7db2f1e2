import PooledArena.Arena.Alloc

/-!
# `PooledArena.Trial.Drain`: one allocation after another, until one fails

A drain repeats the same request. It may inject whenever a block asks for the
next pool, and a failed injection ends it too.
-/

set_option autoImplicit false

namespace PooledArena

/-- Why a drain ended. -/
inductive DrainEnd where
  /-- It made as many blocks as it was allowed to. -/
  | limit
  /-- This allocation gave no block. -/
  | allocation (attempt : Attempt)
  /-- The injection for the last block failed. -/
  | injection (error : Error)

/-- The blocks of a drain, newest first, and how many injections succeeded. -/
structure Drain where
  blocks : List Block
  injected : Nat

namespace Drain

/-- A drain that has made no block yet. -/
def blank : Drain := ⟨[], 0⟩

/-- The addresses of the blocks, in the order in which they were made. -/
def addrs (drain : Drain) : List Addr :=
  drain.blocks.reverse.map Block.addr

/-- The sizes of all blocks together. -/
def bytes (drain : Drain) : Nat :=
  drain.blocks.foldl (fun sum block => sum + block.size.toNat) 0

/-- The sum of all addresses, as a word. -/
def addrSum (drain : Drain) : Nat :=
  drain.addrs.foldl (· + ·) 0 % 0x10000000000000000

end Drain

/-- The request that a drain repeats. -/
structure DrainPlan where
  size : Word
  align : Word
  schedule : Schedule
  /-- Whether to inject for a block that asks for it. -/
  inject : Bool

namespace System

variable {β : Type} [Backing β]

/-- Make at most `limit` more blocks. -/
def drain (plan : DrainPlan) : (limit : Nat) → Drain → System β → Drain × DrainEnd × System β
  | 0, drained, sys => (drained, .limit, sys)
  | limit + 1, drained, sys =>
    let (attempt, sys) := sys.alloc plan.size plan.align plan.schedule
    match attempt.block? with
    | none => (drained, .allocation attempt, sys)
    | some block =>
      let drained := { drained with blocks := block :: drained.blocks }
      if plan.inject && block.moreNeeded then
        match sys.inject with
        | (.error error, sys) => (drained, .injection error, sys)
        | (.ok _, sys) => drain plan limit { drained with injected := drained.injected + 1 } sys
      else
        drain plan limit drained sys

end System

end PooledArena
