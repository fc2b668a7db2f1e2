import PooledArena.Arena.Lifecycle
import PooledArena.Arena.Describe
import PooledArena.Text.RunLength
import PooledArena.Trial.Drain
import PooledArena.Trial.Report

/-!
# `PooledArena.Trial`: an arena put through a list of steps

A trial creates an arena on a scripted backing, takes its steps one by one, and
releases the arena. After each step it notes the answer and what can be seen of
the arena and of its host.

The blocks of single allocations are numbered from zero on; those of drains have
no number. Steps that look at memory name a block by that number, or a buffer by
the order in which the backing lent it.
-/

set_option autoImplicit false

namespace PooledArena

/-- What an allocation is to do besides allocating. -/
structure AllocPlan where
  size : Word
  align : Word
  schedule : Schedule
  /-- Whether to inject if the block asks for it. -/
  inject : Bool

/-- Something to do with an arena. -/
inductive Step where
  | alloc (plan : AllocPlan)
  /-- The same, if size and alignment make a layout. -/
  | allocLayout (plan : AllocPlan)
  | drain (plan : DrainPlan) (limit : Nat)
  | inject
  | slotState (index : Nat)
  | info
  | describe
  /-- Write a byte to all of a block. -/
  | fill (number : Nat) (byte : UInt8)
  /-- Read a block. -/
  | read (number : Nat)
  /-- Read a buffer, counted in the order of lending. -/
  | dump (number : Nat)

/-- Why a step that looks at memory cannot be taken. -/
inductive Missing where
  | block
  | memory
  | buffer
  deriving DecidableEq

/-- The answer to a step. -/
inductive Answer where
  /-- Size and alignment make no layout. -/
  | badLayout
  /-- An allocation, the number its block has or would have had, and what came of
  the injection that followed it, if one did. -/
  | allocated (attempt : Attempt) (number : Nat) (injection : Option (Except Error Nat))
  | drained (drain : Drain) (ending : DrainEnd)
  | injected (result : Except Error Nat)
  | slotState (state : Option SlotState)
  | info (arena : Arena)
  | text (text : String)
  | filled (length : Nat)
  | bytes (bytes : List UInt8)
  | dumped (addr : Addr) (bytes : List UInt8)
  | missing (what : Missing)

/-- What can be seen of an arena and its host after a step. -/
structure Observation where
  reserved : Word
  ready : Nat
  needsInjection : Bool
  slots : List SlotState
  report : Report

/-- The states of all slots as a run-length text. -/
def Observation.slotText (seen : Observation) : String :=
  Text.runLength SlotState.letter seen.slots

/-- A trial under way: the arena with its host, and the numbered blocks. -/
structure Trial where
  system : System Scripted
  blocks : List Block

/-- The turns an allocation of a trial bears before it is given up. -/
def patience : Nat := 1000

/-- The schedule that injects once in the turns of these numbers, the first being one. -/
def Schedule.injectingAt (turns : List Nat) : Schedule :=
  (List.range patience).map fun n => if turns.contains (n + 1) then 1 else 0

namespace Trial

variable (trial : Trial)

/-! ### Single steps -/

/-- Whether there is memory to look at behind the addresses. -/
def hasMemory : Bool :=
  trial.system.host.backing.script.hasMemory

/-- What can be seen, by those who last saw the host as `earlier`. -/
def observe (earlier : Host Scripted) : Observation where
  reserved := trial.system.arena.reserved
  ready := trial.system.arena.readyPools
  needsInjection := trial.system.arena.needsInjection
  slots := trial.system.arena.table.states
  report := trial.system.host.reportSince earlier

/-- Allocate, and inject if the plan and the block ask for it. -/
def alloc (plan : AllocPlan) : Answer × Trial :=
  let number := trial.blocks.length
  let (attempt, system) := trial.system.alloc plan.size plan.align plan.schedule
  match attempt.block? with
  | none => (.allocated attempt number none, { trial with system })
  | some block =>
    let blocks := trial.blocks ++ [block]
    if plan.inject && block.moreNeeded then
      let (result, system) := system.inject
      (.allocated attempt number (some result), { trial with system, blocks })
    else
      (.allocated attempt number none, { trial with system, blocks })

/-- The block of this number, where there is one and memory behind it. -/
def block? (number : Nat) : Except Missing Block :=
  match trial.blocks[number]? with
  | none => .error .block
  | some block => if trial.hasMemory then .ok block else .error .memory

/-- The loan of this number among those of buffers, where there is memory and the
loan was not given back. -/
def bufferLoan? (number : Nat) : Except Missing Loan :=
  let host := trial.system.host
  if !trial.hasMemory then
    .error .memory
  else
    match (Host.grantedBuffers host.calls.reverse)[number]? with
    | none => .error .buffer
    | some loan => if loan ∈ host.outstanding then .ok loan else .error .buffer

/-- Take one step. -/
def step : Step → Answer × Trial
  | .alloc plan => trial.alloc plan
  | .allocLayout plan =>
    match Layout.ofSizeAlign? plan.size plan.align with
    | none => (.badLayout, trial)
    | some _ => trial.alloc plan
  | .drain plan limit =>
    let (drained, ending, system) := trial.system.drain plan limit Drain.blank
    (.drained drained ending, { trial with system })
  | .inject =>
    let (result, system) := trial.system.inject
    (.injected result, { trial with system })
  | .slotState index => (.slotState (trial.system.arena.slotState? index), trial)
  | .info => (.info trial.system.arena, trial)
  | .describe => (.text trial.system.arena.describe, trial)
  | .fill number byte =>
    match trial.block? number with
    | .error what => (.missing what, trial)
    | .ok block =>
      let host := trial.system.host.fill block.addr block.size.toNat byte
      (.filled block.size.toNat, { trial with system := { trial.system with host } })
  | .read number =>
    match trial.block? number with
    | .error what => (.missing what, trial)
    | .ok block =>
      (.bytes (trial.system.host.memory.read block.addr block.size.toNat), trial)
  | .dump number =>
    match trial.bufferLoan? number with
    | .error what => (.missing what, trial)
    | .ok loan =>
      (.dumped loan.addr (trial.system.host.memory.read loan.addr loan.layout.size.toNat), trial)

/-! ### Whole trials -/

/-- Take one step after the other, and look around after each. -/
def steps (trial : Trial) : List Step → List (Answer × Observation) × Trial
  | [] => ([], trial)
  | step :: rest =>
    let (answer, after) := trial.step step
    let seen := after.observe trial.system.host
    let (answers, last) := after.steps rest
    ((answer, seen) :: answers, last)

end Trial

/-- The arena and the backing of a trial. -/
structure Setup where
  label : String
  poolCount : Word
  minPoolSize : Word
  script : Script

/-- The record of a trial. -/
inductive Record where
  /-- There was no arena to begin with. -/
  | failed (error : Error) (report : Report)
  /-- The arena and what was seen at first, the answers, and the release. -/
  | completed (arena : Arena) (opening : Observation) (answers : List (Answer × Observation))
    (closing : Report)

/-- Make a trial from beginning to end. -/
def Setup.run (setup : Setup) (steps : List Step) : Record :=
  let host := Host.ofBacking (Scripted.ofScript setup.script)
  match Arena.create setup.label setup.poolCount setup.minPoolSize host with
  | (.error error, after) => .failed error (after.reportSince host)
  | (.ok arena, after) =>
    let trial : Trial := ⟨⟨arena, after⟩, []⟩
    let (answers, last) := trial.steps steps
    .completed arena (trial.observe host) answers
      (last.system.release.host.reportSince last.system.host)

end PooledArena
