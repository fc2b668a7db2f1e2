import PooledArena.Shell.Command
import PooledArena.Arena.Alloc
import PooledArena.Arena.Describe
import PooledArena.Text.Quoted

/-!
# `PooledArena.Shell.Reply`: what the shell says

Everything that the shell has to say in answer to a line, as data and as text.
Names are quoted, sizes and addresses are in base sixteen. Replies go to standard
output; only the message about a line that is no command goes to standard error,
between two blank lines.
-/

set_option autoImplicit false

namespace PooledArena.Shell

/-- Something the shell says. -/
inductive Reply where
  | misread (error : UsageError)
  | created (name : String) (poolCount poolSize : Word)
  | noPools
  | tooMuchMemory
  | nameTaken (name : String)
  | unknownName (name : String)
  | wouldWait
  | allocated (block : Block)
  | nextPoolRequested
  | zeroSize
  | tooLarge (size poolSize : Word)
  | badAlign (align : Word)
  | full
  | neverRequested (index : Nat)
  | injected (index : Nat)
  | nothingToInject
  | nothingToPrint
  | printed (texts : List String)
  | deleted (name : String)
  deriving DecidableEq

namespace Reply

/-- The reply to a creation that failed, where the shell has one of its own. -/
def ofCreateError? : Error → Option Reply
  | .invalidPoolCount => some noPools
  | .poolSizeOverflow => some tooMuchMemory
  | _ => none

/-- The reply to an allocation that failed, where the shell has one of its own. -/
def ofAllocError? : Error → Option Reply
  | .allocZeroSize => some zeroSize
  | .requestTooLarge size poolSize => some (tooLarge size poolSize)
  | .invalidAlign align => some (badAlign align)
  | .capacityExhausted => some full
  | .poolAbsent index => some (neverRequested index)
  | _ => none

/-- The reply to an injection that failed, where the shell has one of its own. -/
def ofInjectError? : Error → Option Reply
  | .doubleInjection => some nothingToInject
  | _ => none

/-- The reply as a line, without the line break at its end. -/
def line : Reply → String
  | misread _ => "\n"
  | created name poolCount poolSize =>
    "Created allocator " ++ Text.quoted name ++ " with " ++ toString poolCount.toNat
      ++ " pools of " ++ Text.hex poolSize.toNat ++ " bytes"
  | noPools => "There must be at least one pool!"
  | tooMuchMemory => "That is more memory than the address space can hold!"
  | nameTaken name => "There is already an allocator named " ++ Text.quoted name
  | unknownName name => "There is no allocator named " ++ Text.quoted name ++ " :("
  | wouldWait => "That allocation would wait for a pool nobody injected. Inject first!"
  | allocated block =>
    "Allocated " ++ Text.hex block.size.toNat ++ " bytes at " ++ Text.hex block.addr
  | nextPoolRequested => "The next pool was requested; remember to inject it!"
  | zeroSize => "The size must not be zero!"
  | tooLarge size poolSize =>
    Text.hex size.toNat ++ " bytes do not fit in a pool of " ++ Text.hex poolSize.toNat
      ++ " bytes!"
  | badAlign align => "An alignment of " ++ Text.hex align.toNat ++ " is not supported!"
  | full => "That allocator is full!"
  | neverRequested index =>
    "The allocation landed in pool " ++ toString index ++ ", which was never requested!"
  | injected index => "Injected pool " ++ toString index
  | nothingToInject => "No pool is waiting to be injected!"
  | nothingToPrint => "There are no allocators to print!"
  | printed texts => String.join (texts.map ("\n" ++ ·))
  | deleted name => "Deleted allocator " ++ Text.quoted name ++ "!"

/-- What goes to standard output. -/
def out (reply : Reply) : String :=
  reply.line ++ "\n"

/-- What goes to standard error. -/
def err? : Reply → Option String
  | misread error => some error.message
  | _ => none

end Reply

end PooledArena.Shell
