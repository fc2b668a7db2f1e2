import PooledArena.Arena.Lifecycle
import PooledArena.Arena.Outlook
import PooledArena.Shell.Reply

/-!
# `PooledArena.Shell.Session`: named arenas on one host

A session keeps arenas under names and does what it is told, one command after
another. All arenas share one host, and each is labelled with its name. Nobody
but the session injects, so it refuses allocations that would wait.

A session ends by itself when it is told to, when a creation or an injection fails
in a way it has no reply for, and when it breaks off because a sum is too large: the
end of a reservation, or the count of the pools that a deletion releases. Whichever
way it ends, `Session.close` releases the arenas that are left.
-/

set_option autoImplicit false

namespace PooledArena.Shell

/-- The arenas by name, and the host that they share. -/
structure Session (β : Type) where
  arenas : List (String × Arena)
  host : Host β

/-- How a session comes to its end before its commands do. -/
inductive Ending where
  | exited
  /-- An operation failed in a way the session has no reply for. -/
  | failed (error : Error)
  /-- The end of a reservation is too large for a word. -/
  | overflowed
  /-- An arena that is to be deleted has more pools than its release can count. -/
  | overcounted
  /-- An allocation waits for a buffer, and nobody is there to bring it. -/
  | hung
  deriving DecidableEq

/-- What the program says when it breaks off because a sum is too large. -/
def sumTooLarge : String := "attempt to add with overflow"

/-- What comes of a line: the replies in order, the end if it came to that, and
the session after. -/
structure Reaction (β : Type) where
  replies : List Reply
  ending : Option Ending
  session : Session β

namespace Ending

/-- What goes to standard error. -/
def err? : Ending → Option String
  | failed error => some ("Error: " ++ error.message)
  | _ => none

/-- What the program says when it breaks off in the middle of a computation. -/
def breakdown? : Ending → Option String
  | overflowed | overcounted => some sumTooLarge
  | _ => none

end Ending

/-- The way out of a session, as far as it has come. -/
structure Closing (β : Type) where
  /-- How often the program has broken off. -/
  breaks : Nat
  host : Host β

namespace Closing

variable {β : Type}

/-- The beginning of the way out. It may be that the program broke off to come there. -/
def begin (ending : Option Ending) (host : Host β) : Closing β :=
  { breaks := if (ending.bind Ending.breakdown?).isSome then 1 else 0, host }

variable [Backing β] (closing : Closing β)

/-- Release an arena. A program that has broken off still does so, but when it breaks off once
more it is stopped. -/
def release (arena : Arena) : Closing β :=
  if closing.breaks < 2 then
    let release := (System.mk arena closing.host).release
    { breaks := if release.completed then closing.breaks else closing.breaks + 1
      host := release.host }
  else
    closing

/-- Release one arena after the other. -/
def releaseAll (arenas : List (String × Arena)) : Closing β :=
  arenas.foldl (fun closing entry => closing.release entry.2) closing

end Closing

namespace Session

variable {β : Type}

/-! ### The arenas of a session -/

/-- A session without arenas. -/
def start (backing : β) : Session β :=
  ⟨[], Host.ofBacking backing⟩

variable (session : Session β)

/-- The arena of this name. -/
def find? (name : String) : Option Arena :=
  session.arenas.lookup name

/-- The session after an arena and the host have changed. -/
def update (name : String) (sys : System β) : Session β where
  arenas := session.arenas.map fun entry => if entry.1 = name then (name, sys.arena) else entry
  host := sys.host

/-- The session goes on after these replies. -/
def say (replies : List Reply) : Reaction β :=
  { replies, ending := none, session }

/-- The session comes to its end after these replies. -/
def stop (replies : List Reply) (ending : Ending) : Reaction β :=
  { replies, ending := some ending, session }

/-- The session goes on with a reply to an error, or ends if there is none. -/
def sayOrFail (reply? : Error → Option Reply) (error : Error) : Reaction β :=
  match reply? error with
  | some reply => session.say [reply]
  | none => session.stop [] (.failed error)

variable [Backing β]

/-! ### The commands -/

/-- Create an arena, under a name that is not in use. -/
def create (name : String) (poolCount minPoolSize : Word) : Reaction β :=
  match session.find? name with
  | some _ => session.say [.nameTaken name]
  | none =>
    match Arena.create name poolCount minPoolSize session.host with
    | (.error error, host) =>
      { session with host }.sayOrFail Reply.ofCreateError? error
    | (.ok arena, host) =>
      let session : Session β := ⟨(name, arena) :: session.arenas, host⟩
      session.say [.created arena.label arena.geometry.poolCount arena.geometry.poolSize]

/-- What follows on a block: if it asks for the next pool, inject or remind. -/
def followUp (name : String) (block : Block) (inject : Bool) (sys : System β) : Reaction β :=
  if !block.moreNeeded then
    (session.update name sys).say [.allocated block]
  else if !inject then
    (session.update name sys).say [.allocated block, .nextPoolRequested]
  else
    match sys.inject with
    | (.ok index, sys) => (session.update name sys).say [.allocated block, .injected index]
    | (.error error, sys) => (session.update name sys).stop [.allocated block] (.failed error)

/-- Allocate from an arena that need not wait. The schedule is empty: there is
nobody to bring a buffer, so the first turn would never end. -/
def allocFrom (name : String) (arena : Arena) (size align : Word) (inject : Bool) : Reaction β :=
  let (attempt, sys) := (System.mk arena session.host).alloc size align []
  match attempt.outcome with
  | .granted block => session.followUp name block inject sys
  | .failed error => (session.update name sys).sayOrFail Reply.ofAllocError? error
  | .abandoned => (session.update name sys).stop [] .hung

/-- Allocate from the arena of this name. -/
def alloc (name : String) (size align : Word) (inject : Bool) : Reaction β :=
  match session.find? name with
  | none => session.say [.unknownName name]
  | some arena =>
    -- The alignment is checked later on, so zero may still come this far.
    let padding := if align.toNat = 0 then 0 else align - 1
    match arena.wouldWait? (Word.saturatingAdd size padding) with
    | none => session.stop [] .overflowed
    | some true => session.say [.wouldWait]
    | some false => session.allocFrom name arena size align inject

/-- Inject into the arena of this name. -/
def inject (name : String) : Reaction β :=
  match session.find? name with
  | none => session.say [.unknownName name]
  | some arena =>
    match (System.mk arena session.host).inject with
    | (.ok index, sys) => (session.update name sys).say [.injected index]
    | (.error error, sys) => (session.update name sys).sayOrFail Reply.ofInjectError? error

/-- Release the arena of this name. -/
def delete (name : String) : Reaction β :=
  match session.find? name with
  | none => session.say [.unknownName name]
  | some arena =>
    let release := (System.mk arena session.host).release
    let session : Session β := {
      arenas := session.arenas.filter fun entry => entry.1 ≠ name
      host := release.host
    }
    if release.completed then session.say [.deleted name] else session.stop [] .overcounted

omit [Backing β] in
/-- Print all arenas, sorted by their texts. -/
def printAll : Reaction β :=
  match session.arenas with
  | [] => session.say [.nothingToPrint]
  | arenas =>
    let texts := arenas.map fun entry => entry.2.describe
    session.say [.printed (texts.mergeSort fun a b => decide (a ≤ b))]

omit [Backing β] in
/-- Print the arena of this name. -/
def print (name : String) : Reaction β :=
  match session.find? name with
  | none => session.say [.unknownName name]
  | some arena => session.say [.printed [arena.describe]]

/-! ### From the first line to the last -/

/-- Do what a command says. -/
def perform : Command → Reaction β
  | .create name poolCount minPoolSize => session.create name poolCount minPoolSize
  | .delete name => session.delete name
  | .alloc name size align inject => session.alloc name size align inject
  | .inject name => session.inject name
  | .print none => session.printAll
  | .print (some name) => session.print name
  | .exit => session.stop [] .exited

/-- React to a line, which may be no command. -/
def react : Except UsageError Command → Reaction β
  | .error error => session.say [.misread error]
  | .ok command => session.perform command

/-- React to one line after the other, until the session ends or the lines do. -/
def reactAll (session : Session β) : List (Except UsageError Command) → List (Reaction β)
  | [] => []
  | input :: inputs =>
    let reaction := session.react input
    match reaction.ending with
    | some _ => [reaction]
    | none => reaction :: reaction.session.reactAll inputs

/-- End the session: release the arenas that are left. -/
def close (ending : Option Ending) : Closing β :=
  (Closing.begin ending session.host).releaseAll session.arenas

/-- What the program leaves behind as its exit code when the session ends like this. It leaves
none if it hangs, and none if it is stopped. -/
def code? (ending : Option Ending) : Option Nat :=
  match ending, (session.close ending).breaks with
  | some .hung, _ => none
  | some (.failed _), 0 => some 1
  | _, 0 => some 0
  | _, 1 => some 101
  | _, _ => none

end Session

namespace Reaction

variable {β : Type} (reaction : Reaction β)

/-- What the reaction writes to standard output. -/
def out : String :=
  String.join (reaction.replies.map Reply.out)

/-- What the reaction writes to standard error. -/
def err? : Option String :=
  (reaction.replies.findSome? Reply.err?).or (reaction.ending.bind Ending.err?)

/-- The message with which the reaction breaks off, if it does. -/
def breakdown? : Option String :=
  reaction.ending.bind Ending.breakdown?

end Reaction

/-- The exit code after these reactions, if the program leaves one. Where the lines ended before
the session did, they end it. -/
def exitCode? {β : Type} [Backing β] (reactions : List (Reaction β)) : Option Nat :=
  match reactions.getLast? with
  | none => some 0
  | some reaction => reaction.session.code? reaction.ending

end PooledArena.Shell
