import PooledArena.Shell.Session
import PooledArena.Backing.Scripted

/-!
# `PooledArena.Main`: the shell as a program

Reads lines from standard input until they or the session end, and writes what the
session says. Only reading, writing and the exit code are here.
-/

set_option autoImplicit false

namespace PooledArena.Shell

/-- Do nothing, for ever. -/
partial def idle : IO UInt32 := do
  IO.sleep 1000
  idle

/-- Write what a session replies to a line. -/
def write {β : Type} (reaction : Reaction β) : IO Unit := do
  IO.print reaction.out
  if let some message := reaction.replies.findSome? Reply.err? then
    IO.eprintln message

/-- End a session, and give the exit code. An error is told of when all arenas are released, and
not at all if the program breaks off on the way. A program that is stopped has the code of the
signal. -/
def finish (session : Session Scripted) (ending : Option Ending) : IO UInt32 := do
  if (session.close ending).breaks = 0 then
    if let some message := ending.bind Ending.err? then
      IO.eprintln message
  else
    IO.eprintln sumTooLarge
  return UInt32.ofNat ((session.code? ending).getD 134)

/-- React to lines until there is an end, and give the exit code. -/
partial def loop (input : IO.FS.Stream) (session : Session Scripted) : IO UInt32 := do
  IO.print (prompt ++ " ")
  (← IO.getStdout).flush
  let line ← input.getLine
  if line.isEmpty then
    finish session none
  else
    let reaction := session.react (Command.ofLine (line.dropSuffix "\n").copy)
    write reaction
    match reaction.ending with
    | none => loop input reaction.session
    | some .hung => idle
    | some ending => finish reaction.session ending

end PooledArena.Shell

def main : IO UInt32 := do
  let backing := PooledArena.Scripted.ofScript PooledArena.Script.smooth
  PooledArena.Shell.loop (← IO.getStdin) (PooledArena.Shell.Session.start backing)
