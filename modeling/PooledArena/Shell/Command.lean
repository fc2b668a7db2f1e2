import PooledArena.Shell.Options

/-!
# `PooledArena.Shell.Command`: what the shell can be told to do

The commands, the options that each of them declares, and how a line becomes a
command. A line is cut at every single blank, so two blanks in a row hold an
empty argument between them. The first argument names the command.
-/

set_option autoImplicit false

namespace PooledArena.Shell

/-- Something the shell can do. -/
inductive Command where
  | create (name : String) (pools poolSize : Word)
  | delete (name : String)
  | alloc (name : String) (size align : Word) (inject : Bool)
  | inject (name : String)
  /-- Print one arena, or all of them. -/
  | print (name : Option String)
  | exit
  deriving DecidableEq

/-- The name of a command, without its options. -/
inductive Verb where
  | create
  | delete
  | alloc
  | inject
  | print
  | exit
  deriving DecidableEq

namespace Verb

/-- The command that goes by this name. -/
def ofString? : String → Option Verb
  | "create" => some create
  | "delete" => some delete
  | "alloc" => some alloc
  | "inject" => some inject
  | "print" => some print
  | "exit" => some exit
  | _ => none

/-- The options that a command declares, in the order in which it lists them. -/
def options : Verb → List OptionSpec
  | create => [⟨"name", .text, true⟩, ⟨"pools", .numeral, true⟩, ⟨"pool-size", .numeral, true⟩]
  | delete => [⟨"allocator", .text, true⟩]
  | alloc =>
    [⟨"allocator", .text, true⟩, ⟨"size", .numeral, true⟩, ⟨"align", .numeral, false⟩,
      ⟨"inject", .flag, false⟩]
  | inject => [⟨"allocator", .text, true⟩]
  | print => [⟨"allocator", .text, false⟩]
  | exit => []

/-- The command with these options, unless one that it needs was not given. -/
def command? (given : Given) : Verb → Option Command
  | create => do
    return .create (← given.text? "name") (← given.numeral? "pools") (← given.numeral? "pool-size")
  | delete => do return .delete (← given.text? "allocator")
  | alloc => do
    return .alloc (← given.text? "allocator") (← given.numeral? "size")
      ((given.numeral? "align").getD 1) (given.has "inject")
  | inject => do return .inject (← given.text? "allocator")
  | print => some (.print (given.text? "allocator"))
  | exit => some .exit

end Verb

namespace Command

/-- The error of a line whose first argument names no command. -/
def badVerb (first : String) (rest : List String) : UsageError :=
  match Argument.ofString first with
  | .dashes =>
    match rest with
    | [] => .noCommand
    | stray :: _ =>
      if (Verb.ofString? stray).isSome then .unexpectedArgument stray else .unknownCommand stray
  | .long name _ => .unexpectedArgument ("--" ++ name)
  | .short letter => .unexpectedArgument ("-" ++ letter.toString)
  | .plain text => .unknownCommand text

/-- The command in these arguments. -/
def ofArguments : List String → Except UsageError Command
  | [] => .error .noCommand
  | first :: rest =>
    match Verb.ofString? first with
    | none => .error (badVerb first rest)
    | some verb => do
      let given ← Options.read verb.options rest
      match verb.command? given with
      | some command => return command
      | none => throw (.missing (Options.missing verb.options given))

/-- The command in a line. -/
def ofLine (line : String) : Except UsageError Command :=
  ofArguments (line.splitOn " ")

end Command

end PooledArena.Shell
