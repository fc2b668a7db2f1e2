import PooledArena.Text.Numeral

/-!
# `PooledArena.Shell.Options`: the options on a command line

A command declares its options: their names, and whether they take a text, a
numeral or nothing at all. On the line an option is `--name value` or
`--name=value`, in any order. `Options.read` goes through the arguments from the
left and stops at the first that is wrong.

A value behind a blank is looked at only when the next declared option begins or
the line ends. So an argument that fits nowhere is reported before the value in
front of it, and an option given twice before its second value.
-/

set_option autoImplicit false

namespace PooledArena.Shell

/-- What an option takes. -/
inductive OptionKind where
  | flag
  | text
  | numeral
  deriving DecidableEq

/-- An option as a command declares it. -/
structure OptionSpec where
  name : String
  kind : OptionKind
  required : Bool
  deriving DecidableEq

/-- The value that an option was given. -/
inductive OptionValue where
  | flag
  | text (text : String)
  | numeral (value : Word)
  deriving DecidableEq

/-- What is wrong with a command line. -/
inductive UsageError where
  | noCommand
  | unknownCommand (text : String)
  | unexpectedArgument (text : String)
  | valueRequired (option : OptionSpec)
  | valueUnexpected (option : OptionSpec) (value : String)
  | repeated (option : OptionSpec)
  | invalidValue (option : OptionSpec) (value : String) (reason : Text.NumeralError)
  | missing (options : List OptionSpec)
  deriving DecidableEq

namespace OptionSpec

/-- The option as it is written in a message. The place of the value has the
option's name in upper case, with underscores. -/
def usage (option : OptionSpec) : String :=
  let dashed := "--" ++ option.name
  match option.kind with
  | .flag => dashed
  | _ => dashed ++ " <" ++ option.name.map (fun c => if c = '-' then '_' else c.toUpper) ++ ">"

/-- Read the value of an option that takes one. -/
def readValue (option : OptionSpec) (value : String) : Except UsageError OptionValue :=
  match option.kind with
  | .numeral =>
    match Text.readNumeral value with
    | .ok number => .ok (.numeral number)
    | .error reason => .error (.invalidValue option value reason)
  | _ => .ok (.text value)

end OptionSpec

/-- The prompt, which is also the program's name in its messages. -/
def prompt : String := "[∴]"

/-- The message about a command line, without a line break at its end. -/
def UsageError.message : UsageError → String
  | noCommand => "Usage: " ++ prompt ++ " <COMMAND>"
  | unknownCommand text => "error: unrecognized subcommand '" ++ text ++ "'"
  | unexpectedArgument text => "error: unexpected argument '" ++ text ++ "' found"
  | valueRequired option =>
    "error: a value is required for '" ++ option.usage ++ "' but none was supplied"
  | valueUnexpected option value =>
    "error: unexpected value '" ++ value ++ "' for '" ++ option.usage
      ++ "' found; no more were expected"
  | repeated option => "error: the argument '" ++ option.usage ++ "' cannot be used multiple times"
  | invalidValue option value reason =>
    "error: invalid value '" ++ value ++ "' for '" ++ option.usage ++ "': " ++ reason.message
  | missing options =>
    "error: the following required arguments were not provided:"
      ++ String.join (options.map fun option => "\n  " ++ option.usage)

/-- An argument, told apart by the dashes before it. -/
inductive Argument where
  /-- Two dashes and nothing else: no options follow. -/
  | dashes
  /-- Two dashes and a name, perhaps with a value behind an equals sign. -/
  | long (name : String) (value : Option String)
  /-- One dash and more; the first character is kept. -/
  | short (letter : Char)
  | plain (text : String)
  deriving DecidableEq

/-- Tell an argument from its first characters. A dash alone is plain. -/
def Argument.ofString (text : String) : Argument :=
  match text.toList with
  | ['-', '-'] => .dashes
  | '-' :: '-' :: cs =>
    let name := String.ofList (cs.takeWhile (· ≠ '='))
    match cs.dropWhile (· ≠ '=') with
    | [] => .long name none
    | _ :: value => .long name (some (String.ofList value))
  | '-' :: c :: _ => .short c
  | _ => .plain text

/-- The options given on a line, oldest first. -/
abbrev Given := List (String × OptionValue)

namespace Given

/-- The value that a text option was given. -/
def text? (given : Given) (name : String) : Option String :=
  match given.lookup name with
  | some (.text text) => some text
  | _ => none

/-- The value that a numeral option was given. -/
def numeral? (given : Given) (name : String) : Option Word :=
  match given.lookup name with
  | some (.numeral value) => some value
  | _ => none

/-- Whether the option was given at all. -/
def has (given : Given) (name : String) : Bool :=
  (given.lookup name).isSome

/-- Note the value of an option, unless it has one already. -/
def record (given : Given) (option : OptionSpec) (value : Except UsageError OptionValue) :
    Except UsageError Given :=
  if given.has option.name then
    .error (.repeated option)
  else
    value.map fun value => given ++ [(option.name, value)]

end Given

/-- An option that has begun and may still be waiting for its value. -/
structure Begun where
  option : OptionSpec
  value : Option String

namespace Options

/-- Finish the option that has begun, if one has. -/
def finish (given : Given) : Option Begun → Except UsageError Given
  | none => .ok given
  | some ⟨option, none⟩ => .error (.valueRequired option)
  | some ⟨option, some value⟩ => given.record option (option.readValue value)

/-- Read the arguments that remain. -/
def readFrom (specs : List OptionSpec) (given : Given) (begun : Option Begun) :
    List String → Except UsageError Given
  | [] => finish given begun
  | arg :: args =>
    match Argument.ofString arg with
    | .dashes =>
      match args with
      | [] => finish given begun
      | stray :: _ => .error (.unexpectedArgument stray)
    | .short letter => .error (.unexpectedArgument ("-" ++ letter.toString))
    | .plain text =>
      match begun with
      | some ⟨option, none⟩ => readFrom specs given (some ⟨option, some text⟩) args
      | _ => .error (.unexpectedArgument text)
    | .long name value? =>
      match specs.find? (·.name = name) with
      | none => .error (.unexpectedArgument ("--" ++ name))
      | some option =>
        -- A flag with a value is wrong in itself. Everything else first finishes
        -- the option before it.
        match option.kind, value? with
        | .flag, some value => .error (.valueUnexpected option value)
        | .flag, none => do
          let given ← finish given begun
          let given ← given.record option (.ok .flag)
          readFrom specs given none args
        | _, some value => do
          let given ← finish given begun
          let given ← given.record option (option.readValue value)
          readFrom specs given none args
        | _, none => do
          let given ← finish given begun
          readFrom specs given (some ⟨option, none⟩) args

/-- Read the arguments of a command that declares these options. -/
def read (specs : List OptionSpec) (args : List String) : Except UsageError Given :=
  readFrom specs [] none args

/-- The required options that were not given, in the order of their declaration. -/
def missing (specs : List OptionSpec) (given : Given) : List OptionSpec :=
  specs.filter fun option => option.required && !given.has option.name

end Options

end PooledArena.Shell
