import Tileboard.Command
import Tileboard.Text.Numeral

/-!
The command line: which arguments ask for what.

    encode INPUT OUTPUT [--rows N | --compact] [--cols N]
    decode INPUT OUTPUT
    labels INPUT

Options and paths may be mixed, an option may be given once, and `--` ends the options.  Arguments
are taken from left to right, so a request for help counts unless a mistake precedes it.
-/

namespace Tileboard.CommandLine

/-- What the arguments ask for. -/
inductive Request
  | run (command : Command)
  | version
  | help
  deriving DecidableEq, Repr

/-- The arguments of a command, as far as they have been taken. -/
structure Given where
  paths : List String
  rows : Option Nat
  cols : Option Nat
  compact : Bool
  deriving DecidableEq, Repr

/-- No arguments. -/
def Given.nothing : Given :=
  ⟨[], none, none, false⟩

/-- What a command takes: how many paths, and whether it has options for the size. -/
structure Signature where
  paths : Nat
  sized : Bool
  deriving DecidableEq, Repr

/-- The outcome of taking all arguments of a command. -/
inductive Taken
  | given (given : Given)
  | help
  deriving DecidableEq, Repr

/-- The value of a number option: a numeral of at most 64 bits. -/
def number? (text : String) : Option Nat :=
  match Text.Numeral.readSigned? text.toList with
  | some n => if n < Nat.pow 2 64 then some n else none
  | none => none

/-- The arguments with one more path. -/
def Given.addPath? (given : Given) (signature : Signature) (path : String) : Option Given :=
  if path = "" ∨ signature.paths ≤ given.paths.length then none
  else some { given with paths := given.paths ++ [path] }

/-- The arguments with the value of an option, which must not have one yet. -/
def Given.addOption? (given : Given) (name value : String) : Option Given :=
  match name, number? value with
  | "--rows", some n => if given.rows.isSome then none else some { given with rows := some n }
  | "--cols", some n => if given.cols.isSome then none else some { given with cols := some n }
  | _, _ => none

/-- The arguments with more paths. -/
def Given.addPaths? (given : Given) (signature : Signature) : List String → Option Given
  | [] => some given
  | path :: rest =>
    match given.addPath? signature path with
    | some given => given.addPaths? signature rest
    | none => none

/-- Whether an argument is an option, and no path: it starts with a dash and has more than that. -/
def isOption (argument : String) : Bool :=
  match argument.toList with
  | '-' :: _ :: _ => true
  | _ => false

/-- The name and the value of an option that has both in one argument. -/
def splitOption? (argument : String) : Option (String × String) :=
  let cs := argument.toList
  match cs.dropWhile (· != '=') with
  | _ :: value => some (String.ofList (cs.takeWhile (· != '=')), String.ofList value)
  | [] => none

/-- Whether an argument is a group of short options that starts with the given one. -/
def isShort (letter : Char) (argument : String) : Bool :=
  match argument.toList with
  | '-' :: c :: _ => c == letter
  | _ => false

/-- Takes the arguments of a command; none if one of them is a mistake. -/
def take (signature : Signature) (given : Given) : List String → Option Taken
  | [] => some (.given given)
  | argument :: rest =>
    if argument = "--" then (given.addPaths? signature rest).map .given
    else if argument = "--help" ∨ isShort 'h' argument then some .help
    else if !isOption argument then
      match given.addPath? signature argument with
      | some given => take signature given rest
      | none => none
    else if !signature.sized then none
    else if argument = "--compact" then
      if given.compact then none else take signature { given with compact := true } rest
    else if argument = "--rows" ∨ argument = "--cols" then
      match rest with
      | [] => none
      | value :: rest =>
        match given.addOption? argument value with
        | some given => take signature given rest
        | none => none
    else
      match splitOption? argument with
      | none => none
      | some (name, value) =>
        match given.addOption? name value with
        | some given => take signature given rest
        | none => none

/-- The commands by name, with what they take. -/
def signature? : String → Option Signature
  | "encode" => some ⟨2, true⟩
  | "decode" => some ⟨2, false⟩
  | "labels" => some ⟨1, false⟩
  | _ => none

/-- The command with the given name and arguments, if they are complete and agree. -/
def command? (name : String) (given : Given) : Option Command :=
  if given.compact && given.rows.isSome then none
  else
    let rows := if given.compact then Size.compact.rows else given.rows.getD Size.standard.rows
    let cols := given.cols.getD Size.standard.cols
    match name, given.paths with
    | "encode", [input, output] => some (.encode input output rows cols)
    | "decode", [input, output] => some (.decode input output)
    | "labels", [input] => some (.labels input)
    | _, _ => none

/-- What the arguments ask for; none if they are not understood. -/
def parse : List String → Option Request
  | [] => none
  | first :: rest =>
    match signature? first with
    | some signature =>
      match take signature .nothing rest with
      | some (.given given) => (command? first given).map .run
      | some .help => some .help
      | none => none
    | none =>
      if first = "--version" ∨ isShort 'V' first then some .version
      else if first = "--help" ∨ isShort 'h' first then some .help
      else if first = "help" then
        match rest with
        | [] => some .help
        | [topic] => if topic = "help" ∨ (signature? topic).isSome then some .help else none
        | _ => none
      else none

/-! ## Running -/

/-- What the program leaves behind apart from files. -/
structure Outcome where
  exitCode : Nat
  output : String
  errors : String
  deriving DecidableEq, Repr

/-- The name and the version of the program. -/
def versionText : String :=
  "tilescript 0.1.0\n"

/-- How the program is called. -/
def usageText : String :=
  "Usage:\n" ++
  "  encode INPUT OUTPUT [--rows N | --compact] [--cols N]\n" ++
  "  decode INPUT OUTPUT\n" ++
  "  labels INPUT\n"

/-- Does what the arguments ask for. -/
def execute {m : Type → Type} [Monad m] [FileAccess m] (arguments : List String) : m Outcome := do
  match parse arguments with
  | none => return ⟨2, "", usageText⟩
  | some .version => return ⟨0, versionText, ""⟩
  | some .help => return ⟨0, usageText, ""⟩
  | some (.run command) =>
    match ← command.run.run with
    | .ok output => return ⟨0, output, ""⟩
    | .error error => return ⟨1, "", "Error: " ++ error.message ++ "\n"⟩

end Tileboard.CommandLine
