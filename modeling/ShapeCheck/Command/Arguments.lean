import ShapeCheck.Command.Request
import ShapeCheck.Decimal.Reader
import ShapeCheck.Text.Search

/-!
# Arguments

The arguments of the command line. Options are long and take a value, which stands behind an equals
sign or is the next argument; an argument of a hyphen and more is no value. The first wrong argument
makes the error.
-/

namespace ShapeCheck.Command

open Input

/-- An option that takes a value. -/
inductive OptionName where
  | constraint
  | declared
  | path
  | format
  | seed
  | label
  deriving DecidableEq, Repr

namespace OptionName

/-- The name of an option behind its hyphens. -/
def name : OptionName → String
  | .constraint => "constraint"
  | .declared => "type"
  | .path => "input"
  | .format => "from"
  | .seed => "seed"
  | .label => "label"

/-- The options of a check. -/
def ofCheck : List OptionName := [.constraint, .declared, .path, .format, .seed, .label]

/-- The options of a description. -/
def ofDescribe : List OptionName := [.declared, .constraint]

end OptionName

/-- Why arguments make no request. -/
inductive UsageError where
  | noCommand
  | unexpected (argument : String)
  | missingValue (option : OptionName)
  | repeated (option : OptionName)
  | invalidValue (option : OptionName) (value : String)
  | missing (option : OptionName)
  deriving DecidableEq, Repr

/-- The wording of an error. -/
def UsageError.message : UsageError → String
  | .noCommand => "a command is required"
  | .unexpected argument => "unexpected argument '" ++ argument ++ "'"
  | .missingValue option => "a value is required for '--" ++ option.name ++ "'"
  | .repeated option => "'--" ++ option.name ++ "' cannot be used multiple times"
  | .invalidValue option value =>
    "invalid value '" ++ value ++ "' for '--" ++ option.name ++ "'"
  | .missing option => "'--" ++ option.name ++ "' is required"

/-- The options that have been given, with their values. -/
abbrev Settings := List (OptionName × String)

/-- The format of a name as an option spells it. -/
def formatOf? (text : String) : Option Format :=
  [Format.json, .yaml, .jsonl].find? fun f => f.name = text

/-- A count below `2 ^ 64` as a seed. -/
def seedOf? (text : String) : Option UInt64 := (Decimal.readLength? text.toList).map .ofNat

/-- Whether an option can have a value. -/
def OptionName.admits (option : OptionName) (value : String) : Bool :=
  match option with
  | .path => !value.isEmpty
  | .format => (formatOf? value).isSome
  | .seed => (seedOf? value).isSome
  | _ => true

/-- The settings with one more. -/
def Settings.add (given : Settings) (option : OptionName) (value : String) :
    Except UsageError Settings :=
  if (given.lookup option).isSome then .error (.repeated option)
  else if !option.admits value then .error (.invalidValue option value)
  else .ok ((option, value) :: given)

/-- What an argument is. -/
inductive Argument where
  /-- The end of options. -/
  | stop
  /-- A long name, which may have a value with it. -/
  | long (name : String) (value : Option String)
  /-- Letters behind one hyphen. -/
  | short (letters : List Char)
  | word (text : String)
  deriving DecidableEq, Repr

/-- What an argument is. One hyphen alone is a word. -/
def Argument.ofText (text : String) : Argument :=
  match text.toList with
  | '-' :: '-' :: [] => .stop
  | '-' :: '-' :: rest =>
    match Text.cutAt? '=' rest with
    | some (name, value) => .long (String.ofList name) (some (String.ofList value))
    | none => .long (String.ofList rest) none
  | '-' :: c :: rest => .short (c :: rest)
  | _ => .word text

/-- Reads the options of a command; none if help is asked for. -/
def readOptions (known : List OptionName) (given : Settings) :
    List String → Except UsageError (Option Settings)
  | [] => .ok (some given)
  | argument :: rest =>
    match Argument.ofText argument with
    | .stop =>
      match rest with
      | [] => .ok (some given)
      | next :: _ => .error (.unexpected next)
    | .long name value =>
      if name = "help" ∧ value.isNone then .ok none
      else
        match known.find? fun option => option.name = name with
        | none => .error (.unexpected argument)
        | some option =>
          match value with
          | some value =>
            match given.add option value with
            | .ok given => readOptions known given rest
            | .error e => .error e
          | none =>
            match rest with
            | [] => .error (.missingValue option)
            | next :: rest =>
              match Argument.ofText next with
              | .word value =>
                match given.add option value with
                | .ok given => readOptions known given rest
                | .error e => .error e
              | _ => .error (.missingValue option)
    | .short letters =>
      if letters.head? = some 'h' then .ok none else .error (.unexpected argument)
    | .word _ => .error (.unexpected argument)

/-- The value of an option that has to be given. -/
def Settings.require (given : Settings) (option : OptionName) : Except UsageError String :=
  match given.lookup option with
  | some value => .ok value
  | none => .error (.missing option)

/-- The request for a check. -/
def Settings.check (given : Settings) : Except UsageError Request :=
  (given.require .constraint).map fun constraint =>
    .check
      { constraint
        declared := given.lookup .declared
        path := given.lookup .path
        format := (given.lookup .format).bind formatOf?
        seed := (given.lookup .seed).bind seedOf?
        label := given.lookup .label }

/-- The request for a description. -/
def Settings.describe (given : Settings) : Except UsageError Request :=
  match given.require .declared with
  | .error e => .error e
  | .ok declared =>
    (given.require .constraint).map fun constraint => .describe { declared, constraint }

/-- Reads the options of a command and makes its request. -/
def readCommand (known : List OptionName) (request : Settings → Except UsageError Request)
    (arguments : List String) : Except UsageError Request :=
  match readOptions known [] arguments with
  | .error e => .error e
  | .ok none => .ok .help
  | .ok (some given) => request given

/-- Whether a command has a name. -/
def isCommand (name : String) : Bool := name = "check" || name = "describe" || name = "help"

/-- The request that the arguments of the command line make (`handle_parse_error`). Help is asked
for one command, since no command has commands of its own. -/
def Request.ofArguments : List String → Except UsageError Request
  | [] => .error .noCommand
  | argument :: rest =>
    match Argument.ofText argument with
    | .stop => .error .noCommand
    | .long name value =>
      if value.isSome then .error (.unexpected argument)
      else if name = "version" then .ok .version
      else if name = "help" then .ok .help
      else .error (.unexpected argument)
    | .short letters =>
      if letters.head? = some 'V' then .ok .version
      else if letters.head? = some 'h' then .ok .help
      else .error (.unexpected argument)
    | .word name =>
      if name = "check" then readCommand OptionName.ofCheck Settings.check rest
      else if name = "describe" then readCommand OptionName.ofDescribe Settings.describe rest
      else if name = "help" then
        match rest with
        | [] => .ok .help
        | [name] => if isCommand name then .ok .help else .error (.unexpected name)
        | name :: next :: _ => .error (.unexpected (if isCommand name then next else name))
      else .error (.unexpected argument)

end ShapeCheck.Command
