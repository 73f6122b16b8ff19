import CLexicon.Catalogue.Category
import CLexicon.Report.Terminal

/-!
# Command line arguments

What the program is asked to do, read off its arguments.

* `Arguments`: a command, with the catalogue and the colours to use;
* `Arguments.parse`: reading it. Options may stand before or after what the
  command is about, with their value behind a blank or an `=`. Everything
  behind `--` is no option;
* `UsageError.message`: what is said about arguments that cannot be read.
-/

namespace CLexicon.CommandLine

/-- What the program can do. -/
inductive CommandName where
  | classify
  | lookup
  | check
  deriving DecidableEq, Repr

namespace CommandName

/-- All commands. -/
def all : List CommandName :=
  [classify, lookup, check]

/-- The name of a command. -/
def name : CommandName → String
  | classify => "classify"
  | lookup => "lookup"
  | check => "check"

/-- The command of a name. -/
def ofName? (name : String) : Option CommandName :=
  all.find? fun command => command.name = name

/-- What a command is about, as it is named in messages. -/
def subject? : CommandName → Option String
  | classify => some "<FILE>"
  | lookup => some "<SPELLING>"
  | check => none

/-- The options of a command that take no value. -/
def flags : CommandName → List String
  | classify => ["json", "significant", "no-fold-directives"]
  | lookup => []
  | check => ["deny-warnings"]

end CommandName

/-- The names of the colour modes. -/
def colorNames : List (String × ColorMode) :=
  [("auto", .auto), ("always", .always), ("never", .never)]

/-- The names of the categories. -/
def categoryNames : List (String × Category) :=
  Category.all.map fun category => (category.name, category)

/-- The options that take a value. -/
inductive ValueOption where
  | catalogue
  | color
  | category
  deriving DecidableEq, Repr

namespace ValueOption

/-- The name of an option. -/
def name : ValueOption → String
  | catalogue => "catalogue"
  | color => "color"
  | category => "category"

/-- An option with its value, as it is named in messages. -/
def shown : ValueOption → String
  | catalogue => "--catalogue <PATH>"
  | color => "--color <COLOR>"
  | category => "--category <CATEGORY>"

/-- The values that an option takes, where only some names are values. -/
def possible : ValueOption → List String
  | catalogue => []
  | color => colorNames.map Prod.fst
  | category => categoryNames.map Prod.fst

/-- The values that an option takes, as they are named in messages. -/
def possibleText (option : ValueOption) : String :=
  match option.possible with
  | [] => ""
  | names =>
    "\n  [possible values: " ++ String.intercalate ", " names ++ "]"

/-- The option of a name, where a command admits it. -/
def ofName? (command : Option CommandName) (name : String) :
    Option ValueOption :=
  let admitted :=
    if command = some .lookup then [catalogue, color, category]
    else [catalogue, color]
  admitted.find? fun option => option.name = name

end ValueOption

/-- Why arguments cannot be read. -/
inductive UsageError where
  /-- There is no command. -/
  | noCommand
  /-- There is no command of this name. -/
  | unknownCommand (name : String)
  /-- An argument that the command does not admit. It may have been meant as
  what the command is about. -/
  | unexpected (command : Option CommandName) (argument : String)
      (looksLikeOption : Bool)
  /-- What the command is about is missing. -/
  | missingSubject (command : CommandName) (subject : String)
  /-- An option without the value that it takes. -/
  | missingValue (option : ValueOption)
  /-- An option with a value that it does not take. -/
  | invalidValue (option : ValueOption) (value : String)
  /-- An option that is given twice. -/
  | repeated (command : Option CommandName) (option : String)
  deriving DecidableEq, Repr

/-- How a command is used. -/
def usage (command : Option CommandName) : String :=
  match command with
  | none => "Usage: cdict [OPTIONS] <COMMAND>\n"
  | some command =>
    "Usage: cdict " ++ command.name ++ " [OPTIONS]" ++
      (match command.subject? with
       | some subject => " " ++ subject
       | none => "") ++ "\n"

/-- What is said about arguments that cannot be read. -/
def UsageError.message (error : UsageError) : String :=
  let what :=
    match error with
    | noCommand =>
      "'cdict' requires a subcommand but one was not provided\n\n" ++
        usage none
    | unknownCommand name =>
      "unrecognized subcommand '" ++ name ++ "'\n\n" ++ usage none
    | unexpected command argument looksLikeOption =>
      let tip :=
        if looksLikeOption ∧ (command.bind CommandName.subject?).isSome then
          "  tip: to pass '" ++ argument ++ "' as a value, use '-- " ++
            argument ++ "'\n\n"
        else
          ""
      "unexpected argument '" ++ argument ++ "' found\n\n" ++ tip ++
        usage command
    | missingSubject command subject =>
      "the following required arguments were not provided:\n  " ++ subject ++
        "\n\nUsage: cdict " ++ command.name ++ " " ++ subject ++ "\n"
    | missingValue option =>
      "a value is required for '" ++ option.shown ++
        "' but none was supplied" ++ option.possibleText ++ "\n"
    | invalidValue option value =>
      "invalid value '" ++ value ++ "' for '" ++ option.shown ++ "'" ++
        option.possibleText ++ "\n"
    | repeated command option =>
      "the argument '" ++ option ++ "' cannot be used multiple times\n\n" ++
        usage command
  "error: " ++ what ++ "\nFor more information, try '--help'.\n"

/-- What has been read off the arguments so far. -/
structure Draft where
  command : Option CommandName := none
  subjects : List String := []
  flags : List String := []
  values : List (ValueOption × String) := []
  deriving DecidableEq, Repr

namespace Draft

/-- Takes an argument that is no option: the command, and then what it is
about. -/
def addPlain (draft : Draft) (argument : String) : Except UsageError Draft :=
  match draft.command with
  | none =>
    match CommandName.ofName? argument with
    | some command => .ok { draft with command := some command }
    | none => .error (.unknownCommand argument)
  | some command =>
    if command.subject?.isSome ∧ draft.subjects = [] then
      .ok { draft with subjects := [argument] }
    else
      .error (.unexpected command argument false)

/-- Takes an option without a value. -/
def addFlag (draft : Draft) (name : String) : Except UsageError Draft :=
  if !(draft.command.map CommandName.flags).any (·.contains name) then
    .error (.unexpected draft.command ("--" ++ name) true)
  else if draft.flags.contains name then
    .error (.repeated draft.command ("--" ++ name))
  else
    .ok { draft with flags := draft.flags ++ [name] }

/-- Takes an option with its value. -/
def addValue (draft : Draft) (option : ValueOption) (value : String) :
    Draft :=
  { draft with values := (option, value) :: draft.values }

/-- Whether an argument is written like an option. -/
def looksLikeOption (argument : String) : Bool :=
  argument.toList.head? = some '-' && argument.length > 1

/-- The name of an option, and the value behind its `=`. -/
def splitOption (written : List Char) : String × Option String :=
  let name := String.ofList (written.takeWhile (· ≠ '='))
  match written.dropWhile (· ≠ '=') with
  | [] => (name, none)
  | _ :: value => (name, some (String.ofList value))

/-- Reads the arguments one after the other. -/
def read (draft : Draft) (arguments : List String) :
    Except UsageError Draft :=
  match arguments with
  | [] => .ok draft
  | argument :: rest =>
    match argument.toList with
    | ['-', '-'] => rest.foldlM addPlain draft
    | '-' :: '-' :: written =>
      let (name, value?) := splitOption written
      match ValueOption.ofName? draft.command name, value?, rest with
      | some option, some value, rest => (draft.addValue option value).read rest
      | some option, none, value :: rest =>
        if looksLikeOption value then .error (.missingValue option)
        else (draft.addValue option value).read rest
      | some option, none, [] => .error (.missingValue option)
      | none, none, rest => do (← draft.addFlag name).read rest
      | none, some _, _ =>
        .error (.unexpected draft.command ("--" ++ name) true)
    | '-' :: c :: _ =>
      .error (.unexpected draft.command (String.ofList ['-', c]) true)
    | _ => do (← draft.addPlain argument).read rest
termination_by arguments.length

/-- The value that an option was given last, read as one of some names. -/
def named (draft : Draft) (option : ValueOption) {α : Type}
    (names : List (String × α)) : Except UsageError (Option α) :=
  match draft.values.lookup option with
  | none => .ok none
  | some value =>
    match names.lookup value with
    | some found => .ok (some found)
    | none => .error (.invalidValue option value)

end Draft

/-- What a command is to do. -/
inductive Command where
  | classify (file : String) (json significant foldDirectives : Bool)
  | lookup (spelling : String) (category : Option Category)
  | check (denyWarnings : Bool)
  deriving DecidableEq, Repr

/-- What the program is asked to do. -/
structure Arguments where
  command : Command
  /-- The path of the catalogue to use in place of the dictionary of C. -/
  catalogue : Option String := none
  color : ColorMode := .auto
  deriving DecidableEq, Repr

/-- What a command is about, which must be there. -/
def Draft.subject (draft : Draft) (command : CommandName) :
    Except UsageError String :=
  match draft.subjects with
  | subject :: _ => .ok subject
  | [] => .error (.missingSubject command (command.subject?.getD ""))

/-- Reads what the program is asked to do off its arguments. -/
def Arguments.parse (arguments : List String) :
    Except UsageError Arguments := do
  let draft ← Draft.read {} arguments
  let color ← draft.named .color colorNames
  let category ← draft.named .category categoryNames
  let hasFlag := draft.flags.contains
  let command ←
    match draft.command with
    | none => .error .noCommand
    | some .classify => do
      let file ← draft.subject .classify
      pure (.classify file (hasFlag "json") (hasFlag "significant")
        (!hasFlag "no-fold-directives"))
    | some .lookup => do
      let spelling ← draft.subject .lookup
      pure (.lookup spelling category)
    | some .check => pure (.check (hasFlag "deny-warnings"))
  pure
    { command
      catalogue := draft.values.lookup .catalogue
      color := color.getD .auto }

end CLexicon.CommandLine
