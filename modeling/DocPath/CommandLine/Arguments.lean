import DocPath.Config

/-!
# Command-line arguments

The command takes an expression and optionally a file. Options may stand anywhere before `--`: long ones with
their value after `=` or as the next argument, short ones also in one argument, where the first that takes a
value takes all that follows. An argument that starts with a dash is never the value of the option before it,
a single dash apart. No option may be repeated.
-/

namespace DocPath.CommandLine

/-- What the command is asked to do. -/
structure Invocation where
  expression : String
  /-- The document; standard input if there is none. -/
  file : Option String
  /-- Apply the expression to every element of an array. -/
  each : Bool
  format : Option OutputFormat
  /-- Show the tokens of the expression instead of evaluating it. -/
  tokens : Bool
  /-- The configuration file to use instead of the user's. -/
  config : Option String
  deriving DecidableEq

/-- Options that are there or not. -/
inductive Flag where
  | each
  | tokens
  deriving DecidableEq, Repr

/-- Options that take a value. -/
inductive Setting where
  | format
  | config
  deriving DecidableEq, Repr

/-- An option that has been recognised. -/
inductive Choice where
  | flag (flag : Flag)
  | setting (setting : Setting)
  deriving DecidableEq, Repr

/-- The option of a long name. -/
def Choice.ofName? : String → Option Choice
  | "each" => some (.flag .each)
  | "tokens" => some (.flag .tokens)
  | "format" => some (.setting .format)
  | "config" => some (.setting .config)
  | _ => none

/-- The option of a letter. -/
def Choice.ofLetter? : Char → Option Choice
  | 'e' => some (.flag .each)
  | 'f' => some (.setting .format)
  | 'c' => some (.setting .config)
  | _ => none

/-- What the arguments say, one after the other. -/
inductive Item where
  | flag (flag : Flag)
  | setting (setting : Setting) (value : String)
  | positional (text : String)
  deriving DecidableEq, Repr

/-- The flags of an argument of letters, and the setting that ends it with the value attached to it, if any.
An equals sign may stand before an attached value. -/
def readLetters? : List Char → Option (List Flag × Option (Setting × Option String))
  | [] => some ([], none)
  | letter :: rest =>
    match Choice.ofLetter? letter with
    | some (.flag flag) => (readLetters? rest).map fun (flags, setting) => (flag :: flags, setting)
    | some (.setting setting) =>
      match rest with
      | [] => some ([], some (setting, none))
      | '=' :: value => some ([], some (setting, some (String.ofList value)))
      | value => some ([], some (setting, some (String.ofList value)))
    | none => none

/-- Whether an argument can be the value of the option before it. -/
def isOptionValue (argument : String) : Bool :=
  argument == "-" || argument.toList.head? != some '-'

/-- The items of an argument, and the setting for which the next argument has the value, if any. -/
def readArgument? (argument : String) : Option (List Item × Option Setting) :=
  match argument.toList with
  | '-' :: '-' :: long =>
    let value := long.dropWhile (· != '=')
    match Choice.ofName? (String.ofList (long.takeWhile (· != '='))), value with
    | some (.flag flag), [] => some ([.flag flag], none)
    | some (.setting setting), [] => some ([], some setting)
    | some (.setting setting), _ :: value => some ([.setting setting (String.ofList value)], none)
    | _, _ => none
  | '-' :: letter :: rest => do
    let (flags, setting) ← readLetters? (letter :: rest)
    let items := flags.map Item.flag
    match setting with
    | none => return (items, none)
    | some (setting, none) => return (items, some setting)
    | some (setting, some value) => return (items ++ [.setting setting value], none)
  | _ => some ([.positional argument], none)

/-- The items of a list of arguments. After `--` all arguments are positional. -/
def readAll? (waiting : Option Setting) : List String → Option (List Item)
  | [] => if waiting.isSome then none else some []
  | argument :: rest =>
    match waiting with
    | some setting =>
      if isOptionValue argument then
        (readAll? none rest).map (.setting setting argument :: ·)
      else none
    | none =>
      if argument == "--" then some (rest.map .positional)
      else do
        let (items, waiting) ← readArgument? argument
        return items ++ (← readAll? waiting rest)

/-- How often a flag is given. -/
def flagCount (flag : Flag) (items : List Item) : Nat := items.count (.flag flag)

/-- The values given for a setting. -/
def settingValues (setting : Setting) (items : List Item) : List String :=
  items.filterMap fun
    | .setting s value => if s = setting then some value else none
    | _ => none

/-- The arguments that belong to no option. -/
def positionals (items : List Item) : List String :=
  items.filterMap fun
    | .positional text => some text
    | _ => none

/-- What is given at most once. -/
def atMostOne? {α : Type} : List α → Option (Option α)
  | [] => some none
  | [a] => some (some a)
  | _ => none

/-- A path has at least one character. -/
def path? (text : Option String) : Option (Option String) :=
  if text = some "" then none else some text

/-- A format is named exactly. -/
def format? : Option String → Option (Option OutputFormat)
  | none => some none
  | some name => (OutputFormat.ofName? name).map some

/-- The invocation that arguments stand for; none for a mistake in using the command. -/
def Invocation.ofArguments? (arguments : List String) : Option Invocation := do
  let items ← readAll? none arguments
  if 1 < flagCount .each items ∨ 1 < flagCount .tokens items then none
  let expression :: more := positionals items | none
  return {
    expression
    file := ← path? (← atMostOne? more)
    each := flagCount .each items = 1
    format := ← format? (← atMostOne? (settingValues .format items))
    tokens := flagCount .tokens items = 1
    config := ← path? (← atMostOne? (settingValues .config items)) }

end DocPath.CommandLine
