import DocPath.Cache.Basic
import DocPath.CommandLine.Arguments

/-!
# Running the command

A run reads the world at most three times: the configuration, then the document from a file or from standard
input. It either succeeds, and its output is the rendering of one value, or fails with the first thing that is
wrong, and has no output. Only a listing of tokens shows what comes before a mistake.
-/

namespace DocPath.CommandLine

/-- What a run can read. -/
structure World where
  /-- What each path leads to. -/
  file : String → FileState
  input : ByteArray
  home : String

/-- What is seen of a run. -/
structure Outcome where
  status : UInt32
  output : String
  /-- The lines of the error report. -/
  report : List String

/-- The outcome of a mistake in using the command, which has a status of its own. -/
def Outcome.usage : Outcome := ⟨2, "", []⟩

/-- Why a run fails. -/
inductive Failure where
  | config (error : ConfigError)
  | expression (text : String) (error : Path.ParseError)
  | document (error : LoadError)
  /-- Elements are wanted of a value of this class. -/
  | notAnArray (className : String)
  | evaluation (error : Path.ApplyError)
  | element (index : Nat) (error : Path.ApplyError)
  deriving DecidableEq

/-- What went wrong. -/
def Failure.message : Failure → String
  | .config error => error.message
  | .expression text _ => "Invalid path expression \x60" ++ text ++ "\x60"
  | .document error => error.message
  | .notAnArray className => "--each needs a top-level array, got " ++ className
  | .evaluation error => error.message
  | .element index _ => "Failed on element " ++ toString index

/-- What it was caused by, from the outside in. -/
def Failure.causes : Failure → List String
  | .expression _ error => [error.message]
  | .evaluation error => [error.reason.message]
  | .element _ error => [error.message, error.reason.message]
  | .config _ | .document _ | .notAnArray _ => []

/-- The lines of a list of causes, which are numbered if there are several. -/
def causeLines : List String → List String
  | [] => []
  | [cause] => ["", "Caused by:", "    " ++ cause]
  | causes => "" :: "Caused by:" :: causes.mapIdx fun i cause => "    " ++ toString i ++ ": " ++ cause

/-- The report of a failure. -/
def Failure.report (failure : Failure) : List String :=
  ("Error: " ++ failure.message) :: causeLines failure.causes

/-! ### The configuration -/

/-- The configuration of a run: a file that is asked for has to be there and well-formed, and the user's own
does not. -/
def World.config (world : World) (invocation : Invocation) : Except ConfigError Config :=
  match invocation.config with
  | some path => Config.loadFrom path (world.file path)
  | none => .ok (.load (world.file (Config.pathIn world.home)))

/-! ### Listing tokens -/

/-- A text in a column: it is followed by blanks up to a width. -/
def padRight (width : Nat) (text : String) : String :=
  text ++ String.ofList (List.replicate (width - text.length) ' ')

/-- A text in a column: it follows blanks up to a width. -/
def padLeft (width : Nat) (text : String) : String :=
  String.ofList (List.replicate (width - text.length) ' ') ++ text

/-- The line of a token in a listing. -/
def tokenLine (token : Path.Token) : String :=
  padLeft 4 (toString token.position) ++ "  " ++ padRight 12 token.kind.name ++ " " ++
    padRight 16 token.lexeme ++ " " ++ token.matchedText ++
    (if token.mandatory then "  (mandatory)" else "") ++ "\n"

/-- The outcome of listing the tokens of an expression, up to the first mistake. -/
def listTokens (expression : String) : Outcome :=
  let lexing := Path.lex expression
  let output := String.join (lexing.tokens.map tokenLine)
  match lexing.stopped with
  | none => ⟨0, output, []⟩
  | some error => ⟨1, output, (Failure.expression expression (.lex error)).report⟩

/-! ### Evaluating -/

/-- The answers in a world without host objects. -/
def noHosts : Hosts where
  send _ object method := .error (.noMethod method object.className)
  index _ object _ := .error (.noIndex object.className)
  hasPresence _ _ := false
  hasKey _ _ _ := false

/-- The cache that a configuration asks for. -/
def newCache (config : Config) : Cache := .empty config.cacheMaxSize.toNat

/-- What an expression does to a root value. -/
abbrev Accessor := Value → Consult Path.ApplyError (Option Value)

/-- The result of an accessor on a root value, in which absence is nil. -/
def resultOn (accessor : Accessor) (root : Value) : Except Path.ApplyError Value :=
  (accessor root []).result.map Value.ofOption

/-- The results of an accessor on elements, of which the first has the given index. -/
def resultsFrom (accessor : Accessor) (index : Nat) : List Value → Except Failure (List Value)
  | [] => .ok []
  | item :: rest =>
    match resultOn accessor item with
    | .error error => .error (.element index error)
    | .ok value => (resultsFrom accessor (index + 1) rest).map (value :: ·)

/-- The result of an accessor on a document, or on each of its elements. -/
def resultOf (each : Bool) (accessor : Accessor) (document : Value) : Except Failure Value :=
  if each then
    match document with
    | .array items => (resultsFrom accessor 0 items).map .array
    | other => .error (.notAnArray other.className)
  else (resultOn accessor document).mapError .evaluation

/-- The document of an invocation. -/
def World.document (world : World) (symbolize : Bool) (invocation : Invocation) :
    Except LoadError Value :=
  match invocation.file with
  | some path => Document.loadFile symbolize path (world.file path)
  | none => Document.loadInput symbolize world.input

/-- What an expression evaluates to in a world with a given configuration. It is compiled, through a new
cache, before the document is read. -/
def World.evaluate (world : World) (config : Config) (invocation : Invocation) :
    Except Failure Value := do
  let accessor ← ((newCache config).accessor noHosts invocation.expression).1.mapError
    (.expression invocation.expression)
  let document ← (world.document config.symbolizeColonStrings invocation).mapError .document
  resultOf invocation.each accessor document

/-- A value as it is printed: it ends with a line feed in either format. -/
def printed (format : OutputFormat) (value : Value) : String :=
  match format with
  | .yaml => value.render .yaml
  | .json => value.render .json ++ "\n"

/-! ### The whole run -/

/-- The outcome of an invocation. -/
def Invocation.run (invocation : Invocation) (world : World) : Outcome :=
  match world.config invocation with
  | .error error => ⟨1, "", (Failure.config error).report⟩
  | .ok config =>
    if invocation.tokens then listTokens invocation.expression
    else
      match world.evaluate config invocation with
      | .error failure => ⟨1, "", failure.report⟩
      | .ok value => ⟨0, printed (invocation.format.getD config.outputFormat) value, []⟩

/-- The outcome of a run with the given arguments. -/
def run (world : World) (arguments : List String) : Outcome :=
  match Invocation.ofArguments? arguments with
  | none => .usage
  | some invocation => invocation.run world

/-! ### What has to be read -/

/-- The path of the configuration file that a run reads. -/
def Invocation.configPath (invocation : Invocation) (home : String) : String :=
  invocation.config.getD (Config.pathIn home)

/-- Whether a run reads standard input: only for a document, and not when the expression is no path. -/
def Invocation.readsInput (invocation : Invocation) : Bool :=
  !invocation.tokens && invocation.file.isNone && (Path.parse invocation.expression).isOk

end DocPath.CommandLine
