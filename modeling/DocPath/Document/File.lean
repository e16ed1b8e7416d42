import DocPath.Document.Stream
import DocPath.Gzip.Member

/-!
# Loading files

The name of a file says how its content is read: a compressed file is decompressed first, and a file of lines
has a document on each line. Standard input has no name; it is compressed when it starts like compressed data,
and never lines.
-/

namespace DocPath

/-- What a path in a file system leads to. -/
inductive FileState where
  | missing
  | directory
  | file (content : ByteArray)

/-- The text of a file; none for anything else, and for bytes that are no text. -/
def FileState.text? : FileState → Option String
  | .file content => String.fromUTF8? content
  | .missing | .directory => none

/-- Why there is no document to work on. -/
inductive LoadError where
  | unreadableFile (path : String)
  | missingArchive
  | corruptArchive
  | fileText (error : TextError)
  | corruptInput
  | inputNotText
  | inputText (error : TextError)
  deriving DecidableEq, Repr

/-- The wording of each error. -/
def LoadError.message : LoadError → String
  | .unreadableFile path => "Failed to read file " ++ path
  | .missingArchive => "Failed to open gzipped file"
  | .corruptArchive => "Failed to decompress gzipped file - file may be corrupted"
  | .fileText error => error.message
  | .corruptInput => "Failed to decompress gzipped stdin"
  | .inputNotText => "Invalid UTF-8 in stdin"
  | .inputText _ => "Failed to parse document from stdin"

namespace Document

/-- The name that a path ends with; parts that are empty or a single dot lead nowhere. -/
def fileName? (path : String) : Option String :=
  ((path.splitOn "/").filter fun part => part != "" && part != ".").getLast?

/-- What follows the last dot of a file name, unless the name starts with that dot. -/
def extension? (name : String) : Option String :=
  let reversed := name.toList.reverse
  match reversed.dropWhile (· != '.') with
  | '.' :: _ :: _ => some (String.ofList (reversed.takeWhile (· != '.')).reverse)
  | _ => none

/-- Whether a path leads to a compressed file. -/
def isCompressedName (path : String) : Bool := (fileName? path).bind extension? == some "gz"

/-- Whether a path leads to a file of lines, compressed or not. -/
def isLinesName (path : String) : Bool :=
  let name := path.toList
  let base := if ".gz".toList.isSuffixOf name then name.take (name.length - ".gz".length) else name
  ".jsonl".toList.isSuffixOf base || ".ndjson".toList.isSuffixOf base

/-- The text that decompression gives. -/
def decompressedText? (content : ByteArray) : Option String :=
  (Gzip.decompress? content).bind String.fromUTF8?

/-- The text of the file that a path leads to, decompressed if its name says so. -/
def fileText (path : String) (state : FileState) : Except LoadError String :=
  if isCompressedName path then
    match state with
    | .missing => .error .missingArchive
    | .directory => .error .corruptArchive
    | .file content =>
      match decompressedText? content with
      | some text => .ok text
      | none => .error .corruptArchive
  else
    match state.text? with
    | some text => .ok text
    | none => .error (.unreadableFile path)

/-- The value of the file that a path leads to. -/
def loadFile (symbolize : Bool) (path : String) (state : FileState) : Except LoadError Value := do
  let text ← fileText path state
  (if isLinesName path then loadLines symbolize text else load symbolize text).mapError .fileText

/-- The text of standard input. -/
def inputText (content : ByteArray) : Except LoadError String :=
  if Gzip.hasMagic content then
    match decompressedText? content with
    | some text => .ok text
    | none => .error .corruptInput
  else
    match String.fromUTF8? content with
    | some text => .ok text
    | none => .error .inputNotText

/-- The value of standard input. -/
def loadInput (symbolize : Bool) (content : ByteArray) : Except LoadError Value := do
  (load symbolize (← inputText content)).mapError .inputText

end Document

end DocPath
