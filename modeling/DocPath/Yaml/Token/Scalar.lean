import DocPath.Yaml.Cursor

/-!
# Reading scalars

The text of quoted, plain and block scalars. Blanks around breaks do not count: one break between two lines
is a space, and of several the first is dropped. Only a literal block keeps its lines.
-/

namespace DocPath.Yaml

/-! ### Gaps between the words of flow scalars -/

/-- A run of blanks and breaks: the blanks before the first break, and the breaks. -/
structure Gap where
  blanks : List Char
  breaks : List Char

/-- Whether the gap goes over the end of a line. -/
def Gap.isBroken (gap : Gap) : Bool := !gap.breaks.isEmpty

/-- What a gap contributes to a scalar. -/
def Gap.fold (gap : Gap) : List Char :=
  match gap.breaks with
  | [] => gap.blanks
  | ['\n'] => [' ']
  | '\n' :: more => more
  | breaks => breaks

/-- Reads breaks and the blanks around them. A tab to the left of `indent` at the start of a line is
refused. -/
def readBreaks (indent : Nat) : (fuel : Nat) → Cursor → Option (List Char × Cursor)
  | 0, c => some ([], c)
  | fuel + 1, c =>
    match c.rest with
    | b :: _ =>
      if isBreak b then
        let next := c.skipBreak
        let content := next.skipWhile isSpaceOrTab
        if (next.rest.take (indent - next.column)).takeWhile isSpaceOrTab |>.contains '\t' then none
        else (readBreaks indent fuel content).map fun (breaks, after) => (c.breakText ++ breaks, after)
      else some ([], c)
    | [] => some ([], c)

/-- Reads a gap. -/
def readGap (indent fuel : Nat) (c : Cursor) : Option (Gap × Cursor) :=
  (readBreaks indent fuel (c.skipWhile isSpaceOrTab)).map fun (breaks, after) =>
    (⟨c.rest.takeWhile isSpaceOrTab, breaks⟩, after)

/-! ### Quoted scalars -/

/-- The value of a hexadecimal digit. -/
def hexValue? (c : Char) : Option Nat :=
  if c.isDigit then some (c.toNat - '0'.toNat)
  else if 'a' ≤ c ∧ c ≤ 'f' then some (c.toNat - 'a'.toNat + 10)
  else if 'A' ≤ c ∧ c ≤ 'F' then some (c.toNat - 'A'.toNat + 10)
  else none

/-- The character of a code point in hexadecimal digits; surrogates are none. -/
def codePoint? (digits : List Char) : Option Char := do
  let n ← digits.foldlM (fun n d => (hexValue? d).map (n * 16 + ·)) 0
  if n.isValidChar then some (Char.ofNat n) else none

/-- The characters that stand for themselves or another one after a backslash. -/
def namedEscape? (name : Char) : Option Char :=
  [('0', '\x00'), ('a', '\x07'), ('b', '\x08'), ('t', '\t'), ('\t', '\t'), ('n', '\n'), ('v', '\x0b'),
    ('f', '\x0c'), ('r', '\r'), ('e', '\x1b'), (' ', ' '), ('"', '"'), ('/', '/'), ('\\', '\\'),
    ('N', '\x85'), ('_', '\xa0'), ('L', '\u2028'), ('P', '\u2029')].lookup name

/-- Reads an escape after its backslash: the character and how many characters spell it. -/
def escape? : List Char → Option (Char × Nat)
  | [] => none
  | name :: rest =>
    let code (width : Nat) : Option (Char × Nat) :=
      if rest.length < width then none
      else (codePoint? (rest.take width)).map fun c => (c, width + 1)
    match name with
    | 'x' => code 2
    | 'u' => code 4
    | 'U' => code 8
    | name => (namedEscape? name).map fun c => (c, 1)

/-- What ended a run of characters inside quotes. -/
inductive RunEnd where
  | quote
  | blank
  | escapedBreak
  deriving DecidableEq

/-- Reads characters inside single quotes up to a blank, a break or the closing quote. -/
def singleQuotedRun : (fuel : Nat) → Cursor → List Char × RunEnd × Cursor
  | 0, c => ([], .blank, c)
  | fuel + 1, c =>
    match c.rest with
    | '\'' :: '\'' :: _ =>
      let (run, stop, after) := singleQuotedRun fuel (c.advance 2)
      ('\'' :: run, stop, after)
    | '\'' :: _ => ([], .quote, c)
    | d :: _ =>
      if isBlankOrBreak d then ([], .blank, c)
      else
        let (run, stop, after) := singleQuotedRun fuel (c.advance 1)
        (d :: run, stop, after)
    | [] => ([], .blank, c)

/-- Reads characters inside double quotes up to a blank, a break, an escaped break or the closing quote. -/
def doubleQuotedRun : (fuel : Nat) → Cursor → Option (List Char × RunEnd × Cursor)
  | 0, c => some ([], .blank, c)
  | fuel + 1, c =>
    match c.rest with
    | '"' :: _ => some ([], .quote, c)
    | '\\' :: rest =>
      if rest.head?.any isBreak then some ([], .escapedBreak, (c.advance 1).skipBreak)
      else do
        let (d, width) ← escape? rest
        let (run, stop, after) ← doubleQuotedRun fuel (c.advance (width + 1))
        return (d :: run, stop, after)
    | d :: _ =>
      if isBlankOrBreak d then some ([], .blank, c)
      else do
        let (run, stop, after) ← doubleQuotedRun fuel (c.advance 1)
        return (d :: run, stop, after)
    | [] => some ([], .blank, c)

/-- Reads the inside of a quoted scalar up to its closing quote. A document marker at the start of a line
is refused, and so is the end of the text. -/
def quotedBody (single : Bool) : (fuel : Nat) → Cursor → Option (List Char × Cursor)
  | 0, _ => none
  | fuel + 1, c =>
    if c.atDocumentMarker || c.rest.isEmpty then none
    else do
      let (run, stop, c) ←
        if single then some (singleQuotedRun fuel c) else doubleQuotedRun fuel c
      match stop with
      | .quote => return (run, c)
      | .blank =>
        let (gap, c) ← readGap 0 fuel c
        let (more, c) ← quotedBody single fuel c
        return (run ++ gap.fold ++ more, c)
      | .escapedBreak =>
        let (gap, c) ← readGap 0 fuel c
        let (more, c) ← quotedBody single fuel c
        return (run ++ gap.breaks ++ more, c)

/-- Reads a quoted scalar from its opening quote on. -/
def quotedScalar? (single : Bool) (c : Cursor) : Option (List Char × Cursor) :=
  (quotedBody single (c.rest.length + 1) (c.advance 1)).map fun (text, c) => (text, c.advance 1)

/-! ### Plain scalars -/

/-- The brackets and the comma of flow collections. -/
def isFlowIndicator (c : Char) : Bool := [',', '[', ']', '\x7b', '\x7d'].contains c

/-- Reads the characters of a plain scalar up to a blank, a break or an indicator that ends it. Inside flow
collections a colon right before one of their indicators is refused. -/
def plainRun (inFlow : Bool) : List Char → Option (List Char)
  | [] => some []
  | c :: rest =>
    if isBlankOrBreak c then some []
    else if inFlow && c == ':' && rest.head?.any (fun d => isFlowIndicator d || d == '?') then none
    else if (c == ':' && startsBlank rest) || (inFlow && isFlowIndicator c) then some []
    else (plainRun inFlow rest).map (c :: ·)

/-- Reads a plain scalar whose further lines have to be indented to `indent`: its text, whether the gap
after it goes over a line end, and the place after the gap. -/
def plainBody (inFlow : Bool) (indent : Nat) : (fuel : Nat) → (gap : Gap) → Cursor →
    Option (List Char × Bool × Cursor)
  | 0, _, _ => none
  | fuel + 1, gap, c =>
    if c.atDocumentMarker || c.rest.head? == some '#' then some ([], gap.isBroken, c)
    else do
      let run ← plainRun inFlow c.rest
      if run.isEmpty then return ([], gap.isBroken, c)
      let after := c.advance run.length
      let text := gap.fold ++ run
      if !after.rest.head?.any (fun d => isSpaceOrTab d || isBreak d) then return (text, false, after)
      let (gap, next) ← readGap indent fuel after
      if !inFlow && next.column < indent then return (text, gap.isBroken, next)
      let (more, broken, c) ← plainBody inFlow indent fuel gap next
      return (text ++ more, broken, c)

def plainScalar? (inFlow : Bool) (indent : Nat) (c : Cursor) : Option (List Char × Bool × Cursor) :=
  plainBody inFlow indent (c.rest.length + 1) ⟨[], []⟩ c

/-! ### Block scalars -/

/-- What becomes of the breaks at the end of a block scalar. -/
inductive Chomping where
  | strip
  | clip
  | keep
  deriving DecidableEq

def chomping? : Char → Option Chomping
  | '-' => some .strip
  | '+' => some .keep
  | _ => none

/-- Reads the header of a block scalar after its indicator: chomping and an indentation from one to nine,
in either order. -/
def blockHeader? (c : Cursor) : Option (Chomping × Option Nat × Cursor) :=
  let digit (c : Cursor) : Option (Option Nat × Cursor) :=
    match c.rest with
    | d :: _ =>
      if d == '0' then none
      else if d.isDigit then some (some (d.toNat - '0'.toNat), c.advance 1)
      else some (none, c)
    | [] => some (none, c)
  match c.rest.head?.bind chomping? with
  | some chomping => (digit (c.advance 1)).map fun (width, c) => (chomping, width, c)
  | none => do
    let (width, c) ← digit c
    match width.bind fun _ => c.rest.head?.bind chomping? with
    | some chomping => return (chomping, width, c.advance 1)
    | none => return (.clip, width, c)

/-- Reads breaks between the lines of a block and the indentation before them, up to `indent` where it is
known: the breaks, the widest indentation seen, and the place of the next line's content. -/
def blockBreaks (indent : Option Nat) : (fuel : Nat) → (widest : Nat) → Cursor →
    Option (List Char × Nat × Cursor)
  | 0, widest, c => some ([], widest, c)
  | fuel + 1, widest, c =>
    let spaces := (c.rest.takeWhile isSpace).length
    let c := c.advance (match indent with
      | some n => min spaces (n - c.column)
      | none => spaces)
    let widest := max widest c.column
    match c.rest with
    | b :: _ =>
      if b == '\t' && indent.all (c.column < ·) then none
      else if isBreak b then
        (blockBreaks indent fuel widest c.skipBreak).map fun (breaks, widest, after) =>
          (c.breakText ++ breaks, widest, after)
      else some ([], widest, c)
    | [] => some ([], widest, c)
where
  isSpace (c : Char) : Bool := c == ' '

/-- Reads the lines of a block that stand at `indent`. `lineBreak` ended the line before, which started with
a blank or not, and `breaks` are the empty lines since. The outcome is the text with the last break and the
empty lines after it set apart. -/
def blockLines (literal : Bool) (indent : Nat) : (fuel : Nat) → (lineBreak breaks : List Char) →
    (startedBlank : Bool) → Cursor → Option (List Char × List Char × List Char × Cursor)
  | 0, lineBreak, breaks, _, c => some ([], lineBreak, breaks, c)
  | fuel + 1, lineBreak, breaks, startedBlank, c =>
    if c.column == indent && !c.rest.isEmpty then do
      let startsBlank := c.rest.head?.any isSpaceOrTab
      let joint :=
        if !literal && lineBreak == ['\n'] && !startedBlank && !startsBlank then
          (if breaks.isEmpty then [' '] else [])
        else lineBreak
      let line := c.rest.takeWhile (!isBreak ·)
      let lineEnd := c.advance line.length
      let (next, _, after) ←
        blockBreaks (some indent) lineEnd.skipBreak.rest.length 0 lineEnd.skipBreak
      let (more, last, trailing, after) ← blockLines literal indent fuel lineEnd.breakText next startsBlank after
      return (joint ++ breaks ++ line ++ more, last, trailing, after)
    else some ([], lineBreak, breaks, c)

/-- Reads a block scalar from its indicator on, inside a collection of the indentation `parent`; an
indentation that is not given is that of the first line. -/
def blockScalar? (literal : Bool) (parent : Int) (c : Cursor) : Option (List Char × Cursor) := do
  let (chomping, width, c) ← blockHeader? (c.advance 1)
  let c ← c.endLine?
  let known : Option Nat := width.map fun n => if 0 ≤ parent then parent.toNat + n else n
  let (breaks, widest, c) ← blockBreaks known (c.rest.length + 1) 0 c
  let indent := known.getD (max (max widest (parent + 1).toNat) 1)
  let (text, last, trailing, c) ← blockLines literal indent (c.rest.length + 1) [] breaks false c
  return (match chomping with
    | .strip => text
    | .clip => text ++ last
    | .keep => text ++ last ++ trailing, c)

end DocPath.Yaml
