import LinksBinding.Diagnostic
import LinksBinding.Text.Lines
import LinksBinding.Text.Search

/-!
# Run-time errors in interpreter output

What the output of an interpreter tells about an error, and where in the document that error is.

The output is free text in which three things are looked for, each on its own: the message, behind
`Runtime error` or `Fatal error` and a colon; the line, behind the word `line`; and the expression
that was evaluated, behind `In expression:`. Of each only the first counts. Without a message
there is no error, and without an expression that stands in the document there is no place for it.
-/

namespace LinksBinding

open Text

/-- An error that an interpreter reports. -/
structure RuntimeError where
  /-- what went wrong -/
  message : String
  /-- the line, counted from one -/
  line : Option Coordinate
  /-- the expression that was evaluated -/
  expression : Option String
  deriving DecidableEq, Repr

namespace RuntimeError

/-- What `match?` gives at the first place of a text where it gives something. It is told the
character before the place and the text from there on. -/
def firstMatch? {α : Type} (match? : Option Char → List Char → Option α) (previous : Option Char) :
    List Char → Option α
  | [] => match? previous []
  | c :: rest =>
    match match? previous (c :: rest) with
    | some found => some found
    | none => firstMatch? match? (some c) rest

/-- The text up to the next line feed, without white space at its end. -/
def restOfLine (text : List Char) : List Char := trimEnd (text.takeWhile (· != '\n'))

/-- The message, where a text starts with the words that announce one. White space before the
message is passed over, line breaks included. -/
def messageAt? (text : List Char) : Option (List Char) := do
  let after ← stripStart? "Runtime error".toList text <|> stripStart? "Fatal error".toList text
  match trimStart after with
  | ':' :: rest => return restOfLine (trimStart rest)
  | _ => none

/-- The digits of the line number, where a text starts with the word that announces one. -/
def lineDigitsAt? (previous : Option Char) (text : List Char) : Option (List Char) := do
  if previous.any isWordChar then none
  let after ← stripStart? "line".toList text
  let digits := (trimStart after).takeWhile isDigit
  if (after.head?.any isBlank) && !digits.isEmpty then return digits else none

/-- The expression, where a text starts with the words that announce one. White space before the
expression is passed over, line breaks included; where nothing else is left of the text, its last
character other than a line feed is taken for the expression. -/
def expressionAt? (text : List Char) : Option (List Char) := do
  let after ← stripStart? "In expression:".toList text
  match trimStart after with
  | [] => (after.filter (· != '\n')).getLast?.map ([·])
  | expression => return restOfLine expression

/-- The error that an output reports. A line number that is no coordinate is left out. -/
def ofOutput? (output : String) : Option RuntimeError := do
  let output := output.toList
  let message ← firstMatch? (fun _ => messageAt?) none output
  let line := (firstMatch? lineDigitsAt? none output).bind (readBelow? UInt32.size)
  let expression := firstMatch? (fun _ => expressionAt?) none output
  return ⟨String.ofList message, line.map .ofNat, expression.map String.ofList⟩

/-- The expression as it is looked for in the document: its first line without white space around
it, and none if that is empty. -/
def needle? (error : RuntimeError) : Option (List Char) := do
  let expression ← error.expression
  let line ← (terminalLines expression.toList).head?
  let needle := trim line
  if needle.isEmpty then none else return needle

/-- Where the expression stands: on the reported line if there is one, else where it first occurs in
the document. -/
def locate? (error : RuntimeError) (source : List Char) : Option Range := do
  let needle ← error.needle?
  let length := (tally needle).word
  let table := LineTable.ofChars source
  match error.line with
  | some reported =>
    let line ← reported.sub? 1
    let text ← table.lineText? line.toNat
    let offset ← findByte? needle text
    return .onLine line (columnOfByte text offset).word length
  | none =>
    let offset ← findByte? needle source
    let start := table.positionOfOffset offset
    return .onLine start.line start.character length

/-- The diagnostic for what an output reports: none when it reports no error, or none that can be
found in the document. -/
def diagnosticOf? (output uri : String) (source : List Char) : Option Diagnostic := do
  let error ← ofOutput? output
  let range ← error.locate? source
  return .ofTemplate .runtimeError [error.message] range uri

end RuntimeError

end LinksBinding
