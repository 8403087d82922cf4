import LinksBinding.Diagnostic
import LinksBinding.Text.Columns

/-!
# Reports for a terminal

Diagnostics as a person reads them: a headline with place, severity, code and message, the source
line with the concerned columns underlined, and the hints. Tabs are shown as four columns, in the
line and in its underline alike.
-/

namespace LinksBinding

open Text

namespace Report

/-- Columns that a tab is shown as. -/
def tabWidth : Nat := 4

/-- Number of columns that a character is shown in. -/
def cellsOf (c : Char) : Nat := if c = '\t' then tabWidth else 1

/-- Number of columns that a text is shown in. -/
def cells : List Char → Nat
  | [] => 0
  | c :: rest => cellsOf c + cells rest

/-- The text with its tabs as blanks. -/
def expandTabs (text : List Char) : List Char :=
  text.flatMap fun c => if c = '\t' then List.replicate tabWidth ' ' else [c]

theorem length_expandTabs (text : List Char) : (expandTabs text).length = cells text := by
  induction text with
  | nil => rfl
  | cons c rest ih =>
    rw [expandTabs, List.flatMap_cons, List.length_append, cells, ← ih, cellsOf]
    split <;> simp [expandTabs]

/-! ## Colours -/

/-- How a part of a report is coloured, by terminal attributes. -/
inductive Paint where
  | error
  | warning
  | information
  | hintSeverity
  | code
  | underline
  | hint
  deriving DecidableEq, Repr

/-- The terminal attributes of a paint. -/
def Paint.attributes : Paint → String
  | .error => "1;31"
  | .warning => "1;33"
  | .information => "1;36"
  | .hintSeverity => "1;34"
  | .code => "94"
  | .underline => "31"
  | .hint => "2"

/-- A text in a paint, plain when there are no colours. -/
def painted (color : Bool) (paint : Paint) (text : String) : String :=
  if color then "\x1b[" ++ paint.attributes ++ "m" ++ text ++ "\x1b[0m" else text

/-! ## Parts of a report -/

/-- The word for a severity and its paint. An unknown severity is an error. -/
def severityWord : Option Severity → String × Paint
  | some .error | none => ("error", .error)
  | some .warning => ("warning", .warning)
  | some .information => ("info", .information)
  | some .hint => ("hint", .hintSeverity)

/-- A coordinate as people count, from one. -/
def ordinal (c : Coordinate) : String := toString (c + 1).toNat

/-- The text right-aligned in a field of `width` columns. -/
def alignRight (width : Nat) (text : String) : String :=
  String.ofList (List.replicate (width - text.length) ' ') ++ text

/-- The text of a line up to a range, and the part of it in the range. A range that goes on behind
the line is cut off there. Nothing when the range starts at no character of the line. -/
def markedPart? (line : List Char) (range : Range) : Option (List Char × List Char) := do
  let start ← byteOfColumn? line range.start.character
  let stop :=
    if range.isSingleLine then
      (byteOfColumn? line range.stop.character).getD (bytes line)
    else bytes line
  let (before, after) ← splitAtByte? line start
  let (marked, _) ← splitAtByte? after (stop - start)
  return (before, marked)

/-- The source line of a range, and below it the columns of the range underlined. -/
def snippet? (color : Bool) (lines : List (List Char)) (range : Range) : Option String := do
  let line ← lines[range.start.line.toNat]?
  let (before, marked) ← markedPart? line range
  let blanks := String.ofList (List.replicate (cells before) ' ')
  let tildes := String.ofList (List.replicate (max 1 (cells marked)) '~')
  return "\n  " ++ alignRight 3 (ordinal range.start.line) ++ "   " ++
    String.ofList (expandTabs line) ++ "\n        " ++ blanks ++ painted color .underline tildes

/-- The line of a report that says what is wrong and where. -/
def headline (color : Bool) (file : String) (d : Diagnostic) : String :=
  let (word, paint) := severityWord d.severity
  let code := match d.code with
    | some code => " " ++ painted color .code ("LS" ++ toString code.toNat)
    | none => ""
  file ++ ":" ++ ordinal d.range.start.line ++ ":" ++ ordinal d.range.start.character ++ " - " ++
    painted color paint word ++ code ++ ": " ++ d.message

/-- The lines of a report for the remarks that belong to a diagnostic. -/
def hints (color : Bool) (d : Diagnostic) : String :=
  String.join <| (d.relatedInformation.getD []).map fun remark =>
    "\n" ++ painted color .hint "  hint" ++ ": " ++ remark.message

/-- The report of one diagnostic. -/
def renderOne (color : Bool) (file : String) (lines : List (List Char)) (d : Diagnostic) :
    String :=
  headline color file d ++ (snippet? color lines d.range).getD "" ++ hints color d

/-- The report of several diagnostics in a document that is split into `lines`. -/
def render (color : Bool) (file : String) (lines : List (List Char))
    (diagnostics : List Diagnostic) : String :=
  "\n".intercalate (diagnostics.map (renderOne color file lines))

end Report

end LinksBinding
