import LinksBinding.ParserSpan
import LinksBinding.Text.Lines
import LinksBinding.Text.Search

/-!
# Documents under parser positions

A document's text together with what finds a parser position in it: its lines, and the shift
between parser and editor. Whatever looks at the text behind a span goes through a `SourceView`.
-/

namespace LinksBinding

open Text

/-- A document that parser positions refer to. -/
structure SourceView where
  /-- its text -/
  source : List Char
  /-- its lines -/
  lines : LineTable
  /-- the distance between parser and editor positions -/
  shift : PositionShift
  deriving Repr

namespace SourceView

/-- The view of a text. -/
def ofSource (source : String) (shift : PositionShift) : SourceView :=
  ⟨source.toList, .ofSource source, shift⟩

/-- The text of the editor line that a parser line falls on. -/
def lineText? (view : SourceView) (line : Coordinate) : Option (List Char) :=
  (view.shift.editorLine? line).bind fun line => view.lines.lineText? line.toNat

/-- The editor column of a parser column. -/
def editorColumn (view : SourceView) (column : Coordinate) : Coordinate :=
  column.satSub view.shift.column

/-- How the search for the byte offset of a parser position ends: without one on a line that the
wrapper adds. -/
def searchPosition (view : SourceView) (position : ParserPosition) : ColumnSearch :=
  match view.shift.editorLine? position.line with
  | some _ => view.lines.searchPosition (view.shift.toEditor position)
  | none => .absent

/-- The byte offset of a parser position. -/
def offsetOf? (view : SourceView) (position : ParserPosition) : Option Nat :=
  (view.searchPosition position).offset?

/-- The parser position of a byte offset. -/
def positionAt (view : SourceView) (offset : Nat) : ParserPosition :=
  view.shift.toParser (view.lines.positionOfOffset offset)

/-- `length` columns of the line of a parser position, from that position on. -/
def run (view : SourceView) (start : ParserPosition) (length : Coordinate) : Range :=
  let start := view.shift.toEditor start
  .onLine start.line start.character length

end SourceView

end LinksBinding
