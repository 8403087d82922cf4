import LinksBinding.Json.Record
import LinksBinding.ParserSpan

/-!
# Places in JSON

The exchanged forms of coordinates, positions, ranges, locations and parser spans.
-/

namespace LinksBinding

open Json

/-- A coordinate as a value. -/
def Coordinate.toJson (c : Coordinate) : Json := .ofNat c.toNat

/-- Reads a coordinate. -/
def Coordinate.ofJson? (value : Json) : Option Coordinate :=
  (value.natBelow? UInt32.size).map .ofNat

/-- A position as a value. -/
def Position.toJson (p : Position) : Json :=
  .object [("line", p.line.toJson), ("character", p.character.toJson)]

/-- Reads a position. -/
def Position.ofJson? (value : Json) : Option Position := do
  match ← parts? .complete ["line", "character"] value with
  | [line, character] =>
    return ⟨← required? Coordinate.ofJson? line, ← required? Coordinate.ofJson? character⟩
  | _ => none

/-- A range as a value. -/
def Range.toJson (r : Range) : Json :=
  .object [("start", r.start.toJson), ("end", r.stop.toJson)]

/-- Reads a range. -/
def Range.ofJson? (value : Json) : Option Range := do
  match ← parts? .complete ["start", "end"] value with
  | [start, stop] =>
    return ⟨← required? Position.ofJson? start, ← required? Position.ofJson? stop⟩
  | _ => none

/-- A location as a value. -/
def Location.toJson (l : Location) : Json :=
  .object [("uri", .string l.uri), ("range", l.range.toJson)]

/-- Reads a location. -/
def Location.ofJson? (value : Json) : Option Location := do
  match ← parts? .complete ["uri", "range"] value with
  | [uri, range] => return ⟨← required? string? uri, ← required? Range.ofJson? range⟩
  | _ => none

/-- A parser position as a value. -/
def ParserPosition.toJson (p : ParserPosition) : Json :=
  .object [("line", p.line.toJson), ("column", p.column.toJson)]

/-- Reads a parser position. -/
def ParserPosition.ofJson? (value : Json) : Option ParserPosition := do
  match ← parts? .complete ["line", "column"] value with
  | [line, column] =>
    return ⟨← required? Coordinate.ofJson? line, ← required? Coordinate.ofJson? column⟩
  | _ => none

/-- A parser span as a value. -/
def ParserSpan.toJson (s : ParserSpan) : Json :=
  .object [("start", s.start.toJson), ("end", s.stop.toJson)]

/-- Reads a parser span. -/
def ParserSpan.ofJson? (value : Json) : Option ParserSpan := do
  match ← parts? .complete ["start", "end"] value with
  | [start, stop] =>
    return ⟨← required? ParserPosition.ofJson? start, ← required? ParserPosition.ofJson? stop⟩
  | _ => none

end LinksBinding
