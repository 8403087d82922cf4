import LinksBinding.Position
import LinksBinding.Text.Decimal
import LinksBinding.Text.Trim

/-!
# Parser positions

Where something stands for the parser. It counts in units of its own, shifted against the
editor's by the wrapper that it puts around every document; `PositionShift` converts. Spans
include their start and exclude their end.

A span is written `line:column-line:column`. `decode?` reads that form, with white space admitted
around each part, and refuses a span that ends before it starts.
-/

namespace LinksBinding

open Text

/-- A place in a document as the parser counts. -/
structure ParserPosition where
  /-- line -/
  line : Coordinate
  /-- column -/
  column : Coordinate
  deriving DecidableEq, Repr, Inhabited

namespace ParserPosition

/-- Positions ascend by line, then by column. -/
instance : LE ParserPosition :=
  ⟨fun p q => p.line < q.line ∨ p.line = q.line ∧ p.column ≤ q.column⟩

instance : LT ParserPosition :=
  ⟨fun p q => p.line < q.line ∨ p.line = q.line ∧ p.column < q.column⟩

instance (p q : ParserPosition) : Decidable (p ≤ q) :=
  inferInstanceAs (Decidable (p.line < q.line ∨ p.line = q.line ∧ p.column ≤ q.column))

instance (p q : ParserPosition) : Decidable (p < q) :=
  inferInstanceAs (Decidable (p.line < q.line ∨ p.line = q.line ∧ p.column < q.column))

theorem le_iff (p q : ParserPosition) :
    p ≤ q ↔ p.line.toNat < q.line.toNat ∨
      p.line.toNat = q.line.toNat ∧ p.column.toNat ≤ q.column.toNat := by
  rw [show (p ≤ q) = (p.line < q.line ∨ p.line = q.line ∧ p.column ≤ q.column) from rfl,
    UInt32.lt_iff_toNat_lt, UInt32.le_iff_toNat_le, ← UInt32.toNat_inj]

theorem lt_iff (p q : ParserPosition) :
    p < q ↔ p.line.toNat < q.line.toNat ∨
      p.line.toNat = q.line.toNat ∧ p.column.toNat < q.column.toNat := by
  rw [show (p < q) = (p.line < q.line ∨ p.line = q.line ∧ p.column < q.column) from rfl,
    UInt32.lt_iff_toNat_lt, UInt32.lt_iff_toNat_lt, ← UInt32.toNat_inj]

protected theorem le_refl (p : ParserPosition) : p ≤ p :=
  (le_iff p p).mpr (.inr ⟨rfl, Nat.le_refl _⟩)

protected theorem le_trans {p q r : ParserPosition} (h : p ≤ q) (h' : q ≤ r) : p ≤ r := by
  rw [le_iff] at h h' ⊢
  omega

protected theorem le_antisymm {p q : ParserPosition} (h : p ≤ q) (h' : q ≤ p) : p = q := by
  rw [le_iff] at h h'
  obtain ⟨line, column⟩ := p
  obtain ⟨line', column'⟩ := q
  rw [mk.injEq, ← UInt32.toNat_inj, ← UInt32.toNat_inj]
  dsimp only at h h'
  omega

protected theorem le_total (p q : ParserPosition) : p ≤ q ∨ q ≤ p := by
  rw [le_iff, le_iff]
  omega

protected theorem not_le {p q : ParserPosition} : ¬ p ≤ q ↔ q < p := by
  rw [le_iff, lt_iff]
  omega

/-- The earlier of two positions. -/
def min (p q : ParserPosition) : ParserPosition := if p ≤ q then p else q

/-- The later of two positions. -/
def max (p q : ParserPosition) : ParserPosition := if p ≤ q then q else p

/-- `delta` columns to the right on the same line, at most at the greatest column. -/
def advance (p : ParserPosition) (delta : Coordinate) : ParserPosition :=
  ⟨p.line, p.column.satAdd delta⟩

theorem max_eq_right {p q : ParserPosition} (h : p ≤ q) : p.max q = q := by
  rw [max, if_pos h]

theorem max_eq_left {p q : ParserPosition} (h : q ≤ p) : p.max q = p := by
  unfold max
  split
  · rename_i le
    exact ParserPosition.le_antisymm h le
  · rfl

theorem le_max_right (p q : ParserPosition) : q ≤ p.max q := by
  unfold max
  split
  · exact q.le_refl
  · rename_i after
    exact (p.le_total q).resolve_left after

theorem le_advance (p : ParserPosition) (delta : Coordinate) : p ≤ p.advance delta := by
  have bound := p.column.toNat_lt
  have column : (p.advance delta).column.toNat = Nat.min (p.column.toNat + delta.toNat) 0xFFFFFFFF :=
    Coordinate.toNat_satAdd ..
  rw [le_iff]
  refine .inr ⟨rfl, ?_⟩
  rw [column]
  exact Nat.le_min.mpr ⟨Nat.le_add_right .., by omega⟩

/-- The written form of a position. -/
def encode (p : ParserPosition) : List Char :=
  digits p.line.toNat ++ ':' :: digits p.column.toNat

/-- Reads a coordinate. -/
def decodeCoordinate? (text : List Char) : Option Coordinate :=
  (readBelow? UInt32.size (trim text)).map .ofNat

/-- Reads a position. -/
def decode? (text : List Char) : Option ParserPosition := do
  let (line, column) ← cutAt ':' (trim text)
  let line ← decodeCoordinate? line
  let column ← decodeCoordinate? column
  return ⟨line, column⟩

end ParserPosition

/-- A stretch of a document as the parser counts. -/
structure ParserSpan where
  /-- where it starts -/
  start : ParserPosition
  /-- the position behind its last character -/
  stop : ParserPosition
  deriving DecidableEq, Repr, Inhabited

namespace ParserSpan

/-- Whether a position lies in the span; its end does not. -/
def containsPosition (span : ParserSpan) (position : ParserPosition) : Bool :=
  span.start ≤ position && position < span.stop

/-- Whether `other` lies inside the span. -/
def containsSpan (span other : ParserSpan) : Bool :=
  span.start ≤ other.start && other.stop ≤ span.stop

/-- Whether the span ends at or before the start of `other`. -/
def precedes (span other : ParserSpan) : Bool := span.stop ≤ other.start

/-- Whether the span starts and ends on one line. -/
def isSingleLine (span : ParserSpan) : Bool := span.start.line == span.stop.line

/-- A span runs forward when it does not end before it starts. -/
def Forward (span : ParserSpan) : Prop := span.start ≤ span.stop

instance (span : ParserSpan) : Decidable span.Forward :=
  inferInstanceAs (Decidable (span.start ≤ span.stop))

/-- The written form of a span. -/
def encode (span : ParserSpan) : String :=
  String.ofList (span.start.encode ++ '-' :: span.stop.encode)

/-- Reads a span; one that ends before it starts is none. -/
def decode? (text : String) : Option ParserSpan := do
  let (start, stop) ← cutAt '-' (trim text.toList)
  let start ← ParserPosition.decode? start
  let stop ← ParserPosition.decode? stop
  if start ≤ stop then some ⟨start, stop⟩ else none

end ParserSpan

/-- The fixed distance between parser and editor coordinates. -/
structure PositionShift where
  /-- lines that the wrapper adds in front of the document -/
  line : Coordinate
  /-- the parser's number for the first column -/
  column : Coordinate
  deriving DecidableEq, Repr

namespace PositionShift

/-- One wrapper line, columns counted from one. -/
def standard : PositionShift := ⟨1, 1⟩

/-- The editor position of a parser position. Lines and columns in front of the document are taken
to its first line and column, each on its own. -/
def toEditor (shift : PositionShift) (position : ParserPosition) : Position :=
  ⟨position.line.satSub shift.line, position.column.satSub shift.column⟩

/-- The editor range of a parser span. -/
def toEditorRange (shift : PositionShift) (span : ParserSpan) : Range :=
  ⟨shift.toEditor span.start, shift.toEditor span.stop⟩

/-- The parser position of an editor position. -/
def toParser (shift : PositionShift) (position : Position) : ParserPosition :=
  ⟨position.line.satAdd shift.line, position.character.satAdd shift.column⟩

/-- The editor line of a parser line, `none` for the lines that the wrapper adds. -/
def editorLine? (shift : PositionShift) (line : Coordinate) : Option Coordinate :=
  line.sub? shift.line

end PositionShift

end LinksBinding
