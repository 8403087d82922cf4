import LinksBinding.Coordinate

/-!
# Editor positions

Where something stands for an editor: lines and UTF-16 columns, both counted from zero. Positions
are ordered by line, then by column. A range runs from one position to another.

What the parser reports has a type of its own (`ParserSpan`), so that a position is shifted from
the one system to the other once.
-/

namespace LinksBinding

/-- A place in a document as editors count. -/
structure Position where
  /-- line, from zero -/
  line : Coordinate
  /-- UTF-16 column, from zero -/
  character : Coordinate
  deriving DecidableEq, Repr, Inhabited

namespace Position

/-- Positions ascend by line, then by column. -/
instance : LE Position :=
  ⟨fun p q => p.line < q.line ∨ p.line = q.line ∧ p.character ≤ q.character⟩

instance : LT Position :=
  ⟨fun p q => p.line < q.line ∨ p.line = q.line ∧ p.character < q.character⟩

instance (p q : Position) : Decidable (p ≤ q) :=
  inferInstanceAs (Decidable (p.line < q.line ∨ p.line = q.line ∧ p.character ≤ q.character))

instance (p q : Position) : Decidable (p < q) :=
  inferInstanceAs (Decidable (p.line < q.line ∨ p.line = q.line ∧ p.character < q.character))

theorem le_iff (p q : Position) :
    p ≤ q ↔ p.line.toNat < q.line.toNat ∨
      p.line.toNat = q.line.toNat ∧ p.character.toNat ≤ q.character.toNat := by
  rw [show (p ≤ q) = (p.line < q.line ∨ p.line = q.line ∧ p.character ≤ q.character) from rfl,
    UInt32.lt_iff_toNat_lt, UInt32.le_iff_toNat_le, ← UInt32.toNat_inj]

theorem lt_iff (p q : Position) :
    p < q ↔ p.line.toNat < q.line.toNat ∨
      p.line.toNat = q.line.toNat ∧ p.character.toNat < q.character.toNat := by
  rw [show (p < q) = (p.line < q.line ∨ p.line = q.line ∧ p.character < q.character) from rfl,
    UInt32.lt_iff_toNat_lt, UInt32.lt_iff_toNat_lt, ← UInt32.toNat_inj]

end Position

/-- A stretch of a document as editors count. -/
structure Range where
  /-- where it starts -/
  start : Position
  /-- the position behind its last character -/
  stop : Position
  deriving DecidableEq, Repr, Inhabited

namespace Range

/-- `length` columns of one line. The end stops at the greatest column. -/
def onLine (line character length : Coordinate) : Range :=
  ⟨⟨line, character⟩, ⟨line, character.satAdd length⟩⟩

/-- Whether a position falls into the range. Both ends count, so a cursor right behind an
identifier is still on it. -/
def contains (range : Range) (position : Position) : Bool :=
  range.start ≤ position && position ≤ range.stop

/-- Whether the range starts and ends on one line. -/
def isSingleLine (range : Range) : Bool := range.start.line == range.stop.line

/-- Ranges in document order: by start, then by end. -/
def precedesOrEquals (a b : Range) : Bool :=
  a.start < b.start || (a.start == b.start && a.stop ≤ b.stop)

end Range

/-- A range of a named document. -/
structure Location where
  /-- the document -/
  uri : String
  /-- the place in it -/
  range : Range
  deriving DecidableEq, Repr

end LinksBinding
