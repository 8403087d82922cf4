import LinksBinding.Position
import LinksBinding.Text.Columns

/-!
# The lines of a document

A document is cut into lines at line feeds, carriage returns, and carriage returns followed by a
line feed, which count once. `LineTable` keeps the document together with the byte offset that each
line starts at, reads lines off the document, and converts between byte offsets and editor
positions. Its offsets have 32 bits. Those of a document of 2 ^ 32 bytes or more are cut off, and
lines that start so far down are not where the table says.

`splitLines` is the cut by itself, with what each line ends with. No line text holds a line break,
and the lines with their breaks make up the document again (`splitLines_join`).
-/

namespace LinksBinding.Text

/-- How a line ends. -/
inductive LineBreak where
  /-- the last line of a document -/
  | none
  /-- a line feed -/
  | feed
  /-- a carriage return -/
  | carriageReturn
  /-- a carriage return and a line feed -/
  | returnFeed
  deriving DecidableEq, Repr

/-- The characters of a line break. -/
def LineBreak.chars : LineBreak → List Char
  | .none => []
  | .feed => ['\n']
  | .carriageReturn => ['\r']
  | .returnFeed => ['\r', '\n']

/-- One line of a document. -/
structure Line where
  /-- the text without its line break -/
  text : List Char
  /-- the break that ends the line -/
  ending : LineBreak
  deriving DecidableEq, Repr

/-- The characters of a line, its break included. -/
def Line.chars (line : Line) : List Char := line.text ++ line.ending.chars

/-- The lines of a text. There is always a last line, which no break ends. -/
def splitLines : List Char → List Line
  | [] => [⟨[], .none⟩]
  | '\r' :: '\n' :: rest => ⟨[], .returnFeed⟩ :: splitLines rest
  | '\r' :: rest => ⟨[], .carriageReturn⟩ :: splitLines rest
  | '\n' :: rest => ⟨[], .feed⟩ :: splitLines rest
  | c :: rest =>
    match splitLines rest with
    | line :: lines => ⟨c :: line.text, line.ending⟩ :: lines
    | [] => [⟨[c], .none⟩]

theorem splitLines_ne_nil (text : List Char) : splitLines text ≠ [] := by
  fun_cases splitLines text <;> simp_all

/-- The lines with their breaks are the text. -/
theorem splitLines_join (text : List Char) : (splitLines text).flatMap Line.chars = text := by
  fun_induction splitLines text with
  | case1 => rfl
  | case2 rest ih => simp [Line.chars, LineBreak.chars, ih]
  | case3 rest _ ih => simp [Line.chars, LineBreak.chars, ih]
  | case4 rest ih => simp [Line.chars, LineBreak.chars, ih]
  | case5 c rest _ _ _ line lines split ih =>
    rw [split] at ih
    simpa [Line.chars] using ih
  | case6 c rest _ _ _ split => exact absurd split (splitLines_ne_nil rest)

/-- The byte offset of each line, the first at `start`. -/
def placeLines (start : Nat) : List Line → List (Nat × Line)
  | [] => []
  | line :: rest => (start, line) :: placeLines (start + bytes line.chars) rest

theorem le_of_mem_placeLines {start : Nat} {lines : List Line} {placed : Nat × Line}
    (mem : placed ∈ placeLines start lines) : start ≤ placed.1 := by
  induction lines generalizing start with
  | nil => cases mem
  | cons line rest ih =>
    rcases List.mem_cons.mp mem with rfl | mem
    · exact Nat.le_refl start
    · exact Nat.le_trans (Nat.le_add_right ..) (ih mem)

/-- A line ends before the next one starts. -/
theorem pairwise_placeLines (start : Nat) (lines : List Line) :
    (placeLines start lines).Pairwise fun a b => a.1 + bytes a.2.chars ≤ b.1 := by
  induction lines generalizing start with
  | nil => exact .nil
  | cons line rest ih =>
    exact List.pairwise_cons.mpr ⟨fun _ mem => le_of_mem_placeLines mem, ih _⟩

/-- A line is placed behind the bytes in front of it. -/
theorem exists_of_mem_placeLines {start offset : Nat} {line : Line} {lines : List Line}
    (mem : (offset, line) ∈ placeLines start lines) :
    ∃ front back, lines.flatMap Line.chars = front ++ line.chars ++ back ∧
      offset = start + bytes front := by
  induction lines generalizing start with
  | nil => cases mem
  | cons first rest ih =>
    rw [List.flatMap_cons]
    rcases List.mem_cons.mp mem with here | mem
    · cases here
      exact ⟨[], _, rfl, rfl⟩
    · obtain ⟨front, back, whole, rfl⟩ := ih mem
      refine ⟨first.chars ++ front, back, by simp only [whole, List.append_assoc], ?_⟩
      rw [bytes_append, Nat.add_assoc]

/-! ## Line tables -/

/-- A carriage return or a line feed. -/
def isBreakChar (c : Char) : Bool := c == '\r' || c == '\n'

/-- The byte offsets behind the line breaks of a text that starts at `offset`. A carriage return with
a line feed behind it does not end a line, the line feed does. -/
def breakEnds (offset : Nat) : List Char → List Nat
  | [] => []
  | c :: rest =>
    if c = '\n' ∨ c = '\r' ∧ rest.head? ≠ some '\n' then
      (offset + c.utf8Size) :: breakEnds (offset + c.utf8Size) rest
    else breakEnds (offset + c.utf8Size) rest

/-- The byte offsets that the lines of a document start at, as 32-bit words. -/
def lineStarts (source : List Char) : List Coordinate := (0 :: breakEnds 0 source).map .ofNat

/-- A document with the byte offsets that its lines start at. -/
structure LineTable where
  /-- the document -/
  source : List Char
  /-- byte offset of each line, in document order -/
  starts : Array Coordinate
  deriving Repr

namespace LineTable

/-- The line table of a document. -/
def ofChars (source : List Char) : LineTable := ⟨source, (lineStarts source).toArray⟩

/-- The line table of a document. -/
def ofSource (source : String) : LineTable := ofChars source.toList

/-- Number of lines. -/
def count (table : LineTable) : Nat := table.starts.size

/-- Byte offset of a line. -/
def lineStart? (table : LineTable) (line : Nat) : Option Nat :=
  table.starts[line]?.map UInt32.toNat

/-- Text of a line, without the line breaks at its end: what stands between its start and that of
the next line, or the end of the document. -/
def lineText? (table : LineTable) (line : Nat) : Option (List Char) := do
  let start ← table.lineStart? line
  let stop := (table.lineStart? (line + 1)).getD (bytes table.source)
  let piece ← slice? table.source start stop
  return dropEndWhile isBreakChar piece

/-- The last line that starts at or before a byte offset. -/
def lineOfOffset (table : LineTable) (offset : Coordinate) : Nat :=
  (table.starts.toList.takeWhile (· ≤ offset)).length - 1

/-- The editor position of a byte offset, which is taken as a 32-bit word. Offsets past the end count
as the end of the document; an offset inside a character is placed at the start of its line. -/
def positionOfOffset (table : LineTable) (offset : Nat) : Position :=
  let offset : Coordinate := .ofNat offset
  let line := table.lineOfOffset offset
  let stop := min offset.toNat (bytes table.source)
  let start := min ((table.lineStart? line).getD 0) stop
  ⟨.ofNat line, (tally ((slice? table.source start stop).getD [])).word⟩

/-- How the search for the byte offset of an editor position ends: without one past the last line,
past the end of a line and inside a surrogate pair. -/
def searchPosition (table : LineTable) (position : Position) : ColumnSearch :=
  match table.starts[position.line.toNat]?, table.lineText? position.line.toNat with
  | some start, some text =>
    match columnSearch text position.character with
    | .found offset =>
      match start.add? (.ofNat offset) with
      | some offset => .found offset.toNat
      | none => .overflow
    | search => search
  | _, _ => .absent

/-- The byte offset of an editor position. -/
def offsetOfPosition? (table : LineTable) (position : Position) : Option Nat :=
  (table.searchPosition position).offset?

end LineTable

end LinksBinding.Text
