import LinksBinding.Proofs.LineStarts
import LinksBinding.SourceView

/-!
# What stands under a range

A range is two positions, and what it is meant for is the text between them. `Covers` reads that
text off the line that the range is on, `SourceView.Underlies` off the whole source, and the second
follows from the first for lines of the source. `SourceView.Marks` is `Covers` for a range that was
made for a word of a line of the line table: its columns are those of the word as far as columns of
the line are coordinates at all.
-/

namespace LinksBinding

open Text

/-- On its line, a range has `word` under it, between `before` and `after`. -/
structure Covers (lines : Nat → Option (List Char)) (range : Range)
    (before word after : List Char) : Prop where
  /-- the line that it starts on is made of the three -/
  line : lines range.start.line.toNat = some (before ++ word ++ after)
  /-- it starts behind the first -/
  start : range.start.character.toNat = units before
  /-- it ends on the same line -/
  level : range.stop.line = range.start.line
  /-- it ends behind the word -/
  stop : range.stop.character.toNat = units before + units word

/-- In the source, a range has `word` under it, between the byte offsets of its ends. -/
def SourceView.Underlies (view : SourceView) (word : List Char) (range : Range) : Prop :=
  ∃ front back, view.source = front ++ word ++ back ∧
    offsetAt? view.source range.start = some (bytes front) ∧
    offsetAt? view.source range.stop = some (bytes front + bytes word)

/-- The lines of a view are those of its source. -/
def SourceView.Lined (view : SourceView) : Prop := view.lines = .ofChars view.source

/-- If byte offsets in the source are coordinates, so they are by the line table. -/
theorem SourceView.Lined.lineText?_eq {view : SourceView} (lined : view.Lined)
    (short : bytes view.source < UInt32.size) : view.lines.lineText? = lineAt? view.source := by
  rw [lined]
  exact funext (LineTable.lineText?_ofChars short)

section Covers

variable {lines : Nat → Option (List Char)} {range : Range} {before word after : List Char}

/-- A range that starts where a word does, and is as long, has the word under it. -/
theorem covers_onLine {line character : Coordinate}
    (text : lines line.toNat = some (before ++ word ++ after))
    (fits : units before + units word < UInt32.size) (start : character.toNat = units before) :
    Covers lines (.onLine line character (.ofNat (units word))) before word after := by
  have length : (Coordinate.satAdd character (.ofNat (units word))).toNat =
      units before + units word := by
    rw [Coordinate.toNat_satAdd, UInt32.toNat_ofNat_of_lt' (by omega), start]
    have : UInt32.size = 0xFFFFFFFF + 1 := rfl
    omega
  exact ⟨text, start, rfl, length⟩

/-- The offsets of the ends of a range are those of the word under it. -/
theorem Covers.exists_between {source : List Char}
    (covers : Covers (lineAt? source) range before word after) :
    ∃ front back, source = front ++ word ++ back ∧
      offsetAt? source range.start = some (bytes front) ∧
      offsetAt? source range.stop = some (bytes front + bytes word) := by
  obtain ⟨text, start, level, stop⟩ := covers
  rw [lineAt?, List.getElem?_map] at text
  obtain ⟨line, here, rest⟩ := Option.map_eq_some_iff.mp text
  have whole := eq_append_line here
  have placed : (placeLines 0 (splitLines source))[range.start.line.toNat]? = some
      (bytes (((splitLines source).take range.start.line.toNat).flatMap Line.chars), line) := by
    rw [getElem?_placeLines, here, Option.map_some, Nat.zero_add]
  generalize ((splitLines source).take range.start.line.toNat).flatMap Line.chars = front
    at whole placed
  generalize ((splitLines source).drop (range.start.line.toNat + 1)).flatMap Line.chars = back
    at whole
  have startsAt : byteOfColumn? line.text range.start.character = some (bytes before) :=
    byteOfColumn?_eq_some_iff.mpr
      ⟨before, word ++ after, by rw [rest, List.append_assoc], start.symm, rfl⟩
  have stopsAt : byteOfColumn? line.text range.stop.character =
      some (bytes before + bytes word) :=
    byteOfColumn?_eq_some_iff.mpr
      ⟨before ++ word, after, rest, by rw [units_append, stop], bytes_append ..⟩
  refine ⟨front ++ before, after ++ line.ending.chars ++ back,
    by simp only [whole, Line.chars, rest, List.append_assoc],
    offsetAt?_eq_some_iff.mpr ⟨_, line, _, placed, startsAt, (bytes_append ..).symm⟩,
    offsetAt?_eq_some_iff.mpr ⟨_, line, _, level ▸ placed, stopsAt, ?_⟩⟩
  rw [bytes_append, Nat.add_assoc]

/-- A word under a range stands in the source. -/
theorem Covers.underlies {view : SourceView}
    (covers : Covers (lineAt? view.source) range before word after) : view.Underlies word range :=
  covers.exists_between

/-- The range was made for `word`, which stands on a line between `before` and `after`. -/
structure SourceView.Marks (view : SourceView) (range : Range) (line : Coordinate)
    (before word after : List Char) : Prop where
  /-- the line is made of the three -/
  text : view.lines.lineText? line.toNat = some (before ++ word ++ after)
  /-- the range is as long as the word and starts where that does -/
  range_eq : range = .onLine line (.ofNat (units before)) (.ofNat (units word))
  /-- the word is under it, if the columns of the line are coordinates -/
  covers : units (before ++ word ++ after) < UInt32.size →
    Covers view.lines.lineText? range before word after

theorem SourceView.marks_onLine {view : SourceView} {line : Coordinate}
    (text : view.lines.lineText? line.toNat = some (before ++ word ++ after)) :
    view.Marks (.onLine line (.ofNat (units before)) (.ofNat (units word))) line before word
      after := by
  refine ⟨text, rfl, fun fits => ?_⟩
  simp only [units_append] at fits
  exact covers_onLine text (by omega) (UInt32.toNat_ofNat_of_lt' (by omega))

end Covers

namespace SourceView

/-- The text under a range. -/
def textOn? (view : SourceView) (range : Range) : Option String := do
  let start ← offsetAt? view.source range.start
  let stop ← offsetAt? view.source range.stop
  let (_, behind) ← splitAtByte? view.source start
  let (text, _) ← splitAtByte? behind (stop - start)
  return String.ofList text

theorem textOn?_of_underlies {view : SourceView} {word : List Char} {range : Range}
    (under : view.Underlies word range) : view.textOn? range = some (String.ofList word) := by
  obtain ⟨front, back, whole, starts, stops⟩ := under
  have behind : splitAtByte? view.source (bytes front) = some (front, word ++ back) :=
    splitAtByte?_eq_some_iff.mpr ⟨whole.trans (List.append_assoc ..), rfl⟩
  have text : splitAtByte? (word ++ back) (bytes front + bytes word - bytes front) =
      some (word, back) :=
    splitAtByte?_eq_some_iff.mpr ⟨rfl, (Nat.add_sub_cancel_left ..).symm⟩
  simp only [textOn?, starts, stops, Option.bind_eq_bind, Option.bind_some, behind, text]
  rfl

end SourceView

end LinksBinding
