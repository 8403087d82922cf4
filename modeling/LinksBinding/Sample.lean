import LinksBinding.Options
import LinksBinding.SourceView
import LinksBinding.Syntax.Raw

/-!
# Sample trees

Parser output for a text, built by hand. Spans are given by what stands in the text, and come out
as the parser reports them under the standard shift. The parser wraps the statements of a document
in a function that starts on a line of its own above it, and so does `wrap`.
-/

namespace LinksBinding

open Text

/-- A text that parser output is built for. -/
structure Sample where
  /-- the text under the standard shift -/
  view : SourceView
  deriving Repr

namespace Sample

/-- The sample of a text. -/
def ofSource (source : String) : Sample := ⟨.ofSource source .standard⟩

/-- Byte offset of occurrence `n` of a text, counted from zero. -/
def offsetOf? (sample : Sample) (needle : String) (n : Nat) : Option Nat :=
  (occurrences sample.view.source needle.toList)[n]?

/-- The editor position of occurrence `n` of a text. -/
def positionOf? (sample : Sample) (needle : String) (n : Nat) : Option Position :=
  (sample.offsetOf? needle n).map sample.view.lines.positionOfOffset

/-- The span from occurrence `m` of `first` to the end of occurrence `n` of `last`. -/
def spanBetween? (sample : Sample) (first : String) (m : Nat) (last : String) (n : Nat) :
    Option ParserSpan := do
  let start ← sample.offsetOf? first m
  let stop ← sample.offsetOf? last n
  return ⟨sample.view.positionAt start, sample.view.positionAt (stop + bytes last.toList)⟩

/-- The span of occurrence `n` of a text. -/
def wordSpan? (sample : Sample) (needle : String) (n : Nat) : Option ParserSpan :=
  sample.spanBetween? needle n needle n

/-- The span of the wrapper: from the line above the document to behind its last line. -/
def documentSpan (sample : Sample) : ParserSpan :=
  let shift := sample.view.shift
  ⟨⟨shift.line - 1, shift.column⟩,
    ⟨.ofNat sample.view.lines.count + shift.line, shift.column + 1⟩⟩

/-- The parser's output for a document of these statements. -/
def wrap (sample : Sample) (statements : List RawTree) : RawTree :=
  let span := sample.documentSpan
  let wrapper : Options := {}
  .interior ("Fun: " ++ wrapper.wrapperName) span [.interior "Block" span statements]

end Sample

end LinksBinding
