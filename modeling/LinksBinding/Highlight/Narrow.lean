import LinksBinding.Highlight.Classification
import LinksBinding.NameRange

/-!
# Narrowing spans for highlighting

A node's span is coarser than what is highlighted of it: of a function only its name, of a call
only the callee, of an element only its tags. `narrow?` gives the stretch that a class highlights
of a node, and nothing where node and class do not go together.

Columns inside quoted content cannot be relied on, so strings and closing tags are looked for in
the text of the document.
-/

namespace LinksBinding

open Text

namespace SourceView

/-- The range of a string's text on its line, looked for within its span first and then on the
whole line. -/
def literalRange? (view : SourceView) (span : ParserSpan) (content : String) : Option Range := do
  let line ← view.shift.editorLine? span.start.line
  let text ← view.lineText? span.start.line
  let offsetOf (column : Coordinate) : Nat :=
    (byteOfColumn? text (view.editorColumn column)).getD (bytes text)
  let start := offsetOf span.start.column
  let stop := if span.isSingleLine then offsetOf span.stop.column else bytes text
  let within : Option Nat := do
    let (_, after) ← splitAtByte? text start
    let (window, _) ← splitAtByte? after (stop - start)
    (start + ·) <$> findByte? content.toList window
  let offset ← within <|> findByte? content.toList text
  return .onLine line (columnOfByte text offset).word (columnCount content)

/-- The characters of the tag that closes an element. -/
def closingTag (tag : String) : List Char := '<' :: '/' :: tag.toList ++ ['>']

/-- The range of the name in the tag that closes an element, when its span ends with that tag. -/
def closingTagRange? (view : SourceView) (span : ParserSpan) (tag : String) : Option Range := do
  let text ← view.lineText? span.stop.line
  let offset ← byteOfColumn? text (view.editorColumn span.stop.column)
  let (before, _) ← splitAtByte? text offset
  if (closingTag tag).isSuffixOf before then
    let length := columnCount tag
    return view.run ⟨span.stop.line, span.stop.column.satSub (length + 1)⟩ length
  else none

/-- The stretch of a node that a class highlights. -/
def narrow? (view : SourceView) (tree : SyntaxTree) (id : NodeId) (cls : Classification) :
    Option Range :=
  match tree.get? id with
  | none => none
  | some node =>
    let run (start : ParserPosition) (text : String) : Option Range :=
      some (view.run start (columnCount text))
    let { start, stop } := node.span
    if cls.concernsName then view.nameRange? tree id
    else match cls, node.kind with
      | .functionCall, .call =>
        match (tree.children id).head?.bind tree.kind? with
        | some (.variable name) => run start name
        | _ => none
      | .functionCall, .variable name => run start name
      | .stringConstant, .constant (.string text) => view.literalRange? node.span text
      | .numberConstant, .constant (.number text) => run start text
      | .projection, .projection field =>
        run ⟨stop.line, stop.column.satSub (columnCount field)⟩ field
      | .variantTag, .constructor tag => run start tag
      | .markupDeclaration, .element tag => run (start.advance 1) tag
      | .markupTag, .element tag => view.closingTagRange? node.span tag
      | .markupAttribute, .attribute name => run start name
      | _, _ => none

theorem exists_onLine_of_literalRange? {view : SourceView} {span : ParserSpan} {content : String}
    {range : Range} (found : view.literalRange? span content = some range) :
    ∃ line character length, range = .onLine line character length := by
  simp only [literalRange?, Option.bind_eq_bind, Option.pure_def, Option.bind_eq_some_iff,
    Option.some.injEq] at found
  obtain ⟨line, -, _, -, _, -, rfl⟩ := found
  exact ⟨line, _, _, rfl⟩

theorem exists_onLine_of_closingTagRange? {view : SourceView} {span : ParserSpan} {tag : String}
    {range : Range} (found : view.closingTagRange? span tag = some range) :
    ∃ line character length, range = .onLine line character length := by
  simp only [closingTagRange?, Option.bind_eq_bind, Option.bind_eq_some_iff] at found
  obtain ⟨_, -, _, -, ⟨before, _⟩, -, found⟩ := found
  split at found
  · cases found
    exact ⟨_, _, _, rfl⟩
  · cases found

/-- What is highlighted of a node stands on one line. -/
theorem exists_onLine_of_narrow? {view : SourceView} {tree : SyntaxTree} {id : NodeId}
    {cls : Classification} {range : Range} (narrowed : view.narrow? tree id cls = some range) :
    ∃ line character length, range = .onLine line character length := by
  rw [narrow?] at narrowed
  split at narrowed
  · cases narrowed
  · dsimp only at narrowed
    split at narrowed
    · exact exists_onLine_of_nameRange? narrowed
    · split at narrowed
      -- strings and closing tags are looked for, all else starts at a fixed distance
      case h_3 => exact exists_onLine_of_literalRange? narrowed
      case h_8 => exact exists_onLine_of_closingTagRange? narrowed
      case h_1 =>
        split at narrowed
        · cases narrowed
          exact ⟨_, _, _, rfl⟩
        · cases narrowed
      case h_10 => cases narrowed
      all_goals
        cases narrowed
        exact ⟨_, _, _, rfl⟩

end SourceView

end LinksBinding
