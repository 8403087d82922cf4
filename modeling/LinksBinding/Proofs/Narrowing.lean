import LinksBinding.Highlight.Narrow
import LinksBinding.Proofs.Coverage
import LinksBinding.Proofs.Layout
import LinksBinding.Proofs.Words
import LinksBinding.Syntax.Repair

/-!
# What is narrowed to stands in the document

Names of functions, strings and closing tags are looked for in the text. What comes back has the
text that was looked for under it (`narrowsToText`).

A string is looked for in the columns of its span first, and on the whole line if it is not there.
The columns of a span need not be places of the line: a column past the end or inside a surrogate
pair is taken for the end of the line (`placeOn`). A span that starts inside a pair has no columns
then, and the string is found left of the span though it stands within (`not_isPlaceOf_span`).
-/

namespace LinksBinding

open Text

namespace Text

/-! ## Places of a text in a window -/

section Places

variable {start stop : Nat} {text needle before after : List Char}

/-- `needle` stands in a text between `before` and `after`, in the columns from `start` to
`stop`. -/
structure StandsWithin (start stop : Nat) (text needle before after : List Char) : Prop where
  /-- the text is made of the three -/
  split : text = before ++ needle ++ after
  /-- it does not start in front of the columns -/
  start_le : start ≤ units before
  /-- it does not end behind them -/
  le_stop : units before + units needle ≤ stop

/-- `needle` does not stand further left in the columns. -/
structure IsLeftmost (start stop : Nat) (text needle before after : List Char) : Prop
    extends StandsWithin start stop text needle before after where
  /-- other places are no further left -/
  le_other : ∀ {before' after'}, StandsWithin start stop text needle before' after' →
    units before ≤ units before'

/-- The place of `needle` that a look at some columns first and at the whole text then comes to. -/
def IsPlaceOf (columns : Nat × Nat) (text needle before after : List Char) : Prop :=
  IsLeftmost columns.1 columns.2 text needle before after ∨
    (∀ before' after', ¬ StandsWithin columns.1 columns.2 text needle before' after') ∧
      IsLeftmost 0 (units text) text needle before after

variable {front window back : List Char}

/-- The places between the columns of a window are those in the window. -/
theorem standsWithin_iff :
    StandsWithin (units front) (units front + units window) (front ++ window ++ back) needle
        before after ↔
      ∃ before' after', window = before' ++ needle ++ after' ∧ before = front ++ before' ∧
        after = after' ++ back := by
  constructor
  · rintro ⟨split, starts, stops⟩
    rw [List.append_assoc, List.append_assoc] at split
    obtain ⟨before', rfl, rest⟩ := exists_gap_of_units_le split starts
    have inside : units (before' ++ needle) ≤ units window := by
      simp only [units_append] at stops ⊢
      omega
    obtain ⟨after', rfl, rfl⟩ :=
      exists_gap_of_units_le (by rw [rest, List.append_assoc]) inside
    exact ⟨before', after', rfl, rfl, rfl⟩
  · rintro ⟨before', after', rfl, rfl, rfl⟩
    refine ⟨by simp only [List.append_assoc], ?_, ?_⟩ <;> simp only [units_append] <;> omega

/-- The search of a window finds the leftmost place in its columns. -/
theorem exists_isLeftmost_of_findByte? (front back : List Char) {offset : Nat}
    (found : findByte? needle window = some offset) :
    ∃ before after, bytes before = bytes front + offset ∧
      IsLeftmost (units front) (units front + units window) (front ++ window ++ back) needle
        before after := by
  obtain ⟨before, after, rfl, rfl, leftmost⟩ := exists_of_findByte? found
  refine ⟨front ++ before, after ++ back, bytes_append ..,
    standsWithin_iff.mpr ⟨_, _, rfl, rfl, rfl⟩, fun {_ _} other => ?_⟩
  obtain ⟨before', after', split, rfl, rfl⟩ := standsWithin_iff.mp other
  have order := leftmost before' after' split
  simp only [List.append_assoc] at split
  obtain ⟨gap, rfl, -⟩ := exists_gap_of_bytes_le split order
  simp only [units_append]
  omega

theorem exists_isLeftmost_of_text {offset : Nat} (found : findByte? needle text = some offset) :
    ∃ before after, bytes before = offset ∧ IsLeftmost 0 (units text) text needle before after := by
  simpa [units, bytes] using exists_isLeftmost_of_findByte? [] [] found

theorem not_standsWithin_of_findByte? (missing : findByte? needle window = none)
    (before after : List Char) :
    ¬ StandsWithin (units front) (units front + units window) (front ++ window ++ back) needle
      before after := by
  intro stands
  obtain ⟨before', after', split, -⟩ := standsWithin_iff.mp stands
  exact findByte?_eq_none_iff.mp missing before' after' split

end Places

end Text

namespace SourceView

variable {view : SourceView} {span : ParserSpan} {line : Coordinate} {text : List Char}

/-- A parser line exists in the document, as an editor line with a text. -/
structure HasLine (view : SourceView) (number line : Coordinate) (text : List Char) : Prop where
  /-- the wrapper does not add it -/
  here : view.shift.editorLine? number = some line
  /-- the document has it -/
  stands : view.lines.lineText? line.toNat = some text

theorem hasLine_of_lineText? {number : Coordinate} (there : view.lineText? number = some text) :
    ∃ line, view.HasLine number line text := by
  obtain ⟨line, here, stands⟩ := Option.bind_eq_some_iff.mp there
  exact ⟨line, here, stands⟩

theorem HasLine.lineText?_eq {number : Coordinate} (has : view.HasLine number line text) :
    view.lineText? number = some text :=
  Option.bind_eq_some_iff.mpr ⟨line, has.here, has.stands⟩

/-! ## Strings -/

/-- The columns that a span has on its first line. They are none, at its start, if the span would
end in front of it. -/
def columnsOn (view : SourceView) (span : ParserSpan) (text : List Char) : Nat × Nat :=
  let start := placeOn text (view.editorColumn span.start.column)
  let stop :=
    if span.isSingleLine then placeOn text (view.editorColumn span.stop.column)
    else units text
  (start, max start stop)

/-- The byte offset of a column of a line, the end of the line for a column that is no place. -/
def byteOn (view : SourceView) (text : List Char) (column : Coordinate) : Nat :=
  (byteOfColumn? text (view.editorColumn column)).getD (bytes text)

/-- The columns of a span cut a window out of its line. -/
theorem exists_window (view : SourceView) (span : ParserSpan) (text : List Char) :
    ∃ front window back, text = front ++ window ++ back ∧
      view.columnsOn span text = (units front, units front + units window) ∧
      view.byteOn text span.start.column = bytes front ∧
      (if span.isSingleLine then view.byteOn text span.stop.column else bytes text) -
        bytes front = bytes window := by
  obtain ⟨front, behind, split, place, start⟩ :=
    exists_split_at text (view.editorColumn span.start.column)
  obtain ⟨upto, back, split', place', stop⟩ :=
    exists_split_upto text span.isSingleLine (view.editorColumn span.stop.column)
  obtain ⟨window, rest, whole, width, length⟩ := exists_window_between split split'
  refine ⟨front, window, rest, whole, ?_, start, ?_⟩
  · rw [columnsOn, place, place', width]
  · rw [← length, ← stop]
    rfl

theorem run_eq (start : ParserPosition) (here : view.shift.editorLine? start.line = some line)
    (length : Coordinate) :
    view.run start length = .onLine line (view.editorColumn start.column) length := by
  rw [run, PositionShift.toEditor, Coordinate.satSub_of_sub? here]
  rfl

/-- A string is looked for in the columns of its span, and then on its line. -/
theorem literalRange?_eq {content : String} {front window back : List Char}
    (has : view.HasLine span.start.line line (front ++ window ++ back))
    (start : view.byteOn (front ++ window ++ back) span.start.column = bytes front)
    (stop : (if span.isSingleLine then view.byteOn (front ++ window ++ back) span.stop.column
      else bytes (front ++ window ++ back)) - bytes front = bytes window) :
    view.literalRange? span content =
      (((findByte? content.toList window).map (bytes front + ·)).or
        (findByte? content.toList (front ++ window ++ back))).map fun offset =>
          .onLine line (columnOfByte (front ++ window ++ back) offset).word
            (columnCount content) := by
  have cut : splitAtByte? (front ++ window ++ back) (bytes front) = some (front, window ++ back) :=
    splitAtByte?_eq_some_iff.mpr ⟨List.append_assoc .., rfl⟩
  have cut' : splitAtByte? (window ++ back) (bytes window) = some (window, back) :=
    splitAtByte?_eq_some_iff.mpr ⟨rfl, rfl⟩
  rw [literalRange?, has.here, has.lineText?_eq]
  simp only [byteOn] at start stop
  simp only [Option.bind_eq_bind, Option.bind_some, start, stop, cut, cut', Option.pure_def,
    Option.map_eq_map, Option.orElse_eq_orElse, Option.orElse_eq_or, Option.map_eq_bind]
  rfl

theorem exists_hasLine_of_literalRange? {content : String} {range : Range}
    (found : view.literalRange? span content = some range) :
    ∃ line text, view.HasLine span.start.line line text := by
  simp only [literalRange?, Option.bind_eq_bind, Option.bind_eq_some_iff] at found
  obtain ⟨_, -, text, there, -⟩ := found
  obtain ⟨line, has⟩ := hasLine_of_lineText? there
  exact ⟨line, text, has⟩

/-- The column where its keyword would leave the name of a function. -/
def keywordColumn (view : SourceView) (span : ParserSpan) : Coordinate :=
  view.editorColumn (span.start.advance functionKeywordWidth).column

section Found

variable (has : view.HasLine span.start.line line text)
include has

/-- The range of a string on a line is under the place that its span leads to. -/
theorem exists_of_literalRange? {content : String} {range : Range}
    (found : view.literalRange? span content = some range) :
    ∃ before after, view.Marks range line before content.toList after ∧
      IsPlaceOf (view.columnsOn span text) text content.toList before after := by
  obtain ⟨front, window, back, rfl, columns, start, stop⟩ := view.exists_window span text
  rw [literalRange?_eq has start stop] at found
  obtain ⟨offset, looked, rfl⟩ := Option.map_eq_some_iff.mp found
  have marks : ∀ {before after}, front ++ window ++ back = before ++ content.toList ++ after →
      bytes before = offset →
      view.Marks (.onLine line (columnOfByte (front ++ window ++ back) offset).word
        (columnCount content)) line before content.toList after := by
    rintro before after split rfl
    rw [split, List.append_assoc, columnOfByte_append, Tally.word_ofNat, columnCount_eq]
    exact marks_onLine (split ▸ has.stands)
  rw [columns]
  rcases Option.or_eq_some_iff.mp looked with within | ⟨missing, anywhere⟩
  · obtain ⟨_, inside, rfl⟩ := Option.map_eq_some_iff.mp within
    obtain ⟨before, after, length, leftmost⟩ := exists_isLeftmost_of_findByte? front back inside
    exact ⟨before, after, marks leftmost.split length, .inl leftmost⟩
  · obtain ⟨before, after, length, leftmost⟩ := exists_isLeftmost_of_text anywhere
    exact ⟨before, after, marks leftmost.split length,
      .inr ⟨not_standsWithin_of_findByte? (Option.map_eq_none_iff.mp missing), leftmost⟩⟩

/-- A string is not found on a line only if it does not stand there. -/
theorem literalRange?_eq_none_iff {content : String} : view.literalRange? span content = none ↔
    ∀ before after, text ≠ before ++ content.toList ++ after := by
  obtain ⟨front, window, back, rfl, columns, start, stop⟩ := view.exists_window span text
  rw [literalRange?_eq has start stop, Option.map_eq_none_iff, Option.or_eq_none_iff,
    Option.map_eq_none_iff, findByte?_eq_none_iff, findByte?_eq_none_iff, and_iff_right_iff_imp]
  rintro absent before after rfl
  exact absent (front ++ before) (after ++ back) (by simp only [List.append_assoc])

/-! ## Function names and closing tags -/

/-- The name of a function is found where its keyword would leave it, else as a whole word. -/
theorem functionNameRange?_cases {name : String} {range : Range}
    (found : view.functionNameRange? span name = some range) :
    ∃ before after, view.Marks range line before name.toList after ∧
      isWordEdge after.head? = true ∧
      (units before = (view.keywordColumn span).toNat ∨
        isWordEdge before.getLast? = true ∧
          nameStandsAt text name.toList (view.keywordColumn span) = false) := by
  simp only [functionNameRange?, has.here, has.lineText?_eq] at found
  split at found
  · rename_i guessed
    obtain ⟨before, after, rfl, column, ends⟩ := nameStandsAt_iff.mp guessed
    refine ⟨before, after, ?_, ends, .inl column⟩
    cases found
    rw [run_eq (span.start.advance _) has.here, columnCount_eq,
      ← UInt32.ofNat_toNat (x := view.editorColumn _), ← column]
    exact marks_onLine has.stands
  · rename_i elsewhere
    obtain ⟨offset, looked, rfl⟩ := Option.map_eq_some_iff.mp found
    obtain ⟨-, before, after, rfl, rfl, starts, ends⟩ := wholeAt_of_findWord? looked
    rw [Option.or_none] at starts
    refine ⟨before, after, ?_, ends, .inr ⟨starts, Bool.eq_false_iff.mpr elsewhere⟩⟩
    rw [List.append_assoc, columnOfByte_append, Tally.word_ofNat, columnCount_eq]
    exact marks_onLine has.stands

/-- The name of a function ends as a word where its range does. -/
theorem exists_of_functionNameRange? {name : String} {range : Range}
    (found : view.functionNameRange? span name = some range) :
    ∃ before after, view.Marks range line before name.toList after ∧
      isWordEdge after.head? = true := by
  obtain ⟨before, after, marks, ends, -⟩ := functionNameRange?_cases has found
  exact ⟨before, after, marks, ends⟩

end Found

theorem units_closingTag (tag : String) : units (closingTag tag) = unitLength tag + 3 := by
  have parts : closingTag tag = ['<', '/'] ++ tag.toList ++ ['>'] := rfl
  rw [parts, units_append, units_append, unitLength]
  have opening : units ['<', '/'] = 2 := by decide
  have closing : units ['>'] = 1 := by decide
  omega

/-- Where the name in a closing tag starts that ends at column `stop`. -/
theorem satSub_satSub_eq {stop shift : Coordinate} {width length : Nat}
    (ends : width + (length + 3) = stop.toNat - shift.toNat) :
    (stop.satSub (.ofNat length + 1)).satSub shift = .ofNat (width + 2) := by
  have bound := stop.toNat_lt
  rw [← UInt32.toNat_inj, Coordinate.toNat_satSub, Coordinate.toNat_satSub, UInt32.toNat_add,
    UInt32.toNat_ofNat', UInt32.toNat_ofNat', UInt32.toNat_one]
  omega

theorem exists_of_closingTagRange? {tag : String} {range : Range}
    (found : view.closingTagRange? span tag = some range) :
    ∃ line before after, view.shift.editorLine? span.stop.line = some line ∧
      view.Marks range line (before ++ ['<', '/']) tag.toList ('>' :: after) ∧
      units (before ++ closingTag tag) + view.shift.column.toNat = span.stop.column.toNat := by
  simp only [closingTagRange?, Option.bind_eq_bind, Option.bind_eq_some_iff] at found
  obtain ⟨text, there, offset, column, ⟨front, after⟩, cut, found⟩ := found
  obtain ⟨line, here, stands⟩ := hasLine_of_lineText? there
  split at found
  · rename_i closes
    obtain ⟨before, rfl⟩ := List.isSuffixOf_iff_suffix.mp closes
    obtain ⟨rfl, ends⟩ :=
      splitAtColumn?_eq_some_iff.mp (Option.bind_eq_some_iff.mpr ⟨offset, column, cut⟩)
    cases found
    rw [units_append, units_closingTag, editorColumn, Coordinate.toNat_satSub] at ends
    have start : view.editorColumn (span.stop.column.satSub (.ofNat (unitLength tag) + 1)) =
        .ofNat (units (before ++ ['<', '/'])) := by
      rw [units_append, editorColumn]
      exact satSub_satSub_eq ends
    refine ⟨line, before, after, here, ?_, ?_⟩
    · rw [columnCount_eq, run_eq ⟨span.stop.line, span.stop.column.satSub _⟩ here, start]
      exact marks_onLine (by simpa [closingTag] using stands)
    · rw [units_append, units_closingTag]
      omega
  · cases found

/-! ## Narrowing -/

theorem narrow?_stringConstant {tree : SyntaxTree} {id : NodeId} {node : SyntaxNode}
    {content : String} (found : tree.get? id = some node)
    (is : node.kind = .constant (.string content)) :
    view.narrow? tree id .stringConstant = view.literalRange? node.span content := by
  simp only [narrow?, found, is]
  rfl

/-- What is looked for in the document is what comes back. -/
structure NarrowsToText (view : SourceView) (tree : SyntaxTree) : Prop where
  /-- the range of a function's name, if its first line exists, has the name under it, which ends
  there as a word -/
  function {id : NodeId} {node : SyntaxNode} {name : String} {line : Coordinate} {text : List Char}
      {range : Range} : tree.get? id = some node → node.kind = .function name →
    view.HasLine node.span.start.line line text → view.nameRange? tree id = some range →
    ∃ before after, view.Marks range line before name.toList after ∧
      isWordEdge after.head? = true
  /-- a string that stands on its line is found, in the columns of its span if it stands there -/
  literal {id : NodeId} {node : SyntaxNode} {content : String} {line : Coordinate}
      {text front back : List Char} : tree.get? id = some node →
    node.kind = .constant (.string content) → view.HasLine node.span.start.line line text →
    text = front ++ content.toList ++ back →
    ∃ range before after, view.narrow? tree id .stringConstant = some range ∧
      view.Marks range line before content.toList after ∧
      IsPlaceOf (view.columnsOn node.span text) text content.toList before after
  /-- a string is not found if its line does not exist or does not have it -/
  missing {id : NodeId} {node : SyntaxNode} {content : String} : tree.get? id = some node →
    node.kind = .constant (.string content) →
    (∀ line text, view.HasLine node.span.start.line line text →
      ∀ front back, text ≠ front ++ content.toList ++ back) →
    view.narrow? tree id .stringConstant = none
  /-- the range of an element's closing tag has the name under it, inside the tag that ends where
  the element does -/
  closing {id : NodeId} {node : SyntaxNode} {tag : String} {range : Range} :
    tree.get? id = some node → node.kind = .element tag →
    view.narrow? tree id .markupTag = some range →
    ∃ line before after, view.shift.editorLine? node.span.stop.line = some line ∧
      view.Marks range line (before ++ ['<', '/']) tag.toList ('>' :: after) ∧
      units (before ++ closingTag tag) + view.shift.column.toNat = node.span.stop.column.toNat

/-- Names of functions, strings and closing tags are narrowed to their text. -/
theorem narrowsToText (view : SourceView) (tree : SyntaxTree) : view.NarrowsToText tree where
  function found is has named := by
    simp only [nameRange?, found, is] at named
    exact exists_of_functionNameRange? has named
  literal {id node content line text front back} found is has split := by
    rw [narrow?_stringConstant found is]
    cases there : view.literalRange? node.span content with
    | none => exact absurd split ((literalRange?_eq_none_iff has).mp there front back)
    | some range =>
      obtain ⟨before, after, marks, place⟩ := exists_of_literalRange? has there
      exact ⟨range, before, after, rfl, marks, place⟩
  missing {id node content} found is absent := by
    rw [narrow?_stringConstant found is, Option.eq_none_iff_forall_ne_some]
    intro range there
    obtain ⟨line, text, has⟩ := exists_hasLine_of_literalRange? there
    obtain ⟨before, after, marks, -⟩ := exists_of_literalRange? has there
    exact absent line text has before after (Option.some.inj (has.stands.symm.trans marks.text))
  closing found is narrowed := by
    simp only [narrow?, found, is] at narrowed
    exact exists_of_closingTagRange? narrowed

/-- A function with two blanks in front of its name, a string in it, and an element below. -/
def wideView : SourceView := .ofSource "fun  f() \x7b \"é🚀\" \x7d\n<b>t</b>\n" .standard

/-- The tree of that document, with no columns for the string. -/
def wideTree : SyntaxTree :=
  ⟨#[⟨.interior, .block, ⟨⟨1, 1⟩, ⟨2, 9⟩⟩, none, [1, 3]⟩,
    ⟨.interior, .function "f", ⟨⟨1, 1⟩, ⟨1, 19⟩⟩, some 0, [2]⟩,
    ⟨.leaf, .constant (.string "\"é🚀\""), ⟨⟨1, 1⟩, ⟨1, 1⟩⟩, some 1, []⟩,
    ⟨.leaf, .element "b", ⟨⟨2, 1⟩, ⟨2, 9⟩⟩, some 0, []⟩]⟩

/-- Name, string and closing tag are found, the first two behind where their spans point. -/
theorem narrowsToText_wideTree :
    wideView.NarrowsToText wideTree ∧
      wideView.nameRange? wideTree 1 = some (.onLine 0 5 1) ∧
      wideView.narrow? wideTree 2 .stringConstant = some (.onLine 0 11 5) ∧
      wideView.narrow? wideTree 3 .markupTag = some (.onLine 1 6 1) :=
  ⟨narrowsToText wideView wideTree, by decide +kernel, by decide +kernel, by decide +kernel⟩

/-- Two strings on one line, the second of them reported to start inside a surrogate pair. -/
def splitPairView : SourceView := .ofSource "\"a\"🚀\"a\"\n" .standard

/-- Output for the line. -/
def splitPair : RawTree :=
  .interior "Block" ⟨⟨1, 1⟩, ⟨1, 9⟩⟩
    [.leaf "Constant: \"a\"" ⟨⟨1, 1⟩, ⟨1, 4⟩⟩, .leaf "Constant: \"a\"" ⟨⟨1, 5⟩, ⟨1, 9⟩⟩]

/-- The tree of that output. -/
def splitPairTree : SyntaxTree :=
  ⟨#[⟨.interior, .block, ⟨⟨1, 1⟩, ⟨1, 9⟩⟩, none, [1, 2]⟩,
    ⟨.leaf, .constant (.string "\"a\""), ⟨⟨1, 1⟩, ⟨1, 4⟩⟩, some 0, []⟩,
    ⟨.leaf, .constant (.string "\"a\""), ⟨⟨1, 5⟩, ⟨1, 9⟩⟩, some 0, []⟩]⟩

/-- A string that stands in the columns of its span is not always found there. If the span starts
inside a surrogate pair, the leftmost place on the line is taken. -/
theorem not_isPlaceOf_span :
    ¬ ∀ (view : SourceView) (raw : RawTree) (tree : SyntaxTree),
      SyntaxTree.build view raw = .ok tree →
      ∀ id node content line text range, tree.get? id = some node →
        node.kind = .constant (.string content) → view.HasLine node.span.start.line line text →
        node.span.isSingleLine = true → view.narrow? tree id .stringConstant = some range →
        ∃ before after, view.Marks range line before content.toList after ∧
          IsPlaceOf ((view.editorColumn node.span.start.column).toNat,
            (view.editorColumn node.span.stop.column).toNat) text content.toList before after := by
  intro foundInSpan
  have built : SyntaxTree.build splitPairView splitPair = .ok splitPairTree := by decide +kernel
  obtain ⟨before, after, marks, place⟩ :=
    foundInSpan splitPairView splitPair splitPairTree built 2 _ _ 0 "\"a\"🚀\"a\"".toList
      (.onLine 0 0 3) rfl rfl ⟨by decide, by decide⟩ rfl (by decide +kernel)
  rcases place with leftmost | ⟨absent, -⟩
  · -- the range starts the line, in front of the span
    have start := (marks.covers (by rw [← leftmost.split]; decide)).start
    have within : 4 ≤ units before := leftmost.start_le
    rw [← start] at within
    cases within
  · exact absent "\"a\"🚀".toList [] ⟨by decide, by decide, by decide⟩

end SourceView

end LinksBinding
