import LinksBinding.Proofs.Expansion
import LinksBinding.Proofs.Narrowing
import LinksBinding.Proofs.Offsets

/-!
# Where the pieces of a split text stand

Splitting a text reads the columns of its further lines off the document. That is right where the
document goes on with the text from the start of its span (`SourceView.Continues`): line by line, the
text then begins as the document does, so both have the same white space in front, and each piece
stands in the document at its span (`standsAtSpan_splitLiterals`). A piece that is a string is also
found there, since the columns of its span hold nothing else.
-/

namespace LinksBinding

namespace SourceView

open Text

variable {view : SourceView}

/-- Every place in the document has coordinates, as a byte offset and as a parser position. -/
structure FitsCoordinates (view : SourceView) : Prop where
  /-- its byte offsets have numbers -/
  offsets : bytes view.source < UInt32.size
  /-- its lines have numbers -/
  lines : view.lines.count + view.shift.line.toNat ≤ UInt32.size
  /-- the columns of a line have numbers -/
  columns : ∀ line ∈ splitLines view.source,
    units line.text + view.shift.column.toNat < UInt32.size

namespace FitsCoordinates

variable (fits : view.FitsCoordinates) {number : Nat} {text : List Char}

include fits

theorem number_add_lt (stands : view.lines.lineText? number = some text) :
    number + view.shift.line.toNat < UInt32.size := by
  obtain ⟨_, -, -, -, here, -, -⟩ := LineTable.exists_cut_of_lineText? stands
  obtain ⟨_, here, -⟩ := Option.map_eq_some_iff.mp here
  obtain ⟨inside, -⟩ := Array.getElem?_eq_some_iff.mp here
  have all := fits.lines
  rw [LineTable.count] at all
  omega

theorem units_add_lt (lined : view.Lined) (stands : view.lines.lineText? number = some text) :
    units text + view.shift.column.toNat < UInt32.size := by
  rw [lined.lineText?_eq fits.offsets, lineAt?] at stands
  obtain ⟨line, mem, rfl⟩ := List.mem_map.mp (List.mem_of_getElem? stands)
  exact fits.columns line mem

/-- A line of the document is the parser line with its number. -/
theorem hasLine (stands : view.lines.lineText? number = some text) {line : Coordinate}
    (counted : line.toNat = number + view.shift.line.toNat) :
    view.HasLine line (.ofNat number) text := by
  have low := fits.number_add_lt stands
  have number' : (.ofNat number : Coordinate).toNat = number :=
    UInt32.toNat_ofNat_of_lt' (by omega)
  have below : view.shift.line ≤ line := UInt32.le_iff_toNat_le.mpr (by omega)
  refine ⟨?_, by rw [number', stands]⟩
  rw [PositionShift.editorLine?, Coordinate.sub?, if_pos below, Option.some.injEq,
    ← UInt32.toNat_inj, UInt32.toNat_sub_of_le _ _ below, number']
  omega

end FitsCoordinates

/-- The document goes on with a text from a parser position. -/
structure Continues (view : SourceView) (start : ParserPosition) (text : String) : Prop where
  /-- the position is not above the document -/
  line_le : view.shift.line ≤ start.line
  /-- it is not left of the document -/
  column_le : view.shift.column ≤ start.column
  /-- the text stands at the byte offset of the position -/
  verbatim : ∃ front back, view.source = front ++ text.toList ++ back ∧
    view.lines.offsetOfPosition? (view.shift.toEditor start) = some (bytes front)

/-- Where the document goes on with a text, the lines of the text stand on lines of the document:
the first behind what is in front of the text, the others at the start. -/
theorem Continues.exists_front {start : ParserPosition} {text : String} (lined : view.Lined)
    (short : bytes view.source < UInt32.size) (feeds : BreaksAtFeeds view.source)
    (continues : view.Continues start text) :
    ∃ front, start.column.toNat = units front + view.shift.column.toNat ∧
      ∀ number raw, (splitAtFeeds text.toList)[number]? = some raw → ∃ after,
        view.lines.lineText? (start.line.toNat - view.shift.line.toNat + number) =
          some ((if number = 0 then front else []) ++ dropReturn raw ++ after) := by
  obtain ⟨-, column_le, above, back, whole, stands⟩ := continues
  rw [UInt32.le_iff_toNat_le] at column_le
  rw [List.append_assoc] at whole
  rw [lined, LineTable.offsetOfPosition?_ofChars short, whole] at stands
  obtain ⟨front, noReturn, noFeed, width, cut⟩ := exists_front_of_offsetAt? stands
  rw [PositionShift.toEditor, Coordinate.toNat_satSub] at width cut
  refine ⟨front, by omega, fun number raw raised => ?_⟩
  have feeds' : BreaksAtFeeds (front ++ (text.toList ++ back)) := feeds.mono <| by
    rw [cut, whole]
    exact List.drop_subset ..
  obtain ⟨after, stands⟩ := exists_after_of_splitAtFeeds noReturn noFeed feeds' raised
  refine ⟨after, ?_⟩
  rw [lined.lineText?_eq short, lineAt?, ← stands, cut, List.map_drop, List.getElem?_drop, whole]

end SourceView

namespace SyntaxTree

open Text

variable {view : SourceView}

/-! ## One piece -/

section At

variable {position : ParserPosition} {line : Coordinate} {before word after : List Char}

theorem toNat_editorColumn_start (word : List Char)
    (column : position.column.toNat = units before + view.shift.column.toNat) :
    (view.editorColumn (Piece.at position word).span.start.column).toNat = units before := by
  rw [SourceView.editorColumn, Coordinate.toNat_satSub]
  exact Nat.sub_eq_of_eq_add column

variable (fits : units (before ++ word ++ after) + view.shift.column.toNat < UInt32.size)
  (column : position.column.toNat = units before + view.shift.column.toNat)
include fits column

theorem toNat_editorColumn_stop :
    (view.editorColumn (Piece.at position word).span.stop.column).toNat =
      units before + units word := by
  simp only [units_append] at fits
  have size : UInt32.size = 0xFFFFFFFF + 1 := rfl
  rw [SourceView.editorColumn, Coordinate.toNat_satSub, Piece.at, ParserPosition.advance,
    Coordinate.toNat_satAdd, UInt32.toNat_ofNat_of_lt' (by omega)]
  omega

variable (has : view.HasLine position.line line (before ++ word ++ after))
include has

/-- The span of a piece whose word stands at its position is the range of the word. -/
theorem toEditorRange_at :
    view.shift.toEditorRange (Piece.at position word).span =
      .onLine line (.ofNat (units before)) (.ofNat (units word)) := by
  have level := Coordinate.satSub_of_sub? has.here
  have start := toNat_editorColumn_start word column
  have stop := toNat_editorColumn_stop fits column
  simp only [units_append] at fits
  have size : UInt32.size = 0xFFFFFFFF + 1 := rfl
  have place : (.ofNat (units before) : Coordinate).toNat = units before :=
    UInt32.toNat_ofNat_of_lt' (by omega)
  refine congrArg₂ Range.mk (congrArg₂ Position.mk level ?_) (congrArg₂ Position.mk level ?_)
  · rw [← UInt32.toNat_inj, place]
    exact start
  · rw [← UInt32.toNat_inj, Coordinate.toNat_satAdd, place, UInt32.toNat_ofNat_of_lt' (by omega)]
    refine stop.trans ?_
    omega

/-- The word of a piece is found where the piece is. -/
theorem literalRange?_at :
    view.literalRange? (Piece.at position word).span (String.ofList word) =
      some (view.shift.toEditorRange (Piece.at position word).span) := by
  have start := toNat_editorColumn_start word column
  have stop := toNat_editorColumn_stop fits column
  have columns : view.columnsOn (Piece.at position word).span (before ++ word ++ after) =
      (units before, units before + units word) := by
    have single : (Piece.at position word).span.isSingleLine = true := beq_self_eq_true _
    have place := placeOn_of_split (List.append_assoc before word after) start.symm
    have place' := placeOn_of_split (rfl : before ++ word ++ after = (before ++ word) ++ after)
      (by rw [units_append, stop])
    rw [SourceView.columnsOn, single, if_pos rfl, place, place', units_append,
      Nat.max_eq_right (Nat.le_add_right ..)]
  have stands : StandsWithin (units before) (units before + units word) (before ++ word ++ after)
      word before after := ⟨rfl, Nat.le_refl _, Nat.le_refl _⟩
  cases found : view.literalRange? (Piece.at position word).span (String.ofList word) with
  | none =>
    have absent := (SourceView.literalRange?_eq_none_iff has).mp found before after
    rw [String.toList_ofList] at absent
    exact absurd rfl absent
  | some range =>
    obtain ⟨before', after', marks, place⟩ := SourceView.exists_of_literalRange? has found
    rw [columns, String.toList_ofList] at place
    rcases place with leftmost | ⟨absent, -⟩
    · -- the columns are no wider than the word
      have level : units before' = units before :=
        Nat.le_antisymm (leftmost.le_other stands) leftmost.start_le
      rw [toEditorRange_at fits column has, marks.range_eq, level, String.toList_ofList]
    · exact absurd stands (absent before after)

end At

/-- A text stands in the document where its span says. -/
structure StandsAtSpan (view : SourceView) (tree : SyntaxTree) (id : NodeId) (node : SyntaxNode)
    (content : String) : Prop where
  /-- the node -/
  found : tree.get? id = some node
  /-- its text -/
  texted : node.kind.text? = some content
  /-- its range is on one line -/
  level : (view.shift.toEditorRange node.span).isSingleLine = true
  /-- it has the text under it -/
  stands : view.textOn? (view.shift.toEditorRange node.span) = some content
  /-- it is what a string is narrowed to -/
  narrowed : node.kind = .constant (.string content) →
    view.narrow? tree id .stringConstant = some (view.shift.toEditorRange node.span)

/-- A piece stands at its span if its word stands at its position. -/
theorem standsAtSpan_at (lined : view.Lined) (short : bytes view.source < UInt32.size)
    {tree : SyntaxTree} {id : NodeId} {node : SyntaxNode}
    {position : ParserPosition} {line : Coordinate} {before word after : List Char}
    (found : tree.get? id = some node) (texted : node.kind.text? = some (String.ofList word))
    (span : node.span = (Piece.at position word).span)
    (has : view.HasLine position.line line (before ++ word ++ after))
    (fits : units (before ++ word ++ after) + view.shift.column.toNat < UInt32.size)
    (column : position.column.toNat = units before + view.shift.column.toNat) :
    StandsAtSpan view tree id node (String.ofList word) where
  found := found
  texted := texted
  level := by
    rw [span, toEditorRange_at fits column has]
    exact beq_self_eq_true line
  stands := by
    have marks := SourceView.marks_onLine has.stands
    rw [span, toEditorRange_at fits column has]
    have covers := lined.lineText?_eq short ▸ marks.covers (by omega)
    exact SourceView.textOn?_of_underlies covers.underlies
  narrowed is := by
    rw [SourceView.narrow?_stringConstant found is, span]
    exact literalRange?_at fits column has

/-- `piece` is what a line of a text gives, which is not blank and stands on a parser line: it starts
where that line of the document does but for white space. -/
structure IsPieceOf (view : SourceView) (line : Coordinate) (raw : List Char) (piece : Piece) :
    Prop where
  /-- something is left of the line -/
  solid : trimStart (dropReturn raw) ≠ []
  /-- it stands behind the white space that the line of the document starts with -/
  placed : ∀ source, view.lineText? line = some source →
    piece = .at ⟨line, .ofNat (units (source.takeWhile isBlank)) + view.shift.column⟩
      (trimStart (dropReturn raw))

/-- Each further piece is that of a line of the text. -/
theorem exists_of_mem_furtherPieces {piece : Piece} {start : Coordinate} {below : Nat}
    {lines : List (List Char)}
    (mem : piece ∈ furtherPieces view (start + .ofNat below) lines) :
    ∃ number raw, lines[number]? = some raw ∧
      IsPieceOf view (start + .ofNat (below + number)) raw piece := by
  induction lines generalizing below with
  | nil => cases mem
  | cons line rest ih =>
    have next : start + .ofNat below + 1 = start + .ofNat (below + 1) := by
      rw [UInt32.ofNat_add, UInt32.add_assoc]
      rfl
    have further (mem : piece ∈ furtherPieces view (start + .ofNat (below + 1)) rest) :
        ∃ number raw, (line :: rest)[number]? = some raw ∧
          IsPieceOf view (start + .ofNat (below + number)) raw piece := by
      obtain ⟨number, raw, here, is⟩ := ih mem
      rw [Nat.add_right_comm, Nat.add_assoc] at is
      exact ⟨number + 1, raw, here, is⟩
    rw [furtherPieces, next] at mem
    split at mem
    · exact further mem
    · rename_i solid
      rcases List.mem_cons.mp mem with rfl | mem
      · refine ⟨0, line, rfl, fun none => solid (List.isEmpty_iff.mpr none), fun _ stands => ?_⟩
        rw [Nat.add_zero] at stands ⊢
        rw [stands]
      · exact further mem

/-! ## All pieces of a text -/

section Continued

variable (lined : view.Lined) (fits : view.FitsCoordinates) (feeds : BreaksAtFeeds view.source)
  {node : SyntaxNode} {text : String} (texted : node.kind.text? = some text)
  (continues : view.Continues node.span.start text) {other : SyntaxTree} {id : NodeId}
include lined fits feeds texted continues

/-- The first piece stands at its span. -/
theorem standsAtSpan_keepFirst {kept : SyntaxNode} (found : other.get? id = some kept)
    (kind : kept.kind = (keepFirst view node).kind) (span : kept.span = (keepFirst view node).span) :
    ∃ content, StandsAtSpan view other id kept content := by
  obtain ⟨front, column, each⟩ := continues.exists_front lined fits.offsets feeds
  obtain ⟨first, rest, cut⟩ := List.exists_cons_of_ne_nil (splitAtFeeds_ne_nil text.toList)
  obtain ⟨after, stands⟩ := each 0 first (by rw [cut]; rfl)
  have first' : keepFirst view node =
      keepPiece (.at node.span.start (dropReturn first)) node := by
    simp only [keepFirst, texted, splitText, cut]
  have above := UInt32.le_iff_toNat_le.mp continues.line_le
  rw [first'] at kind span
  refine ⟨_, standsAtSpan_at lined fits.offsets found ?_ span (fits.hasLine stands (by omega))
    (fits.units_add_lt lined stands) column⟩
  rw [kind]
  exact Kind.text?_withText texted _

/-- The pieces that are cut off stand at their spans. -/
theorem standsAtSpan_cutLeaves {leaf : SyntaxNode} (mem : leaf ∈ cutLeaves view node)
    (found : other.get? id = some leaf) : ∃ content, StandsAtSpan view other id leaf content := by
  obtain ⟨front, -, each⟩ := continues.exists_front lined fits.offsets feeds
  obtain ⟨first, rest, cut⟩ := List.exists_cons_of_ne_nil (splitAtFeeds_ne_nil text.toList)
  simp only [cutLeaves, texted, splitText, cut] at mem
  obtain ⟨piece, listed, rfl⟩ := List.mem_map.mp mem
  have listed : piece ∈ furtherPieces view (node.span.start.line + .ofNat 1) rest := listed
  obtain ⟨number, raw, here, solid, placed⟩ := exists_of_mem_furtherPieces listed
  obtain ⟨after, stands⟩ := each (number + 1) raw (by rw [cut]; exact here)
  rw [if_neg (Nat.succ_ne_zero _), List.nil_append] at stands
  have above := UInt32.le_iff_toNat_le.mp continues.line_le
  have size : UInt32.size = 2 ^ 32 := rfl
  have low := fits.number_add_lt stands
  have width := fits.units_add_lt lined stands
  have counted : (node.span.start.line + .ofNat (1 + number)).toNat =
      node.span.start.line.toNat - view.shift.line.toNat + (number + 1) +
        view.shift.line.toNat := by
    rw [UInt32.toNat_add, UInt32.toNat_ofNat_of_lt' (by omega), Nat.mod_eq_of_lt] <;> omega
  have has := fits.hasLine stands counted
  have placed := placed _ has.lineText?_eq
  -- the line of the text is not blank, so that of the document has no more white space in front
  rw [takeWhile_isBlank_append solid] at placed
  subst placed
  rw [← List.takeWhile_append_dropWhile (p := isBlank) (l := dropReturn raw)] at has width
  refine ⟨_, standsAtSpan_at lined fits.offsets found (Kind.text?_withText texted _) rfl has width ?_⟩
  simp only [units_append] at width
  rw [UInt32.toNat_add, UInt32.toNat_ofNat_of_lt' (by omega), Nat.mod_eq_of_lt (by omega)]

end Continued

/-- Splitting the texts of a tree leaves pieces that stand at their spans, wherever the document goes
on with the text that was split. It comes to this unless a sum for another text overflows. -/
theorem standsAtSpan_splitLiterals {tree : SyntaxTree} (lined : view.Lined)
    (fits : view.FitsCoordinates) (feeds : BreaksAtFeeds view.source) (h : tree.IsTree) :
    (∃ added, tree.Expands (tree.splitLiterals view) added ∧
      ∀ id node text, id ≠ root → tree.get? id = some node → node.kind.text? = some text →
        '\n' ∈ text.toList → view.Continues node.span.start text →
        ∀ piece ∈ id :: added id, ∃ cut content,
          StandsAtSpan view (tree.splitLiterals view) piece cut content) ∧
      ∀ other, tree.splitLiterals? view = some other → other = tree.splitLiterals view := by
  obtain ⟨added, s⟩ := splits_splitLiterals view h
  have chosen := mem_filter_runsOverLines_iff h
  refine ⟨⟨added, s.expands chosen h (h.splitLiterals view), ?_⟩,
    fun _ => eq_splitLiterals_of_splitLiterals?⟩
  intro id node text ne found texted fed continues piece mem
  have split := Splits.split_of_chosen chosen ne found texted fed
  rcases List.mem_cons.mp mem with rfl | mem
  · have stands := s.old piece node found
    rw [if_pos split] at stands
    exact ⟨_, standsAtSpan_keepFirst lined fits feeds texted continues stands rfl rfl⟩
  · obtain ⟨was, leaf, found', stands, cut⟩ :=
      s.exists_leaf (fun _ => Splits.inside_of_chosen chosen) mem
    cases found.symm.trans found'
    exact ⟨leaf, standsAtSpan_cutLeaves lined fits feeds texted continues cut stands⟩

/-- The three texts of the paragraph stand in it as they are, and all their pieces at their spans. -/
theorem standsAtSpan_paragraph :
    paragraphView.Lined ∧ paragraphView.FitsCoordinates ∧ BreaksAtFeeds paragraphView.source ∧
      paragraphTree.IsTree ∧
      ∃ added, paragraphTree.Expands (paragraphTree.splitLiterals paragraphView) added ∧
        ∀ id ∈ [1, 3, 4], ∀ piece ∈ id :: added id, ∃ cut content,
          StandsAtSpan paragraphView (paragraphTree.splitLiterals paragraphView) piece cut
            content := by
  have lined : paragraphView.Lined := rfl
  have fits : paragraphView.FitsCoordinates :=
    ⟨by decide +kernel, by decide +kernel, by decide +kernel⟩
  have feeds : BreaksAtFeeds paragraphView.source := by decide +kernel
  have laid : ofRaw paragraph = .ok paragraphTree := by decide +kernel
  obtain ⟨⟨added, expands, stand⟩, -⟩ :=
    standsAtSpan_splitLiterals lined fits feeds (isTree_ofRaw laid)
  refine ⟨lined, fits, feeds, isTree_ofRaw laid, added, expands, fun id mem => ?_⟩
  simp only [List.mem_cons, List.not_mem_nil, or_false] at mem
  rcases mem with rfl | rfl | rfl
  · exact stand 1 _ _ (by decide) rfl rfl (by decide +kernel) ⟨by decide, by decide,
      "<p>".toList, "\x7bx ++ \"a\n b\"\x7d\n.</p>\n".toList, by decide +kernel, by decide +kernel⟩
  · exact stand 3 _ _ (by decide) rfl rfl (by decide +kernel) ⟨by decide, by decide,
      "<p>one\r\n \r\n  two\r\nthree\x7bx ++ ".toList, "\x7d\n.</p>\n".toList,
      by decide +kernel, by decide +kernel⟩
  · exact stand 4 _ _ (by decide) rfl rfl (by decide +kernel) ⟨by decide, by decide,
      "<p>one\r\n \r\n  two\r\nthree\x7bx ++ \"a\n b\"\x7d".toList, "</p>\n".toList,
      by decide +kernel, by decide +kernel⟩

end SyntaxTree

end LinksBinding
