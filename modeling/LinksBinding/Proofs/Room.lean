import LinksBinding.Proofs.Boundaries
import LinksBinding.Proofs.Encoding
import LinksBinding.Proofs.Pieces
import LinksBinding.Proofs.Tiling

/-!
# When all sums of the repair fit

Repairing spans adds coordinates: a line number and a count of lines, an indentation and the column
of the wrapper, the length of a name and two. A tree may name any coordinates, so these sums may
overflow, and then no tree is built. This module tells when that is so (`build_eq_iff_hasRoom`).
Whether a sum fits is told from the tree as it was laid out and from the spans that attribute values
come to have, whatever the order is that the nodes are visited in: an attribute is repaired behind
the one around it, and nothing moves its next sibling after that.

In a document whose places all have coordinates, what may fail to fit is a text that goes on below
the greatest line (`hasRoom_of_fitsCoordinates`).
-/

namespace LinksBinding

namespace Text

/-- A part of a text is no longer than the text. -/
theorem units_le_of_sublist {part text : List Char} (sub : part.Sublist text) :
    units part ≤ units text := by
  induction sub with
  | slnil => exact Nat.le_refl _
  | cons c _ ih => exact Nat.le_add_left_of_le ih
  | cons_cons c _ ih => exact Nat.add_le_add_left ih _

/-- In a text that is no longer than columns reach, no search for a column overflows. -/
theorem columnSearch_ne_overflow {text : List Char} (short : units text < UInt32.size)
    (column : Coordinate) : columnSearch text column ≠ .overflow := by
  intro overflows
  obtain ⟨rfl, before, c, after, rfl, pair, inside⟩ := columnSearch_eq_overflow_iff.mp overflows
  have top : Coordinate.greatest.toNat = 0xFFFFFFFF := rfl
  have size : UInt32.size = 0xFFFFFFFF + 1 := rfl
  simp only [units_append, units] at short
  omega

/-- In a document that is no longer than offsets reach, no search for a position overflows. -/
theorem LineTable.searchPosition_ne_overflow {table : LineTable}
    (short : bytes table.source < UInt32.size) (position : Position) :
    table.searchPosition position ≠ .overflow := by
  rw [searchPosition]
  split
  · rename_i start text starts shows
    have inside := bytes_le_of_lineText? (by rw [lineStart?, starts, Option.map_some]) shows
    split
    · rename_i within found
      obtain ⟨before, after, rfl, -, rfl⟩ := byteOfColumn?_eq_some_iff.mp
        (ColumnSearch.offset?_eq_some_iff.mpr found)
      rw [bytes_append] at inside
      rw [Coordinate.add?_eq_ofNat?, UInt32.toNat_ofNat_of_lt' (by omega), Coordinate.ofNat?,
        if_pos (by omega)]
      rintro ⟨⟩
    · have width := units_le_bytes text
      exact columnSearch_ne_overflow (by omega) _
  · rintro ⟨⟩

end Text

open Text

theorem SourceView.quoteFits_of_short {view : SourceView} (lined : view.Lined)
    (short : bytes view.source < UInt32.size) (floor limit : ParserPosition) :
    view.QuoteFits floor limit := by
  have fits : ∀ position, view.searchPosition position ≠ .overflow := by
    intro position
    rw [searchPosition]
    split
    · exact LineTable.searchPosition_ne_overflow (by rw [lined]; exact short) _
    · rintro ⟨⟩
  exact ⟨fits limit, fun _ _ => fits floor⟩

namespace SyntaxTree

variable {tree other : SyntaxTree} {view : SourceView}

/-! ## Texts -/

/-- A text that has not been split yet stands where it stood. -/
theorem givesIf_splitLiterals? (view : SourceView) (h : tree.IsTree) :
    GivesIf (tree.splitLiterals? view)
      (∀ id ∈ tree.documentOrder.filter fun id => id != root && tree.hasKind Kind.runsOverLines id,
        SplitFits view tree id)
      (tree.splitLiterals view) := by
  refine GivesIf.foldlM_of_told (givesIf_splitNode? view) fun front id back whole => ?_
  have once := h.nodup_documentOrder.filter
    fun id => id != root && tree.hasKind Kind.runsOverLines id
  have chosen := mem_filter_runsOverLines_iff h
  rw [whole] at once chosen
  obtain ⟨onceFront, -, apart⟩ := List.nodup_append'.mp once
  have new : id ∉ front := fun mem => apart mem List.mem_cons_self
  obtain ⟨-, added, s⟩ := splits_foldl view h onceFront
    fun other mem => (chosen other).mp (List.mem_append_left _ mem)
  obtain ⟨node, found, -⟩ := exists_of_hasKind ((chosen id).mp (by simp)).2
  simp only [SplitFits, found, s.get?_of_new new found, Option.some.injEq, forall_eq']

/-! ## Trees -/

/-- All sums for the repair of a tree fit. -/
structure HasRoom (view : SourceView) (tree : SyntaxTree) : Prop where
  /-- those for the names of attributes -/
  names : ∀ id, NameFits tree id
  /-- those for the searches of closing quotes -/
  marks : ∀ id, MarkFits view (tree.repairAttributes view) id
  /-- those for the texts of several lines, with the spans that they have once attributes are
  repaired -/
  texts : ∀ id, id ≠ root → (tree.repairAttributes view).hasKind Kind.runsOverLines id = true →
    SplitFits view (tree.repairAttributes view) id

theorem hasRoom_iff (h : tree.IsTree) (repaired : (tree.repairAttributes view).IsTree) :
    tree.HasRoom view ↔
      (∀ id ∈ tree.documentOrder.filter (tree.hasKind Kind.isAttribute),
        NameFits tree id ∧ MarkFits view (tree.repairAttributes view) id) ∧
        ∀ id ∈ (tree.repairAttributes view).documentOrder.filter fun id =>
            id != root && (tree.repairAttributes view).hasKind Kind.runsOverLines id,
          SplitFits view (tree.repairAttributes view) id := by
  have listed {id : NodeId} {node : SyntaxNode} (found : tree.get? id = some node)
      (is : node.kind.isAttribute = true) :
      id ∈ tree.documentOrder.filter (tree.hasKind Kind.isAttribute) :=
    List.mem_filter.mpr ⟨h.mem_documentOrder_iff.mpr (lt_size_of_get? found),
      by rw [hasKind_of_get? found, is]⟩
  simp only [mem_filter_runsOverLines_iff repaired, and_imp]
  refine ⟨fun ⟨names, marks, texts⟩ => ⟨fun id _ => ⟨names id, marks id⟩, texts⟩,
    fun ⟨attributes, texts⟩ => ⟨fun id name is => ?_, fun id node stands is => ?_, texts⟩⟩
  · obtain ⟨node, found, kind⟩ := Option.map_eq_some_iff.mp is
    exact (attributes id (listed found (by rw [kind]; rfl))).1 name is
  · -- an attribute is one before its value is repaired, too
    have same := agree_repairAttributes view tree
    have kind : (tree.repairAttributes view).hasKind Kind.isAttribute id = true := by
      rw [hasKind_of_get? stands, is]
    rw [same.hasKind (fun _ => rfl)] at kind
    obtain ⟨was, found, is'⟩ := exists_of_hasKind kind
    exact (attributes id (listed found is')).2 node stands is

/-- The repair comes to a tree exactly if all sums fit, and then to that of word arithmetic. -/
theorem givesIf_repair? (view : SourceView) (h : tree.IsTree)
    (repaired : (tree.repairAttributes view).IsTree) :
    GivesIf (tree.repair? view) (tree.HasRoom view) (tree.repair view) :=
  ((givesIf_repairAttributes? view h).bind (givesIf_splitLiterals? view repaired)).congr
    (hasRoom_iff h repaired).symm

theorem build_eq_ok_iff_hasRoom {raw : RawTree} : build view raw = .ok tree ↔
    ∃ laid, ofRaw raw = .ok laid ∧ laid.HasRoom view ∧ tree = laid.repair view := by
  rw [build_eq_ok_iff]
  refine exists_congr fun laid => and_congr_right fun reported => ?_
  exact givesIf_repair? view (isTree_ofRaw reported) (isTree_repairAttributes view reported) tree

theorem build_eq_overflow_iff_hasRoom {raw : RawTree} : build view raw = .error .overflow ↔
    ∃ laid, ofRaw raw = .ok laid ∧ ¬ laid.HasRoom view := by
  rw [build_eq_overflow_iff]
  refine exists_congr fun laid => and_congr_right fun reported => ?_
  have gives := givesIf_repair? view (isTree_ofRaw reported) (isTree_repairAttributes view reported)
  rw [Option.eq_none_iff_forall_ne_some]
  exact ⟨fun none room => none _ ((gives _).mpr ⟨room, rfl⟩),
    fun narrow _ some => narrow ((gives _).mp some).1⟩

/-- A tree that is laid out is built exactly if all sums fit, and is then repaired with word
arithmetic. Otherwise building it overflows. -/
theorem build_eq_iff_hasRoom (view : SourceView) (raw : RawTree) :
    (∀ tree, build view raw = .ok tree ↔
      ∃ laid, ofRaw raw = .ok laid ∧ laid.HasRoom view ∧ tree = laid.repair view) ∧
    (build view raw = .error .overflow ↔ ∃ laid, ofRaw raw = .ok laid ∧ ¬ laid.HasRoom view) :=
  ⟨fun _ => build_eq_ok_iff_hasRoom, build_eq_overflow_iff_hasRoom⟩

/-! ## Documents with room -/

section Fits

variable (lined : view.Lined) (fits : view.FitsCoordinates)

include lined fits

/-- Where all places of the document have numbers, so have the columns of pieces. -/
theorem indentUnits_add_lt (line : Coordinate) :
    indentUnits view line + view.shift.column.toNat < UInt32.size := by
  unfold indentUnits
  split
  · rename_i source shows
    obtain ⟨number, -, stands⟩ := Option.bind_eq_some_iff.mp shows
    have indent := units_le_of_sublist (List.takeWhile_sublist isBlank (l := source))
    have whole := fits.units_add_lt lined stands
    omega
  · rw [Nat.zero_add]
    exact view.shift.column.toNat_lt

/-- A text then fits if its lines are not too long and the last of them has a number. -/
theorem textFits_of_fitsCoordinates {start : ParserPosition} {text : String}
    (short : ∀ line ∈ splitAtFeeds text.toList, units line < UInt32.size)
    (low : start.line.toNat + (splitAtFeeds text.toList).length ≤ UInt32.size) :
    TextFits view start text := by
  obtain ⟨first, rest, cut⟩ := List.exists_cons_of_ne_nil (splitAtFeeds_ne_nil text.toList)
  rw [cut] at short low
  rw [List.length_cons] at low
  constructor
  · have kept := units_le_of_sublist (isPrefix_dropReturn first).sublist
    have whole := short first List.mem_cons_self
    simp only [firstLine, cut, List.headD_cons]
    omega
  · intro line mem
    have mem := (List.mem_filter.mp mem).1
    rw [cut, List.tail_cons] at mem
    have number := List.mem_zipIdx mem
    have word : (.ofNat line.2 : Coordinate).toNat = line.2 :=
      UInt32.toNat_ofNat_of_lt' (by omega)
    have whole := short line.1 (List.mem_cons_of_mem _ (List.fst_mem_of_mem_zipIdx mem))
    have kept := units_le_of_sublist
      ((trimStart_sublist (dropReturn line.1)).trans (isPrefix_dropReturn line.1).sublist)
    exact ⟨by omega, indentUnits_add_lt lined fits _, by omega⟩

/-- So all sums fit if in addition the names of attributes are not too long. -/
theorem hasRoom_of_fitsCoordinates (names : ∀ id, NameFits tree id)
    (texts : ∀ id node text, (tree.repairAttributes view).get? id = some node →
      node.kind.text? = some text →
        (∀ line ∈ splitAtFeeds text.toList, units line < UInt32.size) ∧
          node.span.start.line.toNat + (splitAtFeeds text.toList).length ≤ UInt32.size) :
    tree.HasRoom view where
  names := names
  marks _ _ _ _ := SourceView.quoteFits_of_short lined fits.offsets _ _
  texts id _ _ node found text texted :=
    have ⟨short, low⟩ := texts id node text found texted
    textFits_of_fitsCoordinates lined fits short low

end Fits

/-- Output with a string of two lines that starts on the greatest line. -/
def farText : RawTree :=
  .interior "Block" ⟨⟨1, 1⟩, ⟨4294967295, 9⟩⟩
    [.leaf "Constant: \"a\nb\"" ⟨⟨4294967295, 1⟩, ⟨4294967295, 5⟩⟩]

/-- There is output that can be read and for which building overflows, although the document is
short: the line behind the greatest has no number. -/
theorem build_farText :
    ∃ (raw : RawTree) (source : String) (shift : PositionShift),
      RawTree.ofJson raw.toJson = .ok raw ∧ bytes source.toList < UInt32.size ∧
        build (.ofSource source shift) raw = .error .overflow := by
  have forward : farText.Forward := by
    refine RawTree.forward_node (by decide) ?_
    simp only [List.forall_mem_cons]
    exact ⟨RawTree.forward_leaf (by decide), List.forall_mem_nil _⟩
  exact ⟨farText, "", .standard, RawTree.ofJsonAt_toJson forward (by decide), by decide,
    by decide +kernel⟩

end SyntaxTree

end LinksBinding
