import LinksBinding.Proofs.Lines
import LinksBinding.Proofs.Splitting

/-!
# What splitting texts makes of a tree

A string or text of several lines is cut at its line feeds. The node itself keeps the first line,
and each later line that is not blank becomes a leaf of its own. `Expands` says where these leaves
go and that nothing else happens to the tree: it compares the children of every node, and every
node, with what they were, and it does so with the lines of the texts alone, without the pieces and
the splits that splitting goes through.
-/

namespace LinksBinding

namespace Text

theorem feed_notMem_firstLine (text : List Char) : '\n' ∉ firstLine text := by
  unfold firstLine
  cases split : splitAtFeeds text with
  | nil => exact List.not_mem_nil
  | cons first rest =>
    have mem : first ∈ splitAtFeeds text := split ▸ List.mem_cons_self
    exact feed_notMem_of_mem_splitAtFeeds mem

theorem feed_notMem_laterLines {text : List Char} {line : List Char × Nat}
    (mem : line ∈ laterLines text) : '\n' ∉ line.1 := by
  have mem := List.fst_mem_of_mem_zipIdx (List.mem_filter.mp mem).1
  exact feed_notMem_of_mem_splitAtFeeds (List.mem_of_mem_tail mem)

end Text

namespace Kind

/-- A kind runs over several lines exactly if it has a text with a line feed in it. -/
theorem runsOverLines_iff {kind : Kind} {text : String} (texted : kind.text? = some text) :
    kind.runsOverLines = true ↔ '\n' ∈ text.toList := by
  simp [runsOverLines, texted]

/-- What is written without a line feed does not run over several lines. -/
theorem runsOverLines_withText {kind : Kind} {before : String}
    (texted : kind.text? = some before) {content : List Char} (free : '\n' ∉ content) :
    (kind.withText (String.ofList content)).runsOverLines = false := by
  rw [Bool.eq_false_iff, Ne, runsOverLines_iff (text?_withText texted _), String.toList_ofList]
  exact free

end Kind

namespace SyntaxTree

open Text

variable {tree : SyntaxTree} {view : SourceView}

/-! ## What the lines of a text become -/

/-- A node with the first line of its text alone, which ends where that line does. -/
def onFirstLine (node : SyntaxNode) (text : String) : SyntaxNode :=
  let line := dropReturn (firstLine text.toList)
  { node with
    kind := node.kind.withText (String.ofList line)
    span := ⟨node.span.start, node.span.start.advance (.ofNat (units line))⟩ }

/-- `leaf` is the leaf for a line that is cut off the text of `node`. -/
structure IsCutOff (node : SyntaxNode) (line : List Char × Nat) (leaf : SyntaxNode) : Prop where
  /-- it is a leaf -/
  shape : leaf.shape = .leaf
  /-- it is a string if the node is one, else a text -/
  kind : leaf.kind = node.kind.withText (String.ofList (trimStart (dropReturn line.1)))
  /-- it is a sibling of the node -/
  parent : leaf.parent = node.parent
  /-- nothing is below it -/
  children : leaf.children = []
  /-- it stands on its line, as long as that line has a number -/
  line : node.span.start.line.toNat + line.2 < UInt32.size →
    leaf.span.start.line.toNat = node.span.start.line.toNat + line.2

/-- The pieces behind the first are those of the lines that are not blank. -/
theorem forall₂_furtherPieces (view : SourceView) (start : Coordinate) (below : Nat)
    (lines : List (List Char)) :
    List.Forall₂
      (fun (line : List Char × Nat) (piece : Piece) =>
        piece.text = trimStart (dropReturn line.1) ∧
          (start.toNat + line.2 < UInt32.size →
            piece.span.start.line.toNat = start.toNat + line.2))
      ((lines.zipIdx below).filter fun line => !line.1.all isBlank)
      (furtherPieces view (start + .ofNat below) lines) := by
  induction lines generalizing below with
  | nil => exact .nil
  | cons line rest ih =>
    have next : start + .ofNat below + 1 = start + .ofNat (below + 1) := by
      rw [UInt32.ofNat_add, UInt32.add_assoc]
      rfl
    rw [furtherPieces, List.zipIdx_cons, List.filter_cons, next, isEmpty_trimStart_dropReturn]
    cases blank : line.all isBlank
    · refine .cons ⟨rfl, fun fits => ?_⟩ (ih (below + 1))
      rw [Piece.at, UInt32.toNat_add, UInt32.toNat_ofNat', Nat.add_mod_mod, Nat.mod_eq_of_lt fits]
    · exact ih (below + 1)

/-- The leaves that are cut off a text are those of its later lines. -/
theorem forall₂_cutLeaves {node : SyntaxNode} {text : String}
    (texted : node.kind.text? = some text) :
    List.Forall₂ (IsCutOff node) (laterLines text.toList) (cutLeaves view node) := by
  simp only [cutLeaves, texted, laterLines, splitText]
  cases splitAtFeeds text.toList with
  | nil => exact .nil
  | cons first rest =>
    rw [List.tail_cons, List.forall₂_map_right_iff]
    refine (forall₂_furtherPieces view node.span.start.line 1 rest).imp ?_
    rintro line piece ⟨written, placed⟩
    exact ⟨rfl, by rw [leafFor, written], rfl, rfl, placed⟩

/-- A node that is split keeps its first line. -/
theorem keepFirst_eq {node : SyntaxNode} {text : String} (texted : node.kind.text? = some text) :
    keepFirst view node = onFirstLine node text := by
  simp only [keepFirst, texted, splitText, onFirstLine, firstLine]
  cases splitAtFeeds text.toList <;> rfl

/-! ## The tree -/

/-- `other` is `tree` with its texts of several lines expanded, where `added id` are the leaves that
stand behind the node `id`. -/
structure Expands (tree other : SyntaxTree) (added : NodeId → List NodeId) : Prop where
  /-- the outcome is a tree -/
  isTree : other.IsTree
  /-- the leaves that are added take all new numbers -/
  new : ∀ leaf, (∃ id, leaf ∈ added id) ↔ tree.size ≤ leaf ∧ leaf < other.size
  /-- every node has the children it had, with what is added behind each of them -/
  children : ∀ id, id < tree.size → other.children id = expand added (tree.children id)
  /-- a text of several lines keeps the first of them -/
  first : ∀ id node text, id ≠ root → tree.get? id = some node → node.kind.text? = some text →
    '\n' ∈ text.toList → other.get? id =
      some { onFirstLine node text with children := expand added node.children }
  /-- what is added behind it are the leaves of its later lines, in their order -/
  later : ∀ id node text, id ≠ root → tree.get? id = some node → node.kind.text? = some text →
    '\n' ∈ text.toList → List.Forall₂
      (fun line leaf => ∃ cut, other.get? leaf = some cut ∧ IsCutOff node line cut)
      (laterLines text.toList) (added id)
  /-- every other node is what it was, with nothing behind it -/
  kept : ∀ id node, tree.get? id = some node → id = root ∨ node.kind.runsOverLines = false →
    other.get? id = some { node with children := expand added node.children } ∧ added id = []
  /-- no text but the root runs over several lines any more -/
  oneLine : ∀ id node, id ≠ root → other.get? id = some node → node.kind.runsOverLines = false

/-- A leaf that is cut off is on one line. -/
theorem IsCutOff.runsOverLines {node leaf : SyntaxNode} {text : String} {line : List Char × Nat}
    (cut : IsCutOff node line leaf) (texted : node.kind.text? = some text)
    (mem : line ∈ laterLines text.toList) : leaf.kind.runsOverLines = false := by
  rw [cut.kind]
  exact Kind.runsOverLines_withText texted fun fed => feed_notMem_laterLines mem
    ((isPrefix_dropReturn _).mem ((trimStart_sublist _).mem fed))

namespace Splits

variable {other : SyntaxTree} {ids : List NodeId} {added : NodeId → List NodeId}
  (s : Splits view tree other ids added) {id : NodeId} {node : SyntaxNode} {text : String}

include s

/-- A node that is split keeps its first line. -/
theorem first (split : id ∈ ids) (found : tree.get? id = some node)
    (texted : node.kind.text? = some text) :
    other.get? id =
      some { onFirstLine node text with children := expand added node.children } := by
  rw [s.old id node found, if_pos split, keepFirst_eq texted]

/-- Behind a node that is split stand its later lines. -/
theorem later (split : id ∈ ids) (found : tree.get? id = some node)
    (texted : node.kind.text? = some text) : List.Forall₂
      (fun line leaf => ∃ cut, other.get? leaf = some cut ∧ IsCutOff node line cut)
      (laterLines text.toList) (added id) := by
  have lines : List.Forall₂ (fun line (got : Option SyntaxNode) =>
      ∃ cut, got = some cut ∧ IsCutOff node line cut) (laterLines text.toList)
      ((cutLeaves view node).map some) := by
    rw [List.forall₂_map_right_iff]
    exact (forall₂_cutLeaves texted).imp fun line leaf cut => ⟨leaf, rfl, cut⟩
  rwa [← s.cut id split node found, List.forall₂_map_right_iff] at lines

/-- A node that is not split is what it was. -/
theorem kept (whole : id ∉ ids) (found : tree.get? id = some node) :
    other.get? id = some { node with children := expand added node.children } ∧ added id = [] := by
  rw [s.old id node found, if_neg whole]
  exact ⟨rfl, s.untouched id whole⟩

section Chosen

variable (chosen : ∀ id, id ∈ ids ↔ id ≠ root ∧ tree.hasKind Kind.runsOverLines id = true)

include chosen

omit s in
/-- What is split stands in the table. -/
theorem inside_of_chosen (split : id ∈ ids) : id < tree.size := by
  obtain ⟨node, found, -⟩ := exists_of_hasKind ((chosen id).mp split).2
  exact lt_size_of_get? found

omit s in
/-- A text with a line feed in it is split unless it is the root. -/
theorem split_of_chosen (ne : id ≠ root) (found : tree.get? id = some node)
    (texted : node.kind.text? = some text) (fed : '\n' ∈ text.toList) : id ∈ ids := by
  rw [chosen, hasKind_of_get? found, Kind.runsOverLines_iff texted]
  exact ⟨ne, fed⟩

/-- A leaf that is added is on one line. -/
theorem runsOverLines_added {leaf : NodeId} (mem : leaf ∈ added id)
    (stands : other.get? leaf = some node) : node.kind.runsOverLines = false := by
  have split : id ∈ ids := s.split_of_added mem
  obtain ⟨was, found, runsOver⟩ := exists_of_hasKind ((chosen id).mp split).2
  obtain ⟨text, texted, -⟩ := (Option.any_eq_true ..).mp runsOver
  -- the line that the leaf stands for has the place in the text that the leaf has behind the node
  obtain ⟨place, rfl⟩ := List.get_of_mem mem
  obtain ⟨length, each⟩ := List.forall₂_iff_get.mp (s.later split found texted)
  have low : place < (laterLines text.toList).length := by omega
  obtain ⟨cut, stands', cutOff⟩ := each place low place.2
  cases stands.symm.trans stands'
  exact cutOff.runsOverLines texted (List.get_mem ..)

/-- A node of the table other than the root is on one line after the splits. -/
theorem runsOverLines_old (ne : id ≠ root) (found : tree.get? id = some node) {node' : SyntaxNode}
    (stands : other.get? id = some node') : node'.kind.runsOverLines = false := by
  cases runsOver : node.kind.runsOverLines with
  | true =>
    have split : id ∈ ids := (chosen id).mpr ⟨ne, by rw [hasKind_of_get? found, runsOver]⟩
    obtain ⟨text, texted, -⟩ := (Option.any_eq_true ..).mp runsOver
    cases stands.symm.trans (s.first split found texted)
    exact Kind.runsOverLines_withText texted fun fed =>
      feed_notMem_firstLine _ ((isPrefix_dropReturn _).mem fed)
  | false =>
    have whole : id ∉ ids := by
      rw [chosen, hasKind_of_get? found, runsOver]
      exact fun both => nomatch both.2
    cases stands.symm.trans (s.kept whole found).1
    exact runsOver

/-- Splitting exactly the texts of several lines expands the tree. -/
theorem expands (h : tree.IsTree) (ho : other.IsTree) : tree.Expands other added where
  isTree := ho
  new leaf := by
    constructor
    · rintro ⟨id, mem⟩
      obtain ⟨-, node, -, stands, -⟩ := s.exists_leaf (fun _ => inside_of_chosen chosen) mem
      exact ⟨s.fresh id leaf mem, lt_size_of_get? stands⟩
    · rintro ⟨new, below⟩
      exact s.exists_added h ho (fun _ => inside_of_chosen chosen) new below
  children id := s.children
  first id node text ne found texted fed :=
    s.first (split_of_chosen chosen ne found texted fed) found texted
  later id node text ne found texted fed :=
    s.later (split_of_chosen chosen ne found texted fed) found texted
  kept id node found whole := by
    refine s.kept (fun split => ?_) found
    obtain ⟨ne, runsOver⟩ := (chosen id).mp split
    rcases whole with rfl | oneLine
    · exact ne rfl
    · rw [hasKind_of_get? found, oneLine] at runsOver
      cases runsOver
  oneLine id node ne stands := by
    rcases Nat.lt_or_ge id tree.size with old | new
    · obtain ⟨was, found⟩ := exists_get? old
      exact s.runsOverLines_old chosen ne found stands
    · obtain ⟨_, mem⟩ := s.exists_added h ho (fun _ => inside_of_chosen chosen) new
        (lt_size_of_get? stands)
      exact s.runsOverLines_added chosen mem stands

end Chosen

end Splits

/-- What is split are the texts of several lines but the root. -/
theorem mem_filter_runsOverLines_iff (h : tree.IsTree) (id : NodeId) :
    (id ∈ tree.documentOrder.filter fun id => id != root && tree.hasKind Kind.runsOverLines id) ↔
      id ≠ root ∧ tree.hasKind Kind.runsOverLines id = true := by
  rw [List.mem_filter, Bool.and_eq_true, bne_iff_ne, h.mem_documentOrder_iff]
  refine and_iff_right_of_imp fun candidate => ?_
  obtain ⟨node, found, -⟩ := exists_of_hasKind candidate.2
  exact lt_size_of_get? found

/-- Splitting the texts of a tree expands it, and comes to this unless a sum overflows. -/
theorem expands_splitLiterals (view : SourceView) (h : tree.IsTree) :
    (∃ added, tree.Expands (tree.splitLiterals view) added) ∧
      ∀ other, tree.splitLiterals? view = some other → other = tree.splitLiterals view := by
  obtain ⟨added, s⟩ := splits_splitLiterals view h
  exact ⟨⟨added, s.expands (mem_filter_runsOverLines_iff h) h (h.splitLiterals view)⟩,
    fun _ => eq_splitLiterals_of_splitLiterals?⟩

/-- A paragraph with a string and two texts that run over several lines, one of the texts with a
blank line and with carriage returns. -/
def paragraphView : SourceView :=
  .ofSource "<p>one\r\n \r\n  two\r\nthree\x7bx ++ \"a\n b\"\x7d\n.</p>\n" .standard

/-- Output for the paragraph. -/
def paragraph : RawTree :=
  .interior "Xml: p" ⟨⟨1, 1⟩, ⟨6, 6⟩⟩
    [.leaf "TextNode: one\r\n \r\n  two\r\nthree" ⟨⟨1, 4⟩, ⟨1, 7⟩⟩,
    .leaf "Variable: x" ⟨⟨4, 7⟩, ⟨4, 8⟩⟩,
    .leaf "Constant: \"a\n b\"" ⟨⟨4, 12⟩, ⟨4, 14⟩⟩,
    .leaf "TextNode: \n." ⟨⟨5, 5⟩, ⟨5, 5⟩⟩]

/-- The tree of that output. -/
def paragraphTree : SyntaxTree :=
  ⟨#[⟨.interior, .element "p", ⟨⟨1, 1⟩, ⟨6, 6⟩⟩, none, [1, 2, 3, 4]⟩,
    ⟨.leaf, .text "one\r\n \r\n  two\r\nthree", ⟨⟨1, 4⟩, ⟨1, 7⟩⟩, some 0, []⟩,
    ⟨.leaf, .variable "x", ⟨⟨4, 7⟩, ⟨4, 8⟩⟩, some 0, []⟩,
    ⟨.leaf, .constant (.string "\"a\n b\""), ⟨⟨4, 12⟩, ⟨4, 14⟩⟩, some 0, []⟩,
    ⟨.leaf, .text "\n.", ⟨⟨5, 5⟩, ⟨5, 5⟩⟩, some 0, []⟩]⟩

/-- The paragraph is a tree, and its texts are expanded side by side. -/
theorem expands_paragraph :
    paragraphTree.IsTree ∧
      (∃ added, paragraphTree.Expands (paragraphTree.splitLiterals paragraphView) added) ∧
      paragraphTree.splitLiterals? paragraphView =
        some (paragraphTree.splitLiterals paragraphView) ∧
      (paragraphTree.splitLiterals paragraphView).children root = [1, 5, 6, 2, 3, 7, 4, 8] := by
  have laid : ofRaw paragraph = .ok paragraphTree := by decide +kernel
  have isTree : paragraphTree.IsTree := isTree_ofRaw laid
  obtain ⟨expands, same⟩ := expands_splitLiterals paragraphView isTree
  have fits : (paragraphTree.splitLiterals? paragraphView).isSome = true := by decide +kernel
  obtain ⟨other, done⟩ := Option.isSome_iff_exists.mp fits
  exact ⟨isTree, expands, by rw [done, same other done], by decide +kernel⟩

end SyntaxTree

end LinksBinding
