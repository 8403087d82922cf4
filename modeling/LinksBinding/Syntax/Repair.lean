import LinksBinding.SourceView
import LinksBinding.Syntax.Layout

/-!
# Repairing spans

The parser's spans cannot be relied on in two places: the pieces of an attribute's value, and
strings and markup text that run over several lines. After a tree is laid out, the pieces of
attribute values get the spans that their siblings leave to them, and a text of several lines is
split into one leaf for each line that is not blank.

Splitting adds nodes behind the others and links them in where the split node stands, so document
order remains preorder while node numbers cease to ascend along it.

Both passes add coordinates, and a tree may name any of them. A sum that overflows stops the passes,
so everything here that adds gives nothing then, and no tree is built (`build`).
-/

namespace LinksBinding

open Text

/-- Byte offset of the last `target` in `text` that lies at or after `start` and before `stop`.
The text itself starts at `offset`. -/
def lastWithin? (target : Char) (start stop : Nat) : (offset : Nat) → (text : List Char) →
    Option Nat
  | _, [] => none
  | offset, c :: rest =>
    match lastWithin? target start stop (offset + c.utf8Size) rest with
    | some found => some found
    | none => if c = target ∧ start ≤ offset ∧ offset < stop then some offset else none

/-- The position of the last quotation mark before `limit` and not before `floor`. A floor outside
the document counts as its start. -/
def SourceView.searchClosingQuote? (view : SourceView) (floor limit : ParserPosition) :
    Option (Option ParserPosition) := do
  match ← (view.searchPosition limit).checked? with
  | none => return none
  | some stop =>
    let start := (← (view.searchPosition floor).checked?).getD 0
    return (lastWithin? '"' start stop 0 view.source).map view.positionAt

namespace Kind

/-- Whether the node is an attribute of an element. -/
def isAttribute : Kind → Bool
  | .attribute _ => true
  | _ => false

/-- The text of a string or of text between markup. -/
def text? : Kind → Option String
  | .constant (.string content) | .text content => some content
  | _ => none

/-- The kind with another text, if it has one. -/
def withText (content : String) : Kind → Kind
  | .constant (.string _) => .constant (.string content)
  | .text _ => .text content
  | kind => kind

/-- Whether the node is a string or text of several lines. -/
def runsOverLines (kind : Kind) : Bool := kind.text?.any (·.toList.contains '\n')

end Kind

namespace SyntaxTree

/-! ## Attribute values -/

/-- Gives the constants among the pieces of an attribute value their spans. A constant starts at
`cursor`, the end of the piece before it, and ends where the next piece starts, the last one at
`closing`. -/
def respanPieces (closing : ParserPosition) (tree : SyntaxTree) (cursor : ParserPosition) :
    (pieces : List NodeId) → SyntaxTree
  | [] => tree
  | piece :: rest =>
    if tree.hasKind Kind.isConstant piece then
      let next := match rest.head?.bind tree.span? with
        | some span => span.start
        | none => closing
      let stop := next.max cursor
      respanPieces closing (tree.setSpan piece ⟨cursor, stop⟩) stop rest
    else
      respanPieces closing tree
        (match tree.span? piece with
          | some span => span.stop
          | none => cursor)
        rest

/-- Where the search for the closing quote of an attribute stops: at the start of its next sibling,
as far as that lies within the attribute, else at its end. -/
def quoteLimit (tree : SyntaxTree) (id : NodeId) (span : ParserSpan) : ParserPosition :=
  match (tree.nextSibling? id).bind tree.span? with
  | some next => (next.start.min span.stop).max span.start
  | none => span.stop

/-- Columns in front of the value of an attribute: its name, an equals sign and a quotation mark. -/
def valueColumn? (name : String) : Option Coordinate :=
  (tally name.toList).checked?.bind (·.add? 2)

/-- Gives the pieces of one attribute's value their spans. -/
def repairAttribute? (view : SourceView) (tree : SyntaxTree) (id : NodeId) : Option SyntaxTree :=
  match tree.get? id with
  | some ⟨_, .attribute name, span, _, pieces⟩ => do
    let width ← valueColumn? name
    let limit := tree.quoteLimit id span
    (view.searchClosingQuote? span.start limit).map fun closing =>
      tree.respanPieces (closing.getD limit) (span.start.advance width) pieces
  | _ => some tree

/-- Gives the pieces of all attribute values their spans. -/
def repairAttributes? (view : SourceView) (tree : SyntaxTree) : Option SyntaxTree :=
  (tree.documentOrder.filter (tree.hasKind Kind.isAttribute)).foldlM (repairAttribute? view) tree

/-! ## Texts of several lines -/

/-- A line of a split text, with the span it gets. -/
structure Piece where
  /-- the text of the line -/
  text : List Char
  /-- where it stands -/
  span : ParserSpan

/-- The piece of `text` at a position. -/
def Piece.at? (start : ParserPosition) (text : List Char) : Option Piece :=
  (tally text).checked?.map fun width => ⟨text, start, start.advance width⟩

/-- Columns that the document is indented by on a parser line. -/
def indentOn (view : SourceView) (line : Coordinate) : Tally :=
  match view.lineText? line with
  | some source => columnOfByte source (bytes (source.takeWhile isBlank))
  | none => .ofNat 0

/-- The piece for a line of a text that starts on line `start` and stands `number` lines below that.
The column where it starts is read off the document. -/
def furtherPiece? (view : SourceView) (start : Coordinate) (number : Nat) (text : List Char) :
    Option Piece := do
  let line ← start.add? (.ofNat number)
  let indent ← (indentOn view line).checked?
  let column ← indent.add? view.shift.column
  Piece.at? ⟨line, column⟩ text

/-- The pieces for the lines of a text that starts on line `start`, the first of them `number` lines
below that. A line starts at its first character that is not white space, and lines without such a
character give no piece. -/
def furtherPieces? (view : SourceView) (start : Coordinate) (number : Nat) :
    List (List Char) → Option (List Piece)
  | [] => some []
  | text :: rest =>
    let text := trimStart (dropReturn text)
    if text.isEmpty then furtherPieces? view start (number + 1) rest
    else do
      let piece ← furtherPiece? view start number text
      (furtherPieces? view start (number + 1) rest).map (piece :: ·)

/-- The pieces that a text at `start` is split into: its first line as it is, and the others. -/
def splitText? (view : SourceView) (start : ParserPosition) (text : String) :
    Option (Piece × List Piece) :=
  match splitAtFeeds text.toList with
  | first :: rest => do
    let piece ← Piece.at? start (dropReturn first)
    (furtherPieces? view start.line 1 rest).map (piece, ·)
  | [] => (Piece.at? start []).map (·, [])

/-- The list with `added` behind the first `id`. -/
def insertBehind (id : NodeId) (added : List NodeId) : List NodeId → List NodeId
  | [] => []
  | other :: rest =>
    if other = id then other :: (added ++ rest) else other :: insertBehind id added rest

/-- The leaf for a piece that is cut off the text of `node`. -/
def leafFor (node : SyntaxNode) (piece : Piece) : SyntaxNode :=
  ⟨.leaf, node.kind.withText (String.ofList piece.text), piece.span, node.parent, []⟩

/-- What a text node becomes that keeps one piece of its text. -/
def keepPiece (piece : Piece) (node : SyntaxNode) : SyntaxNode :=
  { node with kind := node.kind.withText (String.ofList piece.text), span := piece.span }

/-- The node with further children behind its child `id`. -/
def adopt (id : NodeId) (added : List NodeId) (node : SyntaxNode) : SyntaxNode :=
  { node with children := insertBehind id added node.children }

/-- What a text node and the tree around it become with the pieces of its text. The first stays in
the node, and the others become its next siblings. -/
def putPieces (tree : SyntaxTree) (id : NodeId) (node : SyntaxNode) (pieces : Piece × List Piece) :
    SyntaxTree :=
  let grown := (pieces.2.map (leafFor node)).foldl push (tree.modify id (keepPiece pieces.1))
  match node.parent with
  | none => grown
  | some parent => grown.modify parent (adopt id (List.range' tree.size pieces.2.length))

/-- Splits one node into its lines. -/
def splitNode? (view : SourceView) (tree : SyntaxTree) (id : NodeId) : Option SyntaxTree :=
  match tree.get? id with
  | none => some tree
  | some node =>
    match node.kind.text? with
    | none => some tree
    | some text => (splitText? view node.span.start text).map (tree.putPieces id node)

/-- Splits all strings and texts of several lines. The root stays whole. -/
def splitLiterals? (view : SourceView) (tree : SyntaxTree) : Option SyntaxTree :=
  (tree.documentOrder.filter fun id => id != root && tree.hasKind Kind.runsOverLines id).foldlM
    (splitNode? view) tree

/-! ## Building -/

/-- The tree with its spans repaired. -/
def repair? (view : SourceView) (tree : SyntaxTree) : Option SyntaxTree :=
  (tree.repairAttributes? view).bind (splitLiterals? view)

/-- The syntax tree of a document from what the parser reports. -/
def build (view : SourceView) (raw : RawTree) : Except BuildFailure SyntaxTree :=
  match ofRaw raw with
  | .error error => .error (.refused error)
  | .ok tree =>
    match tree.repair? view with
    | some tree => .ok tree
    | none => .error .overflow

@[simp] theorem size_setSpan (tree : SyntaxTree) (id : NodeId) (span : ParserSpan) :
    (tree.setSpan id span).size = tree.size := size_modify ..

@[simp] theorem size_respanPieces (closing : ParserPosition) (tree : SyntaxTree)
    (cursor : ParserPosition) (pieces : List NodeId) :
    (tree.respanPieces closing cursor pieces).size = tree.size := by
  fun_induction respanPieces closing tree cursor pieces <;> simp_all

theorem mem_insertBehind {id other : NodeId} {added children : List NodeId} :
    other ∈ insertBehind id added children ↔
      other ∈ children ∨ id ∈ children ∧ other ∈ added := by
  induction children with
  | nil => simp [insertBehind]
  | cons child rest ih =>
    by_cases h : child = id
    · grind [insertBehind]
    · grind [insertBehind]

end SyntaxTree

end LinksBinding
